import HostingService.Actions.RunAccounts

/-! The counters of the scheduled jobs lose no increment, however the calls of the
increments overtake each other. -/

namespace HostingService

open Program Text

/-! ### Crews of increments -/

/-- A call of `_increment`. -/
structure Increment where
  job : PyStr
  name : PyStr
  amount : Int

def Increment.program (call : Increment) : JobProgram Unit := increment call.job call.name call.amount

/-- What the call adds to a counter. -/
def Increment.adds (call : Increment) (job name : PyStr) : Int :=
  if call.job = job ∧ call.name = name then max call.amount 0 else 0

abbrev CounterCrew := Crew JobCall JobError JobsWorld Increment Unit

/-- Whatever happens beside the increments, it leaves the table of the counters alone. -/
def JobsWorld.Elsewhere (before after : JobsWorld) : Prop :=
  after.counters = before.counters ∧ after.nextCounter = before.nextCounter

def CounterCrew.Reaches : CounterCrew → CounterCrew → Prop :=
  Crew.Reaches JobCall.handle Increment.program JobsWorld.Elsewhere

/-- No two counters have one key: the unique constraint. -/
def JobsWorld.Distinct (world : JobsWorld) : Prop :=
  (world.counters.map fun row => (row.job, row.name)).Nodup

def counterStaging : Staging JobCall JobsWorld JobStage where
  holds stage world := stage.Finds world
  moves := counterMoves

theorem counterStaging_counting : Counting counterStaging := ⟨id, id⟩

/-- What the call owes before its first step. -/
def Increment.stage (call : Increment) : JobStage :=
  if 0 < call.amount then JobStage.idle.owing call.job call.name call.amount .unknown else .idle

/-- An increment returns, and owes nothing then. -/
theorem Increment.follows (call : Increment) :
    call.program.Follows JobCall.handle counterStaging
      (fun result later => result = .ok () ∧ later.owed = none) call.stage := by
  rw [stage, program]
  by_cases positive : 0 < call.amount
  · rw [if_pos positive]
    refine (follows_filterCounter counterStaging_counting positive fun world => ?_).mono ?_
    · exact ⟨rfl, rfl⟩
    · rintro result _ ⟨returned, rfl⟩
      exact ⟨returned, rfl⟩
  · rw [if_neg positive, increment, if_pos (by omega)]
    exact ⟨rfl, rfl⟩

theorem Increment.due_stage (call : Increment) (job name : PyStr) :
    call.stage.due job name = call.adds job name := by
  rw [stage, adds]
  by_cases positive : 0 < call.amount
  · rw [if_pos positive, JobStage.due_owing, Int.max_eq_left (Int.le_of_lt positive)]
  · rw [if_neg positive, Int.max_eq_right (Int.not_lt.mp positive), ite_self]
    rfl

/-! ### What a step keeps -/

section
variable {stage later : JobStage} {world after : JobsWorld}

theorem JobStage.Finds.moves (finds : stage.Finds world) {β : Type} {op : JobCall β}
    (moved : counterMoves β op stage world later) : later.Finds (JobCall.handle β op world).2 := by
  cases op with
  | filterCounter job name amount =>
    obtain ⟨_, rfl⟩ := moved
    split
    · exact .paid
    · exact .owing trivial
  | getCounter job name =>
    obtain ⟨amount, found, _, rfl⟩ := moved
    rcases looked : world.findCounter job name with _ | counter
    · exact finds
    · exact .owing ⟨counter, looked, rfl⟩
  | createCounter job name value =>
    obtain ⟨found, _, rfl⟩ := moved
    split
    · rename_i taken
      rw [JobCall.handle, if_pos taken]
      exact .owing (hasCounter_iff.mp taken)
    · exact .paid
  | updateCounter id amount =>
    obtain ⟨job, name, _, rfl⟩ := moved
    exact .paid
  | _ => exact moved.elim

theorem JobsWorld.Numbered.handle (numbered : world.Numbered) {β : Type} {op : JobCall β}
    (moved : counterMoves β op stage world later) : (JobCall.handle β op world).2.Numbered := by
  cases op with
  | filterCounter job name amount => exact numbered.withAdded _ amount
  | getCounter job name => exact numbered
  | createCounter job name value =>
    rw [JobCall.handle]
    split
    · exact numbered
    · exact numbered.withCounter job name value
  | updateCounter id amount => exact numbered.withAdded _ amount
  | _ => exact moved.elim

theorem JobsWorld.Distinct.withAdded (distinct : world.Distinct) (hit : ScheduledJobCounter → Prop)
    [DecidablePred hit] (amount : Int) : (world.withAdded hit amount).Distinct := by
  have same : ((world.withAdded hit amount).counters.map fun row => (row.job, row.name)) =
      world.counters.map fun row => (row.job, row.name) := update_map fun _ _ _ => rfl
  rw [Distinct, same]
  exact distinct

/-- The insert of a key that no row has. -/
theorem JobsWorld.Distinct.withCounter (distinct : world.Distinct) {job name : PyStr}
    (absent : ¬world.hasCounter job name = true) (value : Int) :
    (world.withCounter job name value).Distinct := by
  rw [Distinct, JobsWorld.withCounter, List.map_append]
  refine List.nodup_append.mpr ⟨distinct, List.nodup_singleton _, ?_⟩
  intro key old other new same
  obtain ⟨row, member, rfl⟩ := List.mem_map.mp old
  rw [List.map_singleton, List.mem_singleton] at new
  subst new
  obtain ⟨jobs, names⟩ := Prod.mk.inj same
  exact absent (hasCounter_iff.mpr ⟨row, member, jobs, names⟩)

theorem JobsWorld.Distinct.handle (distinct : world.Distinct) {β : Type} {op : JobCall β}
    (moved : counterMoves β op stage world later) : (JobCall.handle β op world).2.Distinct := by
  cases op with
  | filterCounter job name amount => exact distinct.withAdded _ amount
  | getCounter job name => exact distinct
  | createCounter job name value =>
    rw [JobCall.handle]
    split
    · exact distinct
    · rename_i absent
      exact distinct.withCounter absent value
  | updateCounter id amount => exact distinct.withAdded _ amount
  | _ => exact moved.elim

theorem JobsWorld.Elsewhere.findCounter (changed : world.Elsewhere after) (job name : PyStr) :
    after.findCounter job name = world.findCounter job name := by
  rw [JobsWorld.findCounter, JobsWorld.findCounter, changed.1]

theorem JobsWorld.Elsewhere.keeps (changed : world.Elsewhere after) : world.KeepsCounters after :=
  fun job name row found => ⟨row, (changed.findCounter job name).trans found, rfl⟩

end

/-! ### The account of the increments -/

abbrev CounterPost := Post JobCall JobError JobsWorld Increment JobStage Unit

def owedTo (posts : List CounterPost) (job name : PyStr) : Int :=
  (posts.map fun post => post.stage.due job name).sum

def addedTo (posts : List CounterPost) (job name : PyStr) : Int :=
  (posts.map fun post => post.thread.task.adds job name).sum

/-- A counter, and what is still owed to it, is what it was and all that the calls add. -/
structure CounterInv (start world : JobsWorld) (posts : List CounterPost) : Prop where
  numbered : world.Numbered
  distinct : world.Distinct
  kept : ∀ job name row, start.findCounter job name = some row →
    ∃ still, world.findCounter job name = some still
  finds : ∀ post ∈ posts, post.stage.Finds world
  account : ∀ job name, world.counter job name + owedTo posts job name =
    start.counter job name + addedTo posts job name

namespace CounterInv

variable {start world after : JobsWorld} {posts left right : List CounterPost}

theorem initial (numbered : start.Numbered) (distinct : start.Distinct) : CounterInv start start [] where
  numbered := numbered
  distinct := distinct
  kept job name row found := ⟨row, found⟩
  finds := by simp
  account job name := rfl

theorem arrives (inv : CounterInv start world posts) (call : Increment) :
    CounterInv start world (⟨⟨call, call.program, []⟩, call.stage⟩ :: posts) where
  numbered := inv.numbered
  distinct := inv.distinct
  kept := inv.kept
  finds := by
    rw [List.forall_mem_cons]
    refine ⟨fun debt owed => ?_, inv.finds⟩
    dsimp only [Increment.stage] at owed
    split at owed
    · cases owed
      trivial
    · cases owed
  account job name := by
    have earlier := inv.account job name
    have first := call.due_stage job name
    simp only [owedTo, addedTo, List.map_cons, List.sum_cons] at earlier ⊢
    omega

theorem changes (inv : CounterInv start world posts) (changed : world.Elsewhere after) :
    CounterInv start after posts where
  numbered := by
    refine ⟨fun row member => ?_, ?_⟩
    · rw [changed.1] at member
      rw [changed.2]
      exact inv.numbered.fresh row member
    · rw [changed.1]
      exact inv.numbered.once
  distinct := by
    rw [JobsWorld.Distinct, changed.1]
    exact inv.distinct
  kept job name row found := by
    rw [changed.findCounter]
    exact inv.kept job name row found
  finds post member := (inv.finds post member).grows changed.keeps
  account job name := by
    rw [JobsWorld.counter, changed.findCounter]
    exact inv.account job name

theorem owedTo_middle (post : CounterPost) (job name : PyStr) :
    owedTo (left ++ post :: right) job name = post.stage.due job name + owedTo (left ++ right) job name := by
  simp only [owedTo, List.map_append, List.map_cons, List.sum_append, List.sum_cons]
  omega

theorem moves {β : Type} {call : Increment} {op : JobCall β} {next : Except JobError β → JobProgram Unit}
    {log : List (Entry JobCall JobsWorld)} {stage later : JobStage}
    (inv : CounterInv start world (left ++ ⟨⟨call, .call op next, log⟩, stage⟩ :: right))
    (moved : counterMoves β op stage world later) :
    CounterInv start (JobCall.handle β op world).2
      (left ++ ⟨⟨call, next (JobCall.handle β op world).1, log ++ [⟨op, world⟩]⟩, later⟩ :: right) where
  numbered := inv.numbered.handle moved
  distinct := inv.distinct.handle moved
  kept job name row found := by
    obtain ⟨still, present⟩ := inv.kept job name row found
    obtain ⟨further, kept, _⟩ := (JobsWorld.Grows.handle world op).counters job name still present
    exact ⟨further, kept⟩
  finds post member := by
    rcases mem_middle.mp member with rfl | other
    · exact (inv.finds _ (mem_middle.mpr (.inl rfl))).moves moved
    · exact (inv.finds post (mem_middle.mpr (.inr other))).grows (JobsWorld.Grows.handle world op).counters
  account job name := by
    have own : stage.Finds world := inv.finds _ (mem_middle.mpr (.inl rfl))
    have balance := @counterMoves_balance _ _ _ job name inv.numbered.once own _ _ moved
    have earlier := inv.account job name
    rw [owedTo_middle] at earlier ⊢
    simp only [addedTo, List.map_append, List.map_cons] at earlier ⊢
    omega

end CounterInv

theorem CounterCrew.Reaches.inv {start crew : CounterCrew} (numbered : start.shared.Numbered)
    (distinct : start.shared.Distinct) (idle : start.threads = [])
    (reaches : CounterCrew.Reaches start crew) :
    ∃ posts : List CounterPost, posts.map (·.thread) = crew.threads ∧
      CounterInv start.shared crew.shared posts ∧
      ∀ post ∈ posts, post.thread.rest.Follows JobCall.handle counterStaging
        (fun result later => result = .ok () ∧ later.owed = none) post.stage :=
  Crew.Reaches.staged (CounterInv start.shared) Increment.follows (.initial numbered distinct) idle
    (fun _ _ call inv => inv.arrives call) (fun _ _ _ changed inv => inv.changes changed)
    (fun _ _ inv => inv.finds) (fun _ _ _ _ _ _ _ _ _ inv moved => inv.moves moved) reaches

theorem JobsWorld.Distinct.countP {world : JobsWorld} (distinct : world.Distinct) {job name : PyStr}
    (present : world.hasCounter job name = true) :
    world.counters.countP (·.Keyed job name) = 1 := by
  obtain ⟨row, member, keyed⟩ := hasCounter_iff.mp present
  have same : (row.job, row.name) = (job, name) := Prod.ext keyed.1 keyed.2
  have one := countP_key distinct ⟨row, member, same⟩
  rw [← one]
  refine List.countP_congr fun row _ => ?_
  rw [decide_eq_true_eq, decide_eq_true_eq, Prod.mk.injEq]
  exact Iff.rfl

theorem owedTo_of_paid {posts : List CounterPost} (paid : ∀ post ∈ posts, post.stage.owed = none)
    (job name : PyStr) : owedTo posts job name = 0 := by
  induction posts with
  | nil => rfl
  | cons post posts ih =>
    rw [List.forall_mem_cons] at paid
    have rest := ih paid.2
    rw [owedTo] at rest ⊢
    rw [List.map_cons, List.sum_cons, JobStage.due_none paid.1, rest]
    rfl

/-- However the increments overtake each other, once all have returned each counter has
grown by the positive amounts, and it is one row if there were any. -/
theorem increments_counted {start crew : CounterCrew} (numbered : start.shared.Numbered)
    (distinct : start.shared.Distinct) (idle : start.threads = [])
    (reaches : CounterCrew.Reaches start crew)
    (finished : ∀ thread ∈ crew.threads, thread.rest.Finished) (job name : PyStr) :
    (∀ thread ∈ crew.threads, thread.rest = .ret ()) ∧
    crew.shared.counter job name = start.shared.counter job name +
      (crew.threads.map fun thread => thread.task.adds job name).sum ∧
    (0 < (crew.threads.map fun thread => thread.task.adds job name).sum →
      crew.shared.counters.countP (·.Keyed job name) = 1) := by
  obtain ⟨posts, staffed, inv, follows⟩ := reaches.inv numbered distinct idle
  have ended : ∀ post ∈ posts, post.thread.rest = .ret () ∧ post.stage.owed = none := by
    intro post member
    have rest := follows post member
    have last := finished post.thread (staffed ▸ List.mem_map_of_mem member)
    cases shape : post.thread.rest with
    | ret value =>
      rw [shape] at rest
      exact ⟨rfl, rest.2⟩
    | raise error =>
      rw [shape] at rest
      cases rest.1
    | call op next =>
      rw [shape] at last
      exact last.elim
  have paid := owedTo_of_paid (fun post member => (ended post member).2) job name
  have added : addedTo posts job name = (crew.threads.map fun thread => thread.task.adds job name).sum := by
    rw [addedTo, ← staffed, List.map_map]
    rfl
  have account := inv.account job name
  rw [paid, added, Int.add_zero] at account
  refine ⟨?_, account, ?_⟩
  · rw [← staffed, List.forall_mem_map]
    exact fun post member => (ended post member).1
  · intro positive
    apply inv.distinct.countP
    rw [← Bool.not_eq_false, ← findCounter_eq_none]
    -- without a row now there was none, and nothing was added
    intro absent
    have before : start.shared.findCounter job name = none := by
      cases found : start.shared.findCounter job name with
      | none => rfl
      | some row =>
        obtain ⟨still, present⟩ := inv.kept job name row found
        rw [absent] at present
        cases present
    rw [JobsWorld.counter, JobsWorld.counter, absent, before] at account
    simp only [Option.map_none, Option.getD_none] at account
    omega

/-! Two increments look for a counter that is not there, and one of them is first. -/

def firstCount : Increment := ⟨retryWebhooksJob.name, itemsCounter (lit "sent"), 2⟩

def secondCount : Increment := ⟨retryWebhooksJob.name, itemsCounter (lit "sent"), 3⟩

def Increment.thread (call : Increment) : Thread JobCall JobError JobsWorld Increment Unit :=
  ⟨call, call.program, []⟩

/-- The first one has seen that there is no counter. -/
def firstLooked := firstCount.thread.after JobCall.handle 2 firstTables

def secondCounted := secondCount.thread.after JobCall.handle 5 firstLooked.2

def firstCounted := firstLooked.1.after JobCall.handle 5 secondCounted.2

theorem increments_counted_overtaken :
    firstCounted.2.counter firstCount.job firstCount.name = 5 := by
  have reaches : CounterCrew.Reaches ⟨firstTables, []⟩
      ⟨firstCounted.2, [secondCounted.1, firstCounted.1]⟩ := by
    refine .head (.arrive firstCount) ?_
    refine (Crew.Reaches.after 2 firstCount.thread firstTables [] []).trans ?_
    refine .head (.arrive secondCount) ?_
    refine (Crew.Reaches.after 5 secondCount.thread firstLooked.2 [] [firstLooked.1]).trans ?_
    exact Crew.Reaches.after 5 firstLooked.1 secondCounted.2 [secondCounted.1] []
  have numbered : firstTables.Numbered := by constructor <;> simp [firstTables, JobsWorld.migrated]
  have distinct : firstTables.Distinct := by simp [firstTables, JobsWorld.migrated, JobsWorld.Distinct]
  have finished : ∀ thread ∈ [secondCounted.1, firstCounted.1], thread.rest.Finished := by
    decide +kernel
  have counted := increments_counted numbered distinct rfl reaches finished firstCount.job firstCount.name
  rw [counted.2.1]
  decide +kernel

end HostingService
