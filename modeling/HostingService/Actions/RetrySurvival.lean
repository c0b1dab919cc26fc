import HostingService.Actions.RetryAccounts

/-! `retry_pending_webhooks` beside deletions of rules and rows: when a run survives them. -/

namespace HostingService

open Program Text

/-! ### What is left alone -/

/-- Webhook rows are created for a rule, and an edit of the rules deletes none. -/
def RetrySystem.Proper (state : RetrySystem) : RetrySystemEvent → Prop
  | .emits row => row.deliveryKind = .webhook → row.actionRule.isSome = true
  | .administers rules => ∀ rule ∈ state.world.db.rules, ∃ other ∈ rules, other.id = rule.id
  | _ => True

/-- No row is deleted between the snapshot and the result of one of the call's deliveries, and
the call leaves its second loop when none of them is in flight. -/
def RetrySystem.Spares (i : Nat) (state : RetrySystem) : RetrySystemEvent → Prop
  | .deletes db => ∀ call, state.calls[i]? = some call → ∀ future ∈ call.futures, future.UnderWay →
      (state.world.db.row future.rowId).isSome = true → (db.row future.rowId).isSome = true
  | .leaves call => state.calls[i]? = some call → call.inFlight = []
  | _ => True

def RetrySystem.Survivable (i : Nat) (state : RetrySystem) (event : RetrySystemEvent) : Prop :=
  state.Proper event ∧ state.Spares i event

/-- The call has not raised, and totals that it has returned are those of its deliveries, each
of which tells what it was. -/
structure RetryCall.Survives (call : RetryCall) : Prop where
  unfailed : call.Unfailed
  counted : call.phase = .returned → call.options.dryRun = false →
    call.stats.TotalOf (call.futures.map (·.result)) ∧
      ∀ future ∈ call.futures, future.Finished ∧ future.Counted

section
variable {settings : ActionsSettings} {library : ActionsLibrary}

/-! ### Links between rows and rules -/

theorem ActionsDb.Linked.createOutbox {db after : ActionsDb} {row : ActionOutbox}
    (linked : db.Linked) (named : row.deliveryKind = .webhook → row.actionRule.isSome = true)
    (created : (ActionsChange.createOutbox row).apply db = .ok after) : after.Linked := by
  obtain ⟨_, rfl⟩ := createOutbox_ends created
  intro other member kind
  rcases List.mem_append.mp member with old | new
  · exact linked other old kind
  · obtain rfl := List.mem_singleton.mp new
    obtain ⟨rule, same⟩ := Option.isSome_iff_exists.mp (named kind)
    rw [ActionsChange.apply] at created
    split at created
    · cases created
    · next free =>
      have known := not_not.mp (not_or.mp free).2
      rw [same, Option.all_some] at known
      rw [ActionsDb.ruleOf, same, Option.bind_some, List.find?_isSome]
      exact List.any_eq_true.mp known

theorem ActionsDb.Linked.deletes {db after : ActionsDb} (linked : db.Linked)
    (deleted : db.Deletes after) : after.Linked := by
  cases deleted with
  | rule id =>
    intro row member kind
    obtain ⟨old, other⟩ := List.mem_filter.mp member
    have found := linked row old kind
    have different : row.actionRule ≠ some id := of_decide_eq_true other
    rw [ActionsDb.ruleOf] at found ⊢
    cases named : row.actionRule with
    | none =>
      rw [named] at found
      cases found
    | some rule =>
      rw [named, Option.bind_some, List.find?_isSome] at found
      obtain ⟨kept, member, same⟩ := found
      rw [Option.bind_some, List.find?_isSome]
      refine ⟨kept, List.mem_filter.mpr ⟨member, ?_⟩, same⟩
      refine decide_eq_true fun own => different ?_
      rw [named, ← own, of_decide_eq_true same]
  | rows ids =>
    intro row member kind
    exact linked row (List.mem_filter.mp member).1 kind

theorem ActionsDb.Linked.administers {db : ActionsDb} (linked : db.Linked) {rules : List ActionRule}
    (kept : ∀ rule ∈ db.rules, ∃ other ∈ rules, other.id = rule.id) :
    ({ db with rules } : ActionsDb).Linked := by
  intro row member kind
  have found := linked row member kind
  rw [ActionsDb.ruleOf] at found ⊢
  cases named : row.actionRule with
  | none =>
    rw [named] at found
    cases found
  | some id =>
    rw [named, Option.bind_some, List.find?_isSome] at found
    obtain ⟨rule, stored, same⟩ := found
    obtain ⟨other, present, equal⟩ := kept rule stored
    rw [Option.bind_some, List.find?_isSome]
    exact ⟨other, present, decide_eq_true (equal.trans (of_decide_eq_true same))⟩

/-! ### The account of one call -/

/-- Every delivery of the call is in a stage, and its totals are up to date. -/
structure RetryCall.Surviving (world : OutboxWorld) (call : RetryCall) : Prop where
  sound : ∀ future ∈ call.futures, future.Sound world
  unfailed : call.Unfailed
  totaled : call.Totaled
  drained : call.Drained

structure RetrySystem.Surviving (i : Nat) (state : RetrySystem) : Prop where
  allowed : state.Allowed fun _ => CallKeepsRows
  linked : state.world.db.Linked
  call : ∀ call, state.calls[i]? = some call → call.Surviving state.world

theorem RetryCall.start_surviving (options : RetryOptions) (world : OutboxWorld) :
    (RetryCall.start options world).Surviving world where
  sound future member := by cases member
  unfailed := ⟨RetryCallPhase.noConfusion, RetryCallPhase.noConfusion⟩
  totaled _ _ := ⟨rfl, rfl⟩
  drained ended := by rcases ended with other | other <;> cases other

theorem RetryCall.Surviving.keeps {world later : OutboxWorld} {call : RetryCall}
    (surviving : call.Surviving world) (stays : ∀ future ∈ call.futures, future.UnderWay →
      (world.db.row future.rowId).isSome = true → (later.db.row future.rowId).isSome = true) :
    call.Surviving later where
  sound future member := (surviving.sound future member).keeps (stays future member)
  unfailed := surviving.unfailed
  totaled := surviving.totaled
  drained := surviving.drained

theorem RetryCall.Step.surviving {world later : OutboxWorld} {call after : RetryCall}
    {event : RetrySystemEvent} (stepped : RetryCall.Step settings library world call event later after)
    (linked : world.db.Linked) (keeps : world.db.KeepsRows later.db)
    (leaves : ∀ leaving, event = .leaves leaving → leaving.inFlight = [])
    (surviving : call.Surviving world) : after.Surviving later where
  sound := stepped.sound linked keeps surviving.sound
  unfailed := stepped.unfailed surviving.sound surviving.unfailed
  totaled := stepped.totaled (fun future member => (surviving.sound future member).collected) surviving.totaled
  drained :=
    stepped.drained (fun future member => (surviving.sound future member).collected) leaves surviving.drained

theorem RetryCall.Surviving.survives {world : OutboxWorld} {call : RetryCall}
    (surviving : call.Surviving world) : call.Survives where
  unfailed := surviving.unfailed
  counted returned wet := by
    obtain ⟨totals, collected⟩ := surviving.totaled.returned surviving.drained returned wet
    refine ⟨totals, fun future member => ?_⟩
    have finished := (surviving.sound future member).collected (collected future member)
    exact ⟨finished, ((surviving.sound future member).finished finished).2⟩

/-- The event of a step of a call that leaves its second loop is of that call. -/
theorem RetryCall.Step.leaving {world later : OutboxWorld} {call after leaving : RetryCall}
    (stepped : RetryCall.Step settings library world call (.leaves leaving) later after) :
    leaving = call := by
  cases stepped
  rfl

theorem RetrySystem.Step.surviving {i : Nat} {before after : RetrySystem} {event : RetrySystemEvent}
    (step : RetrySystem.Step settings library before event after) (permitted : before.Survivable i event)
    (surviving : before.Surviving i) : after.Surviving i := by
  have allowed := step.allowed (fun id correlation => deliverOutboxRow_keepsRows id correlation)
    surviving.allowed
  cases step with
  | emits row db fresh created =>
    refine ⟨allowed, surviving.linked.createOutbox permitted.1 created, fun call present => ?_⟩
    refine (surviving.call call present).keeps fun future _ _ here => ?_
    obtain ⟨_, rfl⟩ := createOutbox_ends created
    obtain ⟨row, stored⟩ := Option.isSome_iff_exists.mp here
    rw [ActionsDb.row] at stored ⊢
    rw [List.find?_append, stored]
    rfl
  | dispatches thread op next waiting present =>
    have every := surviving.allowed.1 thread (present ▸ mem_middle.mpr (.inl rfl))
    rw [waiting] at every
    have keeps := every.1 before.world
    refine ⟨allowed, keeps.linked surviving.linked, fun call present => ?_⟩
    exact (surviving.call call present).keeps fun _ _ _ here => (keeps.row_isSome _).trans here
  | starts options fresh =>
    refine ⟨allowed, surviving.linked, fun call present => ?_⟩
    rw [List.getElem?_append] at present
    split at present
    · exact surviving.call call present
    · obtain rfl := List.mem_singleton.mp (List.mem_of_getElem? present)
      exact RetryCall.start_surviving options before.world
  | @acts front call back _ world later present stepped =>
    have keeps := stepped.keepsRows (surviving.allowed.2 call (present ▸ mem_middle.mpr (.inl rfl)))
    refine ⟨allowed, keeps.linked surviving.linked, fun other stored => ?_⟩
    rcases getElem?_middle stored with ⟨rfl, rfl⟩ | ⟨_, same⟩
    · have here : before.calls[front.length]? = some call := present ▸ getElem?_middle_self front back call
      refine stepped.surviving surviving.linked keeps ?_ (surviving.call call here)
      rintro leaving rfl
      obtain rfl := stepped.leaving
      exact permitted.2 here
    · refine (surviving.call other (present ▸ same call)).keeps fun _ _ _ here => ?_
      exact (keeps.row_isSome _).trans here
  | passes span =>
    exact ⟨allowed, surviving.linked, fun call present => (surviving.call call present).keeps fun _ _ _ => id⟩
  | deletes db deleted =>
    refine ⟨allowed, surviving.linked.deletes deleted, fun call present => ?_⟩
    exact (surviving.call call present).keeps (permitted.2 call present)
  | administers rules =>
    refine ⟨allowed, surviving.linked.administers permitted.1, fun call present => ?_⟩
    exact (surviving.call call present).keeps fun _ _ _ => id
  | reroutes network =>
    exact ⟨allowed, surviving.linked, fun call present => (surviving.call call present).keeps fun _ _ _ => id⟩

theorem RetrySystem.Initial.surviving {i : Nat} {state : RetrySystem} (initial : state.Initial)
    (linked : state.world.db.Linked) : state.Surviving i where
  allowed := by
    constructor
    · simp [initial.dispatches]
    · simp [initial.calls]
  linked := linked
  call call present := by simp [initial.calls] at present

theorem RetrySystem.Reaches.surviving {i : Nat} {start state : RetrySystem} (surviving : start.Surviving i)
    (path : RetrySystem.Reaches settings library (RetrySystem.Survivable i) start state) :
    state.Surviving i := by
  induction path with
  | refl => exact surviving
  | tail _ last ih =>
    obtain ⟨event, step, permitted⟩ := last
    exact step.surviving permitted ih

/-! ### A call that is overdue -/

section
variable {world later : OutboxWorld} {call after : RetryCall} {event : RetrySystemEvent}

/-- The second loop is over too. -/
def RetryCall.Overdue (world : OutboxWorld) (call : RetryCall) : Prop :=
  call.deadline + microsecondsPerSecond ≤ world.monotonic

/-- How far an overdue call is from its end. -/
def RetryCallPhase.closing : RetryCallPhase → Nat
  | .choosing => 6
  | .waiting _ | .releasing _ | .working => 5
  | .checking => 4
  | .collecting => 3
  | .draining => 2
  | .joining _ => 1
  | .returned | .failed => 0

theorem RetryCall.Overdue.past (overdue : call.Overdue world) : call.deadline ≤ world.monotonic :=
  le_trans (Int.le_add_of_nonneg_right (by decide)) overdue

/-- An overdue call that turns comes closer to its end. -/
theorem RetryCall.Step.closer (stepped : RetryCall.Step settings library world call event later after)
    (overdue : call.Overdue world) :
    after.phase = call.phase ∨ after.phase.closing < call.phase.closing := by
  cases stepped with
  | enters checking more => exact absurd more.2 (not_lt.mpr overdue.past)
  | leaves checking beyond =>
    right
    simp [checking, RetryCallPhase.closing]
  | waits choosing busy =>
    right
    simp [choosing, RetryCallPhase.closing]
  | idles view choosing free nothing =>
    right
    simp only [choosing]
    split <;> simp [RetryCallPhase.closing]
  | claims view row choosing free found =>
    right
    simp only [choosing]
    split
    · simp [RetryCall.countRow, RetryCallPhase.closing]
    · simp only [RetryCall.submits]
      split <;> simp [RetryCallPhase.closing]
  | releases row holding =>
    right
    simp [holding, RetryCallPhase.closing]
  | delivers future op next waiting present => exact .inl rfl
  | collects ready returned goesOn =>
    right
    simp only [RetryCall.Ready] at ready
    cases phase : call.phase with
    | waiting timeout => simp [RetryCall.next, phase, RetryCallPhase.closing]
    | working => simp [RetryCall.next, phase, RetryCallPhase.closing]
    | collecting =>
      simp only [RetryCall.next, phase]
      split <;> simp [RetryCallPhase.closing]
    | _ =>
      rw [phase] at ready
      exact ready.elim
  | raises ready raised =>
    right
    simp only [RetryCall.Ready] at ready
    cases phase : call.phase with
    | waiting timeout => simp [RetryCallPhase.closing]
    | working => simp [RetryCallPhase.closing]
    | collecting => simp [RetryCallPhase.closing]
    | _ =>
      rw [phase] at ready
      exact ready.elim
  | drains draining unfinished early => exact absurd early (not_lt.mpr overdue)
  | stops beyond =>
    right
    rcases beyond with ⟨draining, _⟩ | ⟨collecting, _⟩
    · simp [draining, RetryCallPhase.closing]
    · simp [collecting, RetryCallPhase.closing]
  | joins raised joining beyond =>
    right
    simp only [joining]
    split <;> simp [RetryCallPhase.closing]

/-- The call can leave its phase. -/
def RetryCall.CanTurn (settings : ActionsSettings) (library : ActionsLibrary) (world : OutboxWorld)
    (call : RetryCall) : Prop :=
  ∃ event later after, RetryCall.Step settings library world call event later after ∧
    after.phase ≠ call.phase

/-- A claim while others hold every row. -/
theorem RetryCall.claim_locked (settings : ActionsSettings) (call : RetryCall) (world : OutboxWorld) :
    call.claim settings ⟨fun _ => true, true⟩ world = (.ok none, world) := by
  have first := claim_first settings call.now ⟨fun _ => true, true⟩ world
  have none : (world.db.outbox.filter fun row => row.isDue call.now && !true) = [] := by simp
  simp only [none, firstRow] at first
  exact first

/-- Results are taken, or the exception that one of them is. -/
theorem RetryCall.Ready.canTurn (ready : call.Ready world)
    (goesOn : call.next ≠ .joining false) (different : call.next ≠ call.phase) :
    call.CanTurn settings library world := by
  by_cases raised : ∃ future ∈ call.done, future.raised = true
  · refine ⟨_, _, _, .raises ready raised, fun same => ?_⟩
    rw [RetryCall.Ready, ← same] at ready
    exact ready
  · refine ⟨_, _, _, .collects ready (fun future member => ?_) goesOn, different⟩
    by_contra other
    exact raised ⟨future, member, Bool.eq_true_of_not_eq_false other⟩

theorem RetryCall.CanTurn.unreturned (turns : call.CanTurn settings library world) :
    call.phase ≠ .returned := by
  intro returned
  obtain ⟨event, later, after, stepped, different⟩ := turns
  cases stepped with
  | enters checking more => cases returned.symm.trans checking
  | leaves checking beyond => cases returned.symm.trans checking
  | waits choosing busy => cases returned.symm.trans choosing
  | idles view choosing free nothing => cases returned.symm.trans choosing
  | claims view row choosing free found => cases returned.symm.trans choosing
  | releases row holding => cases returned.symm.trans holding
  | delivers future op next waiting present => exact different rfl
  | collects ready all goesOn =>
    rw [RetryCall.Ready, returned] at ready
    exact ready
  | raises ready raised =>
    rw [RetryCall.Ready, returned] at ready
    exact ready
  | drains draining unfinished early => cases returned.symm.trans draining
  | stops beyond =>
    rcases beyond with ⟨draining, _⟩ | ⟨collecting, _⟩
    · cases returned.symm.trans draining
    · cases returned.symm.trans collecting
  | joins raised joining beyond => cases returned.symm.trans joining

/-- An overdue call can turn where its deliveries have ended and its wait is over. -/
theorem RetryCall.Overdue.canTurn (overdue : call.Overdue world) (unfailed : call.Unfailed)
    (unreturned : call.phase ≠ .returned)
    (finished : call.phase ≠ .choosing → ∀ future ∈ call.futures, future.Finished)
    (timeout : ∀ time, call.phase = .waiting time → time ≤ world.monotonic) :
    call.CanTurn settings library world := by
  cases phase : call.phase with
  | checking =>
    refine ⟨_, _, _, .leaves phase fun more => not_lt.mpr overdue.past more.2, ?_⟩
    rw [phase]
    exact RetryCallPhase.noConfusion
  | choosing =>
    rcases lt_or_ge (call.inFlight.length : Int) call.workers with free | busy
    · refine ⟨_, _, _, .idles _ phase free (call.claim_locked settings world), ?_⟩
      rw [phase]
      simp only
      split <;> exact RetryCallPhase.noConfusion
    · refine ⟨_, _, _, .waits phase busy, ?_⟩
      rw [phase]
      exact RetryCallPhase.noConfusion
  | waiting time =>
    have ready : call.Ready world := by
      rw [RetryCall.Ready, phase]
      exact .inr (timeout time phase)
    refine ready.canTurn ?_ ?_
    · simp only [RetryCall.next, phase]
      exact RetryCallPhase.noConfusion
    · simp only [RetryCall.next, phase]
      exact RetryCallPhase.noConfusion
  | releasing row =>
    refine ⟨_, _, _, .releases row phase, ?_⟩
    rw [phase]
    exact RetryCallPhase.noConfusion
  | working =>
    have ready : call.Ready world := by
      rw [RetryCall.Ready, phase]
      refine (List.filter_eq_self.mpr fun future member => decide_eq_true ?_).symm
      refine finished ?_ future (List.mem_filter.mp member).1
      rw [phase]
      exact RetryCallPhase.noConfusion
    refine ready.canTurn ?_ ?_
    · simp only [RetryCall.next, phase]
      exact RetryCallPhase.noConfusion
    · simp only [RetryCall.next, phase]
      exact RetryCallPhase.noConfusion
  | draining =>
    refine ⟨_, _, _, .stops (.inl ⟨phase, .inr overdue⟩), ?_⟩
    rw [phase]
    exact RetryCallPhase.noConfusion
  | collecting =>
    have ready : call.Ready world := by
      rw [RetryCall.Ready, phase]
      exact .inr overdue.past
    by_cases nothing : call.done = []
    · refine ⟨_, _, _, .stops (.inr ⟨phase, ready, nothing⟩), ?_⟩
      rw [phase]
      exact RetryCallPhase.noConfusion
    · refine ready.canTurn ?_ ?_
      · simp only [RetryCall.next, phase, if_neg nothing]
        exact RetryCallPhase.noConfusion
      · simp only [RetryCall.next, phase, if_neg nothing]
        exact RetryCallPhase.noConfusion
  | joining raised =>
    refine ⟨_, _, _, .joins raised phase (finished ?_), ?_⟩
    · rw [phase]
      exact RetryCallPhase.noConfusion
    · rw [phase]
      simp only
      split <;> exact RetryCallPhase.noConfusion
  | returned => exact (unreturned phase).elim
  | failed => exact (unfailed.2 phase).elim

/-- A delivery that has ended stays where it is. -/
theorem RetryCall.Step.keepsFinished
    (stepped : RetryCall.Step settings library world call event later after) {j : Nat} {future : RetryFuture}
    (present : call.futures[j]? = some future) (finished : future.Finished) :
    ∃ kept, after.futures[j]? = some kept ∧ kept.Finished := by
  cases stepped with
  | claims view row choosing free found =>
    refine ⟨future, ?_, finished⟩
    split
    · exact present
    · rw [RetryCall.submits]
      simp only
      rw [List.getElem?_append_left (List.getElem?_eq_some_iff.mp present).1]
      exact present
  | delivers moved op next waiting split =>
    rw [split] at present
    rcases getElem?_middle present with ⟨_, rfl⟩ | ⟨_, other⟩
    · rw [RetryFuture.Finished, waiting] at finished
      exact finished.elim
    · exact ⟨future, other _, finished⟩
  | collects ready returned goesOn =>
    refine ⟨future.collect, ?_, ?_⟩
    · simp only [RetryCall.collect, List.getElem?_map, present, Option.map_some]
    · rw [RetryFuture.Finished, RetryFuture.collect_thread]
      exact finished
  | _ => exact ⟨future, present, finished⟩

/-- Only a claim adds a delivery. -/
theorem RetryCall.Step.futures_length
    (stepped : RetryCall.Step settings library world call event later after)
    (chosen : call.phase ≠ .choosing) : after.futures.length = call.futures.length := by
  cases stepped with
  | claims view row choosing free found => exact (chosen choosing).elim
  | delivers moved op next waiting split => simp [split]
  | collects ready returned goesOn => simp [RetryCall.collect]
  | _ => rfl

end

/-! ### Endless runs -/

/-- An endless run of permitted steps. -/
structure RetrySystem.Endless (settings : ActionsSettings) (library : ActionsLibrary)
    (permits : RetrySystem → RetrySystemEvent → Prop) (start : RetrySystem) where
  states : Nat → RetrySystem
  events : Nat → RetrySystemEvent
  first : states 0 = start
  steps : ∀ n, RetrySystem.Step settings library (states n) (events n) (states (n + 1))
  permitted : ∀ n, permits (states n) (events n)

/-- Time passes, each delivery of the call ends, and the call turns where it can from some state on. -/
structure RetrySystem.Endless.Fair {permits : RetrySystem → RetrySystemEvent → Prop}
    {start : RetrySystem} (run : RetrySystem.Endless settings library permits start) (i : Nat) : Prop where
  time : ∀ time : Time, ∃ n, time ≤ (run.states n).world.monotonic
  ends : ∀ n call, (run.states n).calls[i]? = some call → ∀ j < call.futures.length, ∃ m ≥ n,
    ∃ later ended, (run.states m).calls[i]? = some later ∧ later.futures[j]? = some ended ∧ ended.Finished
  turns : ∀ n, (∀ m ≥ n, ∃ call, (run.states m).calls[i]? = some call ∧
      call.CanTurn settings library (run.states m).world) →
    ∃ m ≥ n, ∃ before after, (run.states m).calls[i]? = some before ∧
      (run.states (m + 1)).calls[i]? = some after ∧ after.phase ≠ before.phase

theorem RetrySystem.Step.monotonic {before after : RetrySystem} {event : RetrySystemEvent}
    (step : RetrySystem.Step settings library before event after) :
    before.world.monotonic ≤ after.world.monotonic := by
  cases step with
  | dispatches thread op next waiting present => exact (DeliveryCall.handle_times op before.world).2.ge
  | acts present stepped => exact stepped.times.2.ge
  | passes span => exact Int.le_add_of_nonneg_right (Int.natCast_nonneg span)
  | _ => exact le_rfl

section
variable {i : Nat} {start : RetrySystem}
  {run : RetrySystem.Endless settings library (RetrySystem.Survivable i) start} {calls : Nat → RetryCall}

/-- The states of one call in an endless run. -/
structure RetrySystem.Endless.Tracks (run : RetrySystem.Endless settings library (RetrySystem.Survivable i) start)
    (calls : Nat → RetryCall) : Prop where
  stored : ∀ n, (run.states n).calls[i]? = some (calls n)
  surviving : ∀ n, (calls n).Surviving (run.states n).world

theorem RetrySystem.Endless.tracks (run : RetrySystem.Endless settings library (RetrySystem.Survivable i) start)
    (surviving : start.Surviving i) {first : RetryCall} (present : start.calls[i]? = some first) :
    ∃ calls, run.Tracks calls := by
  have every (n : Nat) : (run.states n).Surviving i := by
    induction n with
    | zero =>
      rw [run.first]
      exact surviving
    | succ n ih => exact (run.steps n).surviving (run.permitted n) ih
  obtain ⟨calls, stored⟩ := RetrySystem.Step.calls run.steps (by rw [run.first]; exact present)
  exact ⟨calls, stored, fun n => (every n).call (calls n) (stored n)⟩

namespace RetrySystem.Endless.Tracks

theorem step (tracks : run.Tracks calls) (n : Nat) : calls (n + 1) = calls n ∨ ∃ event world,
    RetryCall.Step settings library (run.states n).world (calls n) event world (calls (n + 1)) := by
  rcases (run.steps n).at (tracks.stored n) with same | ⟨event, world, later, stepped, moved⟩
  · rw [tracks.stored] at same
    exact .inl (Option.some.inj same)
  · rw [tracks.stored] at moved
    obtain rfl := Option.some.inj moved
    exact .inr ⟨event, world, stepped⟩

theorem deadline (tracks : run.Tracks calls) (n : Nat) : (calls n).deadline = (calls 0).deadline := by
  induction n with
  | zero => rfl
  | succ n ih =>
    rcases tracks.step n with same | ⟨event, world, stepped⟩
    · rw [same]
      exact ih
    · exact stepped.options.2.2.trans ih

theorem monotonic (run : RetrySystem.Endless settings library (RetrySystem.Survivable i) start)
    {n m : Nat} (le : n ≤ m) : (run.states n).world.monotonic ≤ (run.states m).world.monotonic := by
  induction le with
  | refl => exact le_rfl
  | step _ ih => exact ih.trans (run.steps _).monotonic

theorem keepsFinished (tracks : run.Tracks calls) {j n m : Nat} (le : n ≤ m)
    (ended : ∃ future, (calls n).futures[j]? = some future ∧ future.Finished) :
    ∃ future, (calls m).futures[j]? = some future ∧ future.Finished := by
  induction le with
  | refl => exact ended
  | step _ ih =>
    rcases tracks.step _ with same | ⟨event, world, stepped⟩
    · rw [same]
      exact ih
    · obtain ⟨future, present, finished⟩ := ih
      exact stepped.keepsFinished present finished

/-- From some state on the call is overdue and keeps its phase. -/
theorem settles (tracks : run.Tracks calls) (fair : run.Fair i) :
    ∃ n, ∀ m ≥ n, (calls m).Overdue (run.states m).world ∧ (calls m).phase = (calls n).phase := by
  obtain ⟨n, passed⟩ := fair.time ((calls 0).deadline + microsecondsPerSecond)
  have overdue (m : Nat) (le : n ≤ m) : (calls m).Overdue (run.states m).world := by
    rw [RetryCall.Overdue, tracks.deadline]
    exact passed.trans (monotonic run le)
  have turns (m : Nat) (le : n ≤ m) : (calls (m + 1)).phase = (calls m).phase ∨
      (calls (m + 1)).phase.closing < (calls m).phase.closing := by
    rcases tracks.step m with same | ⟨event, world, stepped⟩
    · exact .inl (by rw [same])
    · exact stepped.closer (overdue m le)
  have falls : Antitone fun k => (calls (n + k)).phase.closing := by
    refine antitone_nat_of_succ_le fun k => ?_
    rcases turns (n + k) (Nat.le_add_right n k) with phase | closer
    · exact (congrArg RetryCallPhase.closing phase).le
    · exact closer.le
  obtain ⟨k, flat⟩ := WellFoundedLT.antitone_chain_condition falls
  refine ⟨n + k, fun m le => ⟨overdue m (by omega), ?_⟩⟩
  induction le with
  | refl => rfl
  | @step m later ih =>
    have le : n + k ≤ m := later
    rcases turns m (by omega) with phase | closer
    · exact phase.trans ih
    · obtain ⟨l, rfl⟩ := Nat.exists_eq_add_of_le (show n ≤ m by omega)
      have here := flat l (by omega)
      have there := flat (l + 1) (by omega)
      have equal : (calls (n + l)).phase.closing = (calls (n + (l + 1))).phase.closing := here.symm.trans there
      rw [Nat.add_assoc] at closer
      omega

/-- Where the call adds no more deliveries, they have all ended in some state. -/
theorem allFinished (tracks : run.Tracks calls) (fair : run.Fair i) {n : Nat}
    (added : ∀ m ≥ n, (calls m).futures.length = (calls n).futures.length) :
    ∃ m ≥ n, ∀ k ≥ m, ∀ future ∈ (calls k).futures, future.Finished := by
  have each (bound : Nat) (le : bound ≤ (calls n).futures.length) : ∃ m ≥ n, ∀ j < bound,
      ∃ future, (calls m).futures[j]? = some future ∧ future.Finished := by
    induction bound with
    | zero => exact ⟨n, le_rfl, fun j less => by omega⟩
    | succ bound ih =>
      obtain ⟨m, after, others⟩ := ih (by omega)
      obtain ⟨k, later, call, ended, stored, present, finished⟩ :=
        fair.ends n _ (tracks.stored n) bound (by omega)
      rw [tracks.stored k] at stored
      obtain rfl := Option.some.inj stored
      refine ⟨max m k, after.trans (le_max_left m k), fun j less => ?_⟩
      rcases Nat.lt_succ_iff_lt_or_eq.mp less with old | rfl
      · exact tracks.keepsFinished (le_max_left m k) (others j old)
      · exact tracks.keepsFinished (le_max_right m k) ⟨ended, present, finished⟩
  obtain ⟨m, le, every⟩ := each _ le_rfl
  refine ⟨m, le, fun k later future member => ?_⟩
  obtain ⟨j, present⟩ := List.mem_iff_getElem?.mp member
  have bound := (List.getElem?_eq_some_iff.mp present).1
  rw [added k (le.trans later)] at bound
  obtain ⟨ended, same, finished⟩ := tracks.keepsFinished later (every j bound)
  rw [present] at same
  obtain rfl := Option.some.inj same
  exact finished

end RetrySystem.Endless.Tracks

/-- A call returns in every fair run that leaves its rows alone. -/
theorem RetrySystem.Endless.returns (run : RetrySystem.Endless settings library (RetrySystem.Survivable i) start)
    (surviving : start.Surviving i) {first : RetryCall} (present : start.calls[i]? = some first)
    (fair : run.Fair i) :
    ∃ n call, (run.states n).calls[i]? = some call ∧ call.phase = .returned := by
  obtain ⟨calls, tracks⟩ := run.tracks surviving present
  by_contra never
  have unreturned (n : Nat) : (calls n).phase ≠ .returned := fun returned =>
    never ⟨n, calls n, tracks.stored n, returned⟩
  obtain ⟨n, settled⟩ := tracks.settles fair
  -- no delivery is added outside of `choosing`, and those there are end
  obtain ⟨m, le, finished⟩ : ∃ m ≥ n, (calls n).phase ≠ .choosing →
      ∀ k ≥ m, ∀ future ∈ (calls k).futures, future.Finished := by
    by_cases choosing : (calls n).phase = .choosing
    · exact ⟨n, le_rfl, fun other => (other choosing).elim⟩
    · obtain ⟨m, le, every⟩ := tracks.allFinished fair (n := n) fun m le => by
        induction le with
        | refl => rfl
        | @step m le ih =>
          rcases tracks.step m with same | ⟨event, world, stepped⟩
          · rw [same]
            exact ih
          · refine (stepped.futures_length ?_).trans ih
            rw [(settled m le).2]
            exact choosing
      exact ⟨m, le, fun _ => every⟩
  obtain ⟨l, passed⟩ : ∃ l, ∀ time, (calls n).phase = .waiting time →
      time ≤ (run.states l).world.monotonic := by
    cases phase : (calls n).phase with
    | waiting time =>
      obtain ⟨l, passed⟩ := fair.time time
      exact ⟨l, fun other same => by cases same; exact passed⟩
    | _ => exact ⟨0, fun time other => by cases other⟩
  -- so it can turn from then on, and does not stay in its phase
  obtain ⟨k, later, before, after, here, next, different⟩ := fair.turns (max m l) fun k later => by
    obtain ⟨overdue, phase⟩ := settled k (by omega)
    refine ⟨calls k, tracks.stored k, overdue.canTurn (tracks.surviving k).unfailed (unreturned k) ?_ ?_⟩
    · rw [phase]
      exact fun chosen => finished chosen k (by omega)
    · rw [phase]
      exact fun time waiting => (passed time waiting).trans (Tracks.monotonic run (by omega))
  rw [tracks.stored] at here next
  obtain rfl := Option.some.inj here
  obtain rfl := Option.some.inj next
  exact different ((settled (k + 1) (by omega)).2.trans (settled k (by omega)).2.symm)

end

/-- A run that no deletion meets between a snapshot and its result, and that waits for its
deliveries, does not raise, counts what they came to, and returns. -/
theorem retry_survives {i : Nat} {start state : RetrySystem} (initial : start.Initial)
    (linked : start.world.db.Linked)
    (path : RetrySystem.Reaches settings library (RetrySystem.Survivable i) start state) {call : RetryCall}
    (present : state.calls[i]? = some call) :
    call.Survives ∧
      ∀ run : RetrySystem.Endless settings library (RetrySystem.Survivable i) state, run.Fair i →
        ∃ n later, (run.states n).calls[i]? = some later ∧ later.phase = .returned := by
  have surviving : state.Surviving i := RetrySystem.Reaches.surviving (initial.surviving linked) path
  exact ⟨(surviving.call call present).survives, fun run fair => run.returns surviving present fair⟩

end

/-! One worker and one row, whose rule is deleted meanwhile. -/

def oneOptions : RetryOptions :=
  { retryOptions with batchSize := 1, concurrency := 1, scheduledJobRunId := some 7 }

def oneChoice : RetryCall := { RetryCall.start oneOptions claimWorld with phase := .choosing }

/-- The call when it has claimed the row. -/
def oneCall : RetryCall := oneChoice.submits mailSettings plainLibrary leasedRow

def oneFuture : RetryFuture := .submit mailSettings plainLibrary (some 7) leasedRow

/-- Steps of a call that leaves its second loop with nothing in flight. -/
def RetryCall.Patient (_ : OutboxWorld) (_ : RetryCall) : RetrySystemEvent → Prop
  | .looks _ | .delivers _ | .other => True
  | .leaves call => call.inFlight = []
  | _ => False

theorem RetryCall.Patient.survivable {state : RetrySystem} {call : RetryCall} {event : RetrySystemEvent}
    (patient : call.Patient state.world event) : state.Survivable 0 event := by
  cases event with
  | leaves leaving => exact ⟨trivial, fun _ => patient⟩
  | looks view => exact ⟨trivial, trivial⟩
  | delivers future => exact ⟨trivial, trivial⟩
  | other => exact ⟨trivial, trivial⟩
  | _ => exact patient.elim

/-- The call starts where no call was made. -/
theorem oneCall_starts : RetrySystem.Step mailSettings plainLibrary (.fresh claimWorld) (.starts oneOptions)
    (.calling claimWorld (.start oneOptions claimWorld)) :=
  .starts oneOptions fun _ _ => ⟨fun _ nothing => (List.not_mem_nil nothing).elim,
    fun _ nothing => (List.not_mem_nil nothing).elim⟩

section
variable {permits : OutboxWorld → RetryCall → RetrySystemEvent → Prop}

theorem oneCall_claims (looks : ∀ world call view, permits world call (.looks view))
    (others : ∀ world call, permits world call .other) :
    Relation.ReflTransGen (RetryCall.Alone mailSettings plainLibrary permits)
      (claimWorld, .start oneOptions claimWorld) (leasedWorld, oneCall) := by
  have entered : RetryCall.Step mailSettings plainLibrary claimWorld (.start oneOptions claimWorld) .other
      claimWorld oneChoice := .enters rfl (by decide)
  have claimed : RetryCall.Step mailSettings plainLibrary claimWorld oneChoice (.looks openView) leasedWorld
      oneCall := .claims openView leasedRow rfl (by decide) rfl
  exact .head (.acts entered (others _ _)) (.single (.acts claimed (looks _ _ _)))

end

/-! ### Two workers and two rows -/

def pairOptions : RetryOptions :=
  { retryOptions with batchSize := 1, concurrency := 2, scheduledJobRunId := some 7 }

/-- A row that was delivered long ago. -/
def settledRow : ActionOutbox :=
  { mailRow with id := ⟨12⟩, status := .delivered, deliveredAt := some 0 }

def pairWorld : OutboxWorld :=
  { claimWorld with db := ⟨[hookRule], [hookRow, mailRow, settledRow], []⟩ }

def leasedMail : ActionOutbox := { mailRow with lockedUntil := some 120000000 }

/-- Both rows are claimed. -/
def pairLeased : OutboxWorld :=
  { claimWorld with db := ⟨[hookRule], [leasedRow, leasedMail, settledRow], []⟩ }

def pairCall (phase : RetryCallPhase) (futures : List RetryFuture) : RetryCall :=
  { RetryCall.start pairOptions pairWorld with phase, futures }

def mailFuture : RetryFuture := .submit mailSettings plainLibrary (some 7) leasedMail

def pairWaiting : RetryCallPhase := .waiting 50000

theorem pairWorld_linked : pairWorld.db.Linked := by
  intro row member kind
  rcases List.mem_cons.mp member with rfl | others
  · rfl
  · rcases List.mem_pair.mp others with rfl | rfl
    all_goals cases kind

/-- The call starts where no call was made. -/
theorem pairCall_starts : RetrySystem.Step mailSettings plainLibrary (.fresh pairWorld)
    (.starts pairOptions) (.calling pairWorld (.start pairOptions pairWorld)) :=
  .starts pairOptions fun _ _ => ⟨fun _ nothing => (List.not_mem_nil nothing).elim,
    fun _ nothing => (List.not_mem_nil nothing).elim⟩

section
variable {permits : OutboxWorld → RetryCall → RetrySystemEvent → Prop}

theorem pairCall_claims (looks : ∀ world call view, permits world call (.looks view))
    (others : ∀ world call, permits world call .other) :
    Relation.ReflTransGen (RetryCall.Alone mailSettings plainLibrary permits)
      (pairWorld, .start pairOptions pairWorld)
      (pairLeased, pairCall pairWaiting [oneFuture, mailFuture]) := by
  let between : OutboxWorld :=
    { claimWorld with db := ⟨[hookRule], [leasedRow, mailRow, settledRow], []⟩ }
  have entered : RetryCall.Step mailSettings plainLibrary pairWorld (pairCall .checking []) .other
      pairWorld (pairCall .choosing []) := .enters rfl (by decide)
  have first : RetryCall.Step mailSettings plainLibrary pairWorld (pairCall .choosing [])
      (.looks openView) between (pairCall .checking [oneFuture]) :=
    .claims openView leasedRow rfl (by decide) rfl
  have again : RetryCall.Step mailSettings plainLibrary between (pairCall .checking [oneFuture])
      .other between (pairCall .choosing [oneFuture]) := .enters rfl (by decide)
  have second : RetryCall.Step mailSettings plainLibrary between (pairCall .choosing [oneFuture])
      (.looks openView) pairLeased (pairCall .checking [oneFuture, mailFuture]) :=
    .claims openView leasedMail rfl (by decide) rfl
  have full : RetryCall.Step mailSettings plainLibrary pairLeased
      (pairCall .checking [oneFuture, mailFuture]) .other pairLeased
      (pairCall .choosing [oneFuture, mailFuture]) := .enters rfl (by decide)
  have waiting : RetryCall.Step mailSettings plainLibrary pairLeased
      (pairCall .choosing [oneFuture, mailFuture]) .other pairLeased
      (pairCall pairWaiting [oneFuture, mailFuture]) := .waits rfl (by decide)
  exact .head (.acts entered (others _ _)) (.head (.acts first (looks _ _ _))
    (.head (.acts again (others _ _)) (.head (.acts second (looks _ _ _))
      (.head (.acts full (others _ _)) (.single (.acts waiting (others _ _)))))))

/-- The call when it has the results. -/
def pairResult (futures : List RetryFuture) (phase : RetryCallPhase) : RetryCall :=
  { (pairCall pairWaiting futures).collect with phase }

/-- With both results the batch is full. -/
theorem pairCall_returns {world : OutboxWorld} {hook mail : RetryFuture}
    (others : ∀ world call, permits world call .other)
    (leaves : ∀ world call, call.inFlight = [] → permits world call (.leaves call))
    (fresh : hook.collected = false ∧ mail.collected = false)
    (ended : hook.Finished ∧ mail.Finished) (returned : hook.raised = false ∧ mail.raised = false)
    (beyond : ¬ (pairResult [hook, mail] .checking).Continues world) :
    Relation.ReflTransGen (RetryCall.Alone mailSettings plainLibrary permits)
      (world, pairCall pairWaiting [hook, mail]) (world, pairResult [hook, mail] .returned) := by
  have flying : (pairCall pairWaiting [hook, mail]).inFlight = [hook, mail] := by
    simp [RetryCall.inFlight, pairCall, fresh]
  have done : (pairCall pairWaiting [hook, mail]).done = [hook, mail] := by
    simp [RetryCall.done, flying, ended]
  have landed : (pairResult [hook, mail] .draining).inFlight = [] := by
    simp [RetryCall.inFlight, pairResult, RetryCall.collect, pairCall, RetryFuture.collect, ended]
  have joined : ∀ future ∈ (pairResult [hook, mail] (.joining false)).futures, future.Finished := by
    have kept {future : RetryFuture} (ended : future.Finished) : future.collect.Finished := by
      rw [RetryFuture.collect, if_pos ended]
      exact ended
    intro future member
    rcases List.mem_pair.mp member with rfl | rfl
    · exact kept ended.1
    · exact kept ended.2
  have collected : RetryCall.Step mailSettings plainLibrary world
      (pairCall pairWaiting [hook, mail]) .other world (pairResult [hook, mail] .checking) := by
    refine .collects (.inl ?_) (fun future member => ?_) RetryCallPhase.noConfusion
    · rw [done]
      exact List.cons_ne_nil _ _
    · rw [done] at member
      rcases List.mem_pair.mp member with rfl | rfl
      · exact returned.1
      · exact returned.2
  have left : RetryCall.Step mailSettings plainLibrary world (pairResult [hook, mail] .checking)
      .other world (pairResult [hook, mail] .draining) := .leaves rfl beyond
  have stopped : RetryCall.Step mailSettings plainLibrary world (pairResult [hook, mail] .draining)
      (.leaves (pairResult [hook, mail] .draining)) world
      (pairResult [hook, mail] (.joining false)) := .stops (.inl ⟨rfl, .inl landed⟩)
  have closed : RetryCall.Step mailSettings plainLibrary world
      (pairResult [hook, mail] (.joining false)) .other world
      (pairResult [hook, mail] .returned) := .joins false rfl joined
  exact .head (.acts collected (others _ _)) (.head (.acts left (others _ _))
    (.head (.acts stopped (leaves _ _ landed)) (.single (.acts closed (others _ _)))))

end

/-! ### The runs that stay as they are -/

/-- Time goes on and nothing else happens. -/
def RetrySystem.passing (state : RetrySystem) : Nat → RetrySystem
  | 0 => state
  | n + 1 =>
    let before := state.passing n
    { before with world := { before.world with
        clock := before.world.clock + (1 : Nat), monotonic := before.world.monotonic + (1 : Nat) } }

theorem RetrySystem.passing_calls (state : RetrySystem) (n : Nat) : (state.passing n).calls = state.calls := by
  induction n with
  | zero => rfl
  | succ n ih => exact ih

theorem RetrySystem.passing_monotonic (state : RetrySystem) (n : Nat) :
    (state.passing n).world.monotonic = state.world.monotonic + n := by
  induction n with
  | zero => exact (Int.add_zero _).symm
  | succ n ih =>
    show (state.passing n).world.monotonic + (1 : Nat) = state.world.monotonic + (n + 1 : Nat)
    rw [ih, Int.natCast_add, Int.add_assoc]

/-- From a state in which the call has returned, time goes on and nothing else happens. -/
def RetrySystem.resting (state : RetrySystem) :
    RetrySystem.Endless mailSettings plainLibrary (RetrySystem.Survivable 0) state where
  states := state.passing
  events _ := .other
  first := rfl
  steps _ := .passes 1
  permitted _ := ⟨trivial, trivial⟩

theorem RetrySystem.resting_fair {state : RetrySystem} {call : RetryCall}
    (present : state.calls[0]? = some call) (returned : call.phase = .returned)
    (ended : ∀ future ∈ call.futures, future.Finished) : state.resting.Fair 0 where
  time time := by
    refine ⟨(time - state.world.monotonic).toNat, ?_⟩
    show time ≤ (state.passing _).world.monotonic
    rw [RetrySystem.passing_monotonic]
    exact Int.le_add_of_sub_left_le (Int.self_le_toNat (time - state.world.monotonic))
  ends n other stored j less := by
    have same : (state.passing n).calls[0]? = some other := stored
    rw [RetrySystem.passing_calls] at same
    obtain rfl := Option.some.inj (present.symm.trans same)
    exact ⟨n, le_rfl, call, _, stored, List.getElem?_eq_getElem less,
      ended _ (List.getElem_mem less)⟩
  turns n every := by
    obtain ⟨other, stored, turns⟩ := every n le_rfl
    have same : (state.passing n).calls[0]? = some other := stored
    rw [RetrySystem.passing_calls] at same
    obtain rfl := Option.some.inj (present.symm.trans same)
    exact (turns.unreturned returned).elim

/-! ### A run that survives two deletions -/

/-- The delivery of the mail has taken its snapshot. -/
def mailStarted : RetryFuture × OutboxWorld := mailFuture.after 1 pairLeased

/-- The old row is purged, and the rule of the other row is deleted and the row with it. -/
def prunedWorld : OutboxWorld :=
  { mailStarted.2 with db := (mailStarted.2.db.deleteOutbox [⟨12⟩]).deleteRule 1 }

def vanishedHook : RetryFuture × OutboxWorld := oneFuture.after 1 prunedWorld

def mailEnded : RetryFuture × OutboxWorld := mailStarted.1.after 4 vanishedHook.2

def survivedCall : RetryCall := pairResult [vanishedHook.1, mailEnded.1] .returned

/-- The system when the call has returned. -/
def survivedSystem (history : List Noted) : RetrySystem :=
  { RetrySystem.calling pairWorld survivedCall with world := mailEnded.2, history }

theorem survivedSystem_reached : ∃ history, RetrySystem.Reaches mailSettings plainLibrary
    (RetrySystem.Survivable 0) (.fresh pairWorld) (survivedSystem history) := by
  let waiting (hook mail : RetryFuture) := pairCall pairWaiting [hook, mail]
  have alone {state : RetrySystem} {call after : RetryCall} {later : OutboxWorld}
      (present : state.calls = [call])
      (path : Relation.ReflTransGen (RetryCall.Alone mailSettings plainLibrary RetryCall.Patient)
        (state.world, call) (later, after)) : ∃ history, RetrySystem.Reaches mailSettings plainLibrary
          (RetrySystem.Survivable 0) state { state with world := later, calls := [after], history } :=
    @RetrySystem.Reaches.alone _ _ _ _ _ RetryCall.Patient (RetrySystem.Survivable 0) state [] []
      present (fun _ _ _ patient => patient.survivable) (fun _ => ⟨trivial, trivial⟩) path
  have snapshot : Relation.ReflTransGen (RetryCall.Alone mailSettings plainLibrary RetryCall.Patient)
      (pairLeased, waiting oneFuture mailFuture) (mailStarted.2, waiting oneFuture mailStarted.1) :=
    @RetryCall.Alone.delivers _ _ RetryCall.Patient 1 pairLeased (waiting oneFuture mailFuture)
      [oneFuture] [] mailFuture rfl fun _ _ _ => trivial
  obtain ⟨history, claimed⟩ := @alone (.calling pairWorld (.start pairOptions pairWorld)) _ _ _ rfl
    ((pairCall_claims (fun _ _ _ => trivial) fun _ _ => trivial).trans snapshot)
  let before : RetrySystem := { RetrySystem.calling pairWorld (waiting oneFuture mailStarted.1) with
    world := mailStarted.2, history }
  let purged : RetrySystem := { before with
    world := { mailStarted.2 with db := mailStarted.2.db.deleteOutbox [⟨12⟩] } }
  let pruned : RetrySystem := { before with world := prunedWorld }
  have purges : RetrySystem.Step mailSettings plainLibrary before
      (.deletes (mailStarted.2.db.deleteOutbox [⟨12⟩])) purged := .deletes _ (.rows [⟨12⟩])
  have prunes : RetrySystem.Step mailSettings plainLibrary purged
      (.deletes ((mailStarted.2.db.deleteOutbox [⟨12⟩]).deleteRule 1)) pruned := .deletes _ (.rule 1)
  -- only the mail is under way, and its row stays
  have spares (state : RetrySystem) (db : ActionsDb)
      (only : state.calls = [waiting oneFuture mailStarted.1])
      (kept : (db.row ⟨11⟩).isSome = true) : state.Survivable 0 (.deletes db) := by
    refine ⟨trivial, fun call stored future member underWay _ => ?_⟩
    rw [only] at stored
    obtain rfl := Option.some.inj stored
    rcases List.mem_pair.mp member with rfl | rfl
    · exact absurd rfl underWay.1
    · exact kept
  have vanished : Relation.ReflTransGen (RetryCall.Alone mailSettings plainLibrary RetryCall.Patient)
      (prunedWorld, waiting oneFuture mailStarted.1)
      (vanishedHook.2, waiting vanishedHook.1 mailStarted.1) :=
    @RetryCall.Alone.delivers _ _ RetryCall.Patient 1 prunedWorld (waiting oneFuture mailStarted.1)
      [] [mailStarted.1] oneFuture rfl fun _ _ _ => trivial
  have delivered : Relation.ReflTransGen (RetryCall.Alone mailSettings plainLibrary RetryCall.Patient)
      (vanishedHook.2, waiting vanishedHook.1 mailStarted.1)
      (mailEnded.2, waiting vanishedHook.1 mailEnded.1) :=
    @RetryCall.Alone.delivers _ _ RetryCall.Patient 4 vanishedHook.2
      (waiting vanishedHook.1 mailStarted.1) [vanishedHook.1] [] mailStarted.1 rfl fun _ _ _ => trivial
  have returned : Relation.ReflTransGen (RetryCall.Alone mailSettings plainLibrary RetryCall.Patient)
      (mailEnded.2, waiting vanishedHook.1 mailEnded.1) (mailEnded.2, survivedCall) :=
    pairCall_returns (fun _ _ => trivial) (fun _ _ landed => landed) (by decide +kernel)
      (by decide +kernel) (by decide +kernel) (by decide +kernel)
  obtain ⟨last, ended⟩ := @alone pruned _ _ _ rfl (vanished.trans (delivered.trans returned))
  refine ⟨last, .head ⟨_, pairCall_starts, trivial, trivial⟩ (claimed.trans ?_)⟩
  exact .head ⟨_, purges, spares before _ rfl (by decide +kernel)⟩
    (.head ⟨_, prunes, spares purged _ rfl (by decide +kernel)⟩ ended)

/-- A row of the call is gone before its snapshot, an old row is purged while the other one is
delivered: the call returns, and counts the one row that it delivered. -/
theorem retry_survives_deletions : ∃ history, survivedCall.Survives ∧
    survivedCall.stats.total .processed = 1 ∧ mailEnded.2.db.outbox.map (·.id) = [⟨11⟩] ∧
    ∃ n later, ((survivedSystem history).resting.states n).calls[0]? = some later ∧
      later.phase = .returned := by
  obtain ⟨history, reached⟩ := survivedSystem_reached
  have present : (survivedSystem history).calls[0]? = some survivedCall := rfl
  obtain ⟨survives, returns⟩ :=
    retry_survives (RetrySystem.fresh_initial pairWorld) pairWorld_linked reached present
  exact ⟨history, survives, by decide +kernel, by decide +kernel,
    returns _ (RetrySystem.resting_fair present rfl (by decide +kernel))⟩

/-! ### A run that does not -/

/-- The tables when the rule is deleted after the snapshot. -/
def cutWorld : OutboxWorld := { leasedWorld with db := leasedWorld.db.deleteRule 1 }

def cutDelivery : RetryFuture × OutboxWorld := (oneFuture.after 1 leasedWorld).1.after 4 cutWorld

def cutCall (phase : RetryCallPhase) : RetryCall := { oneCall with futures := [cutDelivery.1], phase }

/-- A rule deleted during a delivery makes the whole run raise. -/
theorem deleted_rule_raises : ¬ ∀ (settings : ActionsSettings) (library : ActionsLibrary)
    (start state : RetrySystem), start.Initial → start.world.db.Linked →
      RetrySystem.Reaches settings library RetrySystem.Proper start state →
        ∀ call ∈ state.calls, call.Survives := by
  intro every
  have proper : ∀ (state : RetrySystem) (call : RetryCall) (event : RetrySystemEvent),
      call.Patient state.world event → state.Proper event := fun _ _ _ patient => patient.survivable.1
  let snapshot : RetryCall := { oneCall with futures := [(oneFuture.after 1 leasedWorld).1] }
  have taken : Relation.ReflTransGen (RetryCall.Alone mailSettings plainLibrary RetryCall.Patient)
      (leasedWorld, oneCall) (leasedWorld, snapshot) :=
    @RetryCall.Alone.delivers _ _ RetryCall.Patient 1 leasedWorld oneCall [] [] oneFuture rfl
      fun _ _ _ => trivial
  obtain ⟨history, claimed⟩ := @RetrySystem.Reaches.alone _ _ _ _ _ RetryCall.Patient RetrySystem.Proper
    (.calling claimWorld (.start oneOptions claimWorld)) [] [] rfl proper (fun _ => trivial)
      ((oneCall_claims (fun _ _ _ => trivial) fun _ _ => trivial).trans taken)
  let before : RetrySystem := { RetrySystem.calling claimWorld snapshot with world := cutWorld, history }
  have deleted : RetrySystem.Step mailSettings plainLibrary
      { RetrySystem.calling claimWorld snapshot with world := leasedWorld, history }
      (.deletes (leasedWorld.db.deleteRule 1)) before := .deletes _ (.rule 1)
  have delivered : Relation.ReflTransGen (RetryCall.Alone mailSettings plainLibrary RetryCall.Patient)
      (cutWorld, snapshot) (cutDelivery.2, cutCall .working) :=
    @RetryCall.Alone.delivers _ _ RetryCall.Patient 4 cutWorld snapshot [] []
      (oneFuture.after 1 leasedWorld).1 rfl fun _ _ _ => trivial
  have raised : RetryCall.Step mailSettings plainLibrary cutDelivery.2 (cutCall .working) .other cutDelivery.2
      (cutCall (.joining true)) := .raises rfl ⟨cutDelivery.1,
        List.mem_filter.mpr ⟨List.mem_filter.mpr ⟨List.mem_cons_self, rfl⟩, by decide +kernel⟩, by decide +kernel⟩
  have joined : RetryCall.Step mailSettings plainLibrary cutDelivery.2 (cutCall (.joining true)) .other
      cutDelivery.2 (cutCall .failed) := .joins true rfl (by decide +kernel)
  obtain ⟨last, failed⟩ := @RetrySystem.Reaches.alone _ _ _ _ _ RetryCall.Patient RetrySystem.Proper
    before [] [] rfl proper (fun _ => trivial)
      (delivered.trans (.head (.acts raised trivial) (.single (.acts joined trivial))))
  have path : RetrySystem.Reaches mailSettings plainLibrary RetrySystem.Proper (.fresh claimWorld)
      { before with world := cutDelivery.2, calls := [cutCall .failed], history := last } :=
    .head ⟨_, oneCall_starts, trivial⟩ (claimed.trans (.head ⟨_, deleted, trivial⟩ failed))
  exact (every _ _ _ _ (RetrySystem.fresh_initial claimWorld) claimWorld_linked path (cutCall .failed)
    List.mem_cons_self).unfailed.2 rfl

end HostingService
