import HostingService.Actions.ScheduledJobs

/-! The account of the scheduled runs: every row that is closed is counted once, whoever
closes it, if no run closes the row that another one has closed for it. -/

namespace HostingService

open Program Text

/-! ### Crews of runs -/

abbrev JobThread := Thread JobCall JobError JobsWorld JobTask Unit

abbrev JobCrew := Crew JobCall JobError JobsWorld JobTask Unit

def runRetention : Time := microseconds (7 * 24 * 60 * 60)

/-- Time passes, other events are logged, and the retention deletes a batch of old rows. -/
inductive JobsWorld.Outside : JobsWorld → JobsWorld → Prop where
  | passes {world} (span ticks : Nat) :
      Outside world { world with clock := world.clock + span, monotonic := world.monotonic + ticks }
  | logs {world} (count : Nat) : Outside world { world with nextEvent := world.nextEvent + count }
  | purges {world} (ids : List Nat)
      (old : ∀ row ∈ world.runs, row.id ∈ ids → row.startedAt < world.clock - runRetention) :
      Outside world { world with
        runs := world.runs.filter (·.id ∉ ids)
        purged := world.purged ++ world.runs.filter (·.id ∈ ids) }

/-- The tables as the migrations leave them. -/
def JobsWorld.migrated (clock monotonic : Time) (nextEvent : Nat) : JobsWorld where
  runs := []
  purged := []
  states := jobs.map fun spec => ⟨spec.name, clock, none, none, none, none, none⟩
  counters := []
  events := []
  nextRun := 1
  nextCounter := 1
  nextEvent := nextEvent
  clock := clock
  monotonic := monotonic

def JobCrew.Reaches : JobCrew → JobCrew → Prop :=
  Crew.Reaches JobCall.handle JobTask.program JobsWorld.Outside

/-- Every row that was ever written. -/
def JobsWorld.rows (world : JobsWorld) : List ScheduledJobRun := world.runs ++ world.purged

def JobsWorld.counter (world : JobsWorld) (job name : PyStr) : Int :=
  ((world.findCounter job name).map (·.value)).getD 0

def JobsWorld.count (world : JobsWorld) (job : PyStr) (status : RunStatus) : Nat :=
  world.rows.countP fun row => row.job = job ∧ row.status = status

def RunStatus.Closed (status : RunStatus) : Prop := status = .succeeded ∨ status = .failed

instance (status : RunStatus) : Decidable status.Closed := inferInstanceAs (Decidable (_ ∨ _))

/-- Where a run saves its result, its row is still running. -/
def Timely : Entry JobCall JobsWorld → Prop
  | ⟨.saveRun id _, world⟩ => ∀ row ∈ world.runs, row.id = id → row.status = .running
  | _ => True

/-- The thread has ended, or its process was killed in the block. -/
def JobThread.Ended (thread : JobThread) : Prop :=
  thread.rest.Finished ∨ ∃ outcome next, thread.rest = .call (.block outcome) next

/-! ### What a run owes -/

/-- What the run knows of the counter that it adds to. -/
inductive Finding where
  | unknown
  | present
  | counter (id : Nat)

structure Debt where
  job : PyStr
  name : PyStr
  amount : Int
  found : Finding

/-- The row that the run is still to save, with its job; what it is still to count; and a job
whose state it knows of. -/
structure JobStage where
  row : Option (Nat × PyStr)
  owed : Option Debt
  state : Option PyStr

def JobStage.idle : JobStage := ⟨none, none, none⟩

def Finding.Holds (world : JobsWorld) (job name : PyStr) : Finding → Prop
  | .unknown => True
  | .present => ∃ row ∈ world.counters, row.Keyed job name
  | .counter id =>
    ∃ row, world.findCounter job name = some row ∧ row.id = id

structure JobStage.Holds (stage : JobStage) (world : JobsWorld) : Prop where
  row : ∀ id job, stage.row = some (id, job) →
    id < world.nextRun ∧ ∀ row ∈ world.rows, row.id = id → row.job = job
  found : ∀ debt, stage.owed = some debt → debt.found.Holds world debt.job debt.name
  state : ∀ job, stage.state = some job → ∃ row ∈ world.states, row.job = job

/-- What is due to the counter of the runs that ended so. -/
def JobStage.due (stage : JobStage) (job name : PyStr) : Int :=
  match stage.owed with
  | some debt => if debt.job = job ∧ debt.name = name then debt.amount else 0
  | none => 0

/-- The name is no counter of closed runs. -/
def Untracked (name : PyStr) : Prop := ∀ status : RunStatus, status.Closed → name ≠ runsCounter status

/-- The amount is owed; what is not tracked may be counted at any time. -/
def JobStage.Owes (stage : JobStage) (job name : PyStr) (amount : Int) : Prop :=
  stage.owed = some ⟨job, name, amount, .unknown⟩ ∨ Untracked name ∧ stage.owed = none

def JobStage.paid (stage : JobStage) : JobStage := { stage with owed := none }

def JobStage.owing (stage : JobStage) (job name : PyStr) (amount : Int) (found : Finding) :
    JobStage :=
  { stage with owed := some ⟨job, name, amount, found⟩ }

theorem JobStage.paid_owing (stage : JobStage) (job name : PyStr) (amount : Int) (found : Finding) :
    (stage.owing job name amount found).paid = stage.paid := rfl

theorem JobStage.paid_of_none {stage : JobStage} (nothing : stage.owed = none) :
    stage.paid = stage := by
  rw [paid, ← nothing]

/-- The stage after a look for the counter. -/
def JobStage.sees (stage : JobStage) (job name : PyStr) (amount : Int) :
    Option ScheduledJobCounter → JobStage
  | some counter => stage.owing job name amount (.counter counter.id)
  | none => stage

/-- How the calls move a run from stage to stage. -/
def jobMoves : ∀ β, JobCall β → JobStage → JobsWorld → JobStage → Prop
  | _, .createRun job _ _ _, stage, world, later =>
    stage.row = none ∧ stage.owed = none ∧ later = { stage with row := some (world.nextRun, job) }
  | _, .getState job, stage, world, later =>
    later = if world.states.any (·.job = job) then { stage with state := some job } else stage
  | _, .createState job, stage, world, later =>
    later = if world.states.any (·.job = job) then { stage with state := some job } else stage
  | _, .interruptRuns job cutoff current _, stage, world, later =>
    stage.owed = none ∧ later = if world.runs.countP (fun row => row.Stale job cutoff current) = 0
      then stage else stage.owing job (runsCounter .failed)
        (world.runs.countP fun row => row.Stale job cutoff current) .unknown
  | _, .filterCounter job name amount, stage, world, later =>
    stage.Owes job name amount ∧
      later = if world.hasCounter job name then stage.paid else stage.owing job name amount .unknown
  | _, .getCounter job name, stage, world, later =>
    ∃ amount found, stage.owed = some ⟨job, name, amount, found⟩ ∧
      later = stage.sees job name amount (world.findCounter job name)
  | _, .createCounter job name value, stage, world, later =>
    ∃ found, stage.owed = some ⟨job, name, value, found⟩ ∧
      later = if world.hasCounter job name then stage.owing job name value .present else stage.paid
  | _, .updateCounter id amount, stage, _, later =>
    ∃ job name, stage.owed = some ⟨job, name, amount, .counter id⟩ ∧ later = stage.paid
  | _, .saveRun id result, stage, world, later =>
    result.status.Closed ∧ stage.owed = none ∧ ∃ job, stage.row = some (id, job) ∧
      later = if world.runs.any (·.id = id) then
        { stage with row := none }.owing job (runsCounter result.status) 1 .unknown
      else { stage with row := none }
  | _, .block _, stage, _, later => stage.owed = none ∧ later = stage
  | _, .now, stage, _, later => later = stage
  | _, .monotonic, stage, _, later => later = stage
  | _, .updateState _ _, stage, _, later => later = stage
  | _, .recordEvent _, stage, _, later => later = stage

def jobStaging : Staging JobCall JobsWorld JobStage where
  holds stage world := stage.Holds world
  moves := jobMoves

/-- What a run that owes an amount knows of the counter. -/
def JobStage.Finds (stage : JobStage) (world : JobsWorld) : Prop :=
  ∀ debt, stage.owed = some debt → debt.found.Holds world debt.job debt.name

/-- How the calls of an increment move a run that owes the amount. -/
def counterMoves : ∀ β, JobCall β → JobStage → JobsWorld → JobStage → Prop
  | _, .filterCounter job name amount, stage, world, later =>
    stage.owed = some ⟨job, name, amount, .unknown⟩ ∧
      later = if world.hasCounter job name then stage.paid else stage.owing job name amount .unknown
  | _, .getCounter job name, stage, world, later =>
    ∃ amount found, stage.owed = some ⟨job, name, amount, found⟩ ∧
      later = stage.sees job name amount (world.findCounter job name)
  | _, .createCounter job name value, stage, world, later =>
    ∃ found, stage.owed = some ⟨job, name, value, found⟩ ∧
      later = if world.hasCounter job name then stage.owing job name value .present else stage.paid
  | _, .updateCounter id amount, stage, _, later =>
    ∃ job name, stage.owed = some ⟨job, name, amount, .counter id⟩ ∧ later = stage.paid
  | _, _, _, _, _ => False

/-- Runs of the staging may increment counters. -/
structure Counting (staging : Staging JobCall JobsWorld JobStage) : Prop where
  finds : ∀ {stage world}, staging.holds stage world → stage.Finds world
  moves : ∀ {β : Type} {op : JobCall β} {stage world later},
    counterMoves β op stage world later → staging.moves β op stage world later

theorem counterMoves_jobMoves {β : Type} {op : JobCall β} {stage later : JobStage} {world : JobsWorld}
    (moved : counterMoves β op stage world later) : jobMoves β op stage world later := by
  cases op with
  | filterCounter job name amount => exact ⟨.inl moved.1, moved.2⟩
  | getCounter | createCounter | updateCounter => exact moved
  | _ => exact moved.elim

theorem jobStaging_counting : Counting jobStaging := ⟨fun holds => holds.found, counterMoves_jobMoves⟩

/-! ### Following the code -/

section
variable {stage : JobStage} {job name : PyStr} {amount : Int}

theorem untracked_items (kind : PyStr) : Untracked (itemsCounter kind) := by
  rintro status (rfl | rfl) same
  all_goals
    have first := congrArg List.head? same
    simp [itemsCounter, runsCounter, lit_eq] at first

theorem untracked_skipped : Untracked (runsCounter .skippedLocked) := by
  rintro status (rfl | rfl) same
  all_goals exact absurd same (by decide)

theorem hasCounter_iff {world : JobsWorld} :
    world.hasCounter job name = true ↔ ∃ row ∈ world.counters, row.Keyed job name := by
  simp [JobsWorld.hasCounter]

theorem findCounter_of_keyed {world : JobsWorld} (present : ∃ row ∈ world.counters, row.Keyed job name) :
    ∃ row, world.findCounter job name = some row := by
  obtain ⟨row, member, keyed⟩ := present
  exact Option.isSome_iff_exists.mp (List.find?_isSome.mpr ⟨row, member, decide_eq_true keyed⟩)

/-- What a look for the counter comes to. -/
def Looked (stage : JobStage) (job name : PyStr) (amount : Int) (found : Finding) :
    Except JobError (Option ScheduledJobCounter) → JobStage → Prop
  | .ok none, later => later = stage.owing job name amount found ∧ found ≠ .present
  | .ok (some counter), later => later = stage.owing job name amount (.counter counter.id)
  | .error _, _ => False

/-- What the insert of a counter comes to. -/
def Inserted {α : Type} (stage : JobStage) (job name : PyStr) (amount : Int) :
    Except JobError (Option α) → JobStage → Prop
  | .ok found, later => found = none ∧ later = stage.paid
  | .error error, later => error = .integrityError ∧ later = stage.owing job name amount .present

/-- The amount was added by the insert, or the counter to add it to is known. -/
def Located (stage : JobStage) (job name : PyStr) (amount : Int) :
    Except JobError (Option ScheduledJobCounter) → JobStage → Prop
  | .ok none, later => later = stage.paid
  | .ok (some counter), later => later = stage.owing job name amount (.counter counter.id)
  | .error _, _ => False

section
variable {staging : Staging JobCall JobsWorld JobStage} (counting : Counting staging)
include counting

theorem follows_getCounter (found : Finding) :
    (Prog.perform (.getCounter job name) : JobProgram (Option ScheduledJobCounter)).Follows
      JobCall.handle staging (Looked stage job name amount found)
      (stage.owing job name amount found) := by
  refine Prog.follows_perform.mpr fun world holds =>
    ⟨(stage.owing job name amount found).sees job name amount (world.findCounter job name),
      counting.moves ⟨amount, found, rfl, rfl⟩, ?_⟩
  show Looked stage job name amount found (.ok (world.findCounter job name)) _
  rcases looked : world.findCounter job name with _ | counter
  · refine ⟨rfl, ?_⟩
    rintro rfl
    obtain ⟨row, seen⟩ := findCounter_of_keyed (counting.finds holds _ rfl)
    rw [looked] at seen
    contradiction
  · rfl

theorem follows_createCounter :
    (Prog.perform (.createCounter job name amount) >>= fun _ =>
      (pure none : JobProgram (Option ScheduledJobCounter))).Follows JobCall.handle staging
      (Inserted stage job name amount) (stage.owing job name amount .unknown) := by
  refine Prog.follows_perform_bind fun world _ => ⟨_, counting.moves ⟨.unknown, rfl, rfl⟩, ?_⟩
  rw [JobCall.handle]
  cases taken : world.hasCounter job name with
  | true =>
    simp only [if_true]
    refine ⟨fun _ same => ?_, fun _ same => ?_⟩
    · cases same
    · cases same
      exact ⟨rfl, rfl⟩
  | false =>
    simp only [Bool.false_eq_true, if_false]
    refine ⟨fun _ _ => ⟨rfl, rfl⟩, fun _ same => ?_⟩
    cases same

theorem follows_getOrCreateCounter :
    (getOrCreateCounter job name amount).Follows JobCall.handle staging
      (Located stage job name amount) (stage.owing job name amount .unknown) := by
  rw [getOrCreateCounter]
  refine (follows_getCounter counting .unknown).bind (fun _ _ failed => failed.elim)
    fun found later ended => ?_
  rcases found with _ | counter
  · obtain ⟨rfl, _⟩ := ended
    refine (follows_createCounter counting).tryCatch ?_ ?_
    · rintro _ later ⟨rfl, rfl⟩
      rfl
    · rintro _ later ⟨rfl, rfl⟩
      refine (follows_getCounter counting .present).bind (fun _ _ failed => failed.elim)
        fun found _ ended => ?_
      rcases found with _ | counter
      · exact absurd rfl ended.2
      · exact ended
  · exact ended

/-- After its first update a run has counted, or goes on to look for the counter. -/
theorem follows_filterCounter (positive : 0 < amount)
    (moved : ∀ world, staging.moves _ (.filterCounter job name amount) stage world
      (if world.hasCounter job name then stage.paid else stage.owing job name amount .unknown)) :
    (increment job name amount).Follows JobCall.handle staging
      (fun result later => result = .ok () ∧ later = stage.paid) stage := by
  rw [increment, if_neg (by omega)]
  refine Prog.follows_perform_bind fun world _ => ⟨_, moved world, ?_⟩
  rw [JobCall.handle]
  refine ⟨fun updated same => ?_, fun _ same => by cases same⟩
  cases same
  have counted : world.counters.countP (fun row => row.Keyed job name) ≠ 0 ↔
      world.hasCounter job name = true := by
    rw [hasCounter_iff, ← Nat.pos_iff_ne_zero, List.countP_pos_iff]
    simp
  cases has : world.hasCounter job name with
  | true =>
    rw [if_pos (counted.mpr has)]
    exact ⟨rfl, rfl⟩
  | false =>
    rw [if_neg fun updated => by simp [counted.mp updated] at has]
    refine (follows_getOrCreateCounter counting).bind (fun _ _ failed => failed.elim)
      fun found later ended => ?_
    rcases found with _ | counter
    · exact ⟨rfl, ended⟩
    · cases ended
      refine Prog.follows_perform_bind fun world _ =>
        ⟨_, counting.moves ⟨job, name, rfl, rfl⟩, fun _ _ => ⟨rfl, rfl⟩, ?_⟩
      intro _ same
      cases same

end

/-- An amount that is owed is counted, and the call does not raise. -/
theorem follows_increment (owes : stage.Owes job name amount) (positive : 0 < amount) :
    (increment job name amount).Follows JobCall.handle jobStaging
      (fun result later => result = .ok () ∧ later = stage.paid) stage :=
  follows_filterCounter jobStaging_counting positive fun _ => ⟨owes, rfl⟩

theorem follows_increment_untracked (untracked : Untracked name) (nothing : stage.owed = none) :
    (increment job name amount).Follows JobCall.handle jobStaging
      (fun result later => result = .ok () ∧ later = stage.paid) stage := by
  by_cases positive : 0 < amount
  · exact follows_increment (.inr ⟨untracked, nothing⟩) positive
  · rw [increment, if_pos (by omega)]
    exact ⟨rfl, (JobStage.paid_of_none nothing).symm⟩

/-- The call kept the row and the debt of the run, and did not raise. -/
def Keeps (stage : JobStage) (result : Except JobError Unit) (later : JobStage) : Prop :=
  result = .ok () ∧ later.row = stage.row ∧ later.owed = stage.owed

theorem follows_ensureState :
    (ensureState job).Follows JobCall.handle jobStaging (Keeps stage) stage := by
  rw [ensureState]
  refine Prog.follows_perform_bind fun world _ => ⟨_, rfl, ?_⟩
  rw [JobCall.handle]
  refine ⟨fun found same => ?_, fun _ same => by cases same⟩
  cases same
  cases stored : world.states.any (·.job = job) with
  | true => exact ⟨rfl, rfl, rfl⟩
  | false =>
    simp only [Bool.false_eq_true, if_false]
    have inserted : (Prog.perform (.createState job) : JobProgram Unit).Follows JobCall.handle
        jobStaging (fun result later => Keeps stage result later ∨
          result = .error .integrityError ∧ later = { stage with state := some job }) stage := by
      refine Prog.follows_perform.mpr fun world _ => ⟨_, rfl, ?_⟩
      rw [JobCall.handle]
      cases stored : world.states.any (·.job = job) with
      | true => exact .inr ⟨rfl, rfl⟩
      | false => exact .inl ⟨rfl, rfl, rfl⟩
    refine inserted.tryCatch ?_ ?_
    · rintro _ later (kept | ⟨same, _⟩)
      · exact kept
      · cases same
    · rintro _ later (⟨same, _⟩ | ⟨same, rfl⟩)
      · cases same
      · cases same
        refine Prog.follows_perform_bind fun world holds => ⟨_, rfl, ?_⟩
        obtain ⟨row, member, known⟩ := holds.state job rfl
        have stored : world.states.any (·.job = job) = true :=
          List.any_eq_true.mpr ⟨row, member, decide_eq_true known⟩
        rw [JobCall.handle, stored]
        refine ⟨fun found same => ?_, fun _ same => by cases same⟩
        cases same
        exact ⟨rfl, rfl, rfl⟩

theorem follows_markInterrupted {spec : JobSpec} {current : ScheduledJobRun}
    (nothing : stage.owed = none) :
    (markInterrupted spec current).Follows JobCall.handle jobStaging
      (fun result later => result = .ok () ∧ later = stage) stage := by
  rw [markInterrupted]
  refine Prog.follows_perform_bind fun world _ => ⟨_, ⟨nothing, rfl⟩, ?_⟩
  rw [JobCall.handle]
  refine ⟨fun count same => ?_, fun _ same => by cases same⟩
  rw [Except.ok.inj same]
  by_cases none : count = 0
  · rw [if_pos none, if_neg (not_not.mpr none)]
    exact ⟨rfl, rfl⟩
  · rw [if_neg none, if_pos none]
    have positive : 0 < (count : Int) := by omega
    have owes : (stage.owing spec.name (runsCounter .failed) count .unknown).Owes spec.name
        (runsCounter .failed) count := .inl rfl
    have counted := follows_increment owes positive
    rw [JobStage.paid_owing, JobStage.paid_of_none nothing] at counted
    exact counted

/-- The run has a row to save, and owes nothing. -/
def JobStage.Open (stage : JobStage) (id : Nat) (job : PyStr) : Prop :=
  stage.row = some (id, job) ∧ stage.owed = none

/-- The run has no row to save, and owes nothing. -/
def JobStage.Free (stage : JobStage) : Prop := stage.row = none ∧ stage.owed = none

theorem JobStage.Free.paid {stage : JobStage} (free : stage.Free) : stage.paid.Free := ⟨free.1, rfl⟩

theorem follows_finish {run : ScheduledJobRun} {spec : JobSpec} {started : Time} {counts : Counts}
    {exc : Option JobError} (opened : stage.Open run.id spec.name) :
    (finish run spec started counts exc).Follows JobCall.handle jobStaging
      (fun _ later => later.Free) stage := by
  rw [finish]
  refine Prog.follows_perform_bind fun world _ => ⟨_, rfl, fun now _ => ?_, fun _ same => by cases same⟩
  refine Prog.follows_perform_bind fun world _ => ⟨_, rfl, fun ended _ => ?_, fun _ same => by cases same⟩
  refine Prog.follows_perform_bind fun world _ => ⟨_, rfl, fun event _ => ?_, fun _ same => by cases same⟩
  have closed : (if exc.isNone then RunStatus.succeeded else .failed).Closed := by
    cases exc with
    | none => exact .inl rfl
    | some error => exact .inr rfl
  refine Prog.follows_perform_bind fun world _ => ⟨_, ⟨closed, opened.2, _, opened.1, rfl⟩, ?_⟩
  rw [JobCall.handle]
  cases stored : world.runs.any (·.id = run.id) with
  | false =>
    simp only [Bool.false_eq_true, if_false]
    refine ⟨fun _ same => ?_, fun _ _ => ⟨rfl, opened.2⟩⟩
    cases same
  | true =>
    simp only [if_true]
    refine ⟨fun _ _ => ?_, fun _ same => by cases same⟩
    refine Prog.follows_perform_bind fun world _ => ⟨_, rfl, fun _ _ => ?_, fun _ same => by cases same⟩
    refine (follows_increment (.inl rfl) Int.one_pos).bind (fun _ _ ended => by cases ended.1) ?_
    rintro _ later ⟨_, rfl⟩
    refine Prog.Follows.forEach (fun item _ stage free => ?_) ⟨rfl, rfl⟩
    refine (follows_increment_untracked (untracked_items item.1) free.2).mono ?_
    rintro _ later ⟨_, rfl⟩
    exact free.paid

theorem follows_orLogged {body : JobProgram Unit} {ends : JobStage → Prop}
    (follows : body.Follows JobCall.handle jobStaging (fun _ later => ends later) stage) :
    (orLogged body).Follows JobCall.handle jobStaging (fun _ later => ends later) stage :=
  follows.tryCatch (fun _ _ ended => ended) fun _ _ ended => ended

theorem follows_recordRun {trigger : RunTrigger} {host : PyStr} {outcome : Except JobError Counts}
    (free : stage.Free) :
    (recordRun job trigger host outcome).Follows JobCall.handle jobStaging
      (fun _ later => later.Free) stage := by
  rw [recordRun]
  rcases getJob job with error | spec
  · exact free
  refine Prog.follows_perform_bind fun world _ => ⟨_, rfl, fun startedAt _ => ?_, fun _ same => by cases same⟩
  refine Prog.follows_perform_bind fun world _ => ⟨_, ⟨free.1, free.2, rfl⟩, ?_, fun _ same => by cases same⟩
  intro run same
  cases same
  refine follows_ensureState.bind (fun _ _ kept => by cases kept.1) ?_
  rintro _ later ⟨_, row, owed⟩
  have opened : later.Open (world.newRun spec.name trigger startedAt host).id spec.name :=
    ⟨row, owed.trans free.2⟩
  generalize world.newRun spec.name trigger startedAt host = run at opened ⊢
  refine Prog.follows_perform_bind fun world _ => ⟨_, rfl, fun _ _ => ?_, fun _ same => by cases same⟩
  refine (follows_markInterrupted opened.2).bind (fun _ _ ended => by cases ended.1) ?_
  rintro _ later ⟨_, rfl⟩
  refine Prog.follows_perform_bind fun world _ => ⟨_, rfl, fun started _ => ?_, fun _ same => by cases same⟩
  have blocked : (Prog.perform (.block outcome) : JobProgram Counts).Follows JobCall.handle jobStaging
      (fun _ later => later.Open run.id spec.name) later :=
    Prog.follows_perform.mpr fun world _ => ⟨_, ⟨opened.2, rfl⟩, opened⟩
  have caught : (Prog.tryCatch (Prog.perform (.block outcome)) fun error => do
      orLogged (finish run spec started [] (some error))
      throw error).Follows JobCall.handle jobStaging (fun result later => match result with
        | .ok _ => later.Open run.id spec.name
        | .error _ => later.Free) later := by
    refine blocked.tryCatch (fun _ _ opened => opened) fun error _ opened => ?_
    exact (follows_orLogged (follows_finish opened)).bind (fun _ _ free => free) fun _ _ free => free
  refine caught.bind (fun _ _ free => free) fun counts _ opened => ?_
  exact (follows_orLogged (follows_finish opened)).bind (fun _ _ free => free) fun _ _ free => free

theorem follows_runRecorded {trigger : RunTrigger} {host : PyStr}
    {outcome : Except JobError Counts} (free : stage.Free) :
    (runRecorded job trigger host outcome >>= fun _ => pure ()).Follows JobCall.handle jobStaging
      (fun _ later => later.Free) stage := by
  have recorded : (runRecorded job trigger host outcome).Follows JobCall.handle jobStaging
      (fun _ later => later.Free) stage :=
    (follows_recordRun free).tryCatch (fun _ _ free => free) fun _ _ free => free
  exact recorded.bind (fun _ _ free => free) fun _ _ free => free

theorem follows_recordSkipped (free : stage.Free) :
    (recordSkipped job).Follows JobCall.handle jobStaging (fun _ later => later.Free) stage := by
  rw [recordSkipped]
  rcases getJob job with error | spec
  · exact free
  refine follows_ensureState.bind (fun _ _ kept => by cases kept.1) ?_
  rintro _ later ⟨_, row, owed⟩
  have free : later.Free := ⟨row.trans free.1, owed.trans free.2⟩
  refine Prog.follows_perform_bind fun world _ => ⟨_, rfl, fun now _ => ?_, fun _ same => by cases same⟩
  refine Prog.follows_perform_bind fun world _ => ⟨_, rfl, fun _ _ => ?_, fun _ same => by cases same⟩
  refine (follows_increment_untracked untracked_skipped free.2).mono ?_
  rintro _ later ⟨_, rfl⟩
  exact free.paid

theorem follows_recordFailureBeforeStart {trigger : RunTrigger} {host : PyStr} {error : JobError}
    (free : stage.Free) :
    (recordFailureBeforeStart job trigger host error).Follows JobCall.handle jobStaging
      (fun _ later => later.Free) stage := by
  have recorded : (recordRun job trigger host (.error error) >>= fun _ =>
      (pure () : JobProgram Unit)).Follows JobCall.handle jobStaging (fun _ later => later.Free) stage :=
    (follows_recordRun free).bind (fun _ _ free => free) fun _ _ free => free
  exact recorded.tryCatch (fun _ _ free => free) fun _ _ free => free

/-- Whatever is started, it ends with its row saved and everything counted. -/
theorem follows_program (task : JobTask) : task.program.Follows JobCall.handle jobStaging
    (fun _ later => later.Free) .idle := by
  have free : JobStage.idle.Free := ⟨rfl, rfl⟩
  cases task with
  | command job host outcome => exact follows_runRecorded free
  | celery job host acquired outcome =>
    rw [JobTask.program, runLocked]
    have locked : (Prog.ofExcept acquired >>= fun acquired =>
        if acquired = true then runRecorded job .celery host outcome >>= fun _ => pure ()
        else recordSkipped job).Follows JobCall.handle jobStaging (fun _ later => later.Free) .idle := by
      rcases acquired with error | acquired
      · exact free
      · cases acquired with
        | true => exact follows_runRecorded free
        | false => exact follows_recordSkipped free
    refine locked.tryCatch (fun _ _ free => free) fun error _ free => ?_
    cases error with
    | scheduledJobFailed => exact free
    | _ => exact follows_recordFailureBeforeStart free

end

/-! ### What a call adds to the counters -/

section
variable {world : JobsWorld} {job name : PyStr} {amount : Int}

/-- The world after an update of the counters. -/
def JobsWorld.withAdded (world : JobsWorld) (hit : ScheduledJobCounter → Prop) [DecidablePred hit]
    (amount : Int) : JobsWorld :=
  { world with counters := update hit (·.add amount) world.counters }

theorem findCounter_withAdded (hit : ScheduledJobCounter → Prop) [DecidablePred hit] :
    (world.withAdded hit amount).findCounter job name =
      (world.findCounter job name).map fun row => if hit row then row.add amount else row :=
  find?_update fun _ => rfl

theorem keyed_of_findCounter {row : ScheduledJobCounter}
    (found : world.findCounter job name = some row) : row ∈ world.counters ∧ row.Keyed job name :=
  ⟨List.mem_of_find?_eq_some found, by simpa using List.find?_some found⟩

theorem hasCounter_of_findCounter {row : ScheduledJobCounter}
    (found : world.findCounter job name = some row) : world.hasCounter job name = true :=
  hasCounter_iff.mpr ⟨row, keyed_of_findCounter found⟩

theorem findCounter_eq_none : world.findCounter job name = none ↔ world.hasCounter job name = false := by
  rw [← Bool.not_eq_true, hasCounter_iff, JobsWorld.findCounter, List.find?_eq_none]
  simp

/-- An addition to the counters that it hits shows where the counter that is found is hit. -/
theorem counter_withAdded (hit : ScheduledJobCounter → Prop) [DecidablePred hit] :
    (world.withAdded hit amount).counter job name = world.counter job name +
      if ∃ row, world.findCounter job name = some row ∧ hit row then amount else 0 := by
  rw [JobsWorld.counter, JobsWorld.counter, findCounter_withAdded]
  rcases found : world.findCounter job name with _ | row
  · simp
  · by_cases struck : hit row <;> simp [struck, ScheduledJobCounter.add]

theorem counter_filter (job' name' : PyStr) :
    (world.withAdded (·.Keyed job' name') amount).counter job name = world.counter job name +
      if world.hasCounter job' name' = true ∧ job' = job ∧ name' = name then amount else 0 := by
  rw [counter_withAdded]
  congr 1
  refine if_congr ⟨?_, ?_⟩ rfl rfl
  · rintro ⟨row, found, rfl, rfl⟩
    obtain ⟨member, rfl, rfl⟩ := keyed_of_findCounter found
    exact ⟨hasCounter_of_findCounter found, rfl, rfl⟩
  · rintro ⟨present, rfl, rfl⟩
    obtain ⟨row, found⟩ := findCounter_of_keyed (hasCounter_iff.mp present)
    exact ⟨row, found, (keyed_of_findCounter found).2⟩

theorem counter_byId (once : (world.counters.map (·.id)).Nodup) {job' name' : PyStr}
    {row : ScheduledJobCounter} (found : world.findCounter job' name' = some row) :
    (world.withAdded (·.id = row.id) amount).counter job name = world.counter job name +
      if job' = job ∧ name' = name then amount else 0 := by
  rw [counter_withAdded]
  congr 1
  obtain ⟨member, keyed⟩ := keyed_of_findCounter found
  refine if_congr ⟨?_, ?_⟩ rfl rfl
  · rintro ⟨other, seen, same⟩
    obtain ⟨present, jobs, names⟩ := keyed_of_findCounter seen
    obtain rfl : other = row := List.inj_on_of_nodup_map once present member same
    exact ⟨keyed.1.symm.trans jobs, keyed.2.symm.trans names⟩
  · rintro ⟨rfl, rfl⟩
    exact ⟨row, found, rfl⟩

theorem findCounter_withCounter {job' name' : PyStr} :
    (world.withCounter job' name' amount).findCounter job name =
      (world.findCounter job name).or
        (if job' = job ∧ name' = name then some ⟨world.nextCounter, job', name', amount⟩ else none) := by
  rw [JobsWorld.findCounter, JobsWorld.findCounter, JobsWorld.withCounter, List.find?_append]
  congr 1
  by_cases same : job' = job ∧ name' = name
  · rw [if_pos same]
    exact List.find?_cons_of_pos (decide_eq_true same)
  · rw [if_neg same, List.find?_cons_of_neg (by simp only [ScheduledJobCounter.Keyed, same]; decide)]
    rfl

theorem counter_withCounter {job' name' : PyStr} (absent : world.hasCounter job' name' = false) :
    (world.withCounter job' name' amount).counter job name = world.counter job name +
      if job' = job ∧ name' = name then amount else 0 := by
  rw [JobsWorld.counter, JobsWorld.counter, findCounter_withCounter]
  by_cases same : job' = job ∧ name' = name
  · obtain ⟨rfl, rfl⟩ := same
    simp [findCounter_eq_none.mpr absent]
  · simp [same]

end

/-! ### What a call closes -/

section
variable {world : JobsWorld} {job : PyStr} {status : RunStatus}

theorem RunStatus.Closed.ne_running (closed : status.Closed) : RunStatus.running ≠ status := by
  rcases closed with rfl | rfl
  · decide
  · decide

theorem count_eq (world : JobsWorld) (job : PyStr) (status : RunStatus) : world.count job status =
    world.runs.countP (fun row => row.job = job ∧ row.status = status) +
      world.purged.countP fun row => row.job = job ∧ row.status = status := by
  rw [JobsWorld.count, JobsWorld.rows, List.countP_append]

theorem count_createRun (closed : status.Closed) {job' : PyStr} {trigger : RunTrigger}
    {startedAt : Time} {host : PyStr} :
    (JobCall.handle _ (.createRun job' trigger startedAt host) world).2.count job status =
      world.count job status := by
  rw [count_eq, count_eq, JobCall.handle, List.countP_append]
  simp [JobsWorld.newRun, closed.ne_running]

theorem count_interruptRuns (closed : status.Closed) {job' : PyStr} {cutoff finishedAt : Time}
    {current : Nat} :
    (JobCall.handle _ (.interruptRuns job' cutoff current finishedAt) world).2.count job status =
      world.count job status + if job' = job ∧ status = .failed then
        world.runs.countP fun row => row.Stale job' cutoff current else 0 := by
  rw [count_eq, count_eq, JobCall.handle]
  dsimp only
  by_cases struck : job' = job ∧ status = .failed
  · obtain ⟨rfl, rfl⟩ := struck
    rw [if_pos ⟨rfl, rfl⟩, countP_update fun row _ stale => ?_]
    · omega
    · obtain ⟨same, running, _⟩ := stale
      simp [ScheduledJobRun.interrupt, same, running]
  · rw [if_neg struck, countP_update_of_kept fun row _ stale => ?_]
    · rfl
    · obtain ⟨same, running, _⟩ := stale
      simp only [ScheduledJobRun.interrupt, same, running, closed.ne_running, and_false, decide_false,
        decide_eq_false_iff_not]
      exact fun ended => struck ⟨ended.1, ended.2.symm⟩

theorem count_saveRun {id : Nat} {result : RunResult} {job' : PyStr}
    (once : (world.runs.map (·.id)).Nodup) (closed : status.Closed)
    (owner : ∀ row ∈ world.runs, row.id = id → row.job = job')
    (timely : ∀ row ∈ world.runs, row.id = id → row.status = .running) :
    (JobCall.handle _ (.saveRun id result) world).2.count job status = world.count job status +
      if world.runs.any (·.id = id) = true ∧ job' = job ∧ result.status = status then 1 else 0 := by
  rw [JobCall.handle]
  cases stored : world.runs.any (·.id = id) with
  | false => simp
  | true =>
    simp only [if_true, true_and]
    rw [count_eq, count_eq]
    dsimp only
    by_cases struck : job' = job ∧ result.status = status
    · rw [if_pos struck, countP_update fun row member same => ?_]
      · obtain ⟨row, member, same⟩ := List.any_eq_true.mp stored
        rw [countP_key once ⟨row, member, of_decide_eq_true same⟩]
        omega
      · rw [timely row member same]
        simp [ScheduledJobRun.assign, owner row member same, struck.1, struck.2, closed.ne_running]
    · rw [if_neg struck, countP_update_of_kept fun row member same => ?_]
      · rfl
      · rw [timely row member same]
        simp only [ScheduledJobRun.assign, owner row member same, closed.ne_running, and_false, decide_false,
          decide_eq_false_iff_not]
        exact struck

theorem count_purges (ids : List Nat) : ({ world with
    runs := world.runs.filter (·.id ∉ ids)
    purged := world.purged ++ world.runs.filter (·.id ∈ ids) } : JobsWorld).count job status =
      world.count job status := by
  rw [count_eq, count_eq, List.countP_append]
  have split := List.countP_eq_countP_filter_add world.runs
    (fun row => row.job = job ∧ row.status = status) fun row => row.id ∈ ids
  simp only [decide_not]
  omega

end

/-! ### Tables that are well formed -/

structure JobsWorld.Formed (world : JobsWorld) : Prop where
  fresh : ∀ row ∈ world.rows, row.id < world.nextRun
  once : (world.rows.map (·.id)).Nodup
  statuses : ∀ row ∈ world.runs, row.status = .running ∨ row.status.Closed
  freshCounter : ∀ row ∈ world.counters, row.id < world.nextCounter
  onceCounter : (world.counters.map (·.id)).Nodup

/-- The counters that are found are found again. -/
def JobsWorld.KeepsCounters (before after : JobsWorld) : Prop :=
  ∀ job name row, before.findCounter job name = some row →
    ∃ kept, after.findCounter job name = some kept ∧ kept.id = row.id

/-- Every counter has a number of its own. -/
structure JobsWorld.Numbered (world : JobsWorld) : Prop where
  fresh : ∀ row ∈ world.counters, row.id < world.nextCounter
  once : (world.counters.map (·.id)).Nodup

theorem JobsWorld.Formed.numbered {world : JobsWorld} (formed : world.Formed) : world.Numbered :=
  ⟨formed.freshCounter, formed.onceCounter⟩

/-- What a run knows of the tables stays so: rows keep their job, and counters and states stay. -/
structure JobsWorld.Grows (before after : JobsWorld) : Prop where
  next : before.nextRun ≤ after.nextRun
  rows : ∀ row ∈ after.rows, before.nextRun ≤ row.id ∨
    ∃ old ∈ before.rows, old.id = row.id ∧ old.job = row.job
  counters : ∀ job name row, before.findCounter job name = some row →
    ∃ kept, after.findCounter job name = some kept ∧ kept.id = row.id
  states : ∀ row ∈ before.states, ∃ kept ∈ after.states, kept.job = row.job

namespace JobsWorld

variable {before after : JobsWorld}

/-- The tables that the runs count on are the same. -/
theorem Grows.of_same (next : after.nextRun = before.nextRun) (rows : after.rows = before.rows)
    (counters : after.counters = before.counters) (states : after.states = before.states) :
    before.Grows after where
  next := next.ge
  rows row member := .inr ⟨row, rows ▸ member, rfl, rfl⟩
  counters job name row found := ⟨row, by rwa [findCounter, counters], rfl⟩
  states row member := ⟨row, states ▸ member, rfl⟩

theorem Grows.of_rows (next : after.nextRun = before.nextRun)
    (rows : ∀ row ∈ after.rows, ∃ old ∈ before.rows, old.id = row.id ∧ old.job = row.job)
    (counters : after.counters = before.counters) (states : after.states = before.states) :
    before.Grows after where
  next := next.ge
  rows row member := .inr (rows row member)
  counters job name row found := ⟨row, by rwa [findCounter, counters], rfl⟩
  states row member := ⟨row, states ▸ member, rfl⟩

theorem Grows.of_counters (next : after.nextRun = before.nextRun) (rows : after.rows = before.rows)
    (counters : ∀ job name row, before.findCounter job name = some row →
      ∃ kept, after.findCounter job name = some kept ∧ kept.id = row.id)
    (states : after.states = before.states) : before.Grows after where
  next := next.ge
  rows row member := .inr ⟨row, rows ▸ member, rfl, rfl⟩
  counters := counters
  states row member := ⟨row, states ▸ member, rfl⟩

theorem rows_update {world : JobsWorld} {hit : ScheduledJobRun → Prop} [DecidablePred hit]
    {change : ScheduledJobRun → ScheduledJobRun} (ids : ∀ row, (change row).id = row.id)
    (owners : ∀ row, (change row).job = row.job) :
    ∀ row ∈ ({ world with runs := update hit change world.runs } : JobsWorld).rows,
      ∃ old ∈ world.rows, old.id = row.id ∧ old.job = row.job := by
  intro row member
  rcases List.mem_append.mp member with inRuns | inPurged
  · obtain ⟨old, present, ⟨rfl, _⟩ | ⟨rfl, _⟩⟩ := mem_update inRuns
    · exact ⟨old, List.mem_append_left _ present, (ids old).symm, (owners old).symm⟩
    · exact ⟨row, List.mem_append_left _ present, rfl, rfl⟩
  · exact ⟨row, List.mem_append_right _ inPurged, rfl, rfl⟩

theorem findCounter_kept {world : JobsWorld} {hit : ScheduledJobCounter → Prop} [DecidablePred hit]
    {amount : Int} {job name : PyStr} {row : ScheduledJobCounter}
    (found : world.findCounter job name = some row) :
    ∃ kept, (world.withAdded hit amount).findCounter job name = some kept ∧ kept.id = row.id := by
  refine ⟨_, by rw [findCounter_withAdded, found]; rfl, ?_⟩
  dsimp only
  split
  · rfl
  · rfl

theorem Grows.handle (world : JobsWorld) {β : Type} (op : JobCall β) :
    world.Grows (JobCall.handle β op world).2 := by
  cases op with
  | now | monotonic | getState | getCounter | recordEvent | block => exact .of_same rfl rfl rfl rfl
  | createRun job trigger startedAt host =>
    refine ⟨Nat.le_succ _, fun row member => ?_, fun _ _ row found => ⟨row, found, rfl⟩,
      fun row member => ⟨row, member, rfl⟩⟩
    rcases List.mem_append.mp member with inRuns | inPurged
    · rcases List.mem_append.mp inRuns with old | new
      · exact .inr ⟨row, List.mem_append_left _ old, rfl, rfl⟩
      · obtain rfl := List.mem_singleton.mp new
        exact .inl le_rfl
    · exact .inr ⟨row, List.mem_append_right _ inPurged, rfl, rfl⟩
  | createState job =>
    rw [JobCall.handle]
    split
    · exact .of_same rfl rfl rfl rfl
    · refine ⟨le_rfl, fun row member => .inr ⟨row, member, rfl, rfl⟩, fun _ _ row found => ⟨row, found, rfl⟩,
        fun row member => ⟨row, List.mem_append_left _ member, rfl⟩⟩
  | updateState job columns =>
    refine ⟨le_rfl, fun row member => .inr ⟨row, member, rfl, rfl⟩, fun _ _ row found => ⟨row, found, rfl⟩,
      fun row member => ?_⟩
    refine ⟨_, List.mem_map_of_mem member, ?_⟩
    split
    · exact ScheduledJobState.assign_job columns row
    · rfl
  | interruptRuns job cutoff current finishedAt =>
    exact .of_rows rfl (rows_update (fun _ => rfl) fun _ => rfl) rfl rfl
  | filterCounter job name amount => exact .of_counters rfl rfl (fun _ _ _ => findCounter_kept) rfl
  | createCounter job name value =>
    rw [JobCall.handle]
    split
    · exact .of_same rfl rfl rfl rfl
    · refine .of_counters rfl rfl (fun _ _ row found => ⟨row, ?_, rfl⟩) rfl
      rw [findCounter_withCounter, found, Option.some_or]
  | updateCounter id amount => exact .of_counters rfl rfl (fun _ _ _ => findCounter_kept) rfl
  | saveRun id result =>
    rw [JobCall.handle]
    split
    · exact .of_rows rfl (rows_update (fun _ => rfl) fun _ => rfl) rfl rfl
    · exact .of_same rfl rfl rfl rfl

theorem Formed.onceRuns {world : JobsWorld} (formed : world.Formed) :
    (world.runs.map (·.id)).Nodup := by
  have once := formed.once
  rw [rows, List.map_append] at once
  exact once.of_append_left

theorem Formed.withRuns {world : JobsWorld} (formed : world.Formed) {hit : ScheduledJobRun → Prop}
    [DecidablePred hit] {change : ScheduledJobRun → ScheduledJobRun}
    (ids : ∀ row, (change row).id = row.id) (closes : ∀ row, (change row).status.Closed) :
    ({ world with runs := update hit change world.runs } : JobsWorld).Formed := by
  have same : ({ world with runs := update hit change world.runs } : JobsWorld).rows.map (·.id) =
      world.rows.map (·.id) := by
    rw [rows, rows, List.map_append, List.map_append, update_map fun row _ _ => ids row]
  refine ⟨fun row member => ?_, same ▸ formed.once, fun row member => ?_, formed.freshCounter,
    formed.onceCounter⟩
  · have number := List.mem_map_of_mem (f := (·.id)) member
    rw [same] at number
    obtain ⟨old, present, sameId⟩ := List.mem_map.mp number
    exact sameId ▸ formed.fresh old present
  · obtain ⟨old, present, ⟨rfl, _⟩ | ⟨rfl, _⟩⟩ := mem_update member
    · exact .inr (closes old)
    · exact formed.statuses row present

theorem Numbered.withAdded {world : JobsWorld} (numbered : world.Numbered)
    (hit : ScheduledJobCounter → Prop) [DecidablePred hit] (amount : Int) :
    (world.withAdded hit amount).Numbered := by
  have same : (world.withAdded hit amount).counters.map (·.id) = world.counters.map (·.id) :=
    update_map fun _ _ _ => rfl
  refine ⟨fun row member => ?_, same ▸ numbered.once⟩
  obtain ⟨old, present, ⟨rfl, _⟩ | ⟨rfl, _⟩⟩ := mem_update member
  · exact numbered.fresh old present
  · exact numbered.fresh row present

theorem Numbered.withCounter {world : JobsWorld} (numbered : world.Numbered) (job name : PyStr)
    (value : Int) : (world.withCounter job name value).Numbered := by
  constructor
  · intro row member
    rcases List.mem_append.mp member with old | new
    · exact Nat.lt_succ_of_lt (numbered.fresh row old)
    · obtain rfl := List.mem_singleton.mp new
      exact Nat.lt_succ_self _
  · rw [JobsWorld.withCounter, List.map_append]
    refine List.nodup_append.mpr ⟨numbered.once, List.nodup_singleton _, ?_⟩
    rintro id old other new rfl
    obtain ⟨row, present, rfl⟩ := List.mem_map.mp old
    exact (numbered.fresh row present).ne (List.mem_singleton.mp new)

theorem Formed.withAdded {world : JobsWorld} (formed : world.Formed)
    (hit : ScheduledJobCounter → Prop) [DecidablePred hit] (amount : Int) :
    (world.withAdded hit amount).Formed :=
  have ⟨freshCounter, onceCounter⟩ := formed.numbered.withAdded hit amount
  ⟨formed.fresh, formed.once, formed.statuses, freshCounter, onceCounter⟩

theorem Formed.withCounter {world : JobsWorld} (formed : world.Formed) (job name : PyStr)
    (value : Int) : (world.withCounter job name value).Formed :=
  have ⟨freshCounter, onceCounter⟩ := formed.numbered.withCounter job name value
  ⟨formed.fresh, formed.once, formed.statuses, freshCounter, onceCounter⟩

theorem Formed.withRun {world : JobsWorld} (formed : world.Formed) (job : PyStr)
    (trigger : RunTrigger) (startedAt : Time) (host : PyStr) :
    (JobCall.handle _ (.createRun job trigger startedAt host) world).2.Formed := by
  have split : (JobCall.handle _ (.createRun job trigger startedAt host) world).2.rows.Perm
      (world.newRun job trigger startedAt host :: world.rows) := by
    rw [rows, rows, JobCall.handle, List.append_assoc]
    exact List.perm_middle
  refine ⟨fun row member => ?_, ?_, fun row member => ?_, formed.freshCounter, formed.onceCounter⟩
  · rcases List.mem_cons.mp (split.mem_iff.mp member) with rfl | old
    · exact Nat.lt_succ_self _
    · exact Nat.lt_succ_of_lt (formed.fresh row old)
  · refine (split.map (·.id)).nodup_iff.mpr (List.nodup_cons.mpr ⟨fun again => ?_, formed.once⟩)
    obtain ⟨row, present, same⟩ := List.mem_map.mp again
    exact (formed.fresh row present).ne same
  · rcases List.mem_append.mp member with old | new
    · exact formed.statuses row old
    · obtain rfl := List.mem_singleton.mp new
      exact .inl rfl

theorem Formed.handle {world : JobsWorld} (formed : world.Formed) {β : Type} {op : JobCall β}
    {stage later : JobStage} (moved : jobMoves β op stage world later) :
    (JobCall.handle β op world).2.Formed := by
  have ⟨fresh, once, statuses, freshCounter, onceCounter⟩ := formed
  cases op with
  | now | monotonic | getState | getCounter | recordEvent | block | updateState =>
    exact ⟨fresh, once, statuses, freshCounter, onceCounter⟩
  | createRun job trigger startedAt host => exact formed.withRun job trigger startedAt host
  | createState job =>
    rw [JobCall.handle]
    split
    · exact formed
    · exact ⟨fresh, once, statuses, freshCounter, onceCounter⟩
  | interruptRuns job cutoff current finishedAt =>
    exact formed.withRuns (fun _ => rfl) fun _ => .inr rfl
  | filterCounter job name amount => exact formed.withAdded _ amount
  | createCounter job name value =>
    rw [JobCall.handle]
    split
    · exact formed
    · exact formed.withCounter job name value
  | updateCounter id amount => exact formed.withAdded _ amount
  | saveRun id result =>
    rw [JobCall.handle]
    split
    · exact formed.withRuns (fun _ => rfl) fun _ => moved.1
    · exact formed

end JobsWorld

/-! ### Stages that hold -/

namespace JobStage.Finds

variable {stage later : JobStage} {world after : JobsWorld}

theorem grows (finds : stage.Finds world) (kept : world.KeepsCounters after) : stage.Finds after := by
  intro debt owed
  have found := finds debt owed
  rcases debt with ⟨job, name, amount, _ | _ | id⟩
  · trivial
  · obtain ⟨row, seen⟩ := findCounter_of_keyed found
    obtain ⟨kept, still, _⟩ := kept job name row seen
    exact ⟨kept, keyed_of_findCounter still⟩
  · obtain ⟨row, seen, same⟩ := found
    obtain ⟨kept, still, sameId⟩ := kept job name row seen
    exact ⟨kept, still, sameId.trans same⟩

theorem owing {job name : PyStr} {amount : Int} {found : Finding} (holds : found.Holds world job name) :
    (stage.owing job name amount found).Finds world := by
  intro debt owed
  cases owed
  exact holds

theorem paid : stage.paid.Finds world := fun _ owed => nomatch owed

end JobStage.Finds

namespace JobStage.Holds

variable {stage later : JobStage} {world after : JobsWorld}

/-- What a run knows, it knows of every later state. -/
theorem grows (holds : stage.Holds world) (grown : world.Grows after) : stage.Holds after := by
  have finds : stage.Finds world := holds.found
  refine ⟨fun id job own => ?_, finds.grows grown.counters, fun job known => ?_⟩
  · obtain ⟨old, owner⟩ := holds.row id job own
    refine ⟨old.trans_le grown.next, fun row member same => ?_⟩
    rcases grown.rows row member with new | ⟨before, present, sameId, sameJob⟩
    · omega
    · exact sameJob ▸ owner before present (sameId.trans same)
  · obtain ⟨row, member, same⟩ := holds.state job known
    obtain ⟨kept, present, sameJob⟩ := grown.states row member
    exact ⟨kept, present, sameJob.trans same⟩

theorem paid (holds : stage.Holds world) : stage.paid.Holds world :=
  ⟨holds.row, Finds.paid, holds.state⟩

theorem owing (holds : stage.Holds world) {job name : PyStr} {amount : Int} {found : Finding}
    (finds : found.Holds world job name) : (stage.owing job name amount found).Holds world :=
  ⟨holds.row, Finds.owing finds, holds.state⟩

theorem saved (holds : stage.Holds world) : { stage with row := none : JobStage }.Holds world :=
  ⟨fun _ _ own => (nomatch own), holds.found, holds.state⟩

/-- The state is known once it was seen. -/
theorem sees {job : PyStr} (holds : stage.Holds world)
    (stored : world.states.any (·.job = job) = true) :
    { stage with state := some job : JobStage }.Holds world := by
  refine ⟨holds.row, holds.found, fun known same => ?_⟩
  cases same
  obtain ⟨row, member, same⟩ := List.any_eq_true.mp stored
  exact ⟨row, member, of_decide_eq_true same⟩

/-- After its call a run stands where its stage says. -/
theorem moves (holds : stage.Holds world) (formed : world.Formed) {β : Type} {op : JobCall β}
    (moved : jobMoves β op stage world later) : later.Holds (JobCall.handle β op world).2 := by
  have grown := holds.grows (JobsWorld.Grows.handle world op)
  cases op with
  | now | monotonic | updateState | recordEvent =>
    cases moved
    exact grown
  | block outcome =>
    obtain ⟨_, rfl⟩ := moved
    exact grown
  | createRun job trigger startedAt host =>
    obtain ⟨_, _, rfl⟩ := moved
    refine ⟨fun id owner own => ?_, grown.found, grown.state⟩
    cases own
    refine ⟨Nat.lt_succ_self _, fun row member same => ?_⟩
    rcases List.mem_append.mp member with inRuns | inPurged
    · rcases List.mem_append.mp inRuns with old | new
      · exact absurd same (formed.fresh row (List.mem_append_left _ old)).ne
      · rw [List.mem_singleton.mp new]
        rfl
    · exact absurd same (formed.fresh row (List.mem_append_right _ inPurged)).ne
  | getState job =>
    cases moved
    split
    · rename_i stored
      exact grown.sees stored
    · exact grown
  | createState job =>
    cases moved
    rw [JobCall.handle]
    split
    · rename_i stored
      exact holds.sees stored
    · rename_i absent
      rw [JobCall.handle, if_neg absent] at grown
      exact grown
  | interruptRuns job cutoff current finishedAt =>
    obtain ⟨_, rfl⟩ := moved
    split
    · exact grown
    · exact grown.owing trivial
  | filterCounter job name amount =>
    obtain ⟨_, rfl⟩ := moved
    split
    · exact grown.paid
    · exact grown.owing trivial
  | getCounter job name =>
    obtain ⟨amount, found, _, rfl⟩ := moved
    rcases looked : world.findCounter job name with _ | counter
    · exact grown
    · exact grown.owing ⟨counter, looked, rfl⟩
  | createCounter job name value =>
    obtain ⟨found, _, rfl⟩ := moved
    split
    · rename_i taken
      rw [JobCall.handle, if_pos taken]
      exact holds.owing (hasCounter_iff.mp taken)
    · exact grown.paid
  | updateCounter id amount =>
    obtain ⟨job, name, _, rfl⟩ := moved
    exact grown.paid
  | saveRun id result =>
    obtain ⟨_, _, job, _, rfl⟩ := moved
    split
    · exact grown.saved.owing trivial
    · exact grown.saved

end JobStage.Holds

/-! ### The account -/

section
variable {stage later : JobStage} {world : JobsWorld} {job name : PyStr} {status : RunStatus}

theorem runsCounter_injective : Function.Injective runsCounter := by
  intro left right same
  cases left <;> cases right <;> first | rfl | exact absurd same (by decide)

@[simp] theorem JobStage.due_paid : stage.paid.due job name = 0 := rfl

@[simp] theorem JobStage.due_owing {job' name' : PyStr} {amount : Int} {found : Finding} :
    (stage.owing job' name' amount found).due job name =
      if job' = job ∧ name' = name then amount else 0 := rfl

theorem JobStage.due_none (nothing : stage.owed = none) : stage.due job name = 0 := by
  rw [due, nothing]

theorem JobStage.due_some {job' name' : PyStr} {amount : Int} {found : Finding}
    (owed : stage.owed = some ⟨job', name', amount, found⟩) :
    stage.due job name = if job' = job ∧ name' = name then amount else 0 := by
  rw [due, owed]

/-- A counter that is added to, and what the run owes it. -/
theorem JobStage.Owes.due {amount : Int} {job' name' : PyStr} (owes : stage.Owes job' name' amount)
    (closed : status.Closed) : stage.due job (runsCounter status) =
      if job' = job ∧ name' = runsCounter status then amount else 0 := by
  rcases owes with owed | ⟨untracked, nothing⟩
  · exact due_some owed
  · rw [due_none nothing, if_neg fun same => untracked status closed same.2]

/-- What a call of an increment adds is no longer owed. -/
theorem counterMoves_balance (once : (world.counters.map (·.id)).Nodup) (finds : stage.Finds world)
    {β : Type} {op : JobCall β} (moved : counterMoves β op stage world later) :
    (JobCall.handle β op world).2.counter job name + later.due job name =
      world.counter job name + stage.due job name := by
  cases op with
  | filterCounter job' name' amount =>
    obtain ⟨owed, rfl⟩ := moved
    have counted : (JobCall.handle _ (.filterCounter job' name' amount) world).2 =
        world.withAdded (·.Keyed job' name') amount := rfl
    rw [counted, counter_filter, JobStage.due_some owed]
    cases has : world.hasCounter job' name' with
    | true => simp
    | false => simp
  | getCounter job' name' =>
    obtain ⟨amount, found, owed, rfl⟩ := moved
    have due : (stage.sees job' name' amount (world.findCounter job' name')).due job name =
        stage.due job name := by
      rcases world.findCounter job' name' with _ | counter
      · rfl
      · exact (JobStage.due_some owed).symm
    rw [due]
    rfl
  | createCounter job' name' value =>
    obtain ⟨found, owed, rfl⟩ := moved
    rw [JobStage.due_some owed, JobCall.handle]
    cases taken : world.hasCounter job' name' with
    | true => simp
    | false => simp [counter_withCounter taken]
  | updateCounter id amount =>
    obtain ⟨job', name', owed, rfl⟩ := moved
    obtain ⟨row, found, rfl⟩ := finds _ owed
    have counted : (JobCall.handle _ (.updateCounter row.id amount) world).2 =
        world.withAdded (·.id = row.id) amount := rfl
    rw [counted, counter_byId once found, JobStage.due_some owed]
    simp
  | _ => exact moved.elim

/-- What a call closes, it owes or counts. -/
theorem jobMoves_balance (formed : world.Formed) (holds : stage.Holds world) (closed : status.Closed)
    {β : Type} {op : JobCall β} (moved : jobMoves β op stage world later)
    (timely : Timely ⟨op, world⟩) :
    (JobCall.handle β op world).2.counter job (runsCounter status) +
        later.due job (runsCounter status) + world.count job status =
      world.counter job (runsCounter status) + stage.due job (runsCounter status) +
        (JobCall.handle β op world).2.count job status := by
  cases op with
  | now | monotonic | updateState | recordEvent =>
    cases moved
    rfl
  | block outcome =>
    obtain ⟨_, rfl⟩ := moved
    rfl
  | createRun job' trigger startedAt host =>
    obtain ⟨_, _, rfl⟩ := moved
    rw [count_createRun closed]
    rfl
  | getState job' =>
    cases moved
    split
    · rfl
    · rfl
  | createState job' =>
    cases moved
    rw [JobCall.handle]
    split
    · rfl
    · rfl
  | interruptRuns job' cutoff current finishedAt =>
    obtain ⟨nothing, rfl⟩ := moved
    have named : runsCounter .failed = runsCounter status ↔ status = .failed :=
      ⟨fun same => (runsCounter_injective same).symm, fun same => by rw [same]⟩
    have counters : (JobCall.handle _ (.interruptRuns job' cutoff current finishedAt) world).2.counter
        job (runsCounter status) = world.counter job (runsCounter status) := rfl
    rw [count_interruptRuns closed, counters, JobStage.due_none nothing]
    by_cases none : world.runs.countP (fun row => row.Stale job' cutoff current) = 0
    · rw [if_pos none, none, ite_self, JobStage.due_none nothing]
      omega
    · simp only [if_neg none, JobStage.due_owing, named]
      split
      · push_cast
        omega
      · push_cast
        omega
  | filterCounter job' name' amount =>
    obtain ⟨owes, rfl⟩ := moved
    have counted : (JobCall.handle _ (.filterCounter job' name' amount) world).2 =
        world.withAdded (·.Keyed job' name') amount := rfl
    have rows : (world.withAdded (·.Keyed job' name') amount).count job status =
        world.count job status := rfl
    rw [counted, rows, counter_filter, owes.due closed]
    cases has : world.hasCounter job' name' with
    | true => simp
    | false => simp
  | getCounter job' name' =>
    have counts : counterMoves _ (.getCounter job' name') stage world later := moved
    rw [counterMoves_balance formed.onceCounter holds.found counts]
    rfl
  | updateCounter id amount =>
    have counts : counterMoves _ (.updateCounter id amount) stage world later := moved
    rw [counterMoves_balance formed.onceCounter holds.found counts]
    rfl
  | createCounter job' name' value =>
    have counts : counterMoves _ (.createCounter job' name' value) stage world later := moved
    have rows : (JobCall.handle _ (.createCounter job' name' value) world).2.count job status =
        world.count job status := by
      rw [JobCall.handle]
      split
      · rfl
      · rfl
    rw [counterMoves_balance formed.onceCounter holds.found counts, rows]
  | saveRun id result =>
    obtain ⟨closes, nothing, job', own, rfl⟩ := moved
    have named : runsCounter result.status = runsCounter status ↔ result.status = status :=
      ⟨fun same => runsCounter_injective same, fun same => by rw [same]⟩
    have owner : ∀ row ∈ world.runs, row.id = id → row.job = job' := fun row member same =>
      (holds.row id job' own).2 row (List.mem_append_left _ member) same
    have counters : (JobCall.handle _ (.saveRun id result) world).2.counter job (runsCounter status) =
        world.counter job (runsCounter status) := by
      rw [JobCall.handle]
      split
      · rfl
      · rfl
    rw [count_saveRun formed.onceRuns closed owner timely, counters, JobStage.due_none nothing]
    cases stored : world.runs.any (·.id = id) with
    | true =>
      simp only [if_true, JobStage.due_owing, named, true_and]
      split
      · push_cast
        omega
      · push_cast
        omega
    | false =>
      have due : { stage with row := none : JobStage }.due job (runsCounter status) = 0 :=
        JobStage.due_none nothing
      simp [due]

end

/-! ### Rows that are closed -/

/-- Rows that are closed keep their status. -/
def JobsWorld.Settles (before after : JobsWorld) : Prop :=
  ∀ kept ∈ after.rows, before.nextRun ≤ kept.id ∨
    ∃ old ∈ before.rows, old.id = kept.id ∧ (old.status.Closed → kept.status = old.status)

namespace JobsWorld.Settles

variable {before after : JobsWorld}

theorem of_mem (rows : ∀ row ∈ after.rows, row ∈ before.rows) : before.Settles after :=
  fun kept member => .inr ⟨kept, rows kept member, rfl, fun _ => rfl⟩

/-- An update of rows that are running. -/
theorem of_update {hit : ScheduledJobRun → Prop} [DecidablePred hit]
    {change : ScheduledJobRun → ScheduledJobRun} (ids : ∀ row, (change row).id = row.id)
    (running : ∀ row ∈ before.runs, hit row → row.status = .running) :
    before.Settles { before with runs := update hit change before.runs } := by
  intro kept member
  rcases List.mem_append.mp member with inRuns | inPurged
  · obtain ⟨old, present, ⟨rfl, struck⟩ | ⟨rfl, _⟩⟩ := mem_update inRuns
    · exact .inr ⟨old, List.mem_append_left _ present, (ids old).symm,
        fun closed => absurd (running old present struck).symm closed.ne_running⟩
    · exact .inr ⟨kept, List.mem_append_left _ present, rfl, fun _ => rfl⟩
  · exact .inr ⟨kept, List.mem_append_right _ inPurged, rfl, fun _ => rfl⟩

theorem handle (world : JobsWorld) {β : Type} (op : JobCall β) (timely : Timely ⟨op, world⟩) :
    world.Settles (JobCall.handle β op world).2 := by
  cases op with
  | now | monotonic | getState | getCounter | recordEvent | block | updateState | filterCounter
  | updateCounter => exact of_mem fun _ member => member
  | createRun job trigger startedAt host =>
    intro kept member
    rcases List.mem_append.mp member with inRuns | inPurged
    · rcases List.mem_append.mp inRuns with old | new
      · exact .inr ⟨kept, List.mem_append_left _ old, rfl, fun _ => rfl⟩
      · obtain rfl := List.mem_singleton.mp new
        exact .inl le_rfl
    · exact .inr ⟨kept, List.mem_append_right _ inPurged, rfl, fun _ => rfl⟩
  | createState job =>
    rw [JobCall.handle]
    split
    · exact of_mem fun _ member => member
    · exact of_mem fun _ member => member
  | interruptRuns job cutoff current finishedAt =>
    exact of_update (fun _ => rfl) fun _ _ stale => stale.2.1
  | createCounter job name value =>
    rw [JobCall.handle]
    split
    · exact of_mem fun _ member => member
    · exact of_mem fun _ member => member
  | saveRun id result =>
    rw [JobCall.handle]
    split
    · exact of_update (fun _ => rfl) timely
    · exact of_mem fun _ member => member

end JobsWorld.Settles

/-! ### Outside the runs -/

namespace JobsWorld.Outside

variable {before after : JobsWorld}

theorem rows_perm (changed : Outside before after) : after.rows.Perm before.rows := by
  cases changed with
  | passes span ticks => exact .refl _
  | logs count => exact .refl _
  | purges ids old =>
    rw [rows, rows]
    have split : (before.runs.filter (·.id ∈ ids) ++ before.runs.filter (·.id ∉ ids)).Perm before.runs := by
      simpa only [decide_not] using List.filter_append_perm (fun row => decide (row.id ∈ ids)) before.runs
    refine .trans ?_ (split.append_right before.purged)
    rw [← List.append_assoc, List.append_assoc (before.runs.filter (·.id ∈ ids))]
    exact List.perm_append_comm

theorem unchanged (changed : Outside before after) : after.nextRun = before.nextRun ∧
    after.counters = before.counters ∧ after.states = before.states ∧
      after.nextCounter = before.nextCounter := by
  cases changed with
  | passes span ticks => exact ⟨rfl, rfl, rfl, rfl⟩
  | logs count => exact ⟨rfl, rfl, rfl, rfl⟩
  | purges ids old => exact ⟨rfl, rfl, rfl, rfl⟩

theorem runs (changed : Outside before after) : ∀ row ∈ after.runs, row ∈ before.runs := by
  intro row member
  cases changed with
  | passes span ticks => exact member
  | logs count => exact member
  | purges ids old => exact (List.mem_filter.mp member).1

theorem grows (changed : Outside before after) : before.Grows after := by
  obtain ⟨next, counters, states, _⟩ := changed.unchanged
  exact .of_rows next (fun row member => ⟨row, changed.rows_perm.mem_iff.mp member, rfl, rfl⟩)
    counters states

theorem settles (changed : Outside before after) : before.Settles after :=
  .of_mem fun _ member => changed.rows_perm.mem_iff.mp member

theorem formed (changed : Outside before after) (formed : before.Formed) : after.Formed := by
  obtain ⟨next, counters, _, nextCounter⟩ := changed.unchanged
  refine ⟨fun row member => ?_, ?_, fun row member => formed.statuses row (changed.runs row member), ?_, ?_⟩
  · rw [next]
    exact formed.fresh row (changed.rows_perm.mem_iff.mp member)
  · exact (changed.rows_perm.map (·.id)).nodup_iff.mpr formed.once
  · rw [counters, nextCounter]
    exact formed.freshCounter
  · rw [counters]
    exact formed.onceCounter

theorem counter (changed : Outside before after) (job name : PyStr) :
    after.counter job name = before.counter job name := by
  rw [JobsWorld.counter, JobsWorld.counter, findCounter, findCounter, changed.unchanged.2.1]

theorem count (changed : Outside before after) (job : PyStr) (status : RunStatus) :
    after.count job status = before.count job status :=
  changed.rows_perm.countP_eq _

end JobsWorld.Outside

/-! ### Runs of the crew -/

abbrev JobPost := Post JobCall JobError JobsWorld JobTask JobStage Unit

/-- What the runs are still to count. -/
def dueOf (posts : List JobPost) (job name : PyStr) : Int :=
  (posts.map fun post => post.stage.due job name).sum

/-- Every call that was made was timely. -/
def TimelyPosts (posts : List JobPost) : Prop := ∀ post ∈ posts, ∀ entry ∈ post.thread.log, Timely entry

/-- The counters, and what is still due to them, are the numbers of the rows. -/
structure JobInv (world : JobsWorld) (posts : List JobPost) : Prop where
  formed : world.Formed
  holds : ∀ post ∈ posts, post.stage.Holds world
  owned : ∀ row ∈ world.runs, row.status = .running →
    ∃ post ∈ posts, ∃ job, post.stage.row = some (row.id, job)
  accounted : TimelyPosts posts → ∀ job status, status.Closed →
    world.counter job (runsCounter status) + dueOf posts job (runsCounter status) =
      world.count job status

namespace JobInv

variable {world after : JobsWorld} {posts left right : List JobPost}

theorem dueOf_middle (post : JobPost) (job name : PyStr) :
    dueOf (left ++ post :: right) job name = post.stage.due job name + dueOf (left ++ right) job name := by
  simp only [dueOf, List.map_append, List.map_cons, List.sum_append, List.sum_cons]
  omega

theorem dueOf_of_free {job name : PyStr} (free : ∀ post ∈ posts, post.stage.owed = none) :
    dueOf posts job name = 0 := by
  induction posts with
  | nil => rfl
  | cons post posts ih =>
    have rest := ih fun other member => free other (List.mem_cons_of_mem post member)
    rw [dueOf, List.map_cons, List.sum_cons, JobStage.due_none (free post List.mem_cons_self),
      Int.zero_add]
    exact rest

theorem migrated (clock monotonic : Time) (nextEvent : Nat) :
    JobInv (.migrated clock monotonic nextEvent) [] where
  formed := by constructor <;> simp [JobsWorld.migrated, JobsWorld.rows]
  holds := by simp
  owned := by simp [JobsWorld.migrated]
  accounted _ _ _ _ := rfl

theorem arrives (inv : JobInv world posts) (task : JobTask) :
    JobInv world (⟨⟨task, task.program, []⟩, .idle⟩ :: posts) where
  formed := inv.formed
  holds post member := by
    rcases List.mem_cons.mp member with rfl | old
    · exact ⟨nofun, nofun, nofun⟩
    · exact inv.holds post old
  owned row member running := by
    obtain ⟨post, old, job, own⟩ := inv.owned row member running
    exact ⟨post, List.mem_cons_of_mem _ old, job, own⟩
  accounted timely job status closed := by
    have earlier := inv.accounted (fun post old => timely post (List.mem_cons_of_mem _ old)) job status
      closed
    rw [← earlier, dueOf, List.map_cons, List.sum_cons, JobStage.due_none rfl, Int.zero_add, dueOf]

theorem changes (inv : JobInv world posts) (changed : world.Outside after) : JobInv after posts where
  formed := changed.formed inv.formed
  holds post member := (inv.holds post member).grows changed.grows
  owned row member running := inv.owned row (changed.runs row member) running
  accounted timely job status closed := by
    rw [changed.counter, changed.count]
    exact inv.accounted timely job status closed

/-- A row that is running after a call was running, or belongs to the run that made the call. -/
theorem owned_handle {β : Type} {op : JobCall β} {stage later : JobStage}
    (moved : jobMoves β op stage world later) :
    ∀ row ∈ (JobCall.handle β op world).2.runs, row.status = .running →
      (∃ job, later.row = some (row.id, job)) ∨
        (∃ old ∈ world.runs, old.id = row.id ∧ old.status = .running) ∧
          ∀ job, stage.row = some (row.id, job) → later.row = some (row.id, job) := by
  have old {after : JobsWorld} (runs : after.runs = world.runs) (kept : later.row = stage.row) :
      ∀ row ∈ after.runs, row.status = .running → (∃ job, later.row = some (row.id, job)) ∨
        (∃ old ∈ world.runs, old.id = row.id ∧ old.status = .running) ∧
          ∀ job, stage.row = some (row.id, job) → later.row = some (row.id, job) :=
    fun row member running => .inr ⟨⟨row, runs ▸ member, rfl, running⟩, fun _ own => kept.trans own⟩
  cases op with
  | now | monotonic | updateState | recordEvent =>
    cases moved
    exact old rfl rfl
  | block outcome => exact old rfl (congrArg JobStage.row moved.2)
  | getState job =>
    cases moved
    refine old rfl ?_
    split
    · rfl
    · rfl
  | createState job =>
    cases moved
    refine old ?_ ?_
    · rw [JobCall.handle]
      split
      · rfl
      · rfl
    · split
      · rfl
      · rfl
  | createRun job trigger startedAt host =>
    obtain ⟨free, _, rfl⟩ := moved
    intro row member running
    rcases List.mem_append.mp member with before | new
    · exact .inr ⟨⟨row, before, rfl, running⟩, fun _ own => by rw [free] at own; cases own⟩
    · obtain rfl := List.mem_singleton.mp new
      exact .inl ⟨job, rfl⟩
  | interruptRuns job cutoff current finishedAt =>
    obtain ⟨_, rfl⟩ := moved
    intro row member running
    obtain ⟨before, present, ⟨rfl, _⟩ | ⟨rfl, _⟩⟩ := mem_update member
    · cases running
    · refine .inr ⟨⟨row, present, rfl, running⟩, fun _ own => ?_⟩
      split
      · exact own
      · exact own
  | filterCounter job name amount =>
    obtain ⟨_, rfl⟩ := moved
    refine old rfl ?_
    split
    · rfl
    · rfl
  | getCounter job name =>
    obtain ⟨amount, found, _, rfl⟩ := moved
    refine old rfl ?_
    rcases world.findCounter job name with _ | counter
    · rfl
    · rfl
  | createCounter job name value =>
    obtain ⟨found, _, rfl⟩ := moved
    refine old ?_ ?_
    · rw [JobCall.handle]
      split
      · rfl
      · rfl
    · split
      · rfl
      · rfl
  | updateCounter id amount =>
    obtain ⟨job, name, _, rfl⟩ := moved
    exact old rfl rfl
  | saveRun id result =>
    obtain ⟨closes, _, job, own, rfl⟩ := moved
    intro row member running
    rw [JobCall.handle] at member
    cases stored : world.runs.any (·.id = id) with
    | true =>
      rw [stored] at member
      obtain ⟨before, present, ⟨rfl, _⟩ | ⟨rfl, other⟩⟩ := mem_update member
      · exact absurd running.symm closes.ne_running
      · refine .inr ⟨⟨row, present, rfl, running⟩, fun _ mine => ?_⟩
        rw [own] at mine
        cases mine
        exact absurd rfl other
    | false =>
      rw [stored] at member
      refine .inr ⟨⟨row, member, rfl, running⟩, fun _ mine => ?_⟩
      rw [own] at mine
      cases mine
      have taken : (world.runs.any fun old => old.id = row.id) = true :=
        List.any_eq_true.mpr ⟨row, member, decide_eq_true rfl⟩
      rw [stored] at taken
      cases taken

theorem moves {β : Type} {task : JobTask} {op : JobCall β}
    {next : Except JobError β → JobProgram Unit} {log : List (Entry JobCall JobsWorld)}
    {stage later : JobStage}
    (inv : JobInv world (left ++ ⟨⟨task, .call op next, log⟩, stage⟩ :: right))
    (moved : jobMoves β op stage world later) :
    JobInv (JobCall.handle β op world).2 (left ++ ⟨⟨task, next (JobCall.handle β op world).1,
      log ++ [⟨op, world⟩]⟩, later⟩ :: right) := by
  have own : stage.Holds world := inv.holds _ (mem_middle.mpr (.inl rfl))
  refine ⟨inv.formed.handle moved, fun post member => ?_, fun row member running => ?_, ?_⟩
  · rcases mem_middle.mp member with rfl | other
    · exact own.moves inv.formed moved
    · exact (inv.holds post (mem_middle.mpr (.inr other))).grows (.handle world op)
  · rcases owned_handle moved row member running with
      ⟨job, new⟩ | ⟨⟨old, present, same, before⟩, kept⟩
    · exact ⟨_, mem_middle.mpr (.inl rfl), job, new⟩
    · obtain ⟨post, member, job, holder⟩ := inv.owned old present before
      rw [same] at holder
      rcases mem_middle.mp member with rfl | other
      · exact ⟨_, mem_middle.mpr (.inl rfl), job, kept job holder⟩
      · exact ⟨post, mem_middle.mpr (.inr other), job, holder⟩
  · intro timely job status closed
    have now : Timely ⟨op, world⟩ := timely _ (mem_middle.mpr (.inl rfl)) _ (by simp)
    have earlier := inv.accounted (fun post member entry made => by
      rcases mem_middle.mp member with rfl | other
      · exact timely _ (mem_middle.mpr (.inl rfl)) entry (List.mem_append_left _ made)
      · exact timely post (mem_middle.mpr (.inr other)) entry made) job status closed
    have balance := @jobMoves_balance stage later _ job _ inv.formed own closed _ _ moved now
    rw [dueOf_middle] at earlier ⊢
    dsimp only at earlier ⊢
    omega

end JobInv

theorem JobCrew.Reaches.inv {clock monotonic : Time} {nextEvent : Nat} {crew : JobCrew}
    (reaches : JobCrew.Reaches ⟨.migrated clock monotonic nextEvent, []⟩ crew) :
    ∃ posts : List JobPost, posts.map (·.thread) = crew.threads ∧ JobInv crew.shared posts ∧
      ∀ post ∈ posts, post.thread.rest.Follows JobCall.handle jobStaging
        (fun _ later => later.Free) post.stage :=
  Crew.Reaches.staged JobInv follows_program
    (.migrated clock monotonic nextEvent) rfl (fun _ _ task inv => inv.arrives task)
    (fun _ _ _ changed inv => inv.changes changed) (fun _ _ inv => inv.holds)
    (fun _ _ _ _ _ _ _ _ _ inv moved => inv.moves moved) reaches

/-- A row that is closed keeps its status from step to step. -/
theorem JobCrew.Reaches.settled {start crew later : JobCrew} {row : ScheduledJobRun}
    (formed : ∀ {middle : JobCrew}, JobCrew.Reaches start middle → middle.shared.Formed)
    (first : JobCrew.Reaches start crew) (further : JobCrew.Reaches crew later)
    (timely : later.Logged Timely) (member : row ∈ crew.shared.rows) (closed : row.status.Closed) :
    row.id < later.shared.nextRun ∧
      ∀ kept ∈ later.shared.rows, kept.id = row.id → kept.status = row.status := by
  induction further with
  | refl =>
    refine ⟨(formed first).fresh row member, fun kept present same => ?_⟩
    rw [List.inj_on_of_nodup_map (formed first).once present member same]
  | @tail middle final path last ih =>
    obtain ⟨known, kept⟩ := ih (last.logged timely)
    have settles : middle.shared.Settles final.shared ∧ middle.shared.nextRun ≤ final.shared.nextRun := by
      cases last with
      | arrive task => exact ⟨.of_mem fun _ member => member, le_rfl⟩
      | change after changed => exact ⟨changed.settles, changed.grows.next⟩
      | advance op next log =>
        have now := timely _ (mem_middle.mpr (.inl rfl)) _ (List.mem_append_right _ (List.mem_singleton_self _))
        exact ⟨.handle _ op now, (JobsWorld.Grows.handle _ op).next⟩
    refine ⟨known.trans_le settles.2, fun other present same => ?_⟩
    rcases settles.1 other present with new | ⟨old, before, sameId, stays⟩
    · omega
    · have status := kept old before (sameId.trans same)
      rw [stays (status ▸ closed), status]

/-- If no run saves its result over a row that another run has closed for it, the statuses
that runs end with stay, the counters are the numbers of the rows once the runs have ended,
and no row is left running where no run was killed. -/
theorem scheduled_runs_counted (clock monotonic : Time) (nextEvent : Nat) {crew later : JobCrew}
    (first : JobCrew.Reaches ⟨.migrated clock monotonic nextEvent, []⟩ crew)
    (further : JobCrew.Reaches crew later) (timely : later.Logged Timely) :
    (∀ row ∈ crew.shared.rows, row.status.Closed →
      ∀ kept ∈ later.shared.rows, kept.id = row.id → kept.status = row.status) ∧
    ((∀ thread ∈ later.threads, JobThread.Ended thread) → ∀ job status, status.Closed →
      later.shared.counter job (runsCounter status) = later.shared.count job status) ∧
    ((∀ thread ∈ later.threads, thread.rest.Finished) →
      ∀ row ∈ later.shared.runs, row.status.Closed) := by
  obtain ⟨posts, staffed, inv, follows⟩ := JobCrew.Reaches.inv (first.trans further)
  have formed {middle : JobCrew}
      (reached : JobCrew.Reaches ⟨.migrated clock monotonic nextEvent, []⟩ middle) :
      middle.shared.Formed := by
    obtain ⟨_, _, inv, _⟩ := reached.inv
    exact inv.formed
  have thread {post : JobPost} (member : post ∈ posts) : post.thread ∈ later.threads :=
    staffed ▸ List.mem_map_of_mem member
  refine ⟨fun row member closed => ?_, fun ended job status closed => ?_, fun finished row member => ?_⟩
  · exact (first.settled formed further timely member closed).2
  · have free (post : JobPost) (member : post ∈ posts) : post.stage.owed = none := by
      have rest := follows post member
      rcases ended _ (thread member) with finished | ⟨outcome, next, blocked⟩
      · rcases last : post.thread.rest with value | error | ⟨op, next⟩
        · rw [last] at rest
          exact rest.2
        · rw [last] at rest
          exact rest.2
        · rw [last] at finished
          exact finished.elim
      · rw [blocked] at rest
        obtain ⟨_, moved, _⟩ := rest _ (inv.holds post member)
        exact moved.1
    have nothing : dueOf posts job (runsCounter status) = 0 := JobInv.dueOf_of_free free
    have accounted := inv.accounted (fun post member => timely _ (thread member)) job status closed
    rw [nothing] at accounted
    omega
  · rcases inv.formed.statuses row member with running | closed
    · obtain ⟨post, present, job, own⟩ := inv.owned row member running
      have rest := follows post present
      have ended := finished _ (thread present)
      rcases last : post.thread.rest with value | error | ⟨op, next⟩
      · rw [last] at rest
        rw [rest.1] at own
        cases own
      · rw [last] at rest
        rw [rest.1] at own
        cases own
      · rw [last] at ended
        exact ended.elim
    · exact closed

/-! ### A run that is overtaken, and one that is taken for dead -/

instance : ∀ entry, Decidable (Timely entry)
  | ⟨.saveRun id _, world⟩ =>
    inferInstanceAs (Decidable (∀ row ∈ world.runs, row.id = id → row.status = .running))
  | ⟨.now, _⟩ | ⟨.monotonic, _⟩ | ⟨.createRun .., _⟩ | ⟨.getState _, _⟩ | ⟨.createState _, _⟩
  | ⟨.updateState .., _⟩ | ⟨.interruptRuns .., _⟩ | ⟨.filterCounter .., _⟩ | ⟨.getCounter .., _⟩
  | ⟨.createCounter .., _⟩ | ⟨.updateCounter .., _⟩ | ⟨.recordEvent _, _⟩ | ⟨.block _, _⟩ =>
    .isTrue trivial

def firstTables : JobsWorld := .migrated 0 0 1

def retryCommand : JobTask := .command retryWebhooksJob.name (lit "web:1") (.ok [])

/-- Nothing of the task is done yet. -/
def JobThread.started (task : JobTask) : JobThread := ⟨task, task.program, []⟩

def retryThread : JobThread := .started retryCommand

/-- The run is in its block. -/
def slowBlock : JobThread × JobsWorld := retryThread.after JobCall.handle 6 firstTables

/-- Meanwhile `span` microseconds pass. -/
def meanwhile (span : Nat) : JobsWorld :=
  { slowBlock.2 with
    clock := slowBlock.2.clock + span, monotonic := slowBlock.2.monotonic + span }

/-- Another run starts, and ends. -/
def overtaking (span : Nat) (task : JobTask) : JobThread × JobsWorld :=
  (JobThread.started task).after JobCall.handle 30 (meanwhile span)

/-- The first run comes to its end after it. -/
def slowEnds (span : Nat) (task : JobTask) : JobThread × JobsWorld :=
  slowBlock.1.after JobCall.handle 20 (overtaking span task).2

theorem overtaking_reached (span : Nat) (task : JobTask) :
    JobCrew.Reaches ⟨firstTables, []⟩ ⟨(overtaking span task).2, [(overtaking span task).1, slowBlock.1]⟩ := by
  refine .head (.arrive retryCommand) ?_
  refine (Crew.Reaches.after 6 retryThread firstTables [] []).trans ?_
  refine .head (.change (meanwhile span) (.passes span span)) (.head (.arrive task) ?_)
  exact Crew.Reaches.after 30 (JobThread.started task) (meanwhile span) [] [slowBlock.1]

theorem slowEnds_reached (span : Nat) (task : JobTask) :
    JobCrew.Reaches ⟨(overtaking span task).2, [(overtaking span task).1, slowBlock.1]⟩
      ⟨(slowEnds span task).2, [(overtaking span task).1, (slowEnds span task).1]⟩ :=
  Crew.Reaches.after 20 slowBlock.1 (overtaking span task).2 [(overtaking span task).1] []

/-- The work of the command fails. -/
def failingCommand : JobTask :=
  .command retryWebhooksJob.name (lit "web:2") (.error .databaseError)

/-- A run that fails, wholly inside a run that succeeds, a minute after its start. -/
theorem scheduled_runs_counted_overlapping :
    (∀ row ∈ (overtaking 60000000 failingCommand).2.rows, row.status.Closed →
      ∀ kept ∈ (slowEnds 60000000 failingCommand).2.rows, kept.id = row.id → kept.status = row.status) ∧
    ∀ job status, status.Closed →
      (slowEnds 60000000 failingCommand).2.counter job (runsCounter status) =
        (slowEnds 60000000 failingCommand).2.count job status := by
  have timely : ∀ thread ∈ [(overtaking 60000000 failingCommand).1, (slowEnds 60000000 failingCommand).1],
      ∀ entry ∈ thread.log, Timely entry := by decide +kernel
  have ended : ∀ thread ∈ [(overtaking 60000000 failingCommand).1, (slowEnds 60000000 failingCommand).1],
      thread.rest.Finished := by decide +kernel
  obtain ⟨settled, counted, -⟩ := scheduled_runs_counted 0 0 1 (overtaking_reached 60000000 failingCommand)
    (slowEnds_reached 60000000 failingCommand) timely
  exact ⟨settled, counted fun thread member => .inl (ended thread member)⟩

/-- Where more than two minutes have passed, the row is counted as failed, and then as succeeded. -/
theorem scheduled_runs_not_counted :
    ¬∀ (clock monotonic : Time) (nextEvent : Nat) (crew later : JobCrew),
      JobCrew.Reaches ⟨.migrated clock monotonic nextEvent, []⟩ crew → JobCrew.Reaches crew later →
        (∀ row ∈ crew.shared.rows, row.status.Closed →
          ∀ kept ∈ later.shared.rows, kept.id = row.id → kept.status = row.status) ∧
        ((∀ thread ∈ later.threads, thread.rest.Finished) → ∀ job status, status.Closed →
          later.shared.counter job (runsCounter status) = later.shared.count job status) := by
  intro counted
  have ended : ∀ thread ∈ [(overtaking 121000000 retryCommand).1, (slowEnds 121000000 retryCommand).1],
      thread.rest.Finished := by decide +kernel
  have same := (counted 0 0 1 _ _ (overtaking_reached 121000000 retryCommand)
    (slowEnds_reached 121000000 retryCommand)).2 ended retryWebhooksJob.name .failed (.inr rfl)
  have different : (slowEnds 121000000 retryCommand).2.counter retryWebhooksJob.name (runsCounter .failed) ≠
      (slowEnds 121000000 retryCommand).2.count retryWebhooksJob.name .failed := by decide +kernel
  exact different same

end HostingService
