import HostingService.Actions.RunAccounts
import HostingService.Program.Pages
import HostingService.Program.Warrants
import Mathlib.Data.Prod.Lex

/-! The health of the scheduled jobs as the staff sees it, over the runs that report to it. -/

namespace HostingService

open Program Text

/-! ### Schedules -/

structure JobSchedule where
  spec : JobSpec
  intervalSeconds : Int
  overdueAfterSeconds : Int
  /-- Hourly jobs run at this minute. -/
  cronMinute : Option Int

/-- `JOBS`, with the columns that the health reads. -/
def jobSchedules : List JobSchedule :=
  [⟨retryWebhooksJob, 60, 180, none⟩, ⟨purgeExpiredDataJob, 3600, 8100, some 17⟩]

def hour : Time := microseconds 3600

/-- `JobSpec.next_after` -/
def JobSchedule.nextAfter (schedule : JobSchedule) (moment : Time) : Time :=
  match schedule.cronMinute with
  | none => moment + microseconds schedule.intervalSeconds
  | some minute =>
    let candidate := moment - moment % hour + microseconds (60 * minute)
    if candidate ≤ moment then candidate + hour else candidate

/-- The next start is later, and by an interval at most. -/
theorem nextAfter_within {schedule : JobSchedule} (known : schedule ∈ jobSchedules) (moment : Time) :
    moment < schedule.nextAfter moment ∧
      schedule.nextAfter moment ≤ moment + microseconds schedule.intervalSeconds := by
  simp only [jobSchedules, List.mem_cons, List.not_mem_nil, or_false] at known
  rcases known with rfl | rfl
  · have step (moment : Int) : moment < moment + 60 * 1000000 ∧
        moment + 60 * 1000000 ≤ moment + 60 * 1000000 := by omega
    exact step moment
  · have step (moment : Int) :
        let candidate := moment - moment % (3600 * 1000000) + 60 * 17 * 1000000
        let next := if candidate ≤ moment then candidate + 3600 * 1000000 else candidate
        moment < next ∧ next ≤ moment + 3600 * 1000000 := by
      intro candidate next
      by_cases past : candidate ≤ moment
      · simp only [next, if_pos past]
        omega
      · simp only [next, if_neg past]
        omega
    exact step moment

/-! ### Health -/

inductive Health where
  | healthy
  | overdue
  | failing
  | disabled
  deriving DecidableEq

/-- The last success, or before the first one the start of the monitoring, is too long ago. -/
def isOverdue (schedule : JobSchedule) (state : ScheduledJobState) (now : Time) : Bool :=
  now - state.lastSuccessAt.getD state.createdAt > microseconds schedule.overdueAfterSeconds

def computeHealth (schedule : JobSchedule) (state : ScheduledJobState)
    (lastFinished : Option ScheduledJobRun) (now : Time) (enabled : Bool) : Health :=
  let everRan := state.lastStartedAt.isSome || lastFinished.isSome
  if !enabled && !everRan then .disabled
  else if lastFinished.any (·.status = .failed) then .failing
  else if isOverdue schedule state now then .overdue
  else .healthy

def nextExpectedAt (schedule : JobSchedule) (state : ScheduledJobState) (now : Time) : Time :=
  schedule.nextAfter (state.lastStartedAt.getD now)

/-- An entry of the `jobs` of `jobs_overview`. -/
structure JobOverview where
  job : PyStr
  health : Health
  overdue : Bool
  intervalSeconds : Int
  overdueAfterSeconds : Int
  lastRun : Option ScheduledJobRun
  lastSuccessAt : Option Time
  lastFailureAt : Option Time
  lastSkippedAt : Option Time
  lastDurationMs : Option Int
  lastCounts : Counts
  nextExpectedAt : Time
  succeeded : Nat
  failed : Nat
  skippedLockedTotal : Int

/-- The latest start first, and the highest id of one moment. -/
def ScheduledJobRun.order (row : ScheduledJobRun) : Time ×ₗ Nat := toLex (row.startedAt, row.id)

namespace JobsWorld
variable (world : JobsWorld)

/-- `order_by('-started_at', '-id').first()` -/
def lastRun (job : PyStr) (wanted : RunStatus → Bool) : Option ScheduledJobRun :=
  (newestFirst ScheduledJobRun.order
    (world.runs.filter fun row => row.job = job && wanted row.status)).head?

/-- `ensure_states`: a state that is missing is created. -/
def ensuredState (job : PyStr) (now : Time) : ScheduledJobState :=
  (world.states.find? (·.job = job)).getD ⟨job, now, none, none, none, none, none⟩

/-- The runs of the last 24 hours with a status. -/
def recentRuns (job : PyStr) (status : RunStatus) (now : Time) : Nat :=
  world.runs.countP fun row =>
    row.job = job && now - 24 * hour ≤ row.startedAt && row.status = status

def jobOverview (enabled : Bool) (now : Time) (schedule : JobSchedule) : JobOverview :=
  let name := schedule.spec.name
  let state := world.ensuredState name now
  let finished := world.lastRun name (· ≠ .running)
  let lastSuccess :=
    if finished.any (·.status = .succeeded) then finished else world.lastRun name (· = .succeeded)
  { job := name
    health := computeHealth schedule state finished now enabled
    overdue := isOverdue schedule state now
    intervalSeconds := schedule.intervalSeconds
    overdueAfterSeconds := schedule.overdueAfterSeconds
    lastRun := world.lastRun name fun _ => true
    lastSuccessAt := state.lastSuccessAt
    lastFailureAt := state.lastFailureAt
    lastSkippedAt := state.lastSkippedAt
    lastDurationMs := state.lastDurationMs
    lastCounts := (lastSuccess.map (·.counts)).getD []
    nextExpectedAt := nextExpectedAt schedule state now
    succeeded := world.recentRuns name .succeeded now
    failed := world.recentRuns name .failed now
    skippedLockedTotal := world.counter name (runsCounter .skippedLocked) }

/-- `jobs_overview` -/
def jobsOverview (enabled : Bool) (now : Time) : List JobOverview :=
  jobSchedules.map (world.jobOverview enabled now)

end JobsWorld

/-! ### What the runs report -/

abbrev JobLog := List (Entry JobCall JobsWorld)

/-- The call creates the row of a run of the job. -/
def CreatesRun (job : PyStr) : Entry JobCall JobsWorld → Prop
  | ⟨.createRun name _ _ _, _⟩ => name = job
  | _ => False

/-- The call is the block of a run, which returns. -/
def BlockReturns : Entry JobCall JobsWorld → Prop
  | ⟨.block (.ok _), _⟩ => True
  | _ => False

/-- The call saves that the run has succeeded at a time. -/
def SavesSuccess (time : Time) : Entry JobCall JobsWorld → Prop
  | ⟨.saveRun _ result, _⟩ => result.status = .succeeded ∧ result.finishedAt = time
  | _ => False

/-- The call sets the state of the job to the start of a run. -/
def ReportsStart (job : PyStr) : Entry JobCall JobsWorld → Prop
  | ⟨.updateState name (.lastStartedAt _), _⟩ => name = job
  | _ => False

/-- The call sets the state of the job to a success. -/
def ReportsSuccess (job : PyStr) : Entry JobCall JobsWorld → Prop
  | ⟨.updateState name (.finished _ true _), _⟩ => name = job
  | _ => False

/-- A run of the job has done its work and saved its row as a success at a time. -/
structure RunSucceeded (job : PyStr) (time : Time) (log : JobLog) : Prop where
  created : ∃ entry ∈ log, CreatesRun job entry
  returned : ∃ entry ∈ log, BlockReturns entry
  saved : ∃ entry ∈ log, SavesSuccess time entry

theorem RunSucceeded.mono {job : PyStr} {time : Time} {log last : JobLog}
    (succeeded : RunSucceeded job time log) (grown : log <+: last) : RunSucceeded job time last where
  created := succeeded.created.imp fun _ made => ⟨grown.subset made.1, made.2⟩
  returned := succeeded.returned.imp fun _ made => ⟨grown.subset made.1, made.2⟩
  saved := succeeded.saved.imp fun _ made => ⟨grown.subset made.1, made.2⟩

/-- A success is reported by a run that has had it. -/
def ReportWarrant (log : JobLog) : ∀ β, JobCall β → JobsWorld → Prop
  | _, .updateState job (.finished _ true time), _ => RunSucceeded job time log
  | _, _, _ => True

abbrev ReportReady {α : Type} (log : JobLog) (body : JobProgram α) : Prop :=
  body.Ready JobCall.handle (fun _ => True) ReportWarrant log

/-- The call reports no success. -/
def NoSuccess : ∀ β, JobCall β → Prop
  | _, .updateState _ (.finished _ true _) => False
  | _, _ => True

variable {α : Type} {log : JobLog}

theorem noSuccess_ready {body : JobProgram α} (every : body.All NoSuccess) : ReportReady log body := by
  refine every.ready fun log β op state silent => ?_
  cases op with
  | updateState job columns =>
    rcases columns with time | time | ⟨duration, _ | _, time⟩
    · trivial
    · trivial
    · trivial
    · exact silent.elim
  | _ => trivial

theorem getOrCreateCounter_noSuccess (job name : PyStr) (value : Int) :
    (getOrCreateCounter job name value).All NoSuccess := by
  refine Prog.all_perform_bind.mpr ⟨trivial, fun found => ?_⟩
  cases found with
  | some counter => trivial
  | none =>
    refine Prog.All.tryCatch (Prog.all_perform_bind.mpr ⟨trivial, fun _ => trivial⟩) fun error => ?_
    refine Prog.all_perform_bind.mpr ⟨trivial, fun found => ?_⟩
    split <;> trivial

theorem increment_noSuccess (job name : PyStr) (amount : Int) :
    (increment job name amount).All NoSuccess := by
  unfold increment
  split
  · trivial
  · refine Prog.all_perform_bind.mpr ⟨trivial, fun updated => ?_⟩
    split
    · trivial
    · refine (getOrCreateCounter_noSuccess job name amount).bind fun found => ?_
      cases found with
      | none => trivial
      | some counter => exact Prog.all_perform_bind.mpr ⟨trivial, fun _ => trivial⟩

theorem ensureState_noSuccess (job : PyStr) : (ensureState job).All NoSuccess := by
  refine Prog.all_perform_bind.mpr ⟨trivial, fun found => ?_⟩
  split
  · trivial
  · refine Prog.All.tryCatch (Prog.all_perform.mpr trivial) fun error => ?_
    refine Prog.all_perform_bind.mpr ⟨trivial, fun found => ?_⟩
    split <;> trivial

theorem markInterrupted_noSuccess (spec : JobSpec) (current : ScheduledJobRun) :
    (markInterrupted spec current).All NoSuccess := by
  refine Prog.all_perform_bind.mpr ⟨trivial, fun count => ?_⟩
  split
  · exact increment_noSuccess _ _ _
  · trivial

theorem counts_noSuccess (spec : JobSpec) (status : RunStatus) (counts : Counts) :
    (increment spec.name (runsCounter status) 1 >>= fun _ =>
      Prog.forEach (fun (kind, amount) => increment spec.name (itemsCounter kind) amount)
        (intCounts spec counts)).All NoSuccess :=
  (increment_noSuccess _ _ _).bind fun _ => Prog.All.forEach fun _ _ => increment_noSuccess _ _ _

/-- A finished run reports a success only after it has saved it. -/
theorem finish_ready (run : ScheduledJobRun) (spec : JobSpec) (started : Time) (counts : Counts)
    (exc : Option JobError) (earned : exc = none →
      (∃ entry ∈ log, CreatesRun spec.name entry) ∧ ∃ entry ∈ log, BlockReturns entry) :
    ReportReady log (finish run spec started counts exc) := by
  refine ⟨Prog.prompted_perform_bind fun world _ now read => ?_, fun _ => trivial⟩
  refine ⟨trivial, Prog.prompted_perform_bind fun timed _ ended _ => ?_⟩
  refine ⟨trivial, Prog.prompted_perform_bind fun logged _ event _ => ?_⟩
  refine ⟨trivial, Prog.prompted_perform_bind fun saving _ _ _ => ?_⟩
  have rest (last : JobLog) : ReportReady last _ := noSuccess_ready
    (counts_noSuccess spec (if exc.isNone then RunStatus.succeeded else .failed) counts)
  constructor
  · cases exc with
    | some error => trivial
    | none =>
      obtain ⟨created, returned⟩ := earned rfl
      have kept {entry : Entry JobCall JobsWorld} (made : entry ∈ log) {a b c d : Entry JobCall JobsWorld} :
          entry ∈ log ++ [a] ++ [b] ++ [c] ++ [d] := by simp [made]
      exact ⟨created.imp fun _ made => ⟨kept made.1, made.2⟩,
        returned.imp fun _ made => ⟨kept made.1, made.2⟩, _, List.mem_concat_self, rfl, rfl⟩
  · exact Prog.prompted_perform_bind fun _ _ _ _ => ⟨(rest _).2 _, (rest _).1⟩

theorem orLogged_ready {body : JobProgram Unit} (ready : ReportReady log body) :
    ReportReady log (orLogged body) :=
  ready.tryCatch fun _ _ _ => ⟨trivial, fun _ => trivial⟩

/-- The block of a run, and the record of how it ended. -/
theorem block_ready (run : ScheduledJobRun) (spec : JobSpec) (started : Time)
    (outcome : Except JobError Counts) (created : ∃ entry ∈ log, CreatesRun spec.name entry) :
    ReportReady log (tryCatch (Prog.perform (.block outcome)) (fun error => do
        orLogged (finish run spec started [] (some error))
        throw error) >>= fun counts =>
      orLogged (finish run spec started counts none) >>= fun _ => return run.id) := by
  refine ⟨fun world _ => ?_, fun _ => trivial⟩
  cases outcome with
  | error error =>
    have failed (last : JobLog) : ReportReady last
        ((orLogged (finish run spec started [] (some error)) >>= fun _ => .raise error) >>=
          fun counts => orLogged (finish run spec started counts none) >>= fun _ => return run.id) := by
      rw [Prog.bind_assoc]
      refine (orLogged_ready (finish_ready run spec started [] (some error) fun none => by cases none)).bind ?_
      exact fun _ _ _ => ⟨trivial, fun _ => trivial⟩
    exact ⟨(failed _).2 _, (failed _).1⟩
  | ok counts =>
    have grown := List.prefix_append log [⟨JobCall.block (.ok counts), world⟩]
    have finished : ReportReady (log ++ [⟨.block (.ok counts), world⟩])
        (orLogged (finish run spec started counts none) >>= fun _ => return run.id) :=
      (orLogged_ready (finish_ready run spec started counts none fun _ =>
        ⟨created.imp fun _ made => ⟨grown.subset made.1, made.2⟩, _, List.mem_concat_self, trivial⟩)).bind
          fun _ _ _ => ⟨trivial, fun _ => trivial⟩
    exact ⟨finished.2 _, finished.1⟩

theorem recordRun_ready (job : PyStr) (trigger : RunTrigger) (host : PyStr)
    (outcome : Except JobError Counts) : ReportReady log (recordRun job trigger host outcome) := by
  unfold recordRun
  rcases getJob job with error | spec
  · exact ⟨trivial, fun _ => trivial⟩
  have silent {β : Type} (op : JobCall β) (quiet : NoSuccess β op) (log : JobLog) :
      ReportReady log (Prog.perform op) := noSuccess_ready (Prog.all_perform.mpr quiet)
  have later {first second : JobLog} (created : ∃ entry ∈ first, CreatesRun spec.name entry)
      (grown : first <+: second) : ∃ entry ∈ second, CreatesRun spec.name entry :=
    created.imp fun _ made => ⟨grown.subset made.1, made.2⟩
  refine (silent .now trivial log).bind fun timed startedAt _ => ?_
  have rest (run : ScheduledJobRun) (made : JobLog) (created : ∃ entry ∈ made, CreatesRun spec.name entry) :
      ReportReady made (do
        ensureState spec.name
        Prog.perform (.updateState spec.name (.lastStartedAt run.startedAt))
        markInterrupted spec run
        let started ← Prog.perform .monotonic
        let counts ← tryCatch (Prog.perform (.block outcome)) fun error => do
          orLogged (finish run spec started [] (some error))
          throw error
        orLogged (finish run spec started counts none)
        return run.id) := by
    refine (noSuccess_ready (ensureState_noSuccess spec.name)).bind fun ensured _ first => ?_
    refine (silent (.updateState spec.name (.lastStartedAt run.startedAt)) trivial ensured).bind fun reported _ second => ?_
    refine (noSuccess_ready (markInterrupted_noSuccess spec run)).bind fun marked _ third => ?_
    refine (silent .monotonic trivial marked).bind fun last started fourth => ?_
    exact block_ready run spec started outcome
      (later created (((first.trans second).trans third).trans fourth))
  refine ⟨Prog.prompted_perform_bind fun creating _ run _ => ?_, fun _ => trivial⟩
  have created : ∃ entry ∈ timed ++ [⟨JobCall.createRun spec.name trigger startedAt host, creating⟩],
      CreatesRun spec.name entry := ⟨_, List.mem_concat_self, rfl⟩
  exact ⟨(rest run _ created).2 _, (rest run _ created).1⟩

theorem recordSkipped_noSuccess (job : PyStr) : (recordSkipped job).All NoSuccess := by
  unfold recordSkipped
  rcases getJob job with error | spec
  · trivial
  refine (ensureState_noSuccess spec.name).bind fun _ => ?_
  refine Prog.all_perform_bind.mpr ⟨trivial, fun now => ?_⟩
  exact Prog.all_perform_bind.mpr ⟨trivial, fun _ => increment_noSuccess _ _ _⟩

theorem runRecorded_ready (job : PyStr) (trigger : RunTrigger) (host : PyStr)
    (outcome : Except JobError Counts) : ReportReady log (runRecorded job trigger host outcome) :=
  (recordRun_ready job trigger host outcome).tryCatch fun _ _ _ => ⟨trivial, fun _ => trivial⟩

theorem jobTask_ready (task : JobTask) : ReportReady [] task.program := by
  have done (log : JobLog) : ReportReady log (return : JobProgram Unit) := ⟨trivial, fun _ => trivial⟩
  cases task with
  | command job host outcome => exact (runRecorded_ready job .command host outcome).bind fun _ _ _ => done _
  | celery job host acquired outcome =>
    refine Prog.Ready.tryCatch ?_ fun last error _ => ?_
    · rcases acquired with error | _ | _
      · exact ⟨trivial, fun _ => trivial⟩
      · exact noSuccess_ready (recordSkipped_noSuccess job)
      · exact (runRecorded_ready job .celery host outcome).bind fun _ _ _ => done _
    · split
      · exact done _
      · refine Prog.Ready.tryCatch ?_ fun _ _ _ => done _
        exact (recordRun_ready job .celery host (.error _)).bind fun _ _ _ => done _

/-! ### Every crew -/

/-- A run of the crew has made such a call. -/
def JobCrew.Made (crew : JobCrew) (test : Entry JobCall JobsWorld → Prop) : Prop :=
  ∃ thread ∈ crew.threads, ∃ entry ∈ thread.log, test entry

/-- What the states of the jobs owe to the runs: those of the migrations stay the first ones; a
success that is shown was had by a run; and what a run has reported is shown. -/
structure Reported (migratedAt : Time) (crew : JobCrew) : Prop where
  states : ∃ others, crew.shared.states.map (fun state => (state.job, state.createdAt)) =
    jobs.map (fun spec => (spec.name, migratedAt)) ++ others
  earned : ∀ state ∈ crew.shared.states, ∀ time, state.lastSuccessAt = some time →
    ∃ thread ∈ crew.threads, RunSucceeded state.job time thread.log
  started : ∀ spec ∈ jobs, crew.Made (ReportsStart spec.name) →
    ∀ state ∈ crew.shared.states, state.job = spec.name → state.lastStartedAt.isSome = true
  succeeded : ∀ spec ∈ jobs, crew.Made (ReportsSuccess spec.name) →
    ∀ state ∈ crew.shared.states, state.job = spec.name → state.lastSuccessAt.isSome = true

section
variable {shared later : JobsWorld} {left right : List (Thread JobCall JobError JobsWorld JobTask Unit)}
  {task : JobTask} {β : Type} {op : JobCall β} {next : Except JobError β → JobProgram Unit}
  {rest : JobProgram Unit} {migratedAt : Time}

theorem made_advance {test : Entry JobCall JobsWorld → Prop}
    (made : JobCrew.Made ⟨later, left ++ ⟨task, rest, log ++ [⟨op, shared⟩]⟩ :: right⟩ test) :
    JobCrew.Made ⟨shared, left ++ ⟨task, .call op next, log⟩ :: right⟩ test ∨ test ⟨op, shared⟩ := by
  obtain ⟨thread, member, entry, logged, passed⟩ := made
  rcases mem_middle.mp member with rfl | other
  · rcases List.mem_append.mp logged with old | new
    · exact .inl ⟨_, mem_middle.mpr (.inl rfl), entry, old, passed⟩
    · obtain rfl := List.mem_singleton.mp new
      exact .inr passed
  · exact .inl ⟨thread, mem_middle.mpr (.inr other), entry, logged, passed⟩

theorem succeeded_advance {job : PyStr} {time : Time}
    (succeeded : ∃ thread ∈ left ++ ⟨task, .call op next, log⟩ :: right, RunSucceeded job time thread.log) :
    ∃ thread ∈ left ++ (⟨task, rest, log ++ [⟨op, shared⟩]⟩ : Thread JobCall JobError JobsWorld JobTask Unit)
      :: right, RunSucceeded job time thread.log := by
  obtain ⟨thread, member, had⟩ := succeeded
  rcases mem_middle.mp member with rfl | other
  · exact ⟨_, mem_middle.mpr (.inl rfl), had.mono (List.prefix_append _ _)⟩
  · exact ⟨thread, mem_middle.mpr (.inr other), had⟩

/-- A state of a job is there from the start. -/
theorem Reported.present {crew : JobCrew} (reported : Reported migratedAt crew) {spec : JobSpec}
    (known : spec ∈ jobs) : crew.shared.states.any (·.job = spec.name) = true := by
  obtain ⟨others, listed⟩ := reported.states
  have member : (spec.name, migratedAt) ∈
      crew.shared.states.map (fun state => (state.job, state.createdAt)) := by
    rw [listed]
    exact List.mem_append_left _ (List.mem_map_of_mem known)
  obtain ⟨state, present, same⟩ := List.mem_map.mp member
  exact List.any_eq_true.mpr ⟨state, present, decide_eq_true (congrArg Prod.fst same)⟩

/-- A call that leaves the states as they are and reports nothing. -/
theorem Reported.silent
    (reported : Reported migratedAt ⟨shared, left ++ ⟨task, .call op next, log⟩ :: right⟩)
    (same : later.states = shared.states) (start : ∀ job, ¬ ReportsStart job ⟨op, shared⟩)
    (success : ∀ job, ¬ ReportsSuccess job ⟨op, shared⟩) :
    Reported migratedAt ⟨later, left ++ ⟨task, rest, log ++ [⟨op, shared⟩]⟩ :: right⟩ where
  states := same ▸ reported.states
  earned state member time shown :=
    succeeded_advance (reported.earned state (same ▸ member) time shown)
  started spec known made state member :=
    reported.started spec known ((made_advance made).resolve_right (start _)) state (same ▸ member)
  succeeded spec known made state member :=
    reported.succeeded spec known ((made_advance made).resolve_right (success _)) state (same ▸ member)

/-- A state that is missing is added after the others, and nobody has reported to it. -/
theorem Reported.creates {job : PyStr} {after : Except JobError Unit → JobProgram Unit}
    (reported : Reported migratedAt ⟨shared, left ++ ⟨task, .call (.createState job) after, log⟩ :: right⟩)
    (missing : shared.states.any (·.job = job) = false) :
    Reported migratedAt ⟨{ shared with states := shared.states ++ [shared.newState job] },
      left ++ ⟨task, rest, log ++ [⟨.createState job, shared⟩]⟩ :: right⟩ := by
  have foreign (spec : JobSpec) (known : spec ∈ jobs) : job ≠ spec.name := by
    rintro rfl
    exact absurd ((reported.present known).symm.trans missing) (by decide)
  obtain ⟨others, listed⟩ := reported.states
  constructor
  case states =>
    refine ⟨others ++ [(job, shared.clock)], ?_⟩
    rw [List.map_append, listed, List.append_assoc]
    rfl
  case earned =>
    intro state member time shown
    rcases List.mem_append.mp member with old | new
    · exact succeeded_advance (reported.earned state old time shown)
    · obtain rfl := List.mem_singleton.mp new
      cases shown
  case started =>
    intro spec known made state member same
    rcases List.mem_append.mp member with old | new
    · exact reported.started spec known ((made_advance made).resolve_right id) state old same
    · obtain rfl := List.mem_singleton.mp new
      exact absurd same (foreign spec known)
  case succeeded =>
    intro spec known made state member same
    rcases List.mem_append.mp member with old | new
    · exact reported.succeeded spec known ((made_advance made).resolve_right id) state old same
    · obtain rfl := List.mem_singleton.mp new
      exact absurd same (foreign spec known)

theorem assign_started (columns : StateColumns) {state : ScheduledJobState}
    (started : state.lastStartedAt.isSome = true) : (state.assign columns).lastStartedAt.isSome = true := by
  rcases columns with _ | _ | ⟨_, _ | _, _⟩
  · rfl
  all_goals exact started

theorem assign_succeeded (columns : StateColumns) {state : ScheduledJobState}
    (succeeded : state.lastSuccessAt.isSome = true) :
    (state.assign columns).lastSuccessAt.isSome = true := by
  rcases columns with _ | _ | ⟨_, _ | _, _⟩
  case finished.true => rfl
  all_goals exact succeeded

/-- A report changes the states of its job as it says. -/
theorem Reported.updates {job : PyStr} {columns : StateColumns}
    {after : Except JobError Unit → JobProgram Unit}
    (reported : Reported migratedAt
      ⟨shared, left ++ ⟨task, .call (.updateState job columns) after, log⟩ :: right⟩)
    (warranted : ReportWarrant log _ (.updateState job columns) shared) :
    Reported migratedAt
      ⟨{ shared with states := update (·.job = job) (·.assign columns) shared.states },
        left ++ ⟨task, rest, log ++ [⟨.updateState job columns, shared⟩]⟩ :: right⟩ := by
  constructor
  case states =>
    obtain ⟨others, listed⟩ := reported.states
    refine ⟨others, (update_map fun state _ _ => ?_).trans listed⟩
    rcases columns with time | time | ⟨duration, _ | _, time⟩ <;> rfl
  case earned =>
    intro state member time shown
    obtain ⟨old, present, ⟨rfl, hit⟩ | ⟨rfl, _⟩⟩ := mem_update member
    · rw [ScheduledJobState.assign_job]
      rcases columns with moment | moment | ⟨duration, _ | _, moment⟩
      · exact succeeded_advance (reported.earned old present time shown)
      · exact succeeded_advance (reported.earned old present time shown)
      · exact succeeded_advance (reported.earned old present time shown)
      · obtain rfl := Option.some.inj shown
        refine ⟨_, mem_middle.mpr (.inl rfl), ?_⟩
        rw [hit]
        exact RunSucceeded.mono warranted (List.prefix_append _ _)
    · exact succeeded_advance (reported.earned state present time shown)
  case started =>
    intro spec known made state member same
    obtain ⟨old, present, ⟨rfl, hit⟩ | ⟨rfl, missed⟩⟩ := mem_update member
    · rw [ScheduledJobState.assign_job] at same
      rcases made_advance made with early | now
      · exact assign_started columns (reported.started spec known early old present same)
      · rcases columns with moment | moment | ⟨duration, _ | _, moment⟩
        · rfl
        all_goals exact now.elim
    · rcases made_advance made with early | now
      · exact reported.started spec known early state present same
      · rcases columns with moment | moment | ⟨duration, _ | _, moment⟩
        · exact absurd (same.trans (Eq.symm now)) missed
        all_goals exact now.elim
  case succeeded =>
    intro spec known made state member same
    obtain ⟨old, present, ⟨rfl, hit⟩ | ⟨rfl, missed⟩⟩ := mem_update member
    · rw [ScheduledJobState.assign_job] at same
      rcases made_advance made with early | now
      · exact assign_succeeded columns (reported.succeeded spec known early old present same)
      · rcases columns with moment | moment | ⟨duration, _ | _, moment⟩
        case finished.true => rfl
        all_goals exact now.elim
    · rcases made_advance made with early | now
      · exact reported.succeeded spec known early state present same
      · rcases columns with moment | moment | ⟨duration, _ | _, moment⟩
        case finished.true => exact absurd (same.trans (Eq.symm now)) missed
        all_goals exact now.elim

/-- One call of one run. -/
theorem Reported.advance
    (reported : Reported migratedAt ⟨shared, left ++ ⟨task, .call op next, log⟩ :: right⟩)
    (warranted : ReportWarrant log _ op shared) :
    Reported migratedAt ⟨(JobCall.handle β op shared).2,
      left ++ ⟨task, next (JobCall.handle β op shared).1, log ++ [⟨op, shared⟩]⟩ :: right⟩ := by
  cases op with
  | createState job =>
    simp only [JobCall.handle]
    rcases present : shared.states.any (·.job = job) with _ | _
    · exact reported.creates present
    · exact reported.silent rfl (fun _ => id) fun _ => id
  | updateState job columns => exact reported.updates warranted
  | createCounter job name value =>
    simp only [JobCall.handle]
    split
    · exact reported.silent rfl (fun _ => id) fun _ => id
    · exact reported.silent rfl (fun _ => id) fun _ => id
  | saveRun row result =>
    simp only [JobCall.handle]
    split
    · exact reported.silent rfl (fun _ => id) fun _ => id
    · exact reported.silent rfl (fun _ => id) fun _ => id
  | _ => exact reported.silent rfl (fun _ => id) fun _ => id

theorem Reported.start (clock monotonic : Time) (nextEvent : Nat) :
    Reported clock ⟨.migrated clock monotonic nextEvent, []⟩ where
  states := ⟨[], by rw [JobsWorld.migrated, List.append_nil, List.map_map]; rfl⟩
  earned state member time shown := by
    obtain ⟨spec, _, rfl⟩ := List.mem_map.mp member
    cases shown
  started spec known made := by
    obtain ⟨thread, member, _⟩ := made
    cases member
  succeeded spec known made := by
    obtain ⟨thread, member, _⟩ := made
    cases member

/-- What changes from outside leaves the states as they are. -/
theorem JobsWorld.Outside.states {before after : JobsWorld} (changed : before.Outside after) :
    after.states = before.states := by
  cases changed with
  | passes span ticks => rfl
  | logs count => rfl
  | purges ids old => rfl

theorem JobCrew.Reaches.reported {clock monotonic : Time} {nextEvent : Nat} {crew : JobCrew}
    (path : JobCrew.Reaches ⟨.migrated clock monotonic nextEvent, []⟩ crew) :
    Reported clock crew ∧ crew.Warranted JobCall.handle (fun _ => True) ReportWarrant := by
  induction path with
  | refl => exact ⟨.start clock monotonic nextEvent, fun thread member => by cases member⟩
  | @tail before after _ last ih =>
    obtain ⟨reported, warranted⟩ := ih
    have step : Crew.StepIf JobCall.handle JobTask.program JobsWorld.Outside (fun _ _ _ => True)
        before after := by
      cases last with
      | arrive task => exact .arrive task
      | change later changed => exact .change later changed
      | advance op next log => exact .advance op next log trivial
    refine ⟨?_, step.warranted jobTask_ready ?_ ?_ trivial warranted⟩
    · cases last with
      | arrive task =>
        have older {test : Entry JobCall JobsWorld → Prop} {threads : List (Thread _ _ _ _ _)} {shared : JobsWorld}
            (made : JobCrew.Made ⟨shared, ⟨task, task.program, []⟩ :: threads⟩ test) :
            JobCrew.Made ⟨shared, threads⟩ test := by
          obtain ⟨thread, member, entry, logged, passed⟩ := made
          rcases List.mem_cons.mp member with rfl | old
          · cases logged
          · exact ⟨thread, old, entry, logged, passed⟩
        refine ⟨reported.states, fun state member time shown => ?_, ?_, ?_⟩
        · obtain ⟨thread, old, had⟩ := reported.earned state member time shown
          exact ⟨thread, List.mem_cons_of_mem _ old, had⟩
        · exact fun spec known made => reported.started spec known (older made)
        · exact fun spec known made => reported.succeeded spec known (older made)
      | change later changed =>
        have same := changed.states
        exact ⟨same ▸ reported.states, same ▸ reported.earned, same ▸ reported.started,
          same ▸ reported.succeeded⟩
      | advance op next log => exact reported.advance (warranted _ (mem_middle.mpr (.inl rfl))).1
    · intro first second _ _ log β op owed
      cases op with
      | updateState job columns => rcases columns with _ | _ | ⟨_, _ | _, _⟩ <;> exact owed
      | _ => trivial
    · intro β γ op other _ _ _ _ _ _ owed
      cases other with
      | updateState job columns => rcases columns with _ | _ | ⟨_, _ | _, _⟩ <;> exact owed
      | _ => trivial

end

/-! ### What the staff sees -/

/-- The state of a job is the one of the migrations. -/
theorem Reported.ensured {migratedAt : Time} {crew : JobCrew} (reported : Reported migratedAt crew)
    {schedule : JobSchedule} (known : schedule ∈ jobSchedules) (now : Time) :
    let state := crew.shared.ensuredState schedule.spec.name now
    state ∈ crew.shared.states ∧ state.job = schedule.spec.name ∧ state.createdAt = migratedAt := by
  obtain ⟨others, listed⟩ := reported.states
  obtain ⟨first, rest, split, head, tail⟩ := List.map_eq_cons_iff.mp listed
  obtain ⟨second, rest, rfl, next, -⟩ := List.map_eq_cons_iff.mp tail
  obtain ⟨firstJob, firstAt⟩ := Prod.mk.inj head
  obtain ⟨secondJob, secondAt⟩ := Prod.mk.inj next
  have other : first.job ≠ purgeExpiredDataJob.name := by
    rw [firstJob]
    decide
  simp only [jobSchedules, List.mem_cons, List.not_mem_nil, or_false] at known
  rcases known with rfl | rfl
  · have found : crew.shared.ensuredState retryWebhooksJob.name now = first := by
      simp [JobsWorld.ensuredState, split, firstJob]
    simp [found, split, firstJob, firstAt]
  · have found : crew.shared.ensuredState purgeExpiredDataJob.name now = second := by
      simp [JobsWorld.ensuredState, split, other, secondJob]
    simp [found, split, secondJob, secondAt]

theorem lastRun_some {world : JobsWorld} {job : PyStr} {wanted : RunStatus → Bool} {row : ScheduledJobRun}
    (found : world.lastRun job wanted = some row) :
    row ∈ world.runs ∧ row.job = job ∧ wanted row.status = true ∧ ∀ other ∈ world.runs,
      other.job = job → wanted other.status = true → other.order ≤ row.order := by
  rw [JobsWorld.lastRun] at found
  obtain ⟨older, split⟩ := List.head?_eq_some_iff.mp found
  have listed (other : ScheduledJobRun) : other ∈ row :: older ↔
      other ∈ world.runs ∧ other.job = job ∧ wanted other.status = true := by
    rw [← split, mem_newestFirst, List.mem_filter, Bool.and_eq_true, decide_eq_true_eq]
  have sorted := pairwise_newestFirst ScheduledJobRun.order
    (world.runs.filter fun row => row.job = job && wanted row.status)
  rw [split] at sorted
  obtain ⟨present, same, passes⟩ := (listed row).mp List.mem_cons_self
  refine ⟨present, same, passes, fun other member named wants => ?_⟩
  rcases List.mem_cons.mp ((listed other).mpr ⟨member, named, wants⟩) with rfl | later
  · exact le_rfl
  · exact (List.pairwise_cons.mp sorted).1 other later

theorem lastRun_none {world : JobsWorld} {job : PyStr} {wanted : RunStatus → Bool}
    (none : world.lastRun job wanted = none) {row : ScheduledJobRun} (present : row ∈ world.runs)
    (same : row.job = job) : wanted row.status = false := by
  rw [JobsWorld.lastRun, List.head?_eq_none_iff] at none
  refine Bool.eq_false_iff.mpr fun wants => ?_
  have listed : row ∈ newestFirst ScheduledJobRun.order
      (world.runs.filter fun row => row.job = job && wanted row.status) := by
    rw [mem_newestFirst, List.mem_filter]
    exact ⟨present, by simp [same, wants]⟩
  rw [none] at listed
  cases listed

/-- What the health of a job says about its runs. -/
structure JobOverview.Earned (migratedAt now : Time) (crew : JobCrew) (overview : JobOverview) :
    Prop where
  /-- A success within the limit, or none yet and the monitoring as young. -/
  healthy : overview.health = .healthy →
    (∃ thread ∈ crew.threads, ∃ time, RunSucceeded overview.job time thread.log ∧
      now - time ≤ microseconds overview.overdueAfterSeconds) ∨
    ¬ crew.Made (ReportsSuccess overview.job) ∧
      now - migratedAt ≤ microseconds overview.overdueAfterSeconds
  overdue : overview.overdue = true →
    (∃ thread ∈ crew.threads, ∃ time, RunSucceeded overview.job time thread.log ∧
      microseconds overview.overdueAfterSeconds < now - time) ∨
    ¬ crew.Made (ReportsSuccess overview.job) ∧
      microseconds overview.overdueAfterSeconds < now - migratedAt
  /-- The newest of the finished runs has failed. -/
  failing : overview.health = .failing → ∃ row ∈ crew.shared.runs, row.job = overview.job ∧
    row.status = .failed ∧ ∀ other ∈ crew.shared.runs, other.job = overview.job →
      other.status ≠ .running → other.order ≤ row.order
  disabled : overview.health = .disabled → ¬ crew.Made (ReportsStart overview.job) ∧
    ∀ row ∈ crew.shared.runs, row.job = overview.job → row.status = .running

/-- Health is never shown without cause: over any interleaving of the runs of the jobs, started
by Celery or by a command, with any outcomes, and at any moment. -/
theorem health_is_earned (clock monotonic : Time) (nextEvent : Nat) {crew : JobCrew}
    (path : JobCrew.Reaches ⟨.migrated clock monotonic nextEvent, []⟩ crew) (enabled : Bool)
    (now : Time) :
    ∀ overview ∈ crew.shared.jobsOverview enabled now, overview.Earned clock now crew := by
  intro overview member
  obtain ⟨schedule, known, rfl⟩ := List.mem_map.mp member
  have reported := path.reported.1
  have spec : schedule.spec ∈ jobs := by
    simp only [jobSchedules, List.mem_cons, List.not_mem_nil, or_false] at known
    rcases known with rfl | rfl <;> simp [jobs]
  obtain ⟨present, named, created⟩ := reported.ensured known now
  have reference : (∃ thread ∈ crew.threads, ∃ time, RunSucceeded schedule.spec.name time thread.log ∧
        (crew.shared.ensuredState schedule.spec.name now).lastSuccessAt = some time) ∨
      ¬ crew.Made (ReportsSuccess schedule.spec.name) ∧
        (crew.shared.ensuredState schedule.spec.name now).lastSuccessAt = none := by
    rcases shown : (crew.shared.ensuredState schedule.spec.name now).lastSuccessAt with _ | time
    · refine .inr ⟨fun made => ?_, rfl⟩
      have some := reported.succeeded schedule.spec spec made _ present named
      rw [shown] at some
      cases some
    · obtain ⟨thread, running, succeeded⟩ := reported.earned _ present time shown
      exact .inl ⟨thread, running, time, named ▸ succeeded, rfl⟩
  have judged : ∀ verdict : Time → Prop,
      verdict ((crew.shared.ensuredState schedule.spec.name now).lastSuccessAt.getD clock) →
      (∃ thread ∈ crew.threads, ∃ time, RunSucceeded schedule.spec.name time thread.log ∧ verdict time) ∨
        ¬ crew.Made (ReportsSuccess schedule.spec.name) ∧ verdict clock := by
    intro verdict judged
    rcases reference with ⟨thread, running, time, succeeded, shown⟩ | ⟨none, shown⟩
    · rw [shown] at judged
      exact .inl ⟨thread, running, time, succeeded, judged⟩
    · rw [shown] at judged
      exact .inr ⟨none, judged⟩
  constructor
  case healthy =>
    intro healthy
    refine judged (fun time => now - time ≤ microseconds schedule.overdueAfterSeconds) ?_
    simp only [JobsWorld.jobOverview, computeHealth, isOverdue, created] at healthy
    split at healthy
    · cases healthy
    · split at healthy
      · cases healthy
      · split at healthy
        · cases healthy
        · rename_i timely
          exact not_lt.mp fun late => timely (decide_eq_true late)
  case overdue =>
    intro overdue
    refine judged (fun time => microseconds schedule.overdueAfterSeconds < now - time) ?_
    simp only [JobsWorld.jobOverview, isOverdue, created, decide_eq_true_eq] at overdue
    exact overdue
  case failing =>
    intro failing
    simp only [JobsWorld.jobOverview, computeHealth] at failing
    split at failing
    · cases failing
    · split at failing
      · rename_i failed
        rcases newest : crew.shared.lastRun schedule.spec.name (· ≠ .running) with _ | row
        · rw [newest] at failed
          cases failed
        rw [newest] at failed
        have status : row.status = .failed := of_decide_eq_true failed
        obtain ⟨stored, same, -, latest⟩ := lastRun_some newest
        exact ⟨row, stored, same, status, fun other member named finished =>
          latest other member named (decide_eq_true finished)⟩
      · split at failing <;> cases failing
  case disabled =>
    intro disabled
    simp only [JobsWorld.jobOverview, computeHealth] at disabled
    split at disabled
    · rename_i off
      simp only [Bool.and_eq_true, Bool.not_eq_true', Bool.or_eq_false_iff] at off
      obtain ⟨-, never, nothing⟩ := off
      refine ⟨fun made => ?_, fun row stored same => ?_⟩
      · have some := reported.started schedule.spec spec made _ present named
        rw [never] at some
        cases some
      · have running := lastRun_none (Option.isSome_eq_false_iff.mp nothing |> Option.isNone_iff_eq_none.mp)
          stored same
        simpa using running
    · split at disabled
      · cases disabled
      · split at disabled <;> cases disabled

/-- A run of the retries that succeeds, around one that fails, and then nothing for four minutes. -/
theorem health_is_earned_overlapping :
    ((slowEnds 60000000 failingCommand).2.jobsOverview true
        ((slowEnds 60000000 failingCommand).2.clock + 240000000)).map
        (fun overview => (overview.health, overview.overdue)) =
      [(.failing, true), (.healthy, false)] ∧
    ∀ overview ∈ (slowEnds 60000000 failingCommand).2.jobsOverview true
        ((slowEnds 60000000 failingCommand).2.clock + 240000000),
      overview.Earned 0 ((slowEnds 60000000 failingCommand).2.clock + 240000000)
        ⟨(slowEnds 60000000 failingCommand).2,
          [(overtaking 60000000 failingCommand).1, (slowEnds 60000000 failingCommand).1]⟩ := by
  have reaches := (overtaking_reached 60000000 failingCommand).trans (slowEnds_reached 60000000 failingCommand)
  exact ⟨by decide +kernel, health_is_earned 0 0 1 reaches true _⟩

end HostingService
