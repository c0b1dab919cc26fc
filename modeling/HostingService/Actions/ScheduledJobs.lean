import HostingService.Hosting.Models
import HostingService.Program.Stages
import HostingService.Program.Tables

/-! The record of the scheduled jobs: one row a run, and the counters of all of them. -/

namespace HostingService

open Program Text

/-! ### Jobs -/

structure JobSpec where
  name : PyStr
  maxRuntimeSeconds : Int
  itemKinds : List PyStr

def retryWebhooksJob : JobSpec where
  name := lit "retry_webhooks"
  maxRuntimeSeconds := 120
  itemKinds := [lit "webhook_deliveries_attempted", lit "webhook_deliveries_succeeded",
    lit "webhook_deliveries_failed", lit "webhook_deliveries_given_up",
    lit "email_events_attempted", lit "email_events_succeeded", lit "email_events_failed",
    lit "email_events_given_up"]

def purgeExpiredDataJob : JobSpec where
  name := lit "purge_expired_data"
  maxRuntimeSeconds := 900
  itemKinds := [lit "events", lit "webhook_deliveries", lit "email_events", lit "scheduled_job_runs"]

/-- `JOBS` -/
def jobs : List JobSpec := [retryWebhooksJob, purgeExpiredDataJob]

inductive RunTrigger where
  | celery
  | command
  deriving DecidableEq

inductive RunStatus where
  | running
  | succeeded
  | failed
  | skippedLocked
  deriving DecidableEq

def RunStatus.text : RunStatus → PyStr
  | .running => lit "running"
  | .succeeded => lit "succeeded"
  | .failed => lit "failed"
  | .skippedLocked => lit "skipped_locked"

/-- A value of the dictionary of counts: `complete` of a purge is a bool. -/
inductive CountValue where
  | int (value : Int)
  | bool (value : Bool)
  deriving DecidableEq

abbrev Counts := List (PyStr × CountValue)

/-- `_int_counts` -/
def intCounts (spec : JobSpec) (counts : Counts) : List (PyStr × Int) :=
  spec.itemKinds.filterMap fun kind =>
    match counts.lookup kind with
    | some (.int value) => some (kind, value)
    | _ => none

/-- What `describe_error` gives of an exception. -/
structure ErrorDescription where
  errorKey : PyStr
  errorClass : PyStr
  errorMessage : PyStr
  deriving DecidableEq

def ErrorDescription.none : ErrorDescription := ⟨[], [], []⟩

inductive JobError where
  /-- Raised by the work of the job, or while the lock is taken. -/
  | raised (description : ErrorDescription)
  | valueError
  | integrityError
  | databaseError
  | scheduledJobFailed
  deriving DecidableEq

def describeError : JobError → ErrorDescription
  | .raised description => description
  | .valueError => ⟨lit "unexpected_error", lit "ValueError", lit "ValueError"⟩
  | .integrityError => ⟨lit "database_error", lit "IntegrityError", lit "IntegrityError"⟩
  | .databaseError => ⟨lit "database_error", lit "DatabaseError", lit "DatabaseError"⟩
  | .scheduledJobFailed =>
    ⟨lit "unexpected_error", lit "ScheduledJobFailed", lit "ScheduledJobFailed"⟩

def getJob (name : PyStr) : Except JobError JobSpec :=
  match jobs.find? (·.name = name) with
  | some spec => .ok spec
  | none => .error .valueError

/-! ### Tables -/

structure ScheduledJobRun where
  id : Nat
  job : PyStr
  trigger : RunTrigger
  status : RunStatus
  startedAt : Time
  finishedAt : Option Time
  durationMs : Option Int
  counts : Counts
  error : ErrorDescription
  host : PyStr
  eventLogId : Option Nat
  deriving DecidableEq

structure ScheduledJobState where
  job : PyStr
  createdAt : Time
  lastStartedAt : Option Time
  lastSuccessAt : Option Time
  lastFailureAt : Option Time
  lastSkippedAt : Option Time
  lastDurationMs : Option Int
  deriving DecidableEq

structure ScheduledJobCounter where
  id : Nat
  job : PyStr
  name : PyStr
  value : Int
  deriving DecidableEq

/-- The event that a finished run logs for the staff. -/
structure PlatformEvent where
  eventId : PyStr
  runId : Nat
  job : PyStr
  trigger : RunTrigger
  durationMs : Int
  counts : Counts
  host : PyStr
  error : ErrorDescription
  deriving DecidableEq

/-- The columns that `_finish` saves. -/
structure RunResult where
  status : RunStatus
  finishedAt : Time
  durationMs : Int
  counts : Counts
  error : ErrorDescription
  eventLogId : Nat

def ScheduledJobRun.assign (result : RunResult) (row : ScheduledJobRun) : ScheduledJobRun :=
  { row with
    status := result.status
    finishedAt := some result.finishedAt
    durationMs := some result.durationMs
    counts := result.counts
    error := result.error
    eventLogId := some result.eventLogId }

def interruptedError : ErrorDescription := ⟨lit "interrupted", [], []⟩

/-- The columns that `_mark_interrupted` updates. -/
def ScheduledJobRun.interrupt (finishedAt : Time) (row : ScheduledJobRun) : ScheduledJobRun :=
  { row with status := .failed, finishedAt := some finishedAt, error := interruptedError }

inductive StateColumns where
  | lastStartedAt (time : Time)
  | lastSkippedAt (time : Time)
  | finished (durationMs : Int) (succeeded : Bool) (time : Time)

def ScheduledJobState.assign : StateColumns → ScheduledJobState → ScheduledJobState
  | .lastStartedAt time, row => { row with lastStartedAt := some time }
  | .lastSkippedAt time, row => { row with lastSkippedAt := some time }
  | .finished durationMs true time, row =>
    { row with lastDurationMs := some durationMs, lastSuccessAt := some time }
  | .finished durationMs false time, row =>
    { row with lastDurationMs := some durationMs, lastFailureAt := some time }

@[simp] theorem ScheduledJobState.assign_job (columns : StateColumns) (row : ScheduledJobState) :
    (row.assign columns).job = row.job := by
  rcases columns with _ | _ | ⟨_, _ | _, _⟩ <;> rfl

def ScheduledJobCounter.add (amount : Int) (row : ScheduledJobCounter) : ScheduledJobCounter :=
  { row with value := row.value + amount }

structure JobsWorld where
  runs : List ScheduledJobRun
  /-- The rows that were deleted as older than the retention. -/
  purged : List ScheduledJobRun
  states : List ScheduledJobState
  counters : List ScheduledJobCounter
  events : List (Nat × PlatformEvent)
  nextRun : Nat
  nextCounter : Nat
  nextEvent : Nat
  clock : Time
  monotonic : Time

/-! ### Statements -/

inductive JobCall : Type → Type where
  | now : JobCall Time
  | monotonic : JobCall Time
  /-- `ScheduledJobRun.objects.create`, with the status `running` -/
  | createRun (job : PyStr) (trigger : RunTrigger) (startedAt : Time) (host : PyStr) :
      JobCall ScheduledJobRun
  | getState (job : PyStr) : JobCall Bool
  | createState (job : PyStr) : JobCall Unit
  | updateState (job : PyStr) (columns : StateColumns) : JobCall Unit
  /-- The update of `_mark_interrupted`: the rows that are still running, from before. -/
  | interruptRuns (job : PyStr) (cutoff : Time) (current : Nat) (finishedAt : Time) : JobCall Nat
  | filterCounter (job name : PyStr) (amount : Int) : JobCall Nat
  | getCounter (job name : PyStr) : JobCall (Option ScheduledJobCounter)
  | createCounter (job name : PyStr) (value : Int) : JobCall Unit
  | updateCounter (id : Nat) (amount : Int) : JobCall Nat
  | recordEvent (event : PlatformEvent) : JobCall Nat
  /-- `run.save(update_fields=...)` -/
  | saveRun (id : Nat) (result : RunResult) : JobCall Unit
  /-- The block of `with record_run(...)`, with what it comes to. -/
  | block (outcome : Except JobError Counts) : JobCall Counts

def ScheduledJobRun.Stale (job : PyStr) (cutoff : Time) (current : Nat) (row : ScheduledJobRun) :
    Prop :=
  row.job = job ∧ row.status = .running ∧ row.startedAt < cutoff ∧ row.id ≠ current

instance (job : PyStr) (cutoff : Time) (current : Nat) (row : ScheduledJobRun) :
    Decidable (row.Stale job cutoff current) :=
  inferInstanceAs (Decidable (_ ∧ _))

/-- The counter has the key. -/
def ScheduledJobCounter.Keyed (job name : PyStr) (row : ScheduledJobCounter) : Prop :=
  row.job = job ∧ row.name = name

instance (job name : PyStr) (row : ScheduledJobCounter) : Decidable (row.Keyed job name) :=
  inferInstanceAs (Decidable (_ ∧ _))

namespace JobsWorld

/-- The row that an INSERT adds. -/
def newRun (world : JobsWorld) (job : PyStr) (trigger : RunTrigger) (startedAt : Time)
    (host : PyStr) : ScheduledJobRun where
  id := world.nextRun
  job := job
  trigger := trigger
  status := .running
  startedAt := startedAt
  finishedAt := none
  durationMs := none
  counts := []
  error := .none
  host := host
  eventLogId := none

def newState (world : JobsWorld) (job : PyStr) : ScheduledJobState :=
  ⟨job, world.clock, none, none, none, none, none⟩

def findCounter (world : JobsWorld) (job name : PyStr) : Option ScheduledJobCounter :=
  world.counters.find? fun row => row.Keyed job name

def hasCounter (world : JobsWorld) (job name : PyStr) : Bool :=
  world.counters.any fun row => row.Keyed job name

def withCounter (world : JobsWorld) (job name : PyStr) (value : Int) : JobsWorld :=
  { world with
    counters := world.counters ++ [⟨world.nextCounter, job, name, value⟩]
    nextCounter := world.nextCounter + 1 }

end JobsWorld

def JobCall.handle : Handler JobCall JobError JobsWorld
  | _, .now, world => (.ok world.clock, world)
  | _, .monotonic, world => (.ok world.monotonic, world)
  | _, .createRun job trigger startedAt host, world =>
    let row := world.newRun job trigger startedAt host
    (.ok row, { world with runs := world.runs ++ [row], nextRun := world.nextRun + 1 })
  | _, .getState job, world => (.ok (world.states.any (·.job = job)), world)
  | _, .createState job, world =>
    if world.states.any (·.job = job) then (.error .integrityError, world)
    else (.ok (), { world with states := world.states ++ [world.newState job] })
  | _, .updateState job columns, world =>
    (.ok (), { world with states := update (·.job = job) (·.assign columns) world.states })
  | _, .interruptRuns job cutoff current finishedAt, world =>
    (.ok (world.runs.countP fun row => row.Stale job cutoff current),
      { world with runs := update (·.Stale job cutoff current) (·.interrupt finishedAt) world.runs })
  | _, .filterCounter job name amount, world =>
    (.ok (world.counters.countP fun row => row.Keyed job name),
      { world with counters := update (·.Keyed job name) (·.add amount) world.counters })
  | _, .getCounter job name, world => (.ok (world.findCounter job name), world)
  | _, .createCounter job name value, world =>
    if world.hasCounter job name then (.error .integrityError, world)
    else (.ok (), world.withCounter job name value)
  | _, .updateCounter id amount, world =>
    (.ok (world.counters.countP (·.id = id)),
      { world with counters := update (·.id = id) (·.add amount) world.counters })
  | _, .recordEvent event, world =>
    (.ok world.nextEvent, { world with
      events := world.events ++ [(world.nextEvent, event)], nextEvent := world.nextEvent + 1 })
  | _, .saveRun id result, world =>
    if world.runs.any (·.id = id) then
      (.ok (), { world with runs := update (·.id = id) (·.assign result) world.runs })
    else (.error .databaseError, world)
  | _, .block outcome, world => (outcome, world)

abbrev JobProgram := Prog JobCall JobError

/-! ### Counters and states -/

def runsCounter (status : RunStatus) : PyStr := lit "runs." ++ status.text

def itemsCounter (kind : PyStr) : PyStr := lit "items." ++ kind

/-- The insert of `get_or_create`, and its second look when another one was first. -/
def getOrCreateCounter (job name : PyStr) (value : Int) :
    JobProgram (Option ScheduledJobCounter) := do
  let found ← Prog.perform (.getCounter job name)
  match found with
  | some counter => return some counter
  | none =>
    tryCatch (Prog.perform (.createCounter job name value) >>= fun _ => return none) fun error => do
      let found ← Prog.perform (.getCounter job name)
      match error, found with
      | .integrityError, some counter => return some counter
      | error, _ => throw error

/-- `_increment` -/
def increment (job name : PyStr) (amount : Int) : JobProgram Unit := do
  if amount ≤ 0 then return
  let updated ← Prog.perform (.filterCounter job name amount)
  if updated ≠ 0 then return
  let found ← getOrCreateCounter job name amount
  match found with
  | none => return
  | some counter => Prog.perform (.updateCounter counter.id amount) >>= fun _ => return

/-- `_ensure_state` -/
def ensureState (job : PyStr) : JobProgram Unit := do
  let found ← Prog.perform (.getState job)
  if found then return
  tryCatch (Prog.perform (.createState job)) fun error => do
    let found ← Prog.perform (.getState job)
    if error = .integrityError ∧ found then return
    throw error

/-! ### Runs -/

/-- Seconds in the unit of the clock. -/
def microseconds (count : Int) : Time := count * 1000000

/-- `_mark_interrupted` -/
def markInterrupted (spec : JobSpec) (current : ScheduledJobRun) : JobProgram Unit := do
  let cutoff := current.startedAt - microseconds spec.maxRuntimeSeconds
  let count ← Prog.perform (.interruptRuns spec.name cutoff current.id current.startedAt)
  if count ≠ 0 then increment spec.name (runsCounter .failed) count

def eventSucceeded : PyStr := lit "hosting.scheduled_job.succeeded"
def eventFailed : PyStr := lit "hosting.scheduled_job.failed"

/-- `_record_platform_event` -/
def recordPlatformEvent (run : ScheduledJobRun) (status : RunStatus) (durationMs : Int)
    (counts : Counts) (error : ErrorDescription) : JobProgram Nat :=
  Prog.perform <| .recordEvent
    { eventId := if status = .succeeded then eventSucceeded else eventFailed
      runId := run.id
      job := run.job
      trigger := run.trigger
      durationMs := durationMs
      counts := counts
      host := run.host
      error := error }

/-- `_finish` -/
def finish (run : ScheduledJobRun) (spec : JobSpec) (started : Time) (counts : Counts)
    (exc : Option JobError) : JobProgram Unit := do
  let now ← Prog.perform .now
  let ended ← Prog.perform .monotonic
  let durationMs := max 0 ((ended - started) / 1000)
  let status := if exc.isNone then RunStatus.succeeded else .failed
  let error := exc.elim run.error describeError
  let eventLogId ← recordPlatformEvent run status durationMs counts error
  Prog.perform (.saveRun run.id ⟨status, now, durationMs, counts, error, eventLogId⟩)
  Prog.perform (.updateState spec.name (.finished durationMs exc.isNone now))
  increment spec.name (runsCounter status) 1
  Prog.forEach (fun (kind, amount) => increment spec.name (itemsCounter kind) amount)
    (intCounts spec counts)

/-- `except Exception: logger.exception(...)` -/
def orLogged (body : JobProgram Unit) : JobProgram Unit := tryCatch body fun _ => return

/-- `with record_run(job, trigger) as recorder: block`, where the block ends by setting the
counts. -/
def recordRun (job : PyStr) (trigger : RunTrigger) (host : PyStr)
    (outcome : Except JobError Counts) : JobProgram Nat := do
  let spec ← Prog.ofExcept (getJob job)
  let startedAt ← Prog.perform .now
  let run ← Prog.perform (.createRun spec.name trigger startedAt host)
  ensureState spec.name
  Prog.perform (.updateState spec.name (.lastStartedAt run.startedAt))
  markInterrupted spec run
  let started ← Prog.perform .monotonic
  let counts ← tryCatch (Prog.perform (.block outcome)) fun error => do
    orLogged (finish run spec started [] (some error))
    throw error
  orLogged (finish run spec started counts none)
  return run.id

/-- `run_recorded`: every exception leaves it as a `ScheduledJobFailed`. -/
def runRecorded (job : PyStr) (trigger : RunTrigger) (host : PyStr)
    (outcome : Except JobError Counts) : JobProgram Nat :=
  tryCatch (recordRun job trigger host outcome) fun _ => throw .scheduledJobFailed

def recordSkipped (job : PyStr) : JobProgram Unit := do
  let spec ← Prog.ofExcept (getJob job)
  ensureState spec.name
  let now ← Prog.perform .now
  Prog.perform (.updateState spec.name (.lastSkippedAt now))
  increment spec.name (runsCounter .skippedLocked) 1

/-- `record_failure_before_start`, which never raises -/
def recordFailureBeforeStart (job : PyStr) (trigger : RunTrigger) (host : PyStr)
    (error : JobError) : JobProgram Unit :=
  tryCatch (recordRun job trigger host (.error error) >>= fun _ => return) fun _ => return

/-- `_run_locked`, with the answer to the request for the lock. -/
def runLocked (name host : PyStr) (acquired : Except JobError Bool)
    (outcome : Except JobError Counts) : JobProgram Unit :=
  tryCatch
    (do
      let acquired ← Prog.ofExcept acquired
      if acquired then runRecorded name .celery host outcome >>= fun _ => return
      else recordSkipped name)
    fun error =>
      match error with
      | .scheduledJobFailed => return
      | error => recordFailureBeforeStart name .celery host error

/-- What is started: a management command, or a Celery task, which asks for the lock. -/
inductive JobTask where
  | command (job host : PyStr) (outcome : Except JobError Counts)
  | celery (job host : PyStr) (acquired : Except JobError Bool) (outcome : Except JobError Counts)

def JobTask.program : JobTask → JobProgram Unit
  | .command job host outcome => runRecorded job .command host outcome >>= fun _ => return
  | .celery job host acquired outcome => runLocked job host acquired outcome

end HostingService
