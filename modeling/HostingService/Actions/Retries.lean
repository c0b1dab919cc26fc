import HostingService.Actions.Bookkeeping

/-! Dispatch after commit and `retry_pending_webhooks`: any number of runs that claim due
rows and deliver them, beside the deliveries that new rows are dispatched to. -/

namespace HostingService

open Program Text OutboxTransaction

/-! ### Calls of `deliver_outbox_row` -/

inductive Origin where
  | dispatch
  /-- Claimed by the run, with the lease that the claim wrote. -/
  | retry (run : Nat) (leaseUntil : Time)
  deriving DecidableEq

/-- One call of `deliver_outbox_row`, queued or begun at `since`. -/
structure DeliveryJob where
  future : Nat
  origin : Origin
  since : Time
  /-- The run has collected the result. -/
  merged : Bool
  thread : Thread DeliveryCall ActionsError OutboxWorld (Uuid × Correlation) (Option ActionOutbox)

namespace DeliveryJob

def outboxId (job : DeliveryJob) : Uuid := job.thread.task.1

def Finished (job : DeliveryJob) : Prop := job.thread.rest.Finished

/-- The call is between its snapshot and its result. -/
def InFlight (job : DeliveryJob) : Prop := job.thread.log ≠ [] ∧ ¬ job.Finished

/-- `_summarize_delivery_result(...)['processed']` -/
def processed (job : DeliveryJob) : Nat :=
  match job.thread.rest with
  | .ret (some _) => 1
  | _ => 0

/-- `fut.result()` raises. -/
def raised (job : DeliveryJob) : Bool :=
  match job.thread.rest with
  | .raise _ => true
  | _ => false

def belongsTo (run : Nat) (job : DeliveryJob) : Bool :=
  match job.origin with
  | .dispatch => false
  | .retry owner _ => owner = run

/-- The call makes its next call of the world. -/
def advance (world : OutboxWorld) (job : DeliveryJob) : DeliveryJob :=
  { job with thread := (job.thread.after DeliveryCall.handle 1 world).1 }

/-- The call after some calls of the world that nothing interrupts. -/
def advances (calls : Nat) (world : OutboxWorld) (job : DeliveryJob) : DeliveryJob × OutboxWorld :=
  let ended := job.thread.after DeliveryCall.handle calls world
  ({ job with thread := ended.1 }, ended.2)

def merge (done : Nat → Bool) (job : DeliveryJob) : DeliveryJob :=
  if done job.future then { job with merged := true } else job

theorem merge_cases (done : Nat → Bool) (job : DeliveryJob) :
    job.merge done = job ∨ job.merge done = { job with merged := true } := by
  rw [merge]
  split
  · exact .inr rfl
  · exact .inl rfl

/-- The number that the call gives its attempt, from what its snapshot saw. -/
def attemptNumber (job : DeliveryJob) : Nat :=
  (job.thread.log.head?.bind fun entry => entry.state.db.row job.outboxId).elim 1
    (·.attemptCount + 1)

/-- The attempts that the call has POSTed. -/
def posted (job : DeliveryJob) : List (Uuid × Nat) :=
  (job.thread.log.filter (·.op.isPost)).map fun _ => (job.outboxId, job.attemptNumber)

end DeliveryJob

/-! ### Retry runs -/

structure RetryOptions where
  batchSize : Int
  /-- In microseconds. -/
  maxSeconds : Time
  concurrency : Int
  dryRun : Bool
  scheduledJobRunId : Option Nat

inductive RetryPhase where
  | looping
  /-- A dry run is about to release the row that it claimed. -/
  | releasing (row : Uuid)
  | ended
  deriving DecidableEq

structure RetryRun where
  id : Nat
  options : RetryOptions
  /-- The time at which the run started: claims use no other. -/
  now : Time
  deadline : Time
  /-- The rows of a dry run. -/
  counted : Nat
  phase : RetryPhase

namespace RetryRun

def start (id : Nat) (options : RetryOptions) (world : OutboxWorld) : RetryRun where
  id := id
  options := options
  now := world.clock
  deadline := world.monotonic + max 100000 options.maxSeconds
  counted := 0
  phase := .looping

def workers (run : RetryRun) : Int := max 1 run.options.concurrency

def leaseUntil (settings : ActionsSettings) (run : RetryRun) : Time :=
  run.now + settings.webhookRetryLeaseSeconds * microsecondsPerSecond

/-- `stats['processed']` -/
def processed (run : RetryRun) (jobs : List DeliveryJob) : Nat :=
  run.counted + ((jobs.filter fun job => job.belongsTo run.id && job.merged).map (·.processed)).sum

/-- `len(in_flight)` -/
def inFlight (run : RetryRun) (jobs : List DeliveryJob) : Nat :=
  (jobs.filter fun job => job.belongsTo run.id && !job.merged).length

/-- `while stats['processed'] < batch_size and time.monotonic() < deadline`, left when the
result of a future was raised. -/
def Continues (run : RetryRun) (world : OutboxWorld) (jobs : List DeliveryJob) : Prop :=
  run.phase = .looping ∧ (run.processed jobs : Int) < run.options.batchSize ∧
    world.monotonic < run.deadline ∧
    (jobs.any fun job => job.belongsTo run.id && job.merged && job.raised) = false

instance (run : RetryRun) (world : OutboxWorld) (jobs : List DeliveryJob) :
    Decidable (run.Continues world jobs) :=
  inferInstanceAs (Decidable (_ ∧ _))

/-- The run after a claim: a dry run counts the row and releases it next. -/
def claimed (run : RetryRun) (row : ActionOutbox) : RetryRun :=
  if run.options.dryRun then { run with counted := run.counted + 1, phase := .releasing row.id }
  else run

end RetryRun

/-! ### Dispatch and runs beside each other -/

structure Retrying where
  world : OutboxWorld
  runs : List RetryRun
  jobs : List DeliveryJob

inductive RetryEvent where
  | emits (row : ActionOutbox)
  | starts (options : RetryOptions)
  | claims (run : RetryRun) (row : ActionOutbox)
  | releases (run : RetryRun)
  | waits (run : RetryRun)
  | breaks (run : RetryRun)
  | advances (job : DeliveryJob)
  | passes (span : Nat)
  | administers (rules : List ActionRule)
  | reroutes

section
variable (settings : ActionsSettings) (library : ActionsLibrary)

def DeliveryJob.submit (future : Nat) (origin : Origin) (since : Time) (outboxId : Uuid)
    (correlation : Correlation) : DeliveryJob where
  future := future
  origin := origin
  since := since
  merged := false
  thread := ⟨(outboxId, correlation), deliveryOf settings library (outboxId, correlation), []⟩

/-- The call that `schedule_outbox_delivery` submits when the row is committed. -/
def DeliveryJob.dispatched (world : OutboxWorld) (future : Nat) (row : ActionOutbox) : DeliveryJob :=
  submit settings library future .dispatch world.clock row.id ⟨.dispatch, none⟩

/-- The calls that a claim of the run leads to. -/
def RetryRun.submits (run : RetryRun) (world : OutboxWorld) (future : Nat) (row : ActionOutbox) :
    List DeliveryJob :=
  if run.options.dryRun then []
  else [.submit settings library future (.retry run.id (run.leaseUntil settings)) world.clock row.id
    ⟨.automaticRetry, run.options.scheduledJobRunId⟩]

def RetryRun.claim (run : RetryRun) (view : ClaimView) (world : OutboxWorld) :
    Except ActionsError (Option ActionOutbox) × OutboxWorld :=
  DeliveryCall.handle _ (.atomic (claimNextPendingOutbox settings run.now view)) world

namespace Retrying

/-- Whatever happens next to the outbox; nothing crashes, and nobody requeues. -/
inductive Step : Retrying → RetryEvent → Retrying → Prop where
  | emits {world runs jobs} (row : ActionOutbox) (db : ActionsDb)
      (created : (ActionsChange.createOutbox row).apply world.db = .ok db) :
      Step ⟨world, runs, jobs⟩ (.emits row)
        ⟨{ world with db }, runs,
          jobs ++ [.dispatched settings library world jobs.length row]⟩
  | starts {world runs jobs} (options : RetryOptions) :
      Step ⟨world, runs, jobs⟩ (.starts options)
        ⟨world, runs ++ [.start runs.length options world], jobs⟩
  | claims {world later before run after jobs} (view : ClaimView) (row : ActionOutbox)
      (running : run.Continues world jobs) (free : (run.inFlight jobs : Int) < run.workers)
      (found : run.claim settings view world = (.ok (some row), later)) :
      Step ⟨world, before ++ run :: after, jobs⟩ (.claims run row)
        ⟨later, before ++ run.claimed row :: after,
          jobs ++ run.submits settings library world jobs.length row⟩
  | releases {world before run after jobs} (row : Uuid) (holding : run.phase = .releasing row) :
      Step ⟨world, before ++ run :: after, jobs⟩ (.releases run)
        ⟨(DeliveryCall.handle _ (.autocommit (.execute (.updateOutbox row (.lockedUntil none))))
            world).2,
          before ++ { run with phase := .looping } :: after, jobs⟩
  /-- The run collects results, when all its workers are busy or no row is due. -/
  | waits {world before run after jobs} (view : ClaimView) (done : Nat → Bool)
      (running : run.Continues world jobs)
      (idle : run.workers ≤ run.inFlight jobs ∨
        (0 < run.inFlight jobs ∧ (run.claim settings view world).1.toOption = some none))
      (finished : ∀ job ∈ jobs, done job.future = true → job.belongsTo run.id = true ∧ job.Finished) :
      Step ⟨world, before ++ run :: after, jobs⟩ (.waits run)
        ⟨world, before ++ run :: after, jobs.map (·.merge done)⟩
  | breaks {world before run after jobs} (view : ClaimView) (running : run.Continues world jobs)
      (alone : run.inFlight jobs = 0)
      (nothing : (run.claim settings view world).1.toOption = some none) :
      Step ⟨world, before ++ run :: after, jobs⟩ (.breaks run)
        ⟨world, before ++ { run with phase := .ended } :: after, jobs⟩
  | advances {world runs before job after} {β : Type} (call : DeliveryCall β)
      (next : Except ActionsError β → Delivery (Option ActionOutbox))
      (waiting : job.thread.rest = .call call next) :
      Step ⟨world, runs, before ++ job :: after⟩ (.advances job)
        ⟨(DeliveryCall.handle β call world).2, runs, before ++ job.advance world :: after⟩
  | passes {world runs jobs} (span : Nat) :
      Step ⟨world, runs, jobs⟩ (.passes span)
        ⟨{ world with clock := world.clock + span, monotonic := world.monotonic + span }, runs, jobs⟩
  | administers {world runs jobs} (rules : List ActionRule) :
      Step ⟨world, runs, jobs⟩ (.administers rules)
        ⟨{ world with db := { world.db with rules } }, runs, jobs⟩
  | reroutes {world runs jobs} (network : Post → Exchange) :
      Step ⟨world, runs, jobs⟩ .reroutes ⟨{ world with network }, runs, jobs⟩

/-- The runs in which every event is permitted where it happens. -/
def Reaches (permits : Retrying → RetryEvent → Prop) : Retrying → Retrying → Prop :=
  Relation.ReflTransGen fun before after =>
    ∃ event, Step settings library before event after ∧ permits before event

/-- No call or run is left from before. -/
def Initial (state : Retrying) : Prop :=
  (state.world.db.outbox.map (·.id)).Nodup ∧ state.runs = [] ∧ state.jobs = []

/-- The attempts that were POSTed, by any call. -/
def posted (state : Retrying) : List (Uuid × Nat) := state.jobs.flatMap (·.posted)

/-- Time does not pass the lease of an open call, counted from its claim or dispatch. -/
def Prompt (state : Retrying) : RetryEvent → Prop
  | .passes span => ∀ job ∈ state.jobs, ¬ job.Finished → state.world.clock + span ≤
      job.since + settings.webhookRetryLeaseSeconds * microsecondsPerSecond
  | _ => True

/-- A row is claimed after its dispatch has ended and within the lease of the run, and time
does not pass the lease of the run while the row is delivered or held. -/
def Orderly (state : Retrying) : RetryEvent → Prop
  | .claims run row => state.world.clock < run.leaseUntil settings ∧ ∀ job ∈ state.jobs,
      job.outboxId = row.id → job.origin = .dispatch → job.Finished
  | .passes span =>
    (∀ job ∈ state.jobs, ¬ job.Finished → ∀ run leaseUntil, job.origin = .retry run leaseUntil →
      state.world.clock + span < leaseUntil) ∧
    ∀ run ∈ state.runs, ∀ row, run.phase = .releasing row →
      state.world.clock + span < run.leaseUntil settings
  | _ => True

end Retrying

end

end HostingService
