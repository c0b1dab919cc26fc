import HostingService.Actions.Retention
import HostingService.Actions.Retries

/-! `retry_pending_webhooks` with its two loops, the deadline at which each of them gives up,
and the totals that it returns: any number of calls beside the dispatch of new rows and the
deletions of rules and rows. -/

namespace HostingService

open Program Text

/-! ### Totals -/

/-- The keys of `stats`; each of them has a twin with `email_` before it. -/
inductive RetryKey where
  | processed
  | delivered
  | retried
  | dead
  deriving DecidableEq

structure RetryStats where
  total : RetryKey → Nat
  email : RetryKey → Nat

def RetryStats.zero : RetryStats := ⟨fun _ => 0, fun _ => 0⟩

/-- `_merge` -/
def RetryStats.merge (stats delta : RetryStats) : RetryStats where
  total key := stats.total key + delta.total key
  email key := stats.email key + delta.email key

/-- What the keys say of a row that is returned with the status. -/
def retryDelta (beforeStatus afterStatus : OutboxStatus) : RetryKey → Nat
  | .processed => 1
  | .delivered => if afterStatus = .delivered then 1 else 0
  | .dead => if afterStatus = .dead then 1 else 0
  | .retried =>
    match afterStatus with
    | .delivered | .dead => 0
    | .failed => 1
    | .pending => if beforeStatus = .pending ∨ beforeStatus = .failed then 1 else 0

def summarizeDeliveryResult (beforeStatus : OutboxStatus) : Option ActionOutbox → RetryStats
  | none => .zero
  | some after =>
    let delta := retryDelta beforeStatus after.status
    ⟨delta, if after.deliveryKind = .email then delta else fun _ => 0⟩

/-- Run summary stored on `ScheduledJobRun.counts`. -/
def runCounts (stats : RetryStats) : Counts :=
  let webhook (key : RetryKey) : CountValue := .int ((stats.total key : Int) - stats.email key)
  let email (key : RetryKey) : CountValue := .int (stats.email key)
  [(lit "webhook_deliveries_attempted", webhook .processed),
    (lit "webhook_deliveries_succeeded", webhook .delivered),
    (lit "webhook_deliveries_failed", webhook .retried),
    (lit "webhook_deliveries_given_up", webhook .dead),
    (lit "email_events_attempted", email .processed),
    (lit "email_events_succeeded", email .delivered),
    (lit "email_events_failed", email .retried),
    (lit "email_events_given_up", email .dead)]

/-! ### One call -/

/-- `_worker` -/
def retryWorker (settings : ActionsSettings) (library : ActionsLibrary) (rowId : Uuid)
    (beforeStatus : OutboxStatus) (scheduledJobRunId : Option Nat) : Delivery RetryStats := do
  let after ← deliverOutboxRow settings library rowId ⟨.automaticRetry, scheduledJobRunId⟩
  return summarizeDeliveryResult beforeStatus after

/-- A submitted worker, for a row that was claimed with the status. -/
structure RetryFuture where
  thread : Thread DeliveryCall ActionsError OutboxWorld (Uuid × OutboxStatus) RetryStats
  /-- The result has been taken out of `in_flight`. -/
  collected : Bool

namespace RetryFuture

def submit (settings : ActionsSettings) (library : ActionsLibrary)
    (scheduledJobRunId : Option Nat) (row : ActionOutbox) : RetryFuture where
  thread := ⟨(row.id, row.status), retryWorker settings library row.id row.status scheduledJobRunId, []⟩
  collected := false

def Finished (future : RetryFuture) : Prop := future.thread.rest.Finished

instance (future : RetryFuture) : Decidable future.Finished :=
  inferInstanceAs (Decidable future.thread.rest.Finished)

/-- `fut.result()` raises. -/
def raised (future : RetryFuture) : Bool :=
  match future.thread.rest with
  | .raise _ => true
  | _ => false

/-- `fut.result()` of a future that returned. -/
def result (future : RetryFuture) : RetryStats :=
  match future.thread.rest with
  | .ret stats => stats
  | _ => .zero

def collect (future : RetryFuture) : RetryFuture :=
  if future.Finished then { future with collected := true } else future

end RetryFuture

inductive RetryCallPhase where
  /-- The condition of the first loop comes next. -/
  | checking
  /-- The condition held: results are waited for if all workers are busy, else a row is claimed. -/
  | choosing
  /-- In `wait` with `FIRST_COMPLETED`, up to the time. -/
  | waiting (timeout : Time)
  | releasing (row : Uuid)
  /-- Without a pool the worker runs in the loop. -/
  | working
  /-- The condition of the second loop comes next. -/
  | draining
  /-- In the `wait` of the second loop. -/
  | collecting
  /-- In `executor.shutdown(wait=True)`. -/
  | joining (raised : Bool)
  | returned
  | failed
  deriving DecidableEq

structure RetryCall where
  options : RetryOptions
  now : Time
  deadline : Time
  stats : RetryStats
  futures : List RetryFuture
  /-- The rows that a dry run has counted. -/
  counted : List ActionOutbox
  phase : RetryCallPhase

namespace RetryCall

def start (options : RetryOptions) (world : OutboxWorld) : RetryCall where
  options := options
  now := world.clock
  deadline := world.monotonic + max 100000 options.maxSeconds
  stats := .zero
  futures := []
  counted := []
  phase := .checking

def workers (call : RetryCall) : Int := max 1 call.options.concurrency

/-- `workers > 1` -/
def usePool (call : RetryCall) : Bool := 1 < call.workers

/-- `in_flight`, and the worker that runs in the loop. -/
def inFlight (call : RetryCall) : List RetryFuture := call.futures.filter (!·.collected)

/-- The futures of `in_flight` that `wait` finds done. -/
def done (call : RetryCall) : List RetryFuture := call.inFlight.filter (·.Finished)

/-- Their results are merged. -/
def collect (call : RetryCall) : RetryCall :=
  { call with
    stats := call.done.foldl (fun stats future => stats.merge future.result) call.stats
    futures := call.futures.map (·.collect) }

/-- `stats['processed'] < batch_size and time.monotonic() < deadline` -/
def Continues (call : RetryCall) (world : OutboxWorld) : Prop :=
  (call.stats.total .processed : Int) < call.options.batchSize ∧ world.monotonic < call.deadline

instance (call : RetryCall) (world : OutboxWorld) : Decidable (call.Continues world) :=
  inferInstanceAs (Decidable (_ ∧ _))

/-- What a dry run counts of a claimed row. -/
def countRow (call : RetryCall) (row : ActionOutbox) : RetryCall :=
  let delta : RetryKey → Nat := fun key => if key = .processed then 1 else 0
  { call with
    stats := call.stats.merge ⟨delta, if row.deliveryKind = .email then delta else fun _ => 0⟩
    counted := call.counted ++ [row]
    phase := .releasing row.id }

section
variable (settings : ActionsSettings) (library : ActionsLibrary)

def claim (call : RetryCall) (view : ClaimView) (world : OutboxWorld) :
    Except ActionsError (Option ActionOutbox) × OutboxWorld :=
  DeliveryCall.handle _ (.atomic (claimNextPendingOutbox settings call.now view)) world

def submits (call : RetryCall) (row : ActionOutbox) : RetryCall :=
  { call with
    futures := call.futures ++ [.submit settings library call.options.scheduledJobRunId row]
    phase := if call.usePool then .checking else .working }

end

/-- `wait` of the first loop returns when a future is done or the time is over; the worker
without a pool is done. -/
def Ready (call : RetryCall) (world : OutboxWorld) : Prop :=
  match call.phase with
  | .waiting timeout => call.done ≠ [] ∨ timeout ≤ world.monotonic
  | .working => call.inFlight = call.done
  | .collecting => call.inFlight = call.done ∨ call.deadline ≤ world.monotonic
  | _ => False

/-- The loop goes on; the second one ends when nothing was done. -/
def next (call : RetryCall) : RetryCallPhase :=
  match call.phase with
  | .collecting => if call.done = [] then .joining false else .draining
  | _ => .checking

end RetryCall

/-! ### Calls and dispatches beside each other -/

abbrev DispatchThread := Thread DeliveryCall ActionsError OutboxWorld Uuid (Option ActionOutbox)

def DispatchThread.start (settings : ActionsSettings) (library : ActionsLibrary) (rowId : Uuid) :
    DispatchThread :=
  ⟨rowId, deliverOutboxRow settings library rowId ⟨.dispatch, none⟩, []⟩

/-- An attempt, and its row as it left it. -/
abbrev Noted := DeliveryAttempt × Option ActionOutbox

/-- The attempts that a change of the tables has recorded. -/
def noted (before after : ActionsDb) : List Noted :=
  (after.attempts.drop before.attempts.length).map fun attempt => (attempt, after.row attempt.outbox)

/-- Rules go with their rows, and rows with their attempts. -/
inductive ActionsDb.Deletes (db : ActionsDb) : ActionsDb → Prop where
  | rule (id : Nat) : db.Deletes (db.deleteRule id)
  | rows (ids : List Uuid) : db.Deletes (db.deleteOutbox ids)

structure RetrySystem where
  world : OutboxWorld
  /-- The ids that rows of the outbox have had. -/
  issued : List Uuid
  calls : List RetryCall
  dispatches : List DispatchThread
  /-- Every attempt that was recorded, with its row right after. -/
  history : List Noted

def RetrySystem.moves (state : RetrySystem) (world : OutboxWorld) : RetrySystem :=
  { state with world, history := state.history ++ noted state.world.db world.db }

/-- What a condition on a run may look at. -/
inductive RetrySystemEvent where
  | emits (row : ActionOutbox)
  | starts (options : RetryOptions)
  /-- A call asks for a row to claim. -/
  | looks (view : ClaimView)
  /-- A dry run releases the row that it claimed. -/
  | releases (row : Uuid)
  /-- A worker of a call makes its next call of the world. -/
  | delivers (future : RetryFuture)
  /-- A call leaves its second loop. -/
  | leaves (call : RetryCall)
  | deletes (db : ActionsDb)
  | administers (rules : List ActionRule)
  | other

section
variable (settings : ActionsSettings) (library : ActionsLibrary)

/-- One step of a call, from a world to a world. -/
inductive RetryCall.Step : OutboxWorld → RetryCall → RetrySystemEvent → OutboxWorld → RetryCall →
    Prop where
  | enters {world call} (checking : call.phase = .checking) (more : call.Continues world) :
      Step world call .other world { call with phase := .choosing }
  | leaves {world call} (checking : call.phase = .checking) (beyond : ¬ call.Continues world) :
      Step world call .other world { call with phase := .draining }
  /-- `wait(in_flight, timeout=0.05, ...)` -/
  | waits {world call} (choosing : call.phase = .choosing) (busy : call.workers ≤ (call.inFlight.length : Int)) :
      Step world call .other world { call with phase := .waiting (world.monotonic + 50000) }
  | idles {world later call} (view : ClaimView) (choosing : call.phase = .choosing)
      (free : (call.inFlight.length : Int) < call.workers)
      (nothing : call.claim settings view world = (.ok none, later)) :
      Step world call (.looks view) later
        { call with phase := if call.inFlight = [] then .draining else .waiting call.deadline }
  | claims {world later call} (view : ClaimView) (row : ActionOutbox)
      (choosing : call.phase = .choosing) (free : (call.inFlight.length : Int) < call.workers)
      (found : call.claim settings view world = (.ok (some row), later)) :
      Step world call (.looks view) later
        (if call.options.dryRun then call.countRow row else call.submits settings library row)
  | releases {world call} (row : Uuid) (holding : call.phase = .releasing row) :
      Step world call (.releases row)
        (DeliveryCall.handle _ (.autocommit (.execute (.updateOutbox row (.lockedUntil none)))) world).2
        { call with phase := .checking }
  /-- The worker, or a future that is in flight, makes its next call. -/
  | delivers {world call before after} {β : Type} (future : RetryFuture) (op : DeliveryCall β)
      (next : Except ActionsError β → Delivery RetryStats) (waiting : future.thread.rest = .call op next)
      (present : call.futures = before ++ future :: after) :
      Step world call (.delivers future) (DeliveryCall.handle β op world).2
        { call with futures := before ++
          { future with thread := (future.thread.after DeliveryCall.handle 1 world).1 } :: after }
  | collects {world call} (ready : call.Ready world) (returned : ∀ future ∈ call.done, future.raised = false)
      (goesOn : call.next ≠ .joining false) :
      Step world call .other world { call.collect with phase := call.next }
  | raises {world call} (ready : call.Ready world) (raised : ∃ future ∈ call.done, future.raised = true) :
      Step world call .other world { call with phase := .joining true }
  | drains {world call} (draining : call.phase = .draining) (unfinished : call.inFlight ≠ [])
      (early : world.monotonic < call.deadline + microsecondsPerSecond) :
      Step world call .other world { call with phase := .collecting }
  /-- The second loop ends by its condition, or because nothing was done at the deadline. -/
  | stops {world call} (beyond : (call.phase = .draining ∧ (call.inFlight = [] ∨
        call.deadline + microsecondsPerSecond ≤ world.monotonic)) ∨
      (call.phase = .collecting ∧ call.Ready world ∧ call.done = [])) :
      Step world call (.leaves call) world { call with phase := .joining false }
  | joins {world call} (raised : Bool) (joining : call.phase = .joining raised)
      (beyond : ∀ future ∈ call.futures, future.Finished) :
      Step world call .other world { call with phase := if raised then .failed else .returned }

/-- Whatever happens next; nothing crashes, and nobody requeues. -/
inductive RetrySystem.Step : RetrySystem → RetrySystemEvent → RetrySystem → Prop where
  /-- No two rows are ever given the same id. -/
  | emits {state} (row : ActionOutbox) (db : ActionsDb) (fresh : row.id ∉ state.issued)
      (created : (ActionsChange.createOutbox row).apply state.world.db = .ok db) :
      Step state (.emits row) { state with
        world := { state.world with db }
        issued := row.id :: state.issued
        dispatches := state.dispatches ++ [.start settings library row.id] }
  | dispatches {state before after} {β : Type} (thread : DispatchThread) (op : DeliveryCall β)
      (next : Except ActionsError β → Delivery (Option ActionOutbox)) (waiting : thread.rest = .call op next)
      (present : state.dispatches = before ++ thread :: after) :
      Step state .other { state.moves (DeliveryCall.handle β op state.world).2 with
        dispatches := before ++ (thread.after DeliveryCall.handle 1 state.world).1 :: after }
  /-- A scheduled run has an id that no run had before. -/
  | starts {state} (options : RetryOptions)
      (fresh : ∀ run, options.scheduledJobRunId = some run →
        (∀ attempt ∈ state.world.db.attempts, attempt.scheduledJobRunId ≠ some run) ∧
          ∀ call ∈ state.calls, call.options.scheduledJobRunId ≠ some run) :
      Step state (.starts options) { state with calls := state.calls ++ [.start options state.world] }
  | acts {state before call after event world later} (present : state.calls = before ++ call :: after)
      (stepped : RetryCall.Step settings library state.world call event world later) :
      Step state event { state.moves world with calls := before ++ later :: after }
  | passes {state} (span : Nat) :
      Step state .other { state with world := { state.world with
        clock := state.world.clock + span, monotonic := state.world.monotonic + span } }
  | deletes {state} (db : ActionsDb) (deleted : state.world.db.Deletes db) :
      Step state (.deletes db) { state with world := { state.world with db } }
  | administers {state} (rules : List ActionRule) :
      Step state (.administers rules) { state with world := { state.world with
        db := { state.world.db with rules } } }
  | reroutes {state} (network : Post → Exchange) :
      Step state .other { state with world := { state.world with network } }

/-- The runs in which every event is permitted where it happens. -/
def RetrySystem.Reaches (permits : RetrySystem → RetrySystemEvent → Prop) :
    RetrySystem → RetrySystem → Prop :=
  Relation.ReflTransGen fun before after =>
    ∃ event, RetrySystem.Step settings library before event after ∧ permits before event

end

/-! ### What a step makes of the workers -/

section
variable {settings : ActionsSettings} {library : ActionsLibrary}

/-- What holds of every future of a call, step by step. -/
theorem RetryCall.Step.each {holds : RetryFuture → Prop} {world later : OutboxWorld}
    {call after : RetryCall} {event : RetrySystemEvent}
    (stepped : RetryCall.Step settings library world call event later after)
    (submitted : ∀ row, holds (.submit settings library call.options.scheduledJobRunId row))
    (delivered : ∀ future ∈ call.futures, holds future →
      holds { future with thread := (future.thread.after DeliveryCall.handle 1 world).1 })
    (collected : ∀ future ∈ call.futures, holds future → holds future.collect)
    (every : ∀ future ∈ call.futures, holds future) : ∀ future ∈ after.futures, holds future := by
  cases stepped with
  | claims view row choosing free found =>
    intro future member
    split at member
    · exact every future member
    · rcases List.mem_append.mp member with old | new
      · exact every future old
      · obtain rfl := List.mem_singleton.mp new
        exact submitted row
  | delivers moved op next waiting present =>
    intro future member
    have own : moved ∈ call.futures := by
      rw [present]
      exact mem_middle.mpr (.inl rfl)
    rcases mem_middle.mp member with rfl | other
    · exact delivered moved own (every moved own)
    · refine every future ?_
      rw [present]
      exact mem_middle.mpr (.inr other)
  | collects ready returned goesOn =>
    intro future member
    obtain ⟨old, present, rfl⟩ := List.mem_map.mp member
    exact collected old present (every old present)
  | _ => exact every

/-- Every call of the world that a delivery makes is allowed to the run that it belongs to. -/
def RetrySystem.Allowed (allowed : Option Nat → ∀ β, DeliveryCall β → Prop) (state : RetrySystem) :
    Prop :=
  (∀ thread ∈ state.dispatches, thread.rest.All (allowed none)) ∧
    ∀ call ∈ state.calls, ∀ future ∈ call.futures,
      future.thread.rest.All (allowed call.options.scheduledJobRunId)

theorem Thread.after_all {ι α : Type} {allowed : ∀ β, DeliveryCall β → Prop}
    {thread : Thread DeliveryCall ActionsError OutboxWorld ι α} (every : thread.rest.All allowed)
    (world : OutboxWorld) : (thread.after DeliveryCall.handle 1 world).1.rest.All allowed := by
  obtain ⟨task, rest, log⟩ := thread
  cases rest with
  | ret value => exact every
  | raise error => exact every
  | call op next => exact every.2 _

theorem RetryCall.Step.options {world later : OutboxWorld} {call after : RetryCall}
    {event : RetrySystemEvent} (stepped : RetryCall.Step settings library world call event later after) :
    after.options = call.options ∧ after.now = call.now ∧ after.deadline = call.deadline := by
  cases stepped with
  | claims view row choosing free found => split <;> exact ⟨rfl, rfl, rfl⟩
  | _ => exact ⟨rfl, rfl, rfl⟩

theorem RetryCall.Step.allowed {allowed : Option Nat → ∀ β, DeliveryCall β → Prop}
    {world later : OutboxWorld} {call after : RetryCall} {event : RetrySystemEvent}
    (stepped : RetryCall.Step settings library world call event later after)
    (every : ∀ id correlation, (deliverOutboxRow settings library id correlation).All
      (allowed correlation.scheduledJobRunId))
    (holds : ∀ future ∈ call.futures, future.thread.rest.All (allowed call.options.scheduledJobRunId)) :
    ∀ future ∈ after.futures, future.thread.rest.All (allowed after.options.scheduledJobRunId) := by
  rw [stepped.options.1]
  refine stepped.each (fun row => ?_) (fun future _ now => ?_) (fun future _ now => ?_) holds
  · exact (every row.id ⟨.automaticRetry, _⟩).bind fun _ => trivial
  · exact Thread.after_all now _
  · rw [RetryFuture.collect]
    split <;> exact now

theorem RetrySystem.Step.allowed {allowed : Option Nat → ∀ β, DeliveryCall β → Prop}
    {before after : RetrySystem} {event : RetrySystemEvent}
    (step : RetrySystem.Step settings library before event after)
    (every : ∀ id correlation, (deliverOutboxRow settings library id correlation).All
      (allowed correlation.scheduledJobRunId)) (holds : before.Allowed allowed) : after.Allowed allowed := by
  obtain ⟨dispatched, called⟩ := holds
  cases step with
  | emits row db fresh created =>
    refine ⟨fun thread member => ?_, called⟩
    rcases List.mem_append.mp member with old | new
    · exact dispatched thread old
    · obtain rfl := List.mem_singleton.mp new
      exact every row.id ⟨.dispatch, none⟩
  | dispatches moved op next waiting present =>
    refine ⟨fun thread member => ?_, called⟩
    rcases mem_middle.mp member with rfl | other
    · exact Thread.after_all (dispatched moved (present ▸ mem_middle.mpr (.inl rfl))) _
    · exact dispatched thread (present ▸ mem_middle.mpr (.inr other))
  | starts options fresh =>
    refine ⟨dispatched, fun call member => ?_⟩
    rcases List.mem_append.mp member with old | new
    · exact called call old
    · obtain rfl := List.mem_singleton.mp new
      exact fun future nothing => by cases nothing
  | @acts front call back _ world later present stepped =>
    have own : call ∈ before.calls := present ▸ mem_middle.mpr (.inl rfl)
    refine ⟨dispatched, fun other member => ?_⟩
    rcases mem_middle.mp member with rfl | old
    · exact stepped.allowed every (called call own)
    · exact called other (present ▸ mem_middle.mpr (.inr old))
  | _ => exact ⟨dispatched, called⟩

end

/-! ### A call alone -/

/-- The rows of `_pending_outbox_filter(now)`. -/
def ActionsDb.eligible (db : ActionsDb) (now : Time) : List ActionOutbox :=
  db.outbox.filter (·.isDue now)

/-- Nobody else holds a row. -/
def ClaimView.alone (nullsFirst : Bool) : ClaimView := ⟨fun _ => false, nullsFirst⟩

/-- The call makes permitted steps, while time passes and the network changes. -/
inductive RetryCall.Alone (settings : ActionsSettings) (library : ActionsLibrary)
    (permits : OutboxWorld → RetryCall → RetrySystemEvent → Prop) :
    OutboxWorld × RetryCall → OutboxWorld × RetryCall → Prop where
  | acts {world call event later after}
      (stepped : RetryCall.Step settings library world call event later after)
      (permitted : permits world call event) : Alone settings library permits (world, call) (later, after)
  | passes {world call} (span : Nat) : Alone settings library permits (world, call)
      ({ world with clock := world.clock + span, monotonic := world.monotonic + span }, call)
  | reroutes {world call} (network : Post → Exchange) :
      Alone settings library permits (world, call) ({ world with network }, call)

/-- What the call reaches when it is made in the world. -/
def RetryCall.Runs (settings : ActionsSettings) (library : ActionsLibrary)
    (permits : OutboxWorld → RetryCall → RetrySystemEvent → Prop) (options : RetryOptions)
    (world later : OutboxWorld) (call : RetryCall) : Prop :=
  Relation.ReflTransGen (RetryCall.Alone settings library permits) (world, .start options world)
    (later, call)

section
variable {settings : ActionsSettings} {library : ActionsLibrary} {later : OutboxWorld}
  {call after : RetryCall} {permits : OutboxWorld → RetryCall → RetrySystemEvent → Prop}

/-- A delivery of the call goes on without interruption. -/
theorem RetryCall.Alone.delivers (calls : Nat) {world : OutboxWorld} {call : RetryCall}
    {front back : List RetryFuture} {future : RetryFuture} (present : call.futures = front ++ future :: back)
    (allowed : ∀ made < calls, ∀ call, let ended := future.thread.after DeliveryCall.handle made world
      permits ended.2 call (.delivers { future with thread := ended.1 })) :
    let ended := future.thread.after DeliveryCall.handle calls world
    Relation.ReflTransGen (RetryCall.Alone settings library permits) (world, call)
      (ended.2, { call with futures := front ++ { future with thread := ended.1 } :: back }) := by
  have stays {world : OutboxWorld} {call : RetryCall} {future : RetryFuture}
      (present : call.futures = front ++ future :: back) :
      Relation.ReflTransGen (RetryCall.Alone settings library permits) (world, call)
        (world, { call with futures := front ++ future :: back }) := by
    rw [← present]
  induction calls generalizing world call future with
  | zero => exact stays present
  | succ calls ih =>
    obtain ⟨⟨task, rest, log⟩, collected⟩ := future
    cases rest with
    | ret value => exact stays present
    | raise error => exact stays present
    | call op next =>
      have stepped : RetryCall.Step settings library world call _ _ _ := .delivers _ op next rfl present
      refine .head (.acts stepped (allowed 0 (Nat.succ_pos calls) call)) ?_
      exact @ih _ { call with futures := front ++ ⟨⟨task, next (DeliveryCall.handle _ op world).1,
        log ++ [⟨op, world⟩]⟩, collected⟩ :: back } _ rfl fun made less => allowed (made + 1) (Nat.succ_lt_succ less)

/-- What a call reaches alone is reached beside others that do nothing. -/
theorem RetrySystem.Reaches.alone {allows : RetrySystem → RetrySystemEvent → Prop} {state : RetrySystem}
    {front back : List RetryCall} (present : state.calls = front ++ call :: back)
    (permitted : ∀ state call event, permits state.world call event → allows state event)
    (passes : ∀ state, allows state .other)
    (path : Relation.ReflTransGen (RetryCall.Alone settings library permits) (state.world, call) (later, after)) :
    ∃ history, RetrySystem.Reaches settings library allows state
      { state with world := later, calls := front ++ after :: back, history } := by
  obtain ⟨ended, same⟩ : ∃ ended : OutboxWorld × RetryCall, ended = (later, after) := ⟨_, rfl⟩
  rw [← same] at path
  induction path generalizing later after with
  | refl =>
    cases same
    refine ⟨state.history, ?_⟩
    rw [← present]
    exact .refl
  | @tail middle _ _ last ih =>
    obtain ⟨history, reached⟩ := ih rfl
    cases last with
    | acts stepped allowed =>
      cases same
      exact ⟨_, .tail reached ⟨_, .acts rfl stepped, permitted _ _ _ allowed⟩⟩
    | passes span =>
      cases same
      exact ⟨_, .tail reached ⟨_, .passes span, passes _⟩⟩
    | reroutes network =>
      cases same
      exact ⟨_, .tail reached ⟨_, .reroutes network, passes _⟩⟩

end

/-- No call is left from before. -/
structure RetrySystem.Initial (state : RetrySystem) : Prop where
  issued : state.issued = state.world.db.outbox.map (·.id)
  calls : state.calls = []
  dispatches : state.dispatches = []
  history : state.history = []

end HostingService
