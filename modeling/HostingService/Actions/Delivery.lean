import HostingService.Actions.Transport

/-! Outbox delivery, claims and requeues. -/

namespace HostingService

open Program Text OutboxTransaction

section
variable (settings : ActionsSettings) (library : ActionsLibrary)

def microsecondsPerSecond : Int := 1000000

def backoffSeconds (attemptNumber : Nat) : Int := min 3600 (30 * 2 ^ (attemptNumber - 1))

/-- What an attempt found out; every field is empty in the dictionary `{}`. -/
structure AttemptMeta where
  httpStatus : Option Nat
  responseExcerpt : PyStr
  errorMessage : PyStr
  permanent : Bool
  retryAfterSeconds : Option Int
  durationMs : Option Int

def AttemptMeta.empty : AttemptMeta := ⟨none, [], [], false, none, none⟩

def AttemptMeta.ofFailure (failure : DeliveryFailure) : AttemptMeta where
  httpStatus := failure.httpStatus
  responseExcerpt := failure.responseExcerpt
  errorMessage := failure.message
  permanent := failure.permanent
  retryAfterSeconds := failure.retryAfterSeconds
  durationMs := none

def AttemptMeta.ofMessage (message : PyStr) : AttemptMeta :=
  { AttemptMeta.empty with errorMessage := message }

/-! ### The two channels -/

/-- The duration of `perform`, in whole milliseconds. -/
def timed (perform : Delivery (Bool × AttemptMeta)) : Delivery (Bool × AttemptMeta) := do
  let started ← Delivery.monotonic
  let (success, found) ← perform
  let ended ← Delivery.monotonic
  return (success, { found with durationMs := some ((ended - started) / 1000) })

def performHttpDelivery (rule : ActionRule) (envelope : Envelope) (attemptNumber : Nat) :
    Delivery (Bool × AttemptMeta) :=
  timed <| Prog.tryCatch
    (deliverWebhookAction settings library rule.config envelope attemptNumber >>= fun _ =>
      .ret (true, .empty))
    fun error =>
      match error with
      | .webhookDelivery failure => .ret (false, .ofFailure failure)
      | error => .ret (false, .ofMessage error.text)

def performEmailDelivery (envelope : Envelope) : Delivery (Bool × AttemptMeta) :=
  timed <| Prog.tryCatch
    (postEmailEvent settings library envelope >>= fun status =>
      .ret (true, { AttemptMeta.empty with httpStatus := some status }))
    fun error =>
      match error with
      | .emailDelivery failure => .ret (false, { AttemptMeta.ofFailure failure with
          errorMessage := redactApiKey settings failure.message
          responseExcerpt := redactApiKey settings failure.responseExcerpt })
      | error => .ret (false, .ofMessage (redactApiKey settings error.text))

/-! ### The outbox row -/

/-- `' | '.join(parts)` -/
def formatAttemptError (errorMessage : PyStr) (httpStatus : Option Nat)
    (responseExcerpt : PyStr) : PyStr :=
  orElse errorMessage (lit "Delivery failed.") ++
    (match httpStatus with
      | some status => lit " | HTTP " ++ digits status
      | none => []) ++
    if responseExcerpt = [] then [] else lit " | body: " ++ responseExcerpt.take 512

/-- The rule of a webhook row, or why it cannot be delivered. -/
def loadRuleForDelivery (row : ActionOutbox) (rule : Option ActionRule) :
    Except ActionsError (Option ActionRule × Option PyStr) :=
  if row.deliveryKind = .email then .ok (none, none)
  else
    match rule with
    | none => .error (.exception (lit "'NoneType' object has no attribute 'enabled'"))
    | some rule =>
      if rule.enabled = false then .ok (none, some (lit "Action rule disabled."))
      else if rule.actionKind ≠ .webhook then
        .ok (none, some (lit "Unsupported action kind (webhook only)."))
      else .ok (some rule, none)

/-- `trigger` and `scheduled_job_run_id` of an attempt. -/
structure Correlation where
  trigger : Trigger
  scheduledJobRunId : Option Nat
  deriving DecidableEq

/-- An attempt as it is recorded. -/
structure Outcome where
  success : Bool
  permanent : Bool
  httpStatus : Option Nat
  durationMs : Option Int
  attemptError : PyStr

/-- A row that cannot be delivered fails for good, whatever was found out. -/
def outcomeOf (terminalError : Option PyStr) (success : Bool) (attemptMeta : AttemptMeta) :
    Outcome :=
  match terminalError with
  | some error => ⟨false, true, none, none, error⟩
  | none =>
    { success := success
      permanent := attemptMeta.permanent
      httpStatus := attemptMeta.httpStatus
      durationMs := attemptMeta.durationMs
      attemptError := redactApiKey settings (formatAttemptError attemptMeta.errorMessage
        attemptMeta.httpStatus attemptMeta.responseExcerpt) }

def Outcome.attempt (outcome : Outcome) (row : ActionOutbox) (correlation : Correlation) :
    DeliveryAttempt where
  outbox := row.id
  status := if outcome.success then .success else .failure
  httpStatus := outcome.httpStatus
  errorMessage := if outcome.success then [] else outcome.attemptError
  attemptNumber := row.attemptCount + 1
  durationMs := outcome.durationMs
  trigger := correlation.trigger
  scheduledJobRunId := correlation.scheduledJobRunId

/-- The columns that the result of an attempt saves. -/
def Outcome.columns (outcome : Outcome) (row : ActionOutbox) (retryAfterSeconds : Option Int)
    (now : Time) : OutboxColumns :=
  let attemptNumber := row.attemptCount + 1
  if outcome.success then .result .delivered attemptNumber [] none (some now)
  else if outcome.permanent || (attemptNumber : Int) ≥ settings.outboxMaxAttempts then
    .result .dead attemptNumber outcome.attemptError none row.deliveredAt
  else
    let delay := computeRetryDelaySeconds outcome.httpStatus retryAfterSeconds
      (backoffSeconds attemptNumber)
    .result .failed attemptNumber outcome.attemptError (some (now + delay * microsecondsPerSecond))
      row.deliveredAt

def applyDeliveryResult (row : ActionOutbox) (terminalError : Option PyStr) (success : Bool)
    (attemptMeta : AttemptMeta) (correlation : Correlation) : OutboxTransaction ActionOutbox := do
  let outcome := outcomeOf settings terminalError success attemptMeta
  execute (.createAttempt (outcome.attempt row correlation))
  let now ← now
  let columns := outcome.columns settings row attemptMeta.retryAfterSeconds now
  execute (.saveOutbox row.id columns)
  return row.assign columns

/-- What the first transaction of a delivery reads. -/
inductive Snapshot where
  | missing
  | final (row : ActionOutbox)
  | taken (row : ActionOutbox) (rule : Option ActionRule) (terminalError : Option PyStr)

def takeSnapshot (outboxId : Uuid) : OutboxTransaction Snapshot := do
  let found ← select fun db => (db.row outboxId).map fun row => (row, db.ruleOf row)
  match found with
  | none => return .missing
  | some (row, rule) =>
    if row.status.isFinal then return .final row
    else
      let (rule, terminalError) ← .ofExcept (loadRuleForDelivery row rule)
      return .taken row rule terminalError

/-- The last transaction of a delivery: drop the result if another attempt was recorded. -/
def recordResult (outboxId : Uuid) (snapshotAttempt : Nat) (terminalError : Option PyStr)
    (success : Bool) (attemptMeta : AttemptMeta) (correlation : Correlation) :
    OutboxTransaction ActionOutbox := do
  let found ← select fun db => db.row outboxId
  let row ← .ofExcept (found.elim (.error .doesNotExist) .ok)
  if row.attemptCount ≠ snapshotAttempt then return row
  else applyDeliveryResult settings row terminalError success attemptMeta correlation

/-- The attempt over the channel of the row, outside of transactions. -/
def performDelivery (row : ActionOutbox) (rule : Option ActionRule) :
    Delivery (Bool × AttemptMeta) :=
  match row.deliveryKind, rule with
  | .email, _ => performEmailDelivery settings library row.envelope
  | .webhook, some rule => performHttpDelivery settings library rule row.envelope (row.attemptCount + 1)
  | .webhook, none =>
    timed (.ret (false, .ofMessage (lit "'NoneType' object has no attribute 'config'")))

/-- Attempt one delivery. -/
def deliverOutboxRow (outboxId : Uuid) (correlation : Correlation) :
    Delivery (Option ActionOutbox) := do
  match ← Delivery.atomic (takeSnapshot outboxId) with
  | .missing => return none
  | .final row => return some row
  | .taken row _ (some terminalError) =>
    let after ← Delivery.atomic (recordResult settings outboxId row.attemptCount
      (some terminalError) false .empty correlation)
    return some after
  | .taken row rule none =>
    let (success, attemptMeta) ← performDelivery settings library row rule
    let after ← Delivery.atomic (recordResult settings outboxId row.attemptCount none success
      attemptMeta correlation)
    return some after

/-! ### Claims and requeues -/

/-- `_pending_outbox_filter(now)` on one row. -/
def ActionOutbox.isDue (now : Time) (row : ActionOutbox) : Bool :=
  (row.status = .pending || row.status = .failed) && row.nextAttemptAt.all (· ≤ now) &&
    row.lockedUntil.all (· ≤ now)

/-- `order_by('next_attempt_at', 'created_at')`, with null times on the given side. -/
def ActionOutbox.before (nullsFirst : Bool) (left right : ActionOutbox) : Bool :=
  match left.nextAttemptAt, right.nextAttemptAt with
  | none, none => left.createdAt < right.createdAt
  | none, some _ => nullsFirst
  | some _, none => !nullsFirst
  | some first, some second =>
    first < second || (first = second && left.createdAt < right.createdAt)

/-- The first row of the order, the earliest in the table among equals. -/
def firstRow (nullsFirst : Bool) : List ActionOutbox → Option ActionOutbox
  | [] => none
  | row :: rows =>
    match firstRow nullsFirst rows with
    | none => some row
    | some other => if other.before nullsFirst row then some other else some row

/-- What a claim finds: rows that other transactions hold are skipped, and the database
decides where null times sort. -/
structure ClaimView where
  locked : Uuid → Bool
  nullsFirst : Bool

/-- Claim one retryable row with skip-locked and a short lease. -/
def claimNextPendingOutbox (now : Time) (view : ClaimView) :
    OutboxTransaction (Option ActionOutbox) := do
  let leaseUntil := now + settings.webhookRetryLeaseSeconds * microsecondsPerSecond
  let found ← select fun db =>
    firstRow view.nullsFirst (db.outbox.filter fun row => row.isDue now && !view.locked row.id)
  match found with
  | none => return none
  | some row =>
    execute (.saveOutbox row.id (.lockedUntil (some leaseUntil)))
    return some (row.assign (.lockedUntil (some leaseUntil)))

/-- The requeue of a webhook delivery of the company; `none` is the answer 404. -/
def requeueDelivery (companyId : Nat) (deliveryId : Uuid) : Delivery (Option ActionOutbox) := do
  let found ← Delivery.autocommit (.select fun db => db.outbox.find? fun row =>
    row.deliveryKind = .webhook && row.id = deliveryId && row.companyId = companyId)
  match found with
  | none => return none
  | some row =>
    Delivery.autocommit (.execute (.updateOutbox row.id .requeued))
    let refreshed ← Delivery.autocommit (.select fun db => db.row row.id)
    let after ← Prog.ofExcept (refreshed.elim (.error ActionsError.doesNotExist) .ok)
    return some after

end

end HostingService
