import HostingService.Hosting.World

/-! The tables of Shellui Actions: webhook rules, outbox rows and delivery attempts. -/

namespace HostingService

open Text

/-- The stable id of an event in the catalog. -/
def EventType.text : EventType → PyStr
  | .appCreated => lit "hosting.app.created"
  | .appDeleted => lit "hosting.app.deleted"
  | .deploymentCreated => lit "hosting.deployment.created"
  | .deploymentSucceeded => lit "hosting.deployment.succeeded"
  | .deploymentFailed => lit "hosting.deployment.failed"

/-- `ActionRule.config`; a key that is absent reads as empty. -/
structure WebhookConfig where
  url : PyStr
  secret : PyStr
  authorizationHeader : PyStr
  allowPrivateUrls : Bool
  deriving DecidableEq

inductive ActionKind where
  | webhook
  | other (name : PyStr)
  deriving DecidableEq

structure ActionRule where
  id : Nat
  companyId : Nat
  name : PyStr
  description : PyStr
  eventType : EventType
  enabled : Bool
  actionKind : ActionKind
  config : WebhookConfig
  deriving DecidableEq

inductive OutboxStatus where
  | pending
  | delivered
  | failed
  | dead
  deriving DecidableEq

inductive DeliveryKind where
  | webhook
  | email
  deriving DecidableEq

/-- The stored JSON body. Only the envelope of a webhook has an `id`. -/
structure Envelope where
  id : Option PyStr
  event : Event
  deriving DecidableEq

structure ActionOutbox where
  id : Uuid
  companyId : Nat
  actionRule : Option Nat
  deliveryKind : DeliveryKind
  eventType : EventType
  envelope : Envelope
  status : OutboxStatus
  attemptCount : Nat
  nextAttemptAt : Option Time
  lockedUntil : Option Time
  lastError : PyStr
  createdAt : Time
  deliveredAt : Option Time
  deriving DecidableEq

inductive AttemptStatus where
  | success
  | failure
  deriving DecidableEq

inductive Trigger where
  | dispatch
  | automaticRetry
  deriving DecidableEq

structure DeliveryAttempt where
  outbox : Uuid
  status : AttemptStatus
  httpStatus : Option Nat
  errorMessage : PyStr
  attemptNumber : Nat
  durationMs : Option Int
  trigger : Trigger
  scheduledJobRunId : Option Nat
  deriving DecidableEq

structure ActionsDb where
  rules : List ActionRule
  outbox : List ActionOutbox
  attempts : List DeliveryAttempt

namespace ActionsDb

def row (db : ActionsDb) (id : Uuid) : Option ActionOutbox := db.outbox.find? (·.id = id)

/-- `row.action_rule` of a row loaded with its rule; a null reference gives `None`. -/
def ruleOf (db : ActionsDb) (row : ActionOutbox) : Option ActionRule :=
  row.actionRule.bind fun id => db.rules.find? (·.id = id)

/-- `row.delivery_attempts` -/
def attemptsOf (db : ActionsDb) (id : Uuid) : List DeliveryAttempt :=
  db.attempts.filter (·.outbox = id)

end ActionsDb

/-- Delivered and dead rows are not attempted again. -/
def OutboxStatus.isFinal (status : OutboxStatus) : Bool :=
  status = .delivered || status = .dead

/-! ### Errors -/

/-- The fields of `WebhookHTTPError`, `WebhookDeliveryError` and `EmailDeliveryError`. -/
structure DeliveryFailure where
  message : PyStr
  httpStatus : Option Nat
  responseExcerpt : PyStr
  permanent : Bool
  retryAfterSeconds : Option Int

def DeliveryFailure.permanently (message : String) : DeliveryFailure where
  message := lit message
  httpStatus := none
  responseExcerpt := []
  permanent := true
  retryAfterSeconds := none

inductive ActionsError where
  | webhookDelivery (failure : DeliveryFailure)
  | emailDelivery (failure : DeliveryFailure)
  | osError (message : PyStr)
  /-- Any other exception, with `str(exc) or exc.__class__.__name__`. -/
  | exception (message : PyStr)
  | integrityError
  | databaseError
  | doesNotExist

/-- The text that `except Exception as exc` stores. -/
def ActionsError.text : ActionsError → PyStr
  | .webhookDelivery failure | .emailDelivery failure => failure.message
  | .osError message | .exception message => message
  | .integrityError => lit "IntegrityError"
  | .databaseError => lit "DatabaseError"
  | .doesNotExist => lit "DoesNotExist"

/-! ### Writes -/

/-- The columns of the statements that write an outbox row. -/
inductive OutboxColumns where
  /-- What `_apply_delivery_result` saves; the lease is released. -/
  | result (status : OutboxStatus) (attemptCount : Nat) (lastError : PyStr)
      (nextAttemptAt deliveredAt : Option Time)
  | lockedUntil (value : Option Time)
  /-- What a requeue sets: pending, due at once, no error and no lease. -/
  | requeued

def ActionOutbox.assign : OutboxColumns → ActionOutbox → ActionOutbox
  | .result status attemptCount lastError nextAttemptAt deliveredAt, row =>
    { row with status, attemptCount, lastError, nextAttemptAt, deliveredAt, lockedUntil := none }
  | .lockedUntil value, row => { row with lockedUntil := value }
  | .requeued, row =>
    { row with status := .pending, nextAttemptAt := none, lastError := [], lockedUntil := none }

@[simp] theorem ActionOutbox.assign_id (columns : OutboxColumns) (row : ActionOutbox) :
    (row.assign columns).id = row.id := by
  cases columns <;> rfl

/-- Write the columns of the row with the primary key. -/
def ActionsDb.assign (db : ActionsDb) (id : Uuid) (columns : OutboxColumns) : ActionsDb :=
  { db with outbox := db.outbox.map fun row => if row.id = id then row.assign columns else row }

theorem ActionsDb.row_mem {db : ActionsDb} {id : Uuid} {row : ActionOutbox}
    (stored : db.row id = some row) : row ∈ db.outbox ∧ row.id = id :=
  ⟨List.mem_of_find?_eq_some stored, by simpa using List.find?_some stored⟩

theorem ActionsDb.row_any {db : ActionsDb} {id : Uuid} {row : ActionOutbox}
    (stored : db.row id = some row) : db.outbox.any (·.id = id) = true := by
  obtain ⟨member, same⟩ := row_mem stored
  exact List.any_eq_true.mpr ⟨row, member, by simpa using same⟩

theorem ActionsDb.row_assign (db : ActionsDb) (id other : Uuid) (columns : OutboxColumns) :
    (db.assign id columns).row other =
      (db.row other).map fun row => if row.id = id then row.assign columns else row := by
  have kept : (fun row : ActionOutbox => decide ((if row.id = id then row.assign columns else row).id = other)) =
      fun row => decide (row.id = other) := by
    funext row
    by_cases same : row.id = id <;> simp [same]
  simp only [row, assign, List.find?_map, Function.comp_def, kept]

/-- What the result of an attempt writes. -/
def ActionsDb.record (db : ActionsDb) (attempt : DeliveryAttempt) (columns : OutboxColumns) :
    ActionsDb :=
  ({ db with attempts := db.attempts ++ [attempt] }).assign attempt.outbox columns

theorem ActionsDb.row_record (db : ActionsDb) (attempt : DeliveryAttempt) (columns : OutboxColumns)
    (other : Uuid) : (db.record attempt columns).row other =
      (db.row other).map fun row => if row.id = attempt.outbox then row.assign columns else row :=
  row_assign ..

inductive ActionsChange where
  | createRule (row : ActionRule)
  | saveRule (row : ActionRule)
  | deleteRule (id : Nat)
  | createOutbox (row : ActionOutbox)
  | createAttempt (row : DeliveryAttempt)
  /-- `row.save(update_fields=...)` -/
  | saveOutbox (id : Uuid) (columns : OutboxColumns)
  /-- `ActionOutbox.objects.filter(pk=id).update(...)` -/
  | updateOutbox (id : Uuid) (columns : OutboxColumns)

/-- Deleting a rule cascades to its outbox rows, and these to their attempts. -/
def ActionsDb.deleteRule (db : ActionsDb) (id : Nat) : ActionsDb :=
  let doomed := (db.outbox.filter (·.actionRule = some id)).map (·.id)
  { rules := db.rules.filter (·.id ≠ id)
    outbox := db.outbox.filter (·.actionRule ≠ some id)
    attempts := db.attempts.filter (·.outbox ∉ doomed) }

def ActionsChange.apply (db : ActionsDb) : ActionsChange → Except ActionsError ActionsDb
  | .createRule row =>
    if db.rules.any (·.id = row.id) then .error .integrityError
    else .ok { db with rules := db.rules ++ [row] }
  | .saveRule row =>
    if db.rules.any (·.id = row.id) then
      .ok { db with rules := db.rules.map fun old => if old.id = row.id then row else old }
    else .error .databaseError
  | .deleteRule id => .ok (db.deleteRule id)
  | .createOutbox row =>
    if (db.outbox.any (·.id = row.id)) ∨
        ¬ (row.actionRule.all fun id => db.rules.any (·.id = id)) then .error .integrityError
    else .ok { db with outbox := db.outbox ++ [row] }
  | .createAttempt row =>
    if db.outbox.any (·.id = row.outbox) then .ok { db with attempts := db.attempts ++ [row] }
    else .error .integrityError
  | .saveOutbox id columns =>
    if db.outbox.any (·.id = id) then .ok (db.assign id columns) else .error .databaseError
  | .updateOutbox id columns => .ok (db.assign id columns)

theorem ActionsChange.apply_createAttempt {db : ActionsDb} {attempt : DeliveryAttempt}
    {row : ActionOutbox} (stored : db.row attempt.outbox = some row) :
    (createAttempt attempt).apply db = .ok { db with attempts := db.attempts ++ [attempt] } := by
  rw [apply, if_pos (ActionsDb.row_any stored)]

theorem ActionsChange.apply_saveOutbox {db : ActionsDb} {id : Uuid} {columns : OutboxColumns}
    {row : ActionOutbox} (stored : db.row id = some row) :
    (saveOutbox id columns).apply db = .ok (db.assign id columns) := by
  rw [apply, if_pos (ActionsDb.row_any stored)]

end HostingService
