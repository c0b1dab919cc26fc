import HostingService.Actions.Delivery
import HostingService.Api.Views

/-! The views under `/api/v1/`: actions, scheduled jobs and company deletions. -/

namespace HostingService

open Program Text

def notFound : Answer := refusal 404 "Not found."

section
variable (settings : ApiSettings) (library : ApiLibrary) (principal : HostingPrincipal)
  (request : ApiRequest)

/-- The company that a request names, or that of its token. -/
def requestedCompany : Except Answer Nat :=
  match request.companyQuery, principal.companyId with
  | .invalid, _ => .error (refusal 400 "Invalid company_id parameter.")
  | .value companyId, own =>
    if some companyId ≠ own ∧ ¬ principal.isStaff then
      .error (refusal 403 "Requested company_id does not match token company_id.")
    else .ok companyId
  | .absent, none => .error (refusal 400 "Missing company_id in access token.")
  | .absent, some companyId => .ok companyId

def requireStaffOrCompanyOwner : Except Answer Nat :=
  match requestedCompany principal request with
  | .error answer => .error answer
  | .ok companyId =>
    if principal.isStaff || principal.isCompanyOwner then .ok companyId
    else .error (refusal 403 "Forbidden")

/-- Views of staff and company owners, scoped to a company. -/
def companyView (view : Nat → View) : View := fun world =>
  match requireStaffOrCompanyOwner principal request with
  | .error answer => (answer, world)
  | .ok companyId => view companyId world

/-! ### Events -/

def eventTypesView : View := companyView principal request fun _ world =>
  (.served .eventTypes, world)

def eventLogListViewGet : View := companyView principal request fun companyId world =>
  (.served (.events ((world.hosting.db.events.filter (·.companyId = companyId)).reverse)), world)

def eventLogDetailViewGet (index : Nat) : View := companyView principal request
  fun companyId world =>
    match (world.hosting.db.events[index]?).filter (·.companyId = companyId) with
    | none => (notFound, world)
    | some row => (.served (.event row), world)

def eventLogRetentionViewGet : View := companyView principal request fun companyId world =>
  (.served (.retention companyId), world)

/-! ### Rules -/

/-- One write to the tables of actions. -/
def ApiWorld.write (world : ApiWorld) (change : ActionsChange) (answer : Answer) :
    Answer × ApiWorld :=
  match change.apply world.actions with
  | .ok actions => (answer, { world with actions })
  | .error _ => (refusal 500 "Internal Server Error", world)

/-- `_validation_error_response` -/
def validationError : Error → Answer
  | .valueError message => .failed 400 "Error" message
  | error => error.answer false

def actionRuleListViewGet : View := companyView principal request fun companyId world =>
  (.served (.rules ((world.actions.rules.filter (·.companyId = companyId)).map (·.payload none))),
    world)

/-- The fields of a create request; the serializer requires two of them. -/
def createdFields : Option (RuleFields × PyStr × EventType) := do
  let fields ← request.body.rule
  return (fields, ← fields.name, ← fields.eventType)

def actionRuleListViewPost : View := companyView principal request fun companyId world =>
  match createdFields request with
  | none => (refusal 400 "invalid", world)
  | some (fields, name, eventType) =>
    match newRule request.draws.ruleId companyId fields name eventType principal.isStaff
      request.draws.webhookSecret with
    | .error error => (validationError error, world)
    | .ok rule =>
      world.write (.createRule rule) (.served (.rule (rule.payload (some rule.config.secret))))

/-- `ActionRule.objects.get(pk=pk, company_id=company_id)` -/
def ruleView (id : Nat) (view : ActionRule → View) : View := companyView principal request
  fun companyId world =>
    match world.actions.rules.find? fun rule => rule.id = id && rule.companyId = companyId with
    | none => (notFound, world)
    | some rule => view rule world

variable (id : Nat)

def actionRuleDetailViewGet : View := ruleView principal request id fun rule world =>
  (.served (.rule (rule.payload none)), world)

def actionRuleDetailViewPatch : View := ruleView principal request id fun rule world =>
  match request.body.rule with
  | none => (refusal 400 "invalid", world)
  | some fields =>
    match rule.patched fields principal.isStaff with
    | .error error => (validationError error, world)
    | .ok rule => world.write (.saveRule rule) (.served (.rule (rule.payload none)))

def actionRuleDetailViewDelete : View := ruleView principal request id fun rule world =>
  world.write (.deleteRule rule.id) (.served .noContent)

def actionRuleRotateSecretViewPost : View := ruleView principal request id fun rule world =>
  let secret := request.draws.webhookSecret
  let rule := rule.withSecret secret
  world.write (.saveRule rule) (.served (.rule (rule.payload (some secret))))

/-- What a delivery program sees of the state. -/
def ApiWorld.outboxWorld (world : ApiWorld) (network : Post → Exchange) : OutboxWorld where
  db := world.actions
  clock := world.hosting.clock
  monotonic := world.hosting.clock
  network := network

/-- `send_webhook_test_for_rule`; the envelope is not stored. -/
def sendWebhookTestForRule (rule : ActionRule) : Delivery Unit :=
  deliverWebhookAction settings.actions library.actions rule.config
    ⟨some (request.draws.eventIds 0).text,
      ⟨rule.eventType, rule.companyId, request.draws.sample, none⟩⟩ 1

def actionRuleSendTestViewPost : View := ruleView principal request id fun rule world =>
  if rule.enabled = false then (refusal 400 "Rule is disabled.", world)
  else
    match ((sendWebhookTestForRule settings library request rule).run DeliveryCall.handle
      (world.outboxWorld request.network)).1 with
    | .error error => (.failed 400 "Error" error.text, world)
    | .ok () => (.served .sent, world)

/-! ### Deliveries -/

/-- `_webhook_outbox().filter(company_id=company_id)` -/
def ActionOutbox.isWebhookOf (companyId : Nat) (row : ActionOutbox) : Bool :=
  row.deliveryKind = .webhook && row.companyId = companyId

def actionDeliveryListViewGet : View := companyView principal request fun companyId world =>
  (.served (.deliveries ((world.actions.outbox.filter (·.isWebhookOf companyId)).reverse)), world)

variable (delivery : Uuid)

def actionDeliveryDetailViewGet : View := companyView principal request fun companyId world =>
  match world.actions.outbox.find? fun row => row.isWebhookOf companyId && row.id = delivery with
  | none => (notFound, world)
  | some row =>
    (.served (.delivery row (world.actions.attemptsOf row.id).reverse principal.isStaff), world)

def actionDeliveryRequeueViewPost : View := companyView principal request fun companyId world =>
  match (requeueDelivery companyId delivery).run DeliveryCall.handle
    (world.outboxWorld request.network) with
  | (.error _, after) => (refusal 500 "Internal Server Error", { world with actions := after.db })
  | (.ok none, after) => (notFound, { world with actions := after.db })
  | (.ok (some row), after) =>
    (.served (.delivery row [] false), { world with actions := after.db })

/-! ### Scheduled jobs and company deletions -/

/-- `_require_platform_staff` -/
def scheduledJobsView : View := fun world =>
  if principal.isStaff then (.served .jobs, world) else (refusal 403 "Forbidden", world)

/-- `flag_company_deletion` -/
def flagCompanyDeletion (companyId : Nat) (rows : List CompanyDeletion) : List CompanyDeletion :=
  if rows.any (·.companyId = companyId) then
    update (·.companyId = companyId) (fun row => { row with completedAt := none }) rows
  else rows ++ [⟨companyId, none⟩]

def companyDeletionViewPost : View := fun world =>
  match request.authorization with
  | .bearer _ raw =>
    match library.verifyAssertion raw with
    | none => (refusal 401 "Assertion was rejected.", world)
    | some companyId =>
      (.served (.deleting companyId),
        { world with deletions := flagCompanyDeletion companyId world.deletions })
  | _ => (refusal 401 "A signed assertion is required.", world)

end

end HostingService
