import HostingService.Actions.Models
import HostingService.Hosting.Services
import HostingService.Text.Base64

/-! `ActionRule.config` from the fields of a request. -/

namespace HostingService

open Text Storage

/-- The fields of a rule request that the serializers validated; `none` for an absent one. -/
structure RuleFields where
  name : Option PyStr
  description : Option PyStr
  eventType : Option EventType
  enabled : Option Bool
  url : Option PyStr
  secret : Option PyStr
  authorizationHeader : Option PyStr
  allowPrivateUrls : Option Bool

/-- `generate_webhook_signing_secret`, of 32 random bytes. -/
def generateWebhookSigningSecret (raw : { raw : Bytes // raw.length = 32 }) : PyStr :=
  lit "whsec_" ++ b64encode raw

def emptyConfig : WebhookConfig := ⟨[], [], [], false⟩

def urlRequired : Error := .valueError (lit "Webhook url is required.")

/-- `build_webhook_config`; `generated` is a fresh signing secret. -/
def buildWebhookConfig (existing : WebhookConfig) (fields : RuleFields)
    (isSuperuser isPatch : Bool) (generated : PyStr) : Except Error WebhookConfig :=
  let url :=
    if fields.url.isSome || !isPatch then strip (fields.url.getD existing.url) else existing.url
  let urlChanged := fields.url.isSome && url ≠ strip existing.url
  if url = [] then .error urlRequired
  else
    let secret :=
      match fields.secret with
      | some given =>
        if strip given ≠ [] then strip given
        else if existing.secret = [] && !isPatch then generated else existing.secret
      | none => if existing.secret = [] && !isPatch then generated else existing.secret
    let allowPrivateUrls :=
      if isSuperuser then fields.allowPrivateUrls.getD existing.allowPrivateUrls
      else if urlChanged then false else existing.allowPrivateUrls
    .ok
      { url := url
        secret := secret
        authorizationHeader := (fields.authorizationHeader.map strip).getD existing.authorizationHeader
        allowPrivateUrls := allowPrivateUrls }

/-- The rule that a create request builds. -/
def newRule (id companyId : Nat) (fields : RuleFields) (name : PyStr) (eventType : EventType)
    (isSuperuser : Bool) (generated : PyStr) : Except Error ActionRule :=
  (buildWebhookConfig emptyConfig fields isSuperuser false generated).map fun config =>
    { id := id
      companyId := companyId
      name := name
      description := fields.description.getD []
      eventType := eventType
      enabled := fields.enabled.getD true
      actionKind := .webhook
      config := config }

/-- The rule after a patch. -/
def ActionRule.patched (rule : ActionRule) (fields : RuleFields) (isSuperuser : Bool) :
    Except Error ActionRule :=
  (buildWebhookConfig rule.config fields isSuperuser true []).map fun config =>
    { rule with
      name := fields.name.getD rule.name
      description := fields.description.getD rule.description
      eventType := fields.eventType.getD rule.eventType
      enabled := fields.enabled.getD rule.enabled
      actionKind := .webhook
      config := config }

def ActionRule.withSecret (rule : ActionRule) (secret : PyStr) : ActionRule :=
  { rule with config := { rule.config with secret } }

theorem newRule_companyId {id companyId : Nat} {fields : RuleFields} {name : PyStr}
    {eventType : EventType} {isSuperuser : Bool} {generated : PyStr} {rule : ActionRule}
    (built : newRule id companyId fields name eventType isSuperuser generated = .ok rule) :
    rule.companyId = companyId := by
  rw [newRule] at built
  rcases configured : buildWebhookConfig emptyConfig fields isSuperuser false generated with
    error | config
  all_goals rw [configured] at built
  · cases built
  · cases built
    rfl

/-- A patch keeps the key and the company of the rule. -/
theorem ActionRule.patched_keys {rule after : ActionRule} {fields : RuleFields} {isSuperuser : Bool}
    (patched : rule.patched fields isSuperuser = .ok after) :
    after.id = rule.id ∧ after.companyId = rule.companyId := by
  rw [ActionRule.patched] at patched
  rcases configured : buildWebhookConfig rule.config fields isSuperuser true [] with error | config
  all_goals rw [configured] at patched
  · cases patched
  · cases patched
    exact ⟨rfl, rfl⟩

end HostingService
