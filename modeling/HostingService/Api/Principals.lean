import HostingService.Api.DeployTokens
import HostingService.Api.RuleConfig

/-! Who asks: the `Authorization` header, the principals of tokens, and the answers of
the service. -/

namespace HostingService

open Text Storage

/-! ### Answers -/

/-- The other columns of `CompanyHostingAccess`. -/
structure AccessReview where
  companyId : Nat
  requestedById : Option Nat
  requestedAt : Time
  reviewedById : Option Nat
  reviewedAt : Option Time
  notes : PyStr
  deriving DecidableEq

/-- `mask_config_for_response` -/
structure MaskedConfig where
  url : PyStr
  hasSecret : Bool
  secretHint : PyStr
  authorizationHeaderSet : Bool
  allowPrivateUrls : Bool

def secretHint (secret : PyStr) : PyStr :=
  let s := strip secret
  if s = [] then [] else if s.length ≤ 4 then lit "****" else s.drop (s.length - 4)

def maskConfig (config : WebhookConfig) : MaskedConfig where
  url := config.url
  hasSecret := config.secret ≠ []
  secretHint := secretHint config.secret
  authorizationHeaderSet := config.authorizationHeader ≠ []
  allowPrivateUrls := config.allowPrivateUrls

/-- `_action_rule_payload` -/
structure RulePayload where
  id : Nat
  companyId : Nat
  name : PyStr
  description : PyStr
  eventType : EventType
  enabled : Bool
  actionKind : ActionKind
  config : MaskedConfig
  /-- A new secret is shown once. -/
  secret : Option PyStr

def ActionRule.payload (rule : ActionRule) (secret : Option PyStr) : RulePayload where
  id := rule.id
  companyId := rule.companyId
  name := rule.name
  description := rule.description
  eventType := rule.eventType
  enabled := rule.enabled
  actionKind := rule.actionKind
  config := maskConfig rule.config
  secret := secret

/-- The body of a successful response: the rows that it shows. -/
inductive Content where
  | health (backend : HostingBackend)
  /-- The static description of a view. -/
  | metadata
  | noContent
  | access (companyId : Nat) (record : Option (CompanyHostingAccess × AccessReview))
  | app (row : Option App)
  | apps (rows : List App)
  | prepared (app : Option App) (deployment : Option Deployment)
  | deployment (row : Option Deployment)
  | deployments (rows : List Deployment)
  | token (row : Option DeployToken) (raw : Option PyStr)
  | tokens (rows : List DeployToken)
  /-- Counts over the rows of one company, or of all. -/
  | stats (companyId : Option Nat)
  | metrics (companyId : Option Nat)
  | rule (payload : RulePayload)
  | rules (payloads : List RulePayload)
  | sent
  | delivery (row : ActionOutbox) (attempts : List DeliveryAttempt) (includeRunId : Bool)
  | deliveries (rows : List ActionOutbox)
  | eventTypes
  | event (row : Event)
  | events (rows : List Event)
  | retention (companyId : Nat)
  | jobs
  | deleting (companyId : Nat)

inductive Answer where
  | failed (status : Nat) (error : String) (message : PyStr)
  | served (content : Content)

/-- `{'error': ...}` and what DRF answers itself. -/
def refusal (status : Nat) (error : String) : Answer := .failed status error []

/-- The answer to an exception; some views catch `ValueError`. -/
def Error.answer (catchesValueError : Bool) : Error → Answer
  | .hostingError message status code => .failed status code message
  | .valueError message | .artifactTooLarge message =>
    if catchesValueError then .failed 400 "Error" message else refusal 500 "Internal Server Error"
  | _ => refusal 500 "Internal Server Error"

/-! ### Principals -/

/-- A field of a token or of a request: absent or blank, no number, or a value. -/
inductive Field (α : Type) where
  | absent
  | invalid
  | value (value : α)
  deriving DecidableEq

def Field.toOption {α : Type} : Field α → Option α
  | .value given => some given
  | _ => none

/-- The verified claims of a JWT. -/
structure Claims where
  /-- `user_id`, else `sub` -/
  userId : Field Nat
  companyId : Field Nat
  /-- The email of the claims, else of their metadata. -/
  email : PyStr
  isStaff : Bool
  isCompanyOwner : Bool
  patAgm : Bool
  /-- `pat_ro` is `true`, and no other true value. -/
  patRo : Bool

structure HostingPrincipal where
  userId : Nat
  companyId : Option Nat
  email : PyStr
  isStaff : Bool
  isCompanyOwner : Bool
  accessGlobalMetrics : Bool
  /-- Set when the request used a company deploy token. -/
  deployTokenId : Option Uuid
  /-- `claims.get('pat_ro') is True` -/
  patRo : Bool
  deriving DecidableEq

def principalFromClaims (claims : Claims) : Option HostingPrincipal :=
  match claims.userId, claims.companyId with
  | .value _, .invalid => none
  | .value userId, companyId => some
    { userId := userId
      companyId := companyId.toOption
      email := claims.email
      isStaff := claims.isStaff
      isCompanyOwner := claims.isCompanyOwner
      accessGlobalMetrics := claims.patAgm
      deployTokenId := none
      patRo := claims.patRo }
  | _, _ => none

def DeployToken.principal (token : DeployToken) : HostingPrincipal where
  userId := token.createdById.getD 0
  companyId := some token.companyId
  email := []
  isStaff := false
  isCompanyOwner := false
  accessGlobalMetrics := false
  deployTokenId := some token.id
  patRo := false

/-- The words of the `Authorization` header. -/
inductive Authorization where
  | absent
  /-- Two words, the first `Bearer`, or that in another case. -/
  | bearer (exactCase : Bool) (raw : PyStr)
  /-- One word with two dots. -/
  | bare (raw : PyStr)
  /-- `Bearer` with no word after it, or with several. -/
  | malformed
  | foreign
  deriving DecidableEq

/-- Code outside the repository: besides that of hosting and actions a hash, and the
verification of signed tokens by `jwt` with the keys of the identity service. -/
structure ApiLibrary where
  hosting : Library
  actions : ActionsLibrary
  sha256 : Bytes → PyStr
  decodeToken : PyStr → Option Claims
  /-- The company of a deletion assertion. -/
  verifyAssertion : PyStr → Option Nat

section
variable (library : ApiLibrary)

def TokenError.answer : TokenError → Answer
  | .invalid => .failed 401 "deploy_token_invalid" (lit "Deploy token is invalid.")
  | .revoked => .failed 401 "deploy_token_revoked"
      (lit "Deploy token was revoked. Create a new one in admin.")
  | .expired => .failed 401 "deploy_token_expired"
      (lit "Deploy token has expired. Create a new one in admin.")
  | .notEncodable => refusal 500 "Internal Server Error"

/-- `DeployTokenAuthentication`; `none` for other values of the header. -/
def deployTokenOf (authorization : Authorization) : Option PyStr :=
  match authorization with
  | .bearer true raw => if tokenPrefix.isPrefixOf raw then some raw else none
  | _ => none

/-- `IdentityJWKSAuthentication` -/
def authenticateJwt : Authorization → Except Answer (Option HostingPrincipal)
  | .bearer true raw | .bare raw =>
    match (library.decodeToken raw).bind principalFromClaims with
    | some principal => .ok (some principal)
    | none => .error (refusal 401 "authentication_failed")
  | .malformed => .error (refusal 401 "authentication_failed")
  | _ => .ok none

/-- The principal of a request, and the tokens after the use of one. -/
def authenticate (authorization : Authorization) (now : Time) (tokens : List DeployToken) :
    Except Answer (Option HostingPrincipal × List DeployToken) :=
  match deployTokenOf authorization with
  | some raw =>
    match resolveDeployToken library.sha256 raw now tokens with
    | .ok token => .ok (some token.principal, touchToken token now tokens)
    | .error error => .error error.answer
  | none => (authenticateJwt library authorization).map (·, tokens)

end

theorem principalFromClaims_claims {claims : Claims} {principal : HostingPrincipal}
    (accepted : principalFromClaims claims = some principal) :
    principal.deployTokenId = none ∧ principal.patRo = claims.patRo := by
  rw [principalFromClaims] at accepted
  split at accepted
  · contradiction
  · obtain rfl := Option.some.inj accepted
    exact ⟨rfl, rfl⟩
  · contradiction

theorem authenticateJwt_claims {library : ApiLibrary} {authorization : Authorization}
    {principal : HostingPrincipal}
    (authenticated : authenticateJwt library authorization = .ok (some principal)) :
    ∃ raw claims, library.decodeToken raw = some claims ∧
      principalFromClaims claims = some principal := by
  have verified {raw : PyStr} (found : (match (library.decodeToken raw).bind principalFromClaims with
      | some principal => .ok (some principal)
      | none => .error (refusal 401 "authentication_failed") : Except Answer (Option HostingPrincipal)) =
      .ok (some principal)) : ∃ raw claims, library.decodeToken raw = some claims ∧
        principalFromClaims claims = some principal := by
    split at found
    · rename_i accepted
      obtain rfl := Option.some.inj (Except.ok.inj found)
      obtain ⟨claims, decoded, same⟩ := Option.bind_eq_some_iff.mp accepted
      exact ⟨raw, claims, decoded, same⟩
    · contradiction
  cases authorization with
  | bearer exactCase raw =>
    cases exactCase with
    | true => exact verified authenticated
    | false => cases authenticated
  | bare raw => exact verified authenticated
  | _ => cases authenticated

/-- A principal has the identity of a JWT, or it is a deploy token in the table. -/
theorem authenticate_cases {library : ApiLibrary} {authorization : Authorization} {now : Time}
    {tokens after : List DeployToken} {principal : Option HostingPrincipal}
    (authenticated : authenticate library authorization now tokens = .ok (principal, after)) :
    (after = tokens ∧ ∀ person, principal = some person → person.deployTokenId = none) ∨
      ∃ token ∈ tokens, principal = some token.principal ∧ after = touchToken token now tokens := by
  rw [authenticate] at authenticated
  split at authenticated
  · split at authenticated
    · rename_i resolved
      obtain ⟨rfl, rfl⟩ := Prod.mk.inj (Except.ok.inj authenticated)
      exact .inr ⟨_, resolveDeployToken_mem resolved, rfl, rfl⟩
    · contradiction
  · refine .inl ?_
    rcases verified : authenticateJwt library authorization with error | found
    all_goals rw [verified] at authenticated
    · cases authenticated
    · cases authenticated
      refine ⟨rfl, fun person same => ?_⟩
      subst same
      obtain ⟨raw, claims, _, accepted⟩ := authenticateJwt_claims verified
      exact (principalFromClaims_claims accepted).1

end HostingService
