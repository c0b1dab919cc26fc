import HostingService.Api.AdminViews

/-! From a request to its view: the handlers of the methods, authentication, permissions
and throttles. -/

namespace HostingService

section
variable (settings : ApiSettings) (library : ApiLibrary) (principal : HostingPrincipal)
  (request : ApiRequest)

/-! ### Handlers -/

namespace Endpoint

def get : Endpoint → Option View
  | .health => some (healthView settings)
  | .access => some (accessViewGet principal)
  | .apps => some (appListViewGet settings principal)
  | .app ref => some (appDetailViewGet settings principal ref)
  | .deployments ref => some (deploymentListViewGet settings principal ref)
  | .deployTokens => some (deployTokenListViewGet principal)
  | .stats => some (statsViewGet principal)
  | .metrics => some (metricsViewGet principal request)
  | .metricsAll => some (metricsAllViewGet principal)
  | .eventLog => some (eventLogListViewGet principal request)
  | .eventLogTypes | .actionEvents => some (eventTypesView principal request)
  | .eventLogRetention => some (eventLogRetentionViewGet principal request)
  | .eventLogEntry index => some (eventLogDetailViewGet principal request index)
  | .rules => some (actionRuleListViewGet principal request)
  | .rule id => some (actionRuleDetailViewGet principal request id)
  | .deliveries => some (actionDeliveryListViewGet principal request)
  | .delivery id => some (actionDeliveryDetailViewGet principal request id)
  | .scheduledJobs | .scheduledJobRun _ | .scheduledJobRuns _ => some (scheduledJobsView principal)
  | _ => none

def post : Endpoint → Option View
  | .access => some (accessViewPost library principal request)
  | .accessRequest => some (accessRequestViewPost principal)
  | .preview => some (previewPrepareViewPost settings library principal request)
  | .apps => some (appListViewPost settings library principal request)
  | .renewExpiry ref => some (appRenewExpiryViewPost settings library principal request ref)
  | .deployments ref => some (deploymentListViewPost settings library principal request ref)
  | .finalize ref id => some (deploymentFinalizeViewPost settings library principal request ref id)
  | .rollback ref id => some (deploymentRollbackViewPost settings library principal request ref id)
  | .deployTokens => some (deployTokenListViewPost library principal request)
  | .revokeToken id => some (deployTokenRevokeViewPost principal id)
  | .rules => some (actionRuleListViewPost principal request)
  | .sendTest id => some (actionRuleSendTestViewPost settings library principal request id)
  | .rotateSecret id => some (actionRuleRotateSecretViewPost principal request id)
  | .requeue id => some (actionDeliveryRequeueViewPost principal request id)
  | .companyDeletions => some (companyDeletionViewPost library request)
  | _ => none

def put : Endpoint → Option View
  | .upload ref id => some (deploymentUploadViewPut settings library principal request ref id)
  | _ => none

def patch : Endpoint → Option View
  | .rule id => some (actionRuleDetailViewPatch principal request id)
  | _ => none

def delete : Endpoint → Option View
  | .app ref => some (appDetailViewDelete settings library principal request ref)
  | .rule id => some (actionRuleDetailViewDelete principal request id)
  | _ => none

end Endpoint

/-- The handler of the method; a view with `get` answers `HEAD` with it. -/
def ApiRequest.handler : Option View :=
  match request.method with
  | .get | .head => request.endpoint.get settings principal request
  | .options => some fun world => (.served .metadata, world)
  | .post => request.endpoint.post settings library principal request
  | .put => request.endpoint.put settings library principal request
  | .patch => request.endpoint.patch principal request
  | .delete => request.endpoint.delete settings library principal request
  | .other => none

end

/-! ### Requests -/

section
variable (settings : ApiSettings) (library : ApiLibrary) (request : ApiRequest)

def methodNotAllowed : Answer := refusal 405 "method_not_allowed"

/-- What `dispatch` calls once the checks of the view pass. -/
def ApiRequest.handle (principal : HostingPrincipal) : View := fun world =>
  match request.handler settings library principal with
  | none => (methodNotAllowed, world)
  | some view => view world

/-- Permissions, then throttles, then the handler. -/
def ApiRequest.handleChecked (principal : HostingPrincipal) : View := fun world =>
  if !request.endpoint.permits principal request.method then
    (refusal 403 "permission_denied", world)
  else if request.endpoint.throttles request.method && request.throttled then
    (refusal 429 "throttled", world)
  else request.handle settings library principal world

/-- Nobody asks on the endpoints without authentication. -/
def anonymous : HostingPrincipal where
  userId := 0
  companyId := none
  email := []
  isStaff := false
  isCompanyOwner := false
  accessGlobalMetrics := false
  deployTokenId := none
  patRo := false

/-- Whom the token of a request names. -/
def ApiRequest.principal (world : ApiWorld) : Option HostingPrincipal :=
  match authenticate library request.authorization world.hosting.clock world.tokens with
  | .ok (principal, _) => principal
  | .error _ => none

def ApiRequest.run : View := fun world =>
  if request.endpoint.authenticates then
    match authenticate library request.authorization world.hosting.clock world.tokens with
    | .error answer => (answer, world)
    | .ok (none, _) => (refusal 401 "not_authenticated", world)
    | .ok (some principal, tokens) => request.handleChecked settings library principal { world with tokens }
  else request.handle settings library anonymous world

end

end HostingService
