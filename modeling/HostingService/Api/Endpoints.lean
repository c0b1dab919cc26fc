import HostingService.Api.World

/-! The endpoints of the APIs, who may call them with which method, and the data of a
request. -/

namespace HostingService

open Program Text Storage

inductive Method where
  | get
  | head
  | options
  | post
  | put
  | patch
  | delete
  | other
  deriving DecidableEq

/-- `SAFE_METHODS` -/
def Method.isSafe : Method → Bool
  | .get | .head | .options => true
  | _ => false

inductive Family where
  | hosting
  | actions
  | scheduledJobs
  | internal
  deriving DecidableEq

/-- The routes, with what their paths contain. -/
inductive Endpoint where
  | health
  | access
  | accessRequest
  | preview
  | apps
  | app (ref : PyStr)
  | renewExpiry (ref : PyStr)
  | deployments (ref : PyStr)
  | upload (ref : PyStr) (deployment : Uuid)
  | finalize (ref : PyStr) (deployment : Uuid)
  | rollback (ref : PyStr) (deployment : Uuid)
  | deployTokens
  | revokeToken (token : Uuid)
  | stats
  | metrics
  | metricsAll
  | eventLog
  | eventLogTypes
  | eventLogRetention
  | eventLogEntry (index : Nat)
  | actionEvents
  | rules
  | rule (id : Nat)
  | sendTest (rule : Nat)
  | rotateSecret (rule : Nat)
  | deliveries
  | delivery (id : Uuid)
  | requeue (delivery : Uuid)
  | scheduledJobs
  | scheduledJobRun (id : Nat)
  | scheduledJobRuns (job : PyStr)
  | companyDeletions
  deriving DecidableEq

namespace Endpoint

def family : Endpoint → Family
  | .eventLog | .eventLogTypes | .eventLogRetention | .eventLogEntry _ | .actionEvents | .rules
  | .rule _ | .sendTest _ | .rotateSecret _ | .deliveries | .delivery _ | .requeue _ => .actions
  | .scheduledJobs | .scheduledJobRun _ | .scheduledJobRuns _ => .scheduledJobs
  | .companyDeletions => .internal
  | _ => .hosting

/-- `authentication_classes` is not empty. -/
def authenticates : Endpoint → Bool
  | .health | .companyDeletions => false
  | _ => true

def deployTokenMethods : Endpoint → List Method
  | .preview => [.post]
  | .upload .. => [.put, .post]
  | .finalize .. => [.post]
  | _ => []

/-- `IsStaffOrCompanyOwner` is among the permission classes. -/
def ownersOnly : Endpoint → Bool
  | .access | .deployTokens | .revokeToken _ => true
  | _ => false

/-- The view has throttles for the method. -/
def throttles : Endpoint → Method → Bool
  | .accessRequest, _ | .preview, _ | .upload .., _ | .finalize .., _ | .rollback .., _ => true
  | .apps, .post | .deployments _, .post | .app _, .delete => true
  | _, _ => false

end Endpoint

/-- `IsAuthenticatedPrincipal` -/
def isAuthenticatedPrincipal (principal : HostingPrincipal) (method : Method) (endpoint : Endpoint) :
    Bool :=
  principal.deployTokenId.isNone || endpoint.deployTokenMethods.contains method

/-- `ActionsAdminPermission` -/
def actionsAdminPermission (principal : HostingPrincipal) (method : Method) : Bool :=
  !(principal.patRo && !method.isSafe)

/-- `check_permissions` -/
def Endpoint.permits (endpoint : Endpoint) (principal : HostingPrincipal) (method : Method) : Bool :=
  match endpoint.family with
  | .actions => actionsAdminPermission principal method
  | _ => isAuthenticatedPrincipal principal method endpoint &&
      (!endpoint.ownersOnly || principal.isStaff || principal.isCompanyOwner)

/-- The fields that the views read from a JSON body, as they coerce them. -/
structure Body where
  slug : PyStr
  name : PyStr
  displayName : PyStr
  appVersion : PyStr
  shelluiVersion : PyStr
  pinned : Bool
  companyId : Field Nat
  status : PyStr
  notes : PyStr
  expiresInDays : Field Int
  /-- `none` if the serializer refuses the body. -/
  rule : Option RuleFields

/-- The body of an upload. -/
structure Upload where
  /-- `CONTENT_LENGTH`, or zero -/
  declared : Nat
  fileobj : Option (Stream Error)
  /-- `fileobj.size` of a multipart file -/
  size : Option Nat

structure ApiRequest where
  endpoint : Endpoint
  method : Method
  authorization : Authorization
  /-- `?company_id=` -/
  companyQuery : Field Nat
  body : Body
  upload : Upload
  /-- The rate limit of the caller is used up. -/
  throttled : Bool
  faults : List (Option Error)
  draws : Draws
  network : Post → Exchange

end HostingService
