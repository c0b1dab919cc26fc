import HostingService.Api.Endpoints

/-! The views under `/hosting/v1/`. -/

namespace HostingService

open Program Text Storage Transaction

/-- What a view does for a principal that its permissions let in. -/
abbrev View := ApiWorld → Answer × ApiWorld

/-! ### What the views look up -/

def requireCompanyId (principal : HostingPrincipal) : Except Error Nat :=
  principal.companyId.elim
    (.error (hostingError "JWT is missing company_id." 403 "missing_company")) .ok

/-- A deploy token may only deploy preview sites of its company. -/
def assertDeployTokenPreview (principal : HostingPrincipal) (app : App) : Except Error Unit :=
  if principal.deployTokenId.isSome && !app.isPreview then
    .error (hostingError
      "Deploy tokens can only deploy preview sites. Check hosting.slug in shellui.config.json."
      403 "deploy_token_preview_only")
  else .ok ()

/-- `resolve_app_ref(app_ref, company_id=require_company_id(request.user))` -/
def companyApp (principal : HostingPrincipal) (ref : PyStr) : Transaction App := do
  let companyId ← .ofExcept (requireCompanyId principal)
  resolveAppRef ref (some companyId)

/-- `_scoped_app` -/
def scopedApp (principal : HostingPrincipal) (ref : PyStr) : Transaction App := do
  let app ← companyApp principal ref
  let _ ← .ofExcept (assertDeployTokenPreview principal app)
  return app

def deploymentNotFound : Error :=
  hostingError "Deployment not found." 404 "deployment_not_found"

/-- `Deployment.objects.get(id=deployment_id, app=_scoped_app(...))` -/
def scopedDeployment (principal : HostingPrincipal) (ref : PyStr) (id : Uuid) :
    Transaction Deployment := do
  let app ← scopedApp principal ref
  let found ← select fun db => db.deployments.find? fun row => row.id = id && row.app = app.id
  .ofExcept (found.elim (.error deploymentNotFound) .ok)

/-- `_mb`: one decimal, rounded half to even, and none if it is zero. -/
def megabytes (size : Nat) : PyStr :=
  let scaled := 10 * size
  let whole := scaled / 1024 ^ 2
  let rest := scaled % 1024 ^ 2
  let tenths := if 1024 ^ 2 < 2 * rest ∨ (2 * rest = 1024 ^ 2 ∧ whole % 2 = 1) then whole + 1
    else whole
  if tenths % 10 = 0 then digits (tenths / 10 : Nat)
  else digits (tenths / 10 : Nat) ++ lit "." ++ digits (tenths % 10 : Nat)

/-- `_too_large` -/
def tooLarge (size : Option Nat) (maxBytes : Nat) : Error :=
  .hostingError
    (match size with
      | some (size + 1) => lit "Artifact is " ++ megabytes (size + 1) ++ lit " MB, the limit is " ++
          megabytes maxBytes ++ lit " MB."
      | _ => lit "Artifact is over the " ++ megabytes maxBytes ++ lit " MB limit.")
    413 "upload_too_large"

section
variable (settings : ApiSettings) (library : ApiLibrary)

/-- The answers to what a view reads; its statements write nothing. -/
def ApiWorld.ask {α : Type} (world : ApiWorld) (asked : Transaction α) : Except Error α :=
  (asked.run (Statement.handle settings.hosting) world.hosting).1

/-- A view that reads, calls a service and shows rows of the database after it. -/
def serviceView (request : ApiRequest) (asked : Transaction Request) (failed : Error → Answer)
    (shown : Db → Content) : View := fun world =>
  match world.ask settings asked with
  | .error error => (failed error, world)
  | .ok asked =>
    match world.serve settings library asked request.faults request.draws with
    | (.error error, after) => (failed error, after)
    | (.ok (), after) => (.served (shown after.hosting.db), after)

/-- A view that shows what it reads. -/
def readView (asked : Transaction Content) : View := fun world =>
  match world.ask settings asked with
  | .error error => (error.answer false, world)
  | .ok content => (.served content, world)

/-! ### Access -/

variable (principal : HostingPrincipal) (request : ApiRequest)

def healthView : View := fun world => (.served (.health settings.hosting.hostingBackend), world)

/-- Views that need the company of the token. -/
def withCompany (view : Nat → View) : View := fun world =>
  match requireCompanyId principal with
  | .error error => (error.answer false, world)
  | .ok companyId => view companyId world

def showAccess (companyId : Nat) (world : ApiWorld) : Answer × ApiWorld :=
  (.served (.access companyId (world.getAccess companyId)), world)

def accessViewGet : View := withCompany principal showAccess

/-- What `AccessView.post` does for the company that it is about. -/
def reviewAccess (companyId : Nat) : View := fun world =>
  let status := request.body.status
  if (status = lit "approved" ∨ status = lit "denied") ∧ ¬ principal.isStaff then
    (.failed 403 "forbidden" (lit "Only staff can approve or deny hosting access."), world)
  else
    match parseAccessStatus status with
    | none => (.failed 400 "invalid_status"
        (lit "Invalid status: " ++ library.hosting.reprStr status), world)
    | some status =>
      showAccess companyId (world.updateAccess companyId status principal.userId request.body.notes)

def accessViewPost : View := fun world =>
  if principal.isStaff && request.body.companyId ≠ .absent then
    match request.body.companyId with
    | .value companyId => reviewAccess library principal request companyId world
    | _ => (refusal 500 "Internal Server Error", world)
  else
    withCompany principal (fun companyId world =>
      if !principal.isStaff && !principal.isCompanyOwner then
        (.failed 403 "forbidden" (lit "Forbidden"), world)
      else reviewAccess library principal request companyId world) world

def accessRequestViewPost : View := withCompany principal fun companyId world =>
  showAccess companyId (world.requestAccess companyId principal.userId)

/-! ### Apps -/

def newPreview (companyId : Nat) : NewPreview where
  companyId := companyId
  userId := principal.userId
  displayName := request.body.displayName
  actorEmail := principal.email
  appId := request.draws.appId
  draws := request.draws.slugs

def newDeployment : NewDeployment where
  appVersion := request.body.appVersion
  shelluiVersion := request.body.shelluiVersion
  deployedById := principal.userId
  pinned := request.body.pinned
  actorEmail := principal.email
  deploymentId := request.draws.deploymentId

def prepareRequest : Transaction Request := do
  let companyId ← .ofExcept (requireCompanyId principal)
  let slug := strip request.body.slug
  return .preparePreviewDeploy (newPreview principal request companyId)
    (if slug = [] then none else some slug) principal.deployTokenId.isSome
    (newDeployment principal request)

def previewPrepareViewPost : View :=
  serviceView settings library request (prepareRequest principal request) (·.answer true) fun db =>
    let deployment := db.deployment request.draws.deploymentId
    .prepared (deployment.bind fun row => db.app row.app) deployment

def appListViewGet : View := readView settings do
  let companyId ← .ofExcept (requireCompanyId principal)
  return .apps (← select fun db => db.companyApps companyId)

def appListViewPost : View :=
  serviceView settings library request
    (do
      let companyId ← .ofExcept (requireCompanyId principal)
      return .createApp
        { companyId := companyId
          name := if request.body.name = [] then request.body.slug else request.body.name
          displayName := request.body.displayName
          userId := some principal.userId
          actorEmail := principal.email
          appId := request.draws.appId
          draws := request.draws.slugs })
    (·.answer true) fun db => .app (db.app request.draws.appId)

variable (ref : PyStr)

def appDetailViewGet : View := readView settings do return .app (some (← companyApp principal ref))

def appDetailViewDelete : View :=
  serviceView settings library request
    (do
      let app ← companyApp principal ref
      return .delete app.id (some principal.userId) principal.email)
    (·.answer false) fun _ => .noContent

def appRenewExpiryViewPost : View := fun world =>
  serviceView settings library request (do return .renew (← companyApp principal ref).id)
    (·.answer false)
    (fun db => .app ((world.ask settings (companyApp principal ref)).toOption.bind fun app =>
      db.app app.id)) world

/-! ### Deployments -/

def deploymentListViewGet : View := readView settings do
  let app ← companyApp principal ref
  return .deployments (← select fun db => (db.deployments.filter (·.app = app.id)).reverse)

def deploymentListViewPost : View :=
  serviceView settings library request
    (do return .createDeployment (← scopedApp principal ref).id (newDeployment principal request))
    (·.answer true) fun db => .deployment (db.deployment request.draws.deploymentId)

variable (id : Uuid)

/-- The checks of `DeploymentUploadView.put` before the service. -/
def uploadRequest : Transaction Request := do
  let row ← scopedDeployment principal ref id
  let maxBytes := settings.hosting.hostingMaxUploadBytes
  .when (request.upload.declared > maxBytes)
    (throw (tooLarge (some request.upload.declared) maxBytes))
  let fileobj ← .ofExcept (request.upload.fileobj.elim
    (.error (hostingError "Upload body is empty." 400 "empty_upload")) .ok)
  return .upload row.id fileobj (uploadLength request.upload)
where
  /-- `getattr(fileobj, 'size', None) or declared or None` -/
  uploadLength (upload : Upload) : Option Nat :=
    match upload.size with
    | some (size + 1) => some (size + 1)
    | _ => if upload.declared = 0 then none else some upload.declared

/-- The two ways in which an artifact is too large have one code. -/
def uploadFailed : Error → Answer
  | .artifactTooLarge _ => (tooLarge none settings.hosting.hostingMaxUploadBytes).answer true
  | .hostingError message status code =>
    if code = "upload_too_large" then
      (tooLarge (uploadRequest.uploadLength request.upload)
        settings.hosting.hostingMaxUploadBytes).answer true
    else .failed status code message
  | error => error.answer true

def deploymentUploadViewPut : View :=
  serviceView settings library request (uploadRequest settings principal request ref id)
    (uploadFailed settings request) fun db => .deployment (db.deployment id)

def deploymentFinalizeViewPost : View :=
  serviceView settings library request
    (do
      let row ← scopedDeployment principal ref id
      return .finalize row.id (some principal.userId) principal.email)
    (·.answer false) fun db => .deployment (db.deployment id)

def deploymentRollbackViewPost : View :=
  serviceView settings library request
    (do return .rollback (← scopedDeployment principal ref id).id)
    (·.answer false) fun db => .deployment (db.deployment id)

/-! ### Deploy tokens -/

def deployTokenListViewGet : View := withCompany principal fun companyId world =>
  (.served (.tokens ((world.tokens.filter (·.companyId = companyId)).reverse)), world)

def deployTokenListViewPost : View := withCompany principal fun companyId world =>
  match request.body.expiresInDays with
  | .invalid => (.failed 400 "Error" (lit "invalid literal for int()"), world)
  | days =>
    let new : NewDeployToken :=
      { companyId := companyId
        name := request.body.name
        createdById := some principal.userId
        expiresInDays := days.toOption
        tokenId := request.draws.tokenId
        secret := request.draws.tokenSecret }
    match createDeployToken library.sha256 new world.hosting.clock world.tokens with
    | .error error => (error.answer true, world)
    | .ok token =>
      (.served (.token (some token) (some new.raw)), { world with tokens := world.tokens ++ [token] })

def deployTokenNotFound : Answer :=
  .failed 404 "deploy_token_not_found" (lit "Deploy token not found.")

def deployTokenRevokeViewPost : View := withCompany principal fun companyId world =>
  match world.tokens.find? fun token => token.id = id && token.companyId = companyId with
  | none => (deployTokenNotFound, world)
  | some token =>
    let tokens := revokeDeployToken token.id world.hosting.clock world.tokens
    (.served (.token (tokens.find? (·.id = token.id)) none), { world with tokens })

/-! ### Stats and metrics -/

def statsViewGet : View := fun world =>
  if principal.isStaff then (.served (.stats none), world)
  else withCompany principal (fun companyId world => (.served (.stats (some companyId)), world)) world

def metricsViewGet : View := fun world =>
  if !principal.isStaff && !principal.isCompanyOwner then (refusal 403 "Forbidden", world)
  else if request.companyQuery ≠ .absent then
    (refusal 400 ("Remove company_id from the query string; " ++
      "company scope comes from the access token only."), world)
  else
    match principal.companyId with
    | none => (refusal 400 "Missing company_id in access token.", world)
    | some companyId => (.served (.metrics (some companyId)), world)

def metricsAllViewGet : View := fun world =>
  if principal.isStaff || principal.accessGlobalMetrics then (.served (.metrics none), world)
  else (refusal 403 "Forbidden", world)

end

end HostingService
