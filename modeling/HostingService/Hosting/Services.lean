import HostingService.Hosting.Extract
import HostingService.Hosting.SemVer
import HostingService.Hosting.Slug

/-! Core hosting operations. -/

namespace HostingService

open Program Text Storage Transaction

def hostingError (message : String) (status : Nat) (code : String) : Error :=
  .hostingError (lit message) status code

def actionActor (userId : Option Nat) (email : PyStr) : Option Actor :=
  userId.map fun id => ⟨id, email⟩

/-! ### Events -/

def appEventPayload (app : App) : AppPayload where
  appId := app.id
  name := app.name
  slug := app.slug
  displayName := app.displayName
  companyId := app.companyId

def deploymentEventPayload (app : App) (deployment : Deployment) (status : DeploymentStatus)
    (error : Option PyStr) : DeploymentPayload where
  toAppPayload := appEventPayload app
  deploymentId := deployment.id
  appVersion := deployment.appVersion
  shelluiVersion := deployment.shelluiVersion
  status := status
  error := error

/-- The row of the event log; webhook and mail rows are written beside it. -/
def emitEvent (eventType : EventType) (companyId : Nat) (payload : Payload)
    (actor : Option Actor) : Transaction Unit :=
  execute (.recordEvent ⟨eventType, companyId, payload, actor⟩)

section
variable (settings : Settings) (library : Library)

/-! ### Access, expiry and quotas -/

def assertHostingAccess (companyId : Nat) : Transaction Unit := do
  if settings.hostingDebugOpen then return ()
  let record ← select fun db => db.access.find? (·.companyId = companyId)
  .when (record.all (·.status ≠ .approved)) (throw (hostingError
    "Company does not have hosting access. Request access first." 403 "hosting_access_denied"))

def microsecondsPerDay : Int := 86400 * 1000000

def previewTtlDays : Int :=
  max (if settings.hostingPreviewTtlDays = 0 then 7 else settings.hostingPreviewTtlDays) 1

def previewExpiresAt : Transaction Time := do
  return (← now) + previewTtlDays settings * microsecondsPerDay

def isPreviewExpired (app : App) : Transaction Bool :=
  match app.expiresAt with
  | none => return false
  | some expiresAt => return decide (expiresAt ≤ (← now))

/-- Extend preview lifetime after a successful deploy. -/
def renewPreviewExpiry (app : App) : Transaction Unit := do
  if app.createdById = none then return ()
  let expiresAt ← previewExpiresAt settings
  execute (.saveApp app.id (.expiresAt (some expiresAt)))

def renewAppExpiry (app : App) : Transaction Unit := do
  .when (app.createdById = none && app.expiresAt = none)
    (throw (hostingError "This app is not a preview site." 409 "not_preview"))
  .when (← isPreviewExpired app) (throw (hostingError
    ("This preview site has expired and its files were removed. " ++
      "Deploy again to create a new site.") 409 "preview_expired"))
  let expiresAt ← previewExpiresAt settings
  execute (.saveApp app.id (.expiresAt (some expiresAt)))

/-- `Q(expires_at__isnull=True) | Q(expires_at__gt=now)` -/
def App.unexpired (now : Time) (app : App) : Bool := app.expiresAt.all (now < ·)

def Db.companyApps (db : Db) (companyId : Nat) : List App :=
  db.apps.filter (·.companyId = companyId)

def activeAppCount (companyId : Nat) : Transaction Nat := do
  let now ← now
  select fun db => ((db.companyApps companyId).filter (·.unexpired now)).length

/-! ### Finding apps -/

def appNotFound : Error := hostingError "App not found." 404 "app_not_found"

/-- The apps of one company, or of all. -/
def Db.scope (db : Db) (companyId : Option Nat) : List App :=
  db.apps.filter fun app => companyId.all fun company => app.companyId = company

/-- The lookup of `resolve_app_ref`: by id if the text is a UUID, else by name, then slug. -/
def Db.resolve (db : Db) (companyId : Option Nat) (ref : PyStr) : Option App :=
  match Uuid.parse ref with
  | some parsed => (db.scope companyId).find? (·.id = parsed)
  | none => ((db.scope companyId).find? (·.name = ref)).or
      ((db.scope companyId).find? (·.slug = ref))

def resolveAppRef (appRef : PyStr) (companyId : Option Nat) : Transaction App := do
  let ref := strip appRef
  .when (ref = [])
    (throw (hostingError "App reference is required." 404 "app_not_found"))
  let app ← select fun db => db.resolve companyId ref
  .ofExcept (app.elim (.error appNotFound) .ok)

def App.isPreview (app : App) : Bool := app.createdById.isSome || app.expiresAt.isSome

def resolvePreviewApp (slug : PyStr) (companyId userId : Nat) (anyUser : Bool) :
    Transaction App := do
  let normalized ← .ofExcept (validateSlug library slug)
  let found ← select fun db => db.apps.find? (·.slug = normalized)
  let app ← .ofExcept (found.elim
    (.error (.hostingError (lit "Preview site " ++ library.reprStr normalized ++
      lit (" not found. Remove hosting.slug (and deprecated hosting.app) from config to " ++
        "create a new site, or pass a slug that already belongs to you.")) 404
      "preview_not_found")) .ok)
  .when (app.companyId ≠ companyId)
    (throw (hostingError "Preview site belongs to another company." 403 "preview_forbidden"))
  .when (anyUser && !app.isPreview) (throw (hostingError
    "Deploy tokens can only deploy preview sites. Check hosting.slug in shellui.config.json."
    403 "deploy_token_preview_only"))
  .when (!anyUser && app.createdById.any (· ≠ userId))
    (throw (hostingError "Preview site belongs to another user." 403 "preview_forbidden"))
  return app

/-! ### Creating apps and deployments -/

def slugTaken (slug : PyStr) : Transaction Bool := select fun db => db.apps.any (·.slug = slug)

/-- `(text or '').strip() or other` -/
def orElse (text other : PyStr) : PyStr := if strip text = [] then other else strip text

structure NewPreview where
  companyId : Nat
  userId : Nat
  displayName : PyStr
  actorEmail : PyStr
  appId : Uuid
  draws : Fin 32 → SlugDraw

def createPreviewApp (preview : NewPreview) : Transaction App := do
  assertHostingAccess settings preview.companyId
  let count ← activeAppCount preview.companyId
  .when (count ≥ settings.hostingMaxAppsPerCompany) (throw (.hostingError
    (lit "Company preview site limit reached (" ++ digits settings.hostingMaxAppsPerCompany ++
      lit ").") 403 "app_quota_exceeded"))
  let publicSlug ← generatePublicSlug slugTaken preview.draws
  let app : App :=
    { id := preview.appId
      name := publicSlug
      slug := publicSlug
      companyId := preview.companyId
      displayName := orElse preview.displayName publicSlug
      createdById := some preview.userId
      expiresAt := none
      currentDeployment := none }
  execute (.insertApp app)
  emitEvent .appCreated preview.companyId (.app (appEventPayload app))
    (actionActor (some preview.userId) preview.actorEmail)
  return app

structure NewApp where
  companyId : Nat
  name : PyStr
  displayName : PyStr
  userId : Option Nat
  actorEmail : PyStr
  appId : Uuid
  draws : Fin 32 → SlugDraw

def createApp (new : NewApp) : Transaction App := do
  assertHostingAccess settings new.companyId
  let count ← select fun db => (db.companyApps new.companyId).length
  .when (count ≥ settings.hostingMaxAppsPerCompany) (throw (.hostingError
    (lit "Company app limit reached (" ++ digits settings.hostingMaxAppsPerCompany ++ lit ").")
    403 "app_quota_exceeded"))
  let normalizedName ← .ofExcept (validateAppName library new.name)
  let taken ← select fun db => (db.companyApps new.companyId).any (·.name = normalizedName)
  .when taken
    (throw (hostingError "App name already exists for this company." 409 "app_name_taken"))
  let publicSlug ← generatePublicSlug slugTaken new.draws
  let app : App :=
    { id := new.appId
      name := normalizedName
      slug := publicSlug
      companyId := new.companyId
      displayName := orElse new.displayName normalizedName
      createdById := none
      expiresAt := none
      currentDeployment := none }
  execute (.insertApp app)
  emitEvent .appCreated new.companyId (.app (appEventPayload app))
    (actionActor new.userId new.actorEmail)
  return app

structure NewDeployment where
  appVersion : PyStr
  shelluiVersion : PyStr
  deployedById : Nat
  pinned : Bool
  actorEmail : PyStr
  deploymentId : Uuid

def createDeployment (app : App) (new : NewDeployment) : Transaction Deployment := do
  assertHostingAccess settings app.companyId
  let count ← select fun db => (db.deployments.filter (·.app = app.id)).length
  .when (count ≥ settings.hostingMaxDeploymentsPerApp) (throw (.hostingError
    (lit "Deployment limit reached for this app (" ++
      digits settings.hostingMaxDeploymentsPerApp ++ lit ").") 403 "deployment_quota_exceeded"))
  let _ ← .ofExcept (SemVer.parse library new.appVersion)
  let _ ← .ofExcept (SemVer.parse library new.shelluiVersion)
  let deployment := Deployment.draft app.id new.deploymentId (strip new.appVersion)
    (strip new.shelluiVersion) new.pinned new.deployedById
  execute (.insertDeployment deployment)
  emitEvent .deploymentCreated app.companyId
    (.deployment (deploymentEventPayload app deployment .draft none))
    (actionActor (some new.deployedById) new.actorEmail)
  return deployment

/-- The transaction of `prepare_preview_deploy`. -/
def preparePreviewDeploy (preview : NewPreview) (slug : Option PyStr) (anyUser : Bool)
    (new : NewDeployment) : Transaction (App × Deployment) := do
  let slug := strip (slug.getD [])
  let app ←
    if slug = [] then createPreviewApp settings preview
    else resolvePreviewApp library slug preview.companyId preview.userId anyUser
  let deployment ← createDeployment settings library app
    { new with deployedById := preview.userId, pinned := false, actorEmail := preview.actorEmail }
  return (app, deployment)

/-! ### Uploading and finalizing -/

def invalidStatus (message : String) : Error :=
  hostingError message 409 "invalid_deployment_status"

def uploadDeploymentArtifact (deployment : Deployment) (fileobj : Stream Error)
    (contentLength : Option Nat) : Transaction Deployment := do
  .when (deployment.status ∉ [.draft, .uploading, .failed])
    (throw (invalidStatus "Deployment cannot accept uploads in its current status."))
  .when (contentLength.any (· > settings.hostingMaxUploadBytes)) (throw (.hostingError
    (lit "Artifact exceeds maximum upload size (" ++ digits settings.hostingMaxUploadBytes ++
      lit " bytes).") 413 "upload_too_large"))
  let size ← storage
    (saveArtifact (artifactKey settings deployment) fileobj settings.hostingMaxUploadBytes)
  let columns : DeploymentColumns := ⟨.uploading, some size, none⟩
  execute (.saveDeployment deployment.id columns)
  return deployment.assign columns

/-- `deployment.app` -/
def appOf (deployment : Deployment) : Transaction App := do
  let app ← select fun db => db.app deployment.app
  .ofExcept (app.elim (.error .doesNotExist) .ok)

/-- What activation and rollback share: this deployment becomes the only active one. -/
def makeCurrent (app : App) (deployment : Deployment) (finalizedAt : Time) :
    Transaction Deployment := do
  execute (.supersede app.id deployment.id)
  let columns : DeploymentColumns := ⟨.active, none, some (some finalizedAt)⟩
  execute (.saveDeployment deployment.id columns)
  return deployment.assign columns

/-- `except FileNotFoundError as exc: raise HostingError(str(exc), code='artifact_missing')` -/
def artifactMissing : Error → Error
  | .fileNotFound message => .hostingError message 400 "artifact_missing"
  | error => error

def activateDeployment (deployment : Deployment) (actor : Option Actor) :
    Transaction Deployment := do
  .when (deployment.status ∉ [.uploading, .ready, .draft])
    (throw (invalidStatus "Deployment cannot be finalized in its current status."))
  .when (deployment.artifactSize = 0)
    (throw (hostingError "Upload an artifact before finalizing." 400 "artifact_missing"))
  let _ ← Prog.tryCatch (storage (extractDeploymentArtifact settings library deployment))
    fun error => throw (artifactMissing error)
  let app ← appOf deployment
  let active ← makeCurrent app deployment (← now)
  renewPreviewExpiry settings app
  execute (.saveApp app.id (.currentDeployment (some deployment.id)))
  .perform (.uncache app.slug)
  emitEvent .deploymentSucceeded app.companyId
    (.deployment (deploymentEventPayload app active .active none)) actor
  return active

def markDeploymentFailed (deployment : Deployment) (actor : Option Actor) : Transaction Unit := do
  execute (.saveDeployment deployment.id ⟨.failed, none, none⟩)
  let app ← appOf deployment
  emitEvent .deploymentFailed app.companyId
    (.deployment (deploymentEventPayload app deployment .failed
      (some (lit "artifact_extract_failed")))) actor

/-- Extract and activate; on a bad artifact, mark it failed and raise. -/
def finalizeDeployment (deployment : Deployment) (userId : Option Nat) (actorEmail : PyStr) :
    Service Deployment :=
  let actor := if userId.isSome then actionActor userId actorEmail
    else actionActor deployment.deployedById []
  Prog.tryCatch (Service.atomic (activateDeployment settings library deployment actor))
    fun error => do
      match error with
      | .extractError message =>
        Service.atomic (markDeploymentFailed deployment actor)
        throw (.hostingError message 400 "artifact_extract_failed")
      | error => throw error

def rollbackDeployment (deployment : Deployment) : Transaction Deployment := do
  .when (deployment.status ∉ [.ready, .active, .superseded]) (throw (invalidStatus
    "Only ready or previously active deployments can be rolled back to."))
  .when (deployment.artifactSize = 0)
    (throw (hostingError "Deployment has no artifact." 400 "artifact_missing"))
  let app ← appOf deployment
  let active ← makeCurrent app deployment (deployment.finalizedAt.getD (← now))
  execute (.saveApp app.id (.currentDeployment (some deployment.id)))
  .perform (.uncache app.slug)
  return active

/-! ### Deleting -/

/-- One round of `delete_app_artifacts`. -/
def deleteDeploymentArtifacts (deployment : Deployment) : StorageProg Unit := do
  deleteExtractedPrefix settings deployment.storagePrefix
  let key := artifactKey settings deployment
  Prog.tryCatch
    (do
      let found ← .perform (.hasKey key)
      .when found (.perform (.delete key)))
    fun _ => pure ()
  if isS3Backend settings then deleteArtifactPrefix settings deployment.storagePrefix
  else deleteFilesystemTree (buildStorageKey settings (rstripSlash deployment.storagePrefix))

/-- The newest deployment first. -/
def deleteAppArtifacts (app : App) : Transaction Unit := do
  let deployments ← select fun db => (db.deployments.filter (·.app = app.id)).reverse
  .forEach (fun deployment => storage (deleteDeploymentArtifacts settings deployment)) deployments

def deleteApp (app : App) (userId : Option Nat) (actorEmail : PyStr) : Transaction Unit := do
  let payload := appEventPayload app
  deleteAppArtifacts settings app
  execute (.deleteApp app.id)
  emitEvent .appDeleted app.companyId (.app payload) (actionActor userId actorEmail)

end

end HostingService
