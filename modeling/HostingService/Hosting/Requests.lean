import HostingService.Hosting.Sites

/-! The requests of the service, and the acts that each may perform. -/

namespace HostingService

open Program Text Storage Transaction

inductive Request where
  | createApp (new : NewApp)
  | preparePreviewDeploy (preview : NewPreview) (slug : Option PyStr) (anyUser : Bool)
      (new : NewDeployment)
  | createDeployment (app : Uuid) (new : NewDeployment)
  | upload (deployment : Uuid) (fileobj : Stream Error) (contentLength : Option Nat)
  | finalize (deployment : Uuid) (userId : Option Nat) (actorEmail : PyStr)
  | rollback (deployment : Uuid)
  | renew (app : Uuid)
  | delete (app : Uuid) (userId : Option Nat) (actorEmail : PyStr)

/-- The row that a view reads before it calls the service. -/
def loadRow {α : Type} (find : Db → Option α) : Transaction α := do
  let row ← select find
  .ofExcept (row.elim (.error .doesNotExist) .ok)

section
variable (settings : Settings) (library : Library)

def Request.service : Request → Service Unit
  | .createApp new => Service.autocommit do
    let _ ← HostingService.createApp settings library new
    return ()
  | .preparePreviewDeploy preview slug anyUser new => do
    let _ ← Service.atomic
      (HostingService.preparePreviewDeploy settings library preview slug anyUser new)
    return ()
  | .createDeployment app new => Service.autocommit do
    let app ← loadRow (·.app app)
    let _ ← HostingService.createDeployment settings library app new
    return ()
  | .upload deployment fileobj contentLength => Service.autocommit do
    let deployment ← loadRow (·.deployment deployment)
    let _ ← uploadDeploymentArtifact settings deployment fileobj contentLength
    return ()
  | .finalize deployment userId actorEmail => do
    let deployment ← Service.autocommit (loadRow (·.deployment deployment))
    let _ ← finalizeDeployment settings library deployment userId actorEmail
    return ()
  | .rollback deployment => do
    let deployment ← Service.autocommit (loadRow (·.deployment deployment))
    let _ ← Service.atomic (rollbackDeployment deployment)
    return ()
  | .renew app => Service.autocommit do
    let app ← loadRow (·.app app)
    renewAppExpiry settings app
  | .delete app userId actorEmail => do
    let app ← Service.autocommit (loadRow (·.app app))
    Service.atomic (deleteApp settings app userId actorEmail)

/-! ### Which acts a request may perform -/

/-- The row of a new app. -/
structure Sites.BlankApp (sites : Sites) (app : App) : Prop where
  fresh : sites.Fresh app
  expiresAt : app.expiresAt = none
  currentDeployment : app.currentDeployment = none

/-- The row of a new deployment. -/
structure Sites.BlankDeployment (sites : Sites) (row : Deployment) : Prop where
  fresh : ∀ other ∈ sites.deployments, other.id ≠ row.id
  owned : ∃ app ∈ sites.apps, app.id = row.app
  status : row.status = .draft
  artifactSize : row.artifactSize = 0

/-- The first drawn candidate that is no slug yet. -/
def Sites.publicSlug (sites : Sites) (draws : Fin 32 → SlugDraw) : Option PyStr :=
  ((List.ofFn draws).map SlugDraw.candidate).find? fun slug => !sites.apps.any (·.slug = slug)

def renewal (now : Time) : Time := now + previewTtlDays settings * microsecondsPerDay

inductive Request.Admits (now : Time) (sites : Sites) : Request → Act → Prop where
  | createApp {new : NewApp} {app : App} (blank : sites.BlankApp app)
      (company : app.companyId = new.companyId)
      (room : ((sites.apps.filter (·.companyId = new.companyId)).length : Int) <
        settings.hostingMaxAppsPerCompany)
      (named : validateAppName library new.name = .ok app.name)
      (drawn : sites.publicSlug new.draws = some app.slug)
      (unowned : app.createdById = none) : Admits now sites (.createApp new) (.createApp app)
  | createPreview {preview : NewPreview} {slug : Option PyStr} {anyUser : Bool}
      {new : NewDeployment} {app : App} {row : Deployment} (blank : sites.BlankApp app)
      (company : app.companyId = preview.companyId)
      (room : (((sites.apps.filter (·.companyId = preview.companyId)).filter
        (·.unexpired now)).length : Int) < settings.hostingMaxAppsPerCompany)
      (named : app.name = app.slug)
      (drawn : sites.publicSlug preview.draws = some app.slug)
      (created : app.createdById = some preview.userId)
      (draft : (sites.insertApp app).BlankDeployment row) (owner : row.app = app.id) :
      Admits now sites (.preparePreviewDeploy preview slug anyUser new) (.createPreview app row)
  | redeploy {preview : NewPreview} {slug : Option PyStr} {anyUser : Bool} {new : NewDeployment}
      {row : Deployment} (draft : sites.BlankDeployment row) :
      Admits now sites (.preparePreviewDeploy preview slug anyUser new) (.createDeployment row)
  | createDeployment {app : Uuid} {new : NewDeployment} {row : Deployment}
      (draft : sites.BlankDeployment row) (owner : row.app = app) :
      Admits now sites (.createDeployment app new) (.createDeployment row)
  | upload {row : Deployment} {fileobj : Stream Error} {contentLength : Option Nat} {size : Nat}
      (found : row ∈ sites.deployments) (opened : row.status ∈ [.draft, .uploading, .failed]) :
      Admits now sites (.upload row.id fileobj contentLength)
        (.reopen row ⟨.uploading, some size, none⟩)
  | activate {row : Deployment} {app : App} {userId : Option Nat} {actorEmail : PyStr}
      (found : row ∈ sites.deployments) (ready : row.status ∈ [.uploading, .ready, .draft])
      (full : row.artifactSize ≠ 0) (present : app ∈ sites.apps) (owner : app.id = row.app) :
      Admits now sites (.finalize row.id userId actorEmail)
        (.makeCurrent row now (app.createdById.map fun _ => renewal settings now))
  | markFailed {row : Deployment} {userId : Option Nat} {actorEmail : PyStr}
      (found : row ∈ sites.deployments) (ready : row.status ∈ [.uploading, .ready, .draft]) :
      Admits now sites (.finalize row.id userId actorEmail) (.reopen row ⟨.failed, none, none⟩)
  | rollback {row : Deployment} {finalizedAt : Time} (found : row ∈ sites.deployments)
      (served : row.status ∈ [.ready, .active, .superseded]) (full : row.artifactSize ≠ 0)
      (owned : ∃ app ∈ sites.apps, app.id = row.app) :
      Admits now sites (.rollback row.id) (.makeCurrent row finalizedAt none)
  | renew {app : App} (present : app ∈ sites.apps)
      (preview : app.createdById ≠ none ∨ app.expiresAt ≠ none)
      (live : app.unexpired now = true) :
      Admits now sites (.renew app.id) (.renew app (renewal settings now))
  | delete {app : App} {userId : Option Nat} {actorEmail : PyStr} (present : app ∈ sites.apps) :
      Admits now sites (.delete app.id userId actorEmail) (.delete app)

/-- The act of a request that raises: a deployment is marked failed. -/
def Act.Reopens : Act → Prop
  | .reopen _ _ => True
  | _ => False

/-- How a request that ran from `before` may end: an act is performed, or it raised
and the tables are as they were. -/
def Request.Performs (request : Request) (before : World) (result : Except Error Unit)
    (after : World) : Prop :=
  (∃ act, request.Admits settings library before.clock before.db.sites act ∧
    after.db.sites = act.apply before.db.sites ∧ (result = .ok () ∨ act.Reopens)) ∨
  (∃ error, result = .error error) ∧ after.db.sites = before.db.sites

end

section
variable {settings : Settings} {library : Library} {world : World} {α β : Type}

/-- The result is an error and the tables are as they were. -/
def Refused (before : World) (result : Except Error α) (after : World) : Prop :=
  (∃ error, result = .error error) ∧ after.db.sites = before.db.sites

theorem refused (error : Error) (world : World) :
    Refused world (.error error : Except Error α) world := ⟨⟨error, rfl⟩, rfl⟩

theorem ensures_loadRow {find : Db → Option β} {rest : β → Transaction α}
    {post : Except Error α → World → Prop} (missing : post (.error .doesNotExist) world)
    (found : ∀ row, find world.db = some row →
      (rest row).Ensures (Statement.handle settings) post world) :
    (loadRow find >>= rest).Ensures (Statement.handle settings) post world := by
  rw [loadRow, Prog.bind_assoc, ensures_select]
  rcases read : find world.db with _ | row
  · exact missing
  · exact found row read

theorem Service.ensures_loadRow {find : Db → Option β} {rest : β → Service α}
    {post : Except Error α → World → Prop} (missing : post (.error .doesNotExist) world)
    (found : ∀ row, find world.db = some row →
      (rest row).Ensures (Action.handle settings) post world) :
    (Service.autocommit (loadRow find) >>= rest).Ensures (Action.handle settings) post world := by
  rw [Prog.ensures_bind, Service.ensures_autocommit, loadRow, ensures_select, Prog.ensures_ofExcept]
  rcases read : find world.db with _ | row
  · exact missing
  · exact found row read

theorem Service.ensures_loadRow_found {find : Db → Option β} {row : β} {rest : β → Service α}
    {post : Except Error α → World → Prop} (found : find world.db = some row)
    (later : (rest row).Ensures (Action.handle settings) post world) :
    (Service.autocommit (loadRow find) >>= rest).Ensures (Action.handle settings) post world := by
  rw [Prog.ensures_bind, Service.ensures_autocommit, loadRow, ensures_select, found,
    Prog.ensures_ofExcept]
  exact later

theorem ensures_assertHostingAccess {companyId : Nat} {rest : Unit → Transaction α}
    {post : Except Error α → World → Prop}
    (denied : ∀ error, post (.error error) world)
    (approved : (rest ()).Ensures (Statement.handle settings) post world) :
    (assertHostingAccess settings companyId >>= rest).Ensures (Statement.handle settings) post
      world := by
  rw [assertHostingAccess]
  split
  · exact approved
  · rw [Prog.bind_assoc, ensures_select]
    exact Prog.ensures_check.mpr ⟨fun _ => denied _, fun _ => approved⟩

theorem ensures_generatePublicSlug {draws : Fin 32 → SlugDraw} {rest : PyStr → Transaction α}
    {post : Except Error α → World → Prop} (none : ∀ error, post (.error error) world)
    (some : ∀ slug, world.db.sites.publicSlug draws = some slug →
      (rest slug).Ensures (Statement.handle settings) post world) :
    (generatePublicSlug slugTaken draws >>= rest).Ensures (Statement.handle settings) post
      world := by
  rw [generatePublicSlug]
  simp only [Sites.publicSlug] at some
  revert some
  induction List.ofFn draws with
  | nil =>
    intro _
    exact none _
  | cons draw others ih =>
    intro some
    rw [List.map_cons, List.find?_cons] at some
    rw [generatePublicSlugFrom, Prog.bind_assoc, slugTaken, ensures_select]
    rcases taken : world.db.apps.any (·.slug = draw.candidate) with _ | _
    · refine some _ ?_
      rw [Db.sites, taken]
      rfl
    · refine ih fun slug found => some slug ?_
      rw [Db.sites, taken]
      exact found

end

end HostingService
