import HostingService.Hosting.Requests

/-! What the statements of each service are, for a predicate that permits reads, the
writes of rows and the events of one company. -/

namespace HostingService

open Program Text Storage Transaction

/-- Everything but storage calls and the events of other companies is good. -/
structure Permits (good : ∀ β, Statement β → Prop) (companyId : Nat) : Prop where
  reads : ∀ {β : Type} (query : Db → β), good β (.select query)
  clock : good Time .now
  evicts : ∀ slug, good Unit (.uncache slug)
  writes : ∀ change, (∀ event, change = .recordEvent event → event.companyId = companyId) →
    good Unit (.execute change)

theorem permits_onStorage {allowed : ∀ β, StorageCall β → Prop} (companyId : Nat) :
    Permits (OnStorage allowed) companyId :=
  ⟨fun _ => trivial, trivial, fun _ => trivial, fun _ _ => trivial⟩

section
variable {settings : Settings} {library : Library} {good : ∀ β, Statement β → Prop}
  {companyId : Nat} {α β : Type}

namespace Permits
variable (permits : Permits good companyId)
include permits

theorem all_select {query : Db → α} : (select query).All good :=
  Prog.all_perform.mpr (permits.reads query)

theorem all_now : Transaction.now.All good := Prog.all_perform.mpr permits.clock

theorem all_uncache (slug : PyStr) : (Prog.perform (.uncache slug) : Transaction Unit).All good :=
  Prog.all_perform.mpr (permits.evicts slug)

/-- A write of a row. -/
theorem all_execute {change : Change} (silent : ∀ event, change ≠ .recordEvent event) :
    (execute change).All good :=
  Prog.all_perform.mpr (permits.writes change fun event same => absurd same (silent event))

theorem all_emitEvent (eventType : EventType) (payload : Payload) (actor : Option Actor) :
    (emitEvent eventType companyId payload actor).All good := by
  refine Prog.all_perform.mpr (permits.writes _ fun event same => ?_)
  obtain rfl := Change.recordEvent.inj same
  rfl

theorem all_loadRow {find : Db → Option α} : (loadRow find).All good :=
  permits.all_select.bind fun _ => Prog.all_ofExcept _

theorem all_appOf (row : Deployment) : (appOf row).All good :=
  permits.all_select.bind fun _ => Prog.all_ofExcept _

end Permits

theorem all_check {test : Bool} {error : Error} :
    (Prog.when test (throw error) : Transaction Unit).All good :=
  .when fun _ => Prog.all_raise error

/-! ### Creating -/

theorem all_assertHostingAccess (permits : Permits good companyId) :
    (assertHostingAccess settings companyId).All good := by
  rw [assertHostingAccess]
  split
  · trivial
  · exact permits.all_select.bind fun _ => all_check

theorem all_generatePublicSlug (permits : Permits good companyId) (draws : Fin 32 → SlugDraw) :
    (generatePublicSlug slugTaken draws).All good := by
  rw [generatePublicSlug]
  induction List.ofFn draws with
  | nil => trivial
  | cons draw draws ih =>
    refine permits.all_select.bind fun taken => ?_
    split
    · exact ih
    · trivial

theorem all_createApp {new : NewApp} (permits : Permits good new.companyId) :
    (createApp settings library new).All good := by
  refine (all_assertHostingAccess permits).bind fun _ => permits.all_select.bind fun _ => ?_
  refine all_check.bind fun _ => .bind (Prog.all_ofExcept _) fun name => ?_
  refine permits.all_select.bind fun _ => all_check.bind fun _ => ?_
  refine (all_generatePublicSlug permits _).bind fun slug => ?_
  refine (permits.all_execute (by nofun)).bind fun _ => ?_
  exact (permits.all_emitEvent ..).bind fun _ => Prog.all_ret _

theorem all_createPreviewApp {preview : NewPreview} (permits : Permits good preview.companyId) :
    (createPreviewApp settings preview).All good := by
  refine (all_assertHostingAccess permits).bind fun _ => ?_
  refine .bind (permits.all_now.bind fun _ => permits.all_select) fun _ => all_check.bind fun _ => ?_
  refine (all_generatePublicSlug permits _).bind fun slug => ?_
  refine (permits.all_execute (by nofun)).bind fun _ => ?_
  exact (permits.all_emitEvent ..).bind fun _ => Prog.all_ret _

theorem all_createDeployment {app : App} (permits : Permits good app.companyId)
    (new : NewDeployment) : (createDeployment settings library app new).All good := by
  refine (all_assertHostingAccess permits).bind fun _ => permits.all_select.bind fun _ => ?_
  refine all_check.bind fun _ => .bind (Prog.all_ofExcept _) fun _ => ?_
  refine .bind (Prog.all_ofExcept _) fun _ => (permits.all_execute (by nofun)).bind fun _ => ?_
  exact (permits.all_emitEvent ..).bind fun _ => Prog.all_ret _

theorem all_resolvePreviewApp (permits : Permits good companyId) (slug : PyStr)
    (company userId : Nat) (anyUser : Bool) :
    (resolvePreviewApp library slug company userId anyUser).All good := by
  refine .bind (Prog.all_ofExcept _) fun _ => permits.all_select.bind fun _ => ?_
  refine .bind (Prog.all_ofExcept _) fun _ => all_check.bind fun _ => all_check.bind fun _ => ?_
  exact all_check.bind fun _ => Prog.all_ret _

/-! ### Activating, renewing and deleting -/

theorem all_makeCurrent (permits : Permits good companyId) (app : App) (row : Deployment)
    (finalizedAt : Time) : (makeCurrent app row finalizedAt).All good :=
  (permits.all_execute (by nofun)).bind fun _ => (permits.all_execute (by nofun)).bind fun _ =>
    Prog.all_ret _

theorem all_previewExpiresAt (permits : Permits good companyId) :
    (previewExpiresAt settings).All good :=
  permits.all_now.bind fun _ => Prog.all_ret _

theorem all_renewPreviewExpiry (permits : Permits good companyId) (app : App) :
    (renewPreviewExpiry settings app).All good := by
  rw [renewPreviewExpiry]
  split
  · trivial
  · exact (all_previewExpiresAt permits).bind fun _ => permits.all_execute (by nofun)

/-- What an activation does once it has the app of the deployment. -/
theorem all_activated {app : App} (permits : Permits good app.companyId) (row : Deployment)
    (actor : Option Actor) :
    (now >>= fun time => makeCurrent app row time >>= fun active =>
      renewPreviewExpiry settings app >>= fun _ =>
      execute (.saveApp app.id (.currentDeployment (some row.id))) >>= fun _ =>
      Prog.perform (.uncache app.slug) >>= fun _ =>
      emitEvent .deploymentSucceeded app.companyId
        (.deployment (deploymentEventPayload app active .active none)) actor >>= fun _ =>
      (pure active : Transaction Deployment)).All good := by
  refine .bind permits.all_now fun _ => (all_makeCurrent permits ..).bind fun _ => ?_
  refine (all_renewPreviewExpiry permits app).bind fun _ => (permits.all_execute (by nofun)).bind fun _ => ?_
  exact (permits.all_uncache _).bind fun _ => (permits.all_emitEvent ..).bind fun _ => Prog.all_ret _

theorem all_rollback (permits : Permits good companyId) (row : Deployment) :
    (rollbackDeployment row).All good := by
  refine all_check.bind fun _ => all_check.bind fun _ => (permits.all_appOf row).bind fun app => ?_
  refine .bind permits.all_now fun _ => (all_makeCurrent permits ..).bind fun _ => ?_
  refine (permits.all_execute (by nofun)).bind fun _ => ?_
  exact (permits.all_uncache _).bind fun _ => Prog.all_ret _

theorem all_renewApp (permits : Permits good companyId) (app : App) :
    (renewAppExpiry settings app).All good := by
  refine all_check.bind fun _ => .bind ?_ fun _ => all_check.bind fun _ =>
    (all_previewExpiresAt permits).bind fun _ => permits.all_execute (by nofun)
  rw [isPreviewExpired]
  split
  · trivial
  · exact .bind permits.all_now fun _ => Prog.all_ret _

/-! ### Services that use the file store -/

theorem all_preparePreviewDeploy (permits : ∀ companyId, Permits good companyId)
    (preview : NewPreview) (slug : Option PyStr) (anyUser : Bool) (new : NewDeployment) :
    (preparePreviewDeploy settings library preview slug anyUser new).All good := by
  have deployed (app : App) : (createDeployment settings library app _ >>= fun row =>
      pure (app, row)).All good :=
    (all_createDeployment (permits _) { new with
      deployedById := preview.userId, pinned := false, actorEmail := preview.actorEmail }).bind
      fun _ => Prog.all_ret _
  rw [preparePreviewDeploy]
  split
  · exact (all_createPreviewApp (permits _)).bind deployed
  · exact (all_resolvePreviewApp (permits 0) ..).bind deployed

theorem all_upload {row : Deployment} {fileobj : Stream Error} (permits : Permits good companyId)
    (saves : (storage (saveArtifact (artifactKey settings row) fileobj
      settings.hostingMaxUploadBytes)).All good) (contentLength : Option Nat) :
    (uploadDeploymentArtifact settings row fileobj contentLength).All good := by
  refine all_check.bind fun _ => all_check.bind fun _ => saves.bind fun size => ?_
  exact (permits.all_execute (by nofun)).bind fun _ => Prog.all_ret _

theorem all_activate {row : Deployment} (permits : ∀ companyId, Permits good companyId)
    (extracts : (storage (extractDeploymentArtifact settings library row)).All good)
    (actor : Option Actor) : (activateDeployment settings library row actor).All good := by
  refine all_check.bind fun _ => all_check.bind fun _ => ?_
  refine .bind (extracts.tryCatch fun _ => Prog.all_raise _) fun _ => ?_
  exact ((permits 0).all_appOf row).bind fun app => all_activated (permits _) row actor

theorem all_finalize {row : Deployment} (permits : ∀ companyId, Permits good companyId)
    (extracts : (storage (extractDeploymentArtifact settings library row)).All good)
    (userId : Option Nat) (actorEmail : PyStr) :
    (finalizeDeployment settings library row userId actorEmail).All (Action.All good) := by
  refine .tryCatch (all_atomic.mpr (all_activate permits extracts _)) fun error => ?_
  cases error with
  | extractError message =>
    refine .bind (all_atomic.mpr ?_) fun _ => Prog.all_raise _
    refine ((permits 0).all_execute (by nofun)).bind fun _ => ?_
    exact ((permits 0).all_appOf row).bind fun _ => (permits _).all_emitEvent ..
  | _ => exact Prog.all_raise _

/-- What is good without regard to companies and files holds of all that a request runs. -/
theorem Request.service_all (permits : ∀ companyId, Permits good companyId)
    (stored : ∀ {γ : Type} (body : StorageProg γ), (storage body).All good) (request : Request) :
    (request.service settings library).All (Action.All good) := by
  cases request with
  | createApp new =>
    exact all_autocommit.mpr ((all_createApp (permits _)).bind fun _ => Prog.all_ret _)
  | preparePreviewDeploy preview slug anyUser new =>
    exact .bind (all_atomic.mpr (all_preparePreviewDeploy permits ..)) fun _ => Prog.all_ret _
  | createDeployment app new =>
    exact all_autocommit.mpr ((permits 0).all_loadRow.bind fun app =>
      (all_createDeployment (permits _) new).bind fun _ => Prog.all_ret _)
  | upload deployment fileobj contentLength =>
    exact all_autocommit.mpr ((permits 0).all_loadRow.bind fun row =>
      (all_upload (permits 0) (stored _) contentLength).bind fun _ => Prog.all_ret _)
  | finalize deployment userId actorEmail =>
    exact .bind (all_autocommit.mpr (permits 0).all_loadRow) fun row =>
      (all_finalize permits (stored _) userId actorEmail).bind fun _ => Prog.all_ret _
  | rollback deployment =>
    exact .bind (all_autocommit.mpr (permits 0).all_loadRow) fun row =>
      .bind (all_atomic.mpr (all_rollback (permits 0) row)) fun _ => Prog.all_ret _
  | renew app =>
    exact all_autocommit.mpr ((permits 0).all_loadRow.bind (all_renewApp (permits 0)))
  | delete app userId actorEmail =>
    refine .bind (all_autocommit.mpr (permits 0).all_loadRow) fun app => all_atomic.mpr ?_
    refine .bind ((permits 0).all_select.bind fun rows => .forEach fun row _ => stored _) fun _ => ?_
    exact ((permits 0).all_execute (by nofun)).bind fun _ => (permits _).all_emitEvent ..

end

end HostingService
