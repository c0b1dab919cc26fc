import HostingService.Hosting.Calls
import HostingService.Hosting.Keys

/-! Which stored keys a request may change. -/

namespace HostingService

open Program Text Storage Transaction

/-- A request changes files only in the folder of a deployment that it may upload to or
unpack, or in the folders of the deployments of the app it deletes. -/
def Request.Footprint (settings : Settings) (sites : Sites) : Request → PyStr → Prop
  | .upload id _ _, key => ∃ row ∈ sites.deployments, row.id = id ∧
      row.status ∈ [.draft, .uploading, .failed] ∧ InFolder (folderKey settings row) key
  | .finalize id _ _, key => ∃ row ∈ sites.deployments, row.id = id ∧
      row.status ∈ [.uploading, .ready, .draft] ∧ InFolder (folderKey settings row) key
  | .delete id _ _, key => ∃ row ∈ sites.deployments, row.app = id ∧
      InFolder (folderKey settings row) key
  | _, _ => False

section
variable {settings : Settings} {library : Library} {world : World} {α β : Type}
  {inside : PyStr → Prop} {allowed : ∀ β, StorageCall β → Prop}

theorem preparePreviewDeploy_onStorage (preview : NewPreview) (slug : Option PyStr)
    (anyUser : Bool) (new : NewDeployment) :
    (preparePreviewDeploy settings library preview slug anyUser new).All (OnStorage allowed) :=
  all_preparePreviewDeploy permits_onStorage preview slug anyUser new

/-! ### Requests that change files -/

theorem ensures_sameOutside {body : Transaction α} (writes : body.All (OnStorage (Writes inside))) :
    body.Ensures (Statement.handle settings)
      (fun _ after => SameOutside inside world.disk.objects after.disk.objects) world := by
  have ran : SameOutside inside world.disk.objects
      ((Service.autocommit body).run (Action.handle settings) world).2.disk.objects :=
    service_sameOutside (all_autocommit.mpr writes) world
  rwa [Service.run_autocommit] at ran

theorem ensures_shrinks {body : Transaction α}
    (removes : body.All (OnStorage (Changes (fun _ => True) fun _ => False))) :
    body.Ensures (Statement.handle settings)
      (fun _ after => Shrinks world.disk.objects after.disk.objects) world := by
  have ran := service_objects Shrinks Shrinks.refl Shrinks.trans
    (fun _ _ changes disk => handle_shrinks (storageBackend settings) changes disk)
    (all_autocommit.mpr removes) world
  rwa [Service.run_autocommit] at ran

theorem Service.ensures_sameOutside {body : Service α}
    (writes : body.All (Action.All (OnStorage (Writes inside)))) :
    body.Ensures (Action.handle settings)
      (fun _ after => SameOutside inside world.disk.objects after.disk.objects) world :=
  service_sameOutside writes world

theorem upload_writes (row : Deployment) (fileobj : Stream Error) (contentLength : Option Nat) :
    (uploadDeploymentArtifact settings row fileobj contentLength).All
      (OnStorage (Writes (InFolder (folderKey settings row)))) :=
  all_upload (permits_onStorage 0)
    (onStorage_hoist.mpr (saveArtifact_writes settings row fileobj _)) contentLength

theorem finalize_writes (row : Deployment) (userId : Option Nat) (actorEmail : PyStr) :
    (finalizeDeployment settings library row userId actorEmail).All
      (Action.All (OnStorage (Writes (InFolder (folderKey settings row))))) :=
  all_finalize permits_onStorage
    (onStorage_hoist.mpr (extractDeploymentArtifact_writes settings library row)) userId actorEmail

theorem deleteDeploymentArtifacts_changes (saved : PyStr → Prop) (row : Deployment) :
    (deleteDeploymentArtifacts settings row).All
      (Changes (InFolder (folderKey settings row)) saved) := by
  have artifact := artifactKey_inFolder settings row
  refine .bind ?_ fun _ => .bind (.tryCatch ?_ fun _ => Prog.all_ret _) fun _ => ?_
  · exact deleteExtractedPrefix_changes settings (storagePrefix_anchored row) fun rest =>
      (extractedRoot_inFolder settings row).deeper _
  · exact .bind (Prog.all_perform.mpr trivial) fun _ => .when fun _ => Prog.all_perform.mpr artifact
  · split
    · exact deleteArtifactPrefix_changes settings row
    · refine deleteFilesystemTree_changes fun rest => ?_
      rw [storagePrefix_rstrip,
        buildStorageKey_anchored settings (deploymentFolder_facts row.app row.id).1,
        deploymentFolder_trimTail]
      exact InFolder.below (folderKey settings row) rest

/-- What holds of the storage calls for each deployment of the app holds of those of its deletion. -/
theorem all_deleteApp {app : App} (rows : ∀ row ∈ world.db.deployments, row.app = app.id →
      (deleteDeploymentArtifacts settings row).All allowed) (userId : Option Nat)
    (actorEmail : PyStr) :
    (Prog.forEach (fun row => storage (deleteDeploymentArtifacts settings row))
      (world.db.deployments.filter (·.app = app.id)).reverse >>= fun _ =>
        execute (.deleteApp app.id) >>= fun _ =>
          emitEvent .appDeleted app.companyId (.app (appEventPayload app))
            (actionActor userId actorEmail)).All (OnStorage allowed) := by
  refine .bind (.forEach fun row member => ?_) fun _ =>
    ((permits_onStorage 0).all_execute (by nofun)).bind fun _ =>
      (permits_onStorage _).all_emitEvent ..
  have listed : row ∈ world.db.deployments ∧ row.app = app.id := by simpa using member
  exact onStorage_hoist.mpr (rows row listed.1 listed.2)

theorem ensures_deleteApp_files (app : App) (userId : Option Nat) (actorEmail : PyStr) :
    (deleteApp settings app userId actorEmail).Ensures (Statement.handle settings)
      (fun _ after => SameOutside (fun key => ∃ row ∈ world.db.deployments, row.app = app.id ∧
        InFolder (folderKey settings row) key) world.disk.objects after.disk.objects) world := by
  rw [deleteApp, deleteAppArtifacts, Prog.bind_assoc]
  refine ensures_select.mpr (ensures_sameOutside (all_deleteApp (fun row present owner => ?_) ..))
  exact (deleteDeploymentArtifacts_changes (InFolder (folderKey settings row)) row).mono
    fun β op writes => writes.mono (fun key inside => ⟨row, present, owner, inside⟩)
      fun key inside => ⟨row, present, owner, inside⟩

/-- A deletion stores nothing. -/
theorem ensures_deleteApp_shrinks (app : App) (userId : Option Nat) (actorEmail : PyStr) :
    (deleteApp settings app userId actorEmail).Ensures (Statement.handle settings)
      (fun _ after => Shrinks world.disk.objects after.disk.objects) world := by
  rw [deleteApp, deleteAppArtifacts, Prog.bind_assoc]
  refine ensures_select.mpr (ensures_shrinks (all_deleteApp (fun row _ _ => ?_) ..))
  exact (deleteDeploymentArtifacts_changes (fun _ => False) row).mono fun β op changes =>
    changes.mono (fun _ _ => trivial) fun _ saved => saved

/-- A finalize that the status or an empty artifact refuses does nothing. -/
theorem ensures_finalize_refused {row : Deployment} (userId : Option Nat) (actorEmail : PyStr)
    (unready : row.status ∉ [.uploading, .ready, .draft] ∨ row.artifactSize = 0) :
    (finalizeDeployment settings library row userId actorEmail).Ensures (Action.handle settings)
      (fun _ after => after = world) world := by
  have stopped (actor : Option Actor) : ∃ message status code,
      activateDeployment settings library row actor = .raise (.hostingError message status code) := by
    rw [activateDeployment]
    by_cases ready : row.status ∈ [.uploading, .ready, .draft]
    · rw [decide_eq_false (not_not.mpr ready),
        decide_eq_true (unready.resolve_left (not_not.mpr ready)), Prog.when_true]
      exact ⟨_, _, _, rfl⟩
    · rw [decide_eq_true ready, Prog.when_true]
      exact ⟨_, _, _, rfl⟩
  simp only [finalizeDeployment]
  obtain ⟨message, status, code, same⟩ := stopped
    (if userId.isSome then actionActor userId actorEmail else actionActor row.deployedById [])
  have rolledBack : (Service.atomic (.raise (.hostingError message status code) :
      Transaction Deployment)).Ensures (Action.handle settings)
      (fun result after => result = .error (.hostingError message status code) ∧ after = world)
      world := ⟨rfl, rfl⟩
  rw [same]
  refine rolledBack.tryCatch (fun _ _ ended => ended.2) fun raised after ended => ?_
  obtain ⟨same, rfl⟩ := ended
  obtain rfl := Except.error.inj same
  rfl

/-- Whatever fails, a request changes no key outside its footprint. -/
theorem Request.confined (request : Request) (world : World) :
    (request.service settings library).Ensures (Action.handle settings)
      (fun _ after => SameOutside (request.Footprint settings world.db.sites)
        world.disk.objects after.disk.objects) world := by
  have kept (sites : World) : SameOutside (request.Footprint settings world.db.sites)
      sites.disk.objects sites.disk.objects := SameOutside.refl _ _
  cases request with
  | createApp new =>
    exact Service.ensures_sameOutside (all_autocommit.mpr
      ((all_createApp (permits_onStorage _)).bind fun _ => Prog.all_ret _))
  | preparePreviewDeploy preview slug anyUser new =>
    exact Service.ensures_sameOutside (.bind (all_atomic.mpr (preparePreviewDeploy_onStorage ..))
      fun _ => Prog.all_ret _)
  | createDeployment id new =>
    exact Service.ensures_sameOutside (all_autocommit.mpr ((permits_onStorage 0).all_loadRow.bind fun app =>
      (all_createDeployment (permits_onStorage _) new).bind fun _ => Prog.all_ret _))
  | upload id fileobj contentLength =>
    refine Service.ensures_autocommit.mpr (ensures_loadRow (kept world) fun row found => ?_)
    obtain ⟨present, same⟩ := Db.mem_of_deployment found
    by_cases opened : row.status ∈ [.draft, .uploading, .failed]
    · refine (ensures_sameOutside ((upload_writes row fileobj contentLength).bind
        fun _ => Prog.all_ret _)).mono fun _ _ changed => changed.mono fun key inside => ?_
      exact ⟨row, present, same, opened, inside⟩
    · rw [uploadDeploymentArtifact, Prog.bind_assoc]
      exact Prog.ensures_check.mpr ⟨fun _ => kept world, fun passed =>
        absurd (not_not.mp (of_decide_eq_false passed)) opened⟩
  | finalize id userId actorEmail =>
    refine Service.ensures_loadRow (kept world) fun row found => ?_
    obtain ⟨present, same⟩ := Db.mem_of_deployment found
    by_cases ready : row.status ∈ [.uploading, .ready, .draft]
    · refine (Service.ensures_sameOutside ((finalize_writes row userId actorEmail).bind
        fun _ => Prog.all_ret _)).mono fun _ _ changed => changed.mono fun key inside => ?_
      exact ⟨row, present, same, ready, inside⟩
    · exact (ensures_finalize_refused userId actorEmail (.inl ready)).bind (fun _ _ same => same ▸ kept world)
        fun _ _ same => same ▸ kept world
  | rollback id =>
    exact Service.ensures_sameOutside (.bind (all_autocommit.mpr (permits_onStorage 0).all_loadRow) fun row =>
      .bind (all_atomic.mpr (all_rollback (permits_onStorage 0) row)) fun _ => Prog.all_ret _)
  | renew id =>
    exact Service.ensures_sameOutside (all_autocommit.mpr ((permits_onStorage 0).all_loadRow.bind
      (all_renewApp (permits_onStorage 0))))
  | delete id userId actorEmail =>
    refine Service.ensures_loadRow (kept world) fun app found => ?_
    obtain ⟨present, rfl⟩ := Db.mem_of_app found
    exact Service.ensures_atomic (ensures_deleteApp_files app userId actorEmail)
      (fun _ _ changed => changed) fun _ _ changed => changed

end

end HostingService
