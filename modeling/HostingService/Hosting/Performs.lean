import HostingService.Hosting.Requests

/-! Every request performs one of the acts it may perform, or raises and leaves the
tables as they were, whatever the storage does meanwhile. -/

namespace HostingService

open Program Text Storage Transaction

section
variable {settings : Settings} {library : Library} {world : World} {α β : Type}

/-! ### Creating -/

theorem insertDeployment_blank {db after : Db} {row : Deployment}
    (applied : (Change.insertDeployment row).apply db = .ok after) (draft : row.status = .draft)
    (empty : row.artifactSize = 0) :
    db.sites.BlankDeployment row ∧ after = { db with deployments := db.deployments ++ [row] } := by
  simp only [Change.apply] at applied
  split at applied
  · contradiction
  · rename_i free
    obtain ⟨unused, owned⟩ := not_or.mp free
    refine ⟨⟨fun other member same => ?_, ?_, draft, empty⟩, (Except.ok.inj applied).symm⟩
    · exact unused (List.any_eq_true.mpr ⟨other, member, by simpa using same⟩)
    · obtain ⟨owner, present, same⟩ := List.any_eq_true.mp (not_not.mp owned)
      exact ⟨owner, present, by simpa using same⟩

theorem ensures_createApp (new : NewApp) :
    (createApp settings library new).Ensures (Statement.handle settings) (fun result after =>
      (∃ app, result = .ok app ∧
        Request.Admits settings library world.clock world.db.sites (.createApp new)
          (.createApp app) ∧ after.db.sites = world.db.sites.insertApp app) ∨
      Refused world result after) world := by
  rw [createApp]
  refine ensures_assertHostingAccess (fun error => .inr (refused error world)) ?_
  refine ensures_select.mpr (Prog.ensures_check.mpr ⟨fun _ => .inr (refused _ world), fun room => ?_⟩)
  refine Prog.ensures_ofExcept_bind.mpr ⟨fun error _ => .inr (refused error world), fun name named => ?_⟩
  refine ensures_select.mpr (Prog.ensures_check.mpr ⟨fun _ => .inr (refused _ world), fun _ => ?_⟩)
  refine ensures_generatePublicSlug (fun error => .inr (refused error world)) fun slug drawn => ?_
  refine ensures_execute.mpr ⟨fun error _ => .inr (refused error world), fun db applied => ?_⟩
  obtain ⟨fresh, rfl⟩ := insertApp_fresh applied
  refine ensures_emitEvent.mpr (.inl ⟨_, rfl, ?_, rfl⟩)
  exact .createApp ⟨fresh, rfl, rfl⟩ rfl (by simpa [Db.companyApps, Db.sites] using room) named
    drawn rfl

theorem ensures_createPreviewApp (preview : NewPreview) :
    (createPreviewApp settings preview).Ensures (Statement.handle settings)
      (Prog.Returned fun app after => after.clock = world.clock ∧
        after.db.sites = world.db.sites.insertApp app ∧ world.db.sites.BlankApp app ∧
        app.companyId = preview.companyId ∧
        (((world.db.apps.filter (·.companyId = preview.companyId)).filter
          (·.unexpired world.clock)).length : Int) < settings.hostingMaxAppsPerCompany ∧
        app.name = app.slug ∧ world.db.sites.publicSlug preview.draws = some app.slug ∧
        app.createdById = some preview.userId) world := by
  rw [createPreviewApp]
  refine ensures_assertHostingAccess (fun _ => trivial) ?_
  rw [activeAppCount, Prog.bind_assoc]
  refine ensures_now.mpr (ensures_select.mpr (Prog.ensures_check.mpr ⟨fun _ => trivial, fun room => ?_⟩))
  refine ensures_generatePublicSlug (fun _ => trivial) fun slug drawn => ?_
  refine ensures_execute.mpr ⟨fun _ _ => trivial, fun db applied => ?_⟩
  obtain ⟨fresh, rfl⟩ := insertApp_fresh applied
  refine ensures_emitEvent.mpr ⟨rfl, rfl, ⟨fresh, rfl, rfl⟩, rfl, ?_, rfl, drawn, rfl⟩
  simpa [Db.companyApps] using room

theorem ensures_createDeployment (app : App) (new : NewDeployment) :
    (createDeployment settings library app new).Ensures (Statement.handle settings)
      (fun result after =>
        (∃ row, result = .ok row ∧ world.db.sites.BlankDeployment row ∧ row.app = app.id ∧
          after.db.sites = world.db.sites.insertDeployment row) ∨
        Refused world result after) world := by
  rw [createDeployment]
  refine ensures_assertHostingAccess (fun error => .inr (refused error world)) ?_
  refine ensures_select.mpr (Prog.ensures_check.mpr ⟨fun _ => .inr (refused _ world), fun _ => ?_⟩)
  refine Prog.ensures_ofExcept_bind.mpr ⟨fun error _ => .inr (refused error world), fun _ _ => ?_⟩
  refine Prog.ensures_ofExcept_bind.mpr ⟨fun error _ => .inr (refused error world), fun _ _ => ?_⟩
  refine ensures_execute.mpr ⟨fun error _ => .inr (refused error world), fun db applied => ?_⟩
  obtain ⟨blank, rfl⟩ := insertDeployment_blank applied rfl rfl
  exact ensures_emitEvent.mpr (.inl ⟨_, rfl, blank, rfl, rfl⟩)

theorem ensures_resolvePreviewApp {slug : PyStr} {companyId userId : Nat} {anyUser : Bool} :
    (resolvePreviewApp library slug companyId userId anyUser).Ensures (Statement.handle settings)
      (fun _ after => after = world) world := by
  rw [resolvePreviewApp]
  refine Prog.ensures_ofExcept_bind.mpr ⟨fun _ _ => rfl, fun name _ => ensures_select.mpr ?_⟩
  refine Prog.ensures_ofExcept_bind.mpr ⟨fun _ _ => rfl, fun app _ => ?_⟩
  refine Prog.ensures_check.mpr ⟨fun _ => rfl, fun _ => ?_⟩
  refine Prog.ensures_check.mpr ⟨fun _ => rfl, fun _ => ?_⟩
  exact Prog.ensures_check.mpr ⟨fun _ => rfl, fun _ => rfl⟩

theorem ensures_preparePreviewDeploy (preview : NewPreview) (slug : Option PyStr) (anyUser : Bool)
    (new : NewDeployment) :
    (preparePreviewDeploy settings library preview slug anyUser new).Ensures
      (Statement.handle settings) (Prog.Returned fun _ after =>
        ∃ act, Request.Admits settings library world.clock world.db.sites
          (.preparePreviewDeploy preview slug anyUser new) act ∧
          after.db.sites = act.apply world.db.sites) world := by
  rw [preparePreviewDeploy]
  split
  · refine (ensures_createPreviewApp preview).bind (fun _ _ _ => trivial) fun app middle ended => ?_
    obtain ⟨clock, inserted, blank, company, room, named, drawn, created⟩ := ended
    refine (ensures_createDeployment app _).bind (fun _ _ _ => trivial) fun row after ended => ?_
    rcases ended with ⟨_, same, draft, owner, added⟩ | ⟨⟨_, failed⟩, _⟩
    · obtain rfl := Except.ok.inj same
      rw [inserted] at draft added
      exact ⟨_, .createPreview blank company room named drawn created draft owner, added⟩
    · contradiction
  · refine ensures_resolvePreviewApp.bind (fun _ _ _ => trivial) fun app middle ended => ?_
    obtain rfl := ended
    refine (ensures_createDeployment app _).bind (fun _ _ _ => trivial) fun row after ended => ?_
    rcases ended with ⟨_, same, draft, owner, added⟩ | ⟨⟨_, failed⟩, _⟩
    · obtain rfl := Except.ok.inj same
      exact ⟨_, .redeploy draft, added⟩
    · contradiction

/-! ### Uploading, activating and rolling back -/

theorem saveDeployment_ok {db after : Db} {id : Uuid} {columns : DeploymentColumns}
    (applied : (Change.saveDeployment id columns).apply db = .ok after) :
    after = { db with deployments := db.deployments.map fun row =>
      if row.id = id then row.assign columns else row } := by
  simp only [Change.apply] at applied
  split at applied
  · exact (Except.ok.inj applied).symm
  · contradiction

theorem saveApp_ok {db after : Db} {id : Uuid} {column : AppColumn}
    (applied : (Change.saveApp id column).apply db = .ok after) :
    after = { db with apps := db.apps.map fun row =>
      if row.id = id then row.assign column else row } := by
  simp only [Change.apply] at applied
  split at applied
  · exact (Except.ok.inj applied).symm
  · contradiction

theorem ensures_upload (row : Deployment) (fileobj : Stream Error) (contentLength : Option Nat) :
    (uploadDeploymentArtifact settings row fileobj contentLength).Ensures (Statement.handle settings)
      (fun result after =>
        (∃ value size, result = .ok value ∧ row.status ∈ [.draft, .uploading, .failed] ∧
          after.db.sites = (Act.reopen row ⟨.uploading, some size, none⟩).apply world.db.sites) ∨
        Refused world result after) world := by
  rw [uploadDeploymentArtifact]
  refine Prog.ensures_check.mpr ⟨fun _ => .inr (refused _ world), fun opened => ?_⟩
  refine Prog.ensures_check.mpr ⟨fun _ => .inr (refused _ world), fun _ => ?_⟩
  refine (ensures_storage_frame _).bind (fun error after ended => ?_) fun size after ended => ?_
  · obtain ⟨disk, rfl⟩ := ended
    exact .inr ⟨⟨error, rfl⟩, rfl⟩
  · obtain ⟨disk, rfl⟩ := ended
    refine ensures_execute.mpr ⟨fun error _ => .inr ⟨⟨error, rfl⟩, rfl⟩, fun db applied => ?_⟩
    obtain rfl := saveDeployment_ok applied
    exact .inl ⟨_, size, rfl, not_not.mp (of_decide_eq_false opened), rfl⟩

theorem ensures_appOf {row : Deployment} {rest : App → Transaction α}
    {post : Except Error α → World → Prop} (missing : post (.error .doesNotExist) world)
    (found : ∀ app ∈ world.db.apps, app.id = row.app →
      (rest app).Ensures (Statement.handle settings) post world) :
    (appOf row >>= rest).Ensures (Statement.handle settings) post world := by
  rw [appOf, Prog.bind_assoc, ensures_select]
  rcases read : world.db.app row.app with _ | app
  · exact missing
  · obtain ⟨member, same⟩ := Db.mem_of_app read
    exact found app member same

/-- The rows after a deployment of the app became the only active one. -/
def Db.withCurrent (db : Db) (app id : Uuid) (finalizedAt : Time) : Db :=
  { db with deployments := db.deployments.map (Sites.currentRow app id finalizedAt) }

theorem currentRow_eq (app id : Uuid) (finalizedAt : Time) (row : Deployment) :
    (if (row.supersededBy app id).id = id then
      (row.supersededBy app id).assign ⟨.active, none, some (some finalizedAt)⟩
      else row.supersededBy app id) = Sites.currentRow app id finalizedAt row := by
  rw [Deployment.supersededBy_id, Sites.currentRow]
  by_cases same : row.id = id
  · rw [if_pos same, if_pos same, ← same, Deployment.supersededBy_self]
  · rw [if_neg same, if_neg same]

theorem ensures_makeCurrent (app : App) (row : Deployment) (finalizedAt : Time) :
    (makeCurrent app row finalizedAt).Ensures (Statement.handle settings)
      (Prog.Returned fun _ after =>
        after = { world with db := world.db.withCurrent app.id row.id finalizedAt }) world := by
  rw [makeCurrent]
  refine ensures_execute.mpr ⟨fun _ _ => trivial, fun db applied => ?_⟩
  obtain rfl := Except.ok.inj applied
  refine ensures_execute.mpr ⟨fun _ _ => trivial, fun db applied => ?_⟩
  obtain rfl := saveDeployment_ok applied
  show World.mk _ _ _ _ = World.mk _ _ _ _
  congr 1
  simp only [Db.withCurrent, List.map_map]
  congr 2
  exact funext (currentRow_eq app.id row.id finalizedAt)

theorem ensures_renewPreviewExpiry (app : App) :
    (renewPreviewExpiry settings app).Ensures (Statement.handle settings)
      (Prog.Returned fun _ after => after = { world with db := { world.db with apps :=
        (world.db.sites.mapApp app.id fun row => { row with expiresAt :=
          (app.createdById.map fun _ => renewal settings world.clock).or row.expiresAt }).apps } })
      world := by
  rw [renewPreviewExpiry]
  split
  · rename_i unowned
    show world = _
    simp [unowned, Sites.mapApp, Db.sites]
  · rename_i owned
    obtain ⟨user, created⟩ := Option.ne_none_iff_exists'.mp owned
    rw [previewExpiresAt, Prog.bind_assoc]
    refine ensures_now.mpr (ensures_execute_last.mpr ⟨fun _ _ => trivial, fun db applied => ?_⟩)
    obtain rfl := saveApp_ok applied
    simp [Prog.Returned, created, Sites.mapApp, Db.sites, App.assign, renewal]

/-- What activation and rollback do to the app, after the deployments. -/
theorem makeCurrent_sites (db : Db) (app : App) (row : Deployment) (finalizedAt : Time)
    (renewed : Option Time) (owner : app.id = row.app) :
    Sites.mk ((db.sites.mapApp app.id fun other =>
        { other with expiresAt := renewed.or other.expiresAt }).apps.map fun other =>
          if other.id = app.id then other.assign (.currentDeployment (some row.id)) else other)
        (db.withCurrent app.id row.id finalizedAt).deployments =
      (Act.makeCurrent row finalizedAt renewed).apply db.sites := by
  simp only [Sites.mapApp, Db.sites, Db.withCurrent, Act.apply, List.map_map, owner]
  congr 1
  refine List.map_congr_left fun other _ => ?_
  by_cases same : other.id = row.app
  · simp [same, App.assign]
  · simp [same]

/-- A bad archive is found only after the status was checked. -/
def Activates (settings : Settings) (row : Deployment) (before : World) :
    Except Error Deployment → World → Prop
  | .ok _, after => ∃ app ∈ before.db.apps, app.id = row.app ∧
      row.status ∈ [.uploading, .ready, .draft] ∧ row.artifactSize ≠ 0 ∧
      after.cache.lookup app.slug = none ∧
      after.db.sites = (Act.makeCurrent row before.clock
        (app.createdById.map fun _ => renewal settings before.clock)).apply before.db.sites
  | .error error, _ => error.isExtractError = true → row.status ∈ [.uploading, .ready, .draft]

theorem ensures_activate (row : Deployment) (actor : Option Actor) :
    (activateDeployment settings library row actor).Ensures (Statement.handle settings)
      (Activates settings row world) world := by
  rw [activateDeployment]
  refine Prog.ensures_check.mpr ⟨fun _ beyond => by contradiction, fun opened => ?_⟩
  have ready := not_not.mp (of_decide_eq_false opened)
  refine Prog.ensures_check.mpr ⟨fun _ _ => ready, fun stored => ?_⟩
  have full := of_decide_eq_false stored
  have extracted : (Prog.tryCatch (storage (extractDeploymentArtifact settings library row))
      fun error => throw (artifactMissing error)).Ensures (Statement.handle settings)
      (fun _ after => ∃ disk, after = { world with disk }) world := by
    exact (ensures_storage_frame _).tryCatch (fun _ _ ended => ended) fun _ _ ended => ended
  refine extracted.bind (fun _ _ _ _ => ready) fun count middle ended => ?_
  obtain ⟨disk, rfl⟩ := ended
  refine ensures_appOf (fun _ => ready) fun app present owner => ensures_now.mpr ?_
  refine (ensures_makeCurrent app row world.clock).bind (fun _ _ _ _ => ready) fun active middle ended => ?_
  obtain rfl := ended
  refine (ensures_renewPreviewExpiry app).bind (fun _ _ _ _ => ready) fun _ middle ended => ?_
  obtain rfl := ended
  refine ensures_execute.mpr ⟨fun _ _ _ => ready, fun db applied => ensures_uncache.mpr ?_⟩
  obtain rfl := saveApp_ok applied
  refine ensures_emitEvent.mpr ⟨app, present, owner, ready, full, AList.lookup_erase _ _, ?_⟩
  exact makeCurrent_sites world.db app row world.clock _ owner

theorem ensures_markFailed (row : Deployment) (actor : Option Actor) :
    (markDeploymentFailed row actor).Ensures (Statement.handle settings)
      (Prog.Returned fun _ after =>
        after.db.sites = (Act.reopen row ⟨.failed, none, none⟩).apply world.db.sites) world := by
  rw [markDeploymentFailed]
  refine ensures_execute.mpr ⟨fun _ _ => trivial, fun db applied => ?_⟩
  obtain rfl := saveDeployment_ok applied
  exact ensures_appOf trivial fun app _ _ => rfl

/-- What follows a bad archive: the failure is kept in a transaction of its own. -/
theorem ensures_failure (row : Deployment) (actor : Option Actor) (error : Error) :
    (Service.atomic (markDeploymentFailed row actor) >>= fun _ => throw error :
      Service Deployment).Ensures (Action.handle settings) (fun result after =>
        (∃ error, result = .error error) ∧ (after.db.sites = world.db.sites ∨
          after.db.sites = (Act.reopen row ⟨.failed, none, none⟩).apply world.db.sites)) world := by
  have marked : (Service.atomic (markDeploymentFailed row actor)).Ensures (Action.handle settings)
      (fun _ after => after.db.sites = world.db.sites ∨
        after.db.sites = (Act.reopen row ⟨.failed, none, none⟩).apply world.db.sites) world :=
    Service.ensures_atomic (ensures_markFailed row actor) (fun _ _ ended => .inr ended)
      fun _ _ _ => .inl rfl
  exact marked.bind (fun error after ended => ⟨⟨error, rfl⟩, ended⟩)
    fun _ after ended => ⟨⟨error, rfl⟩, ended⟩

theorem ensures_finalize (row : Deployment) (userId : Option Nat) (actorEmail : PyStr) :
    (finalizeDeployment settings library row userId actorEmail).Ensures (Action.handle settings)
      (fun result after =>
        (∃ active, result = .ok active ∧ Activates settings row world (.ok active) after) ∨
        (∃ error, result = .error error) ∧
          (after.db.sites = world.db.sites ∨ row.status ∈ [.uploading, .ready, .draft] ∧
            after.db.sites = (Act.reopen row ⟨.failed, none, none⟩).apply world.db.sites)) world := by
  have activated : (Service.atomic (activateDeployment settings library row
      (if userId.isSome then actionActor userId actorEmail else actionActor row.deployedById []))).Ensures
      (Action.handle settings) (fun result after => Activates settings row world result after ∧
        ∀ error, result = .error error → after.db = world.db) world :=
    Service.ensures_atomic (ensures_activate row _) (fun _ _ ended => ⟨ended, fun _ failed => by contradiction⟩)
      fun _ _ ended => ⟨ended, fun _ _ => rfl⟩
  refine activated.tryCatch (fun active after ended => .inl ⟨active, rfl, ended.1⟩)
    fun error after ended => ?_
  have restored := ended.2 error rfl
  cases error with
  | extractError message =>
    refine (ensures_failure row _ _).mono fun result last failed => .inr ⟨failed.1, ?_⟩
    rw [← restored]
    exact failed.2.imp id fun same => ⟨ended.1 rfl, same⟩
  | _ => exact .inr ⟨⟨_, rfl⟩, .inl (congrArg Db.sites restored)⟩

theorem ensures_rollback (row : Deployment) :
    (rollbackDeployment row).Ensures (Statement.handle settings)
      (Prog.Returned fun _ after => ∃ app ∈ world.db.apps, app.id = row.app ∧
        row.status ∈ [.ready, .active, .superseded] ∧ row.artifactSize ≠ 0 ∧
        after.cache.lookup app.slug = none ∧
        ∃ finalizedAt, after.db.sites = (Act.makeCurrent row finalizedAt none).apply world.db.sites)
      world := by
  rw [rollbackDeployment]
  refine Prog.ensures_check.mpr ⟨fun _ => trivial, fun opened => ?_⟩
  refine Prog.ensures_check.mpr ⟨fun _ => trivial, fun stored => ?_⟩
  refine ensures_appOf trivial fun app present owner => ensures_now.mpr ?_
  refine (ensures_makeCurrent app row _).bind (fun _ _ _ => trivial) fun active middle ended => ?_
  obtain rfl := ended
  refine ensures_execute.mpr ⟨fun _ _ => trivial, fun db applied => ensures_uncache.mpr ?_⟩
  obtain rfl := saveApp_ok applied
  refine ⟨app, present, owner, not_not.mp (of_decide_eq_false opened), of_decide_eq_false stored,
    AList.lookup_erase _ _, row.finalizedAt.getD world.clock, ?_⟩
  rw [← makeCurrent_sites world.db app row _ none owner]
  simp [Sites.mapApp, Db.sites, Db.withCurrent]

theorem ensures_isPreviewExpired {app : App} {rest : Bool → Transaction α}
    {post : Except Error α → World → Prop} :
    (isPreviewExpired app >>= rest).Ensures (Statement.handle settings) post world ↔
      (rest (!app.unexpired world.clock)).Ensures (Statement.handle settings) post world := by
  rw [isPreviewExpired, App.unexpired]
  rcases app.expiresAt with _ | expiresAt
  · rfl
  · have same : (!decide (world.clock < expiresAt)) = decide (expiresAt ≤ world.clock) := by
      rw [← decide_not, Bool.decide_congr not_lt]
    rw [Option.all_some, same]
    rfl

theorem ensures_renewApp (library : Library) (app : App) (present : app ∈ world.db.apps) :
    (renewAppExpiry settings app).Ensures (Statement.handle settings) (fun result after =>
      (result = .ok () ∧ ∃ act,
        Request.Admits settings library world.clock world.db.sites (.renew app.id) act ∧
        after.db.sites = act.apply world.db.sites) ∨ Refused world result after) world := by
  rw [renewAppExpiry]
  refine Prog.ensures_check.mpr ⟨fun _ => .inr (refused _ world), fun preview => ?_⟩
  refine ensures_isPreviewExpired.mpr ?_
  refine Prog.ensures_check.mpr ⟨fun _ => .inr (refused _ world), fun live => ?_⟩
  rw [previewExpiresAt, Prog.bind_assoc]
  refine ensures_now.mpr (ensures_execute_last.mpr
    ⟨fun error _ => .inr (refused error world), fun db applied => ?_⟩)
  obtain rfl := saveApp_ok applied
  refine .inl ⟨rfl, _, .renew present ?_ (by simpa using live), rfl⟩
  simpa [imp_iff_not_or] using preview

/-! ### Deleting -/

theorem ensures_storages_frame {ι : Type} (body : ι → StorageProg Unit) (items : List ι) :
    (Prog.forEach (fun item => storage (body item)) items).Ensures (Statement.handle settings)
      (fun _ after => ∃ disk, after = { world with disk }) world := by
  induction items generalizing world with
  | nil => exact ⟨world.disk, rfl⟩
  | cons item items ih =>
    refine (ensures_storage_frame (body item)).bind (fun _ _ ended => ended) fun _ middle ended => ?_
    obtain ⟨disk, rfl⟩ := ended
    exact ih

theorem ensures_deleteApp (app : App) (userId : Option Nat) (actorEmail : PyStr) :
    (deleteApp settings app userId actorEmail).Ensures (Statement.handle settings)
      (Prog.Returned fun _ after => after.db.sites = (Act.delete app).apply world.db.sites)
      world := by
  have emptied : (deleteAppArtifacts settings app).Ensures (Statement.handle settings)
      (fun _ after => ∃ disk, after = { world with disk }) world := by
    rw [deleteAppArtifacts]
    exact ensures_select.mpr (ensures_storages_frame _ _)
  rw [deleteApp]
  refine emptied.bind (fun _ _ _ => trivial) fun _ middle ended => ?_
  obtain ⟨disk, rfl⟩ := ended
  refine ensures_execute.mpr ⟨fun _ _ => trivial, fun db applied => ?_⟩
  obtain rfl := Except.ok.inj applied
  rfl

/-! ### Requests -/

theorem Request.Performs.act {request : Request} {before after : World} {result : Except Error Unit}
    {act : Act} (admitted : request.Admits settings library before.clock before.db.sites act)
    (applied : after.db.sites = act.apply before.db.sites) (ends : result = .ok () ∨ act.Reopens) :
    request.Performs settings library before result after := .inl ⟨act, admitted, applied, ends⟩

theorem Request.performs (request : Request) (world : World) :
    (request.service settings library).Ensures (Action.handle settings)
      (request.Performs settings library world) world := by
  cases request with
  | createApp new =>
    refine Service.ensures_autocommit.mpr ((ensures_createApp new).bind ?_ ?_)
    · intro error after ended
      rcases ended with ⟨_, returned, _⟩ | refused
      · contradiction
      · exact .inr ⟨⟨error, rfl⟩, refused.2⟩
    · intro app after ended
      rcases ended with ⟨_, _, admitted, applied⟩ | ⟨⟨_, failed⟩, _⟩
      · exact .act admitted applied (.inl rfl)
      · contradiction
  | preparePreviewDeploy preview slug anyUser new =>
    have prepared : (Service.atomic (HostingService.preparePreviewDeploy settings library preview slug
        anyUser new)).Ensures (Action.handle settings) (fun result after =>
          (Request.preparePreviewDeploy preview slug anyUser new).Performs settings library world
            (result.map fun _ => ()) after) world := by
      refine Service.ensures_atomic (ensures_preparePreviewDeploy preview slug anyUser new)
        (fun _ after ended => ?_) fun error _ _ => .inr ⟨⟨error, rfl⟩, rfl⟩
      obtain ⟨act, admitted, applied⟩ := ended
      exact .act admitted applied (.inl rfl)
    exact prepared.bind (fun _ _ ended => ended) fun _ _ ended => ended
  | createDeployment id new =>
    refine Service.ensures_autocommit.mpr (ensures_loadRow (.inr (refused _ world)) fun app found => ?_)
    obtain ⟨present, rfl⟩ := Db.mem_of_app found
    refine (ensures_createDeployment app new).bind ?_ ?_
    · intro error after ended
      rcases ended with ⟨_, returned, _⟩ | refused
      · contradiction
      · exact .inr ⟨⟨error, rfl⟩, refused.2⟩
    · intro row after ended
      rcases ended with ⟨_, same, draft, owner, applied⟩ | ⟨⟨_, failed⟩, _⟩
      · obtain rfl := Except.ok.inj same
        exact .act (.createDeployment draft owner) applied (.inl rfl)
      · contradiction
  | upload id fileobj contentLength =>
    refine Service.ensures_autocommit.mpr (ensures_loadRow (.inr (refused _ world)) fun row found => ?_)
    obtain ⟨present, rfl⟩ := Db.mem_of_deployment found
    refine (ensures_upload row fileobj contentLength).bind ?_ ?_
    · intro error after ended
      rcases ended with ⟨_, _, returned, _⟩ | refused
      · contradiction
      · exact .inr ⟨⟨error, rfl⟩, refused.2⟩
    · intro value after ended
      rcases ended with ⟨_, size, _, opened, applied⟩ | ⟨⟨_, failed⟩, _⟩
      · exact .act (.upload present opened) applied (.inl rfl)
      · contradiction
  | finalize id userId actorEmail =>
    refine Service.ensures_loadRow (.inr (refused _ world)) fun row found => ?_
    obtain ⟨present, rfl⟩ := Db.mem_of_deployment found
    refine (ensures_finalize row userId actorEmail).bind ?_ ?_
    · intro error after ended
      rcases ended with ⟨_, returned, _⟩ | ⟨_, unchanged | ⟨ready, applied⟩⟩
      · contradiction
      · exact .inr ⟨⟨error, rfl⟩, unchanged⟩
      · exact .act (.markFailed present ready) applied (.inr trivial)
    · intro active after ended
      rcases ended with ⟨_, _, app, stored, owner, ready, full, _, applied⟩ | ⟨⟨_, failed⟩, _⟩
      · exact .act (.activate present ready full stored owner) applied (.inl rfl)
      · contradiction
  | rollback id =>
    refine Service.ensures_loadRow (.inr (refused _ world)) fun row found => ?_
    obtain ⟨present, rfl⟩ := Db.mem_of_deployment found
    have rolledBack : (Service.atomic (rollbackDeployment row)).Ensures (Action.handle settings)
        (fun result after => (Request.rollback row.id).Performs settings library world
          (result.map fun _ => ()) after) world := by
      refine Service.ensures_atomic (ensures_rollback row) (fun _ after ended => ?_)
        fun error _ _ => .inr ⟨⟨error, rfl⟩, rfl⟩
      obtain ⟨app, stored, owner, served, full, _, finalizedAt, applied⟩ := ended
      exact .act (.rollback present served full ⟨app, stored, owner⟩) applied (.inl rfl)
    exact rolledBack.bind (fun _ _ ended => ended) fun _ _ ended => ended
  | renew id =>
    refine Service.ensures_autocommit.mpr (ensures_loadRow (.inr (refused _ world)) fun app found => ?_)
    obtain ⟨present, rfl⟩ := Db.mem_of_app found
    refine (ensures_renewApp library app present).mono fun result after ended => ?_
    rcases ended with ⟨returned, act, admitted, applied⟩ | refused
    · exact .act admitted applied (.inl returned)
    · exact .inr refused
  | delete id userId actorEmail =>
    refine Service.ensures_loadRow (.inr (refused _ world)) fun app found => ?_
    obtain ⟨present, rfl⟩ := Db.mem_of_app found
    exact Service.ensures_atomic (ensures_deleteApp app userId actorEmail)
      (fun _ _ applied => .act (.delete present) applied (.inl rfl)) fun error _ _ => .inr ⟨⟨error, rfl⟩, rfl⟩

end

end HostingService
