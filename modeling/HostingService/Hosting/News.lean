import HostingService.Hosting.Scopes
import HostingService.Program.Safe

/-! The events that a request tells of its change, and where they stand in the log at
each statement. -/

namespace HostingService

open Program Text Storage Transaction

def appNews (eventType : EventType) (app : App) (actor : Option Actor) : Event :=
  ⟨eventType, app.companyId, .app (appEventPayload app), actor⟩

def deploymentNews (eventType : EventType) (app : App) (row : Deployment) (status : DeploymentStatus)
    (error : Option PyStr) (actor : Option Actor) : Event :=
  ⟨eventType, app.companyId, .deployment (deploymentEventPayload app row status error), actor⟩

/-- The actor of `finalize_deployment`. -/
def finalizeActor (row : Deployment) (userId : Option Nat) (actorEmail : PyStr) : Option Actor :=
  if userId.isSome then actionActor userId actorEmail else actionActor row.deployedById []

/-- The events of an act that a request performs on the tables. -/
inductive Request.Tells (sites : Sites) : Request → Act → List Event → Prop where
  | createApp {new : NewApp} {app : App} (company : app.companyId = new.companyId) :
      Tells sites (.createApp new) (.createApp app)
        [appNews .appCreated app (actionActor new.userId new.actorEmail)]
  | createPreview {preview : NewPreview} {slug : Option PyStr} {anyUser : Bool}
      {new : NewDeployment} {app : App} {row : Deployment}
      (company : app.companyId = preview.companyId) (owner : row.app = app.id) :
      Tells sites (.preparePreviewDeploy preview slug anyUser new) (.createPreview app row)
        [appNews .appCreated app (actionActor (some preview.userId) preview.actorEmail),
          deploymentNews .deploymentCreated app row .draft none
            (actionActor (some preview.userId) preview.actorEmail)]
  | redeploy {preview : NewPreview} {slug : Option PyStr} {anyUser : Bool} {new : NewDeployment}
      {app : App} {row : Deployment} (present : app ∈ sites.apps) (owner : row.app = app.id) :
      Tells sites (.preparePreviewDeploy preview slug anyUser new) (.createDeployment row)
        [deploymentNews .deploymentCreated app row .draft none
          (actionActor (some preview.userId) preview.actorEmail)]
  | createDeployment {new : NewDeployment} {app : App} {row : Deployment}
      (present : app ∈ sites.apps) (owner : row.app = app.id) :
      Tells sites (.createDeployment app.id new) (.createDeployment row)
        [deploymentNews .deploymentCreated app row .draft none
          (actionActor (some new.deployedById) new.actorEmail)]
  | upload {row : Deployment} {fileobj : Stream Error} {contentLength : Option Nat}
      {columns : DeploymentColumns} :
      Tells sites (.upload row.id fileobj contentLength) (.reopen row columns) []
  | activate {row : Deployment} {app : App} {userId : Option Nat} {actorEmail : PyStr}
      {finalizedAt : Time} {renewed : Option Time} (present : app ∈ sites.apps)
      (owner : app.id = row.app) :
      Tells sites (.finalize row.id userId actorEmail) (.makeCurrent row finalizedAt renewed)
        [deploymentNews .deploymentSucceeded app row .active none
          (finalizeActor row userId actorEmail)]
  | markFailed {row : Deployment} {app : App} {userId : Option Nat} {actorEmail : PyStr}
      (present : app ∈ sites.apps) (owner : app.id = row.app) :
      Tells sites (.finalize row.id userId actorEmail) (.reopen row ⟨.failed, none, none⟩)
        [deploymentNews .deploymentFailed app row .failed (some (lit "artifact_extract_failed"))
          (finalizeActor row userId actorEmail)]
  | rollback {row : Deployment} {finalizedAt : Time} :
      Tells sites (.rollback row.id) (.makeCurrent row finalizedAt none) []
  | renew {app : App} {expiresAt : Time} : Tells sites (.renew app.id) (.renew app expiresAt) []
  | delete {app : App} {userId : Option Nat} {actorEmail : PyStr} (present : app ∈ sites.apps) :
      Tells sites (.delete app.id userId actorEmail) (.delete app)
        [appNews .appDeleted app (actionActor userId actorEmail)]

/-- Neither the tables nor the log have changed. -/
def Untold (before after : Db) : Prop := after.sites = before.sites ∧ after.events = before.events

/-- The request has changed the tables, and the log has not changed. -/
def Request.Silent (request : Request) (before after : Db) : Prop :=
  ∃ act news, request.Tells before.sites act news ∧ after.sites = act.apply before.sites ∧
    after.events = before.events

/-- The request has changed the tables and has told all of it. -/
def Request.Told (request : Request) (before after : Db) : Prop :=
  ∃ act news, request.Tells before.sites act news ∧ after.sites = act.apply before.sites ∧
    after.events = before.events ++ news

/-- What a request without a transaction may have reached. -/
def Request.Underway (request : Request) (before after : Db) : Prop :=
  Untold before after ∨ request.Silent before after ∨ request.Told before after

section
variable {settings : Settings} {library : Library} {world : World} {α β : Type}

theorem Untold.refl (db : Db) : Untold db db := ⟨rfl, rfl⟩

/-! ### Statements -/

section
variable {good : World → Prop} {post : Except Error α → World → Prop}

theorem safe_select {query : Db → β} {rest : β → Transaction α}
    (later : (rest (query world.db)).Safe (Statement.handle settings) good post world) :
    (select query >>= rest).Safe (Statement.handle settings) good post world :=
  Prog.safe_call later.start later

theorem safe_now {rest : Time → Transaction α}
    (later : (rest world.clock).Safe (Statement.handle settings) good post world) :
    (now >>= rest).Safe (Statement.handle settings) good post world :=
  Prog.safe_call later.start later

theorem safe_emitEvent {eventType : EventType} {companyId : Nat} {payload : Payload}
    {actor : Option Actor} {rest : Unit → Transaction α} (here : good world)
    (later : (rest ()).Safe (Statement.handle settings) good post { world with db :=
      { world.db with events := world.db.events ++ [⟨eventType, companyId, payload, actor⟩] } }) :
    (emitEvent eventType companyId payload actor >>= rest).Safe (Statement.handle settings) good post
      world :=
  Prog.safe_call here later

theorem safe_execute_last {change : Change} {post : Except Error Unit → World → Prop}
    (here : good world) (failed : ∀ error, post (.error error) world)
    (later : ∀ db, change.apply world.db = .ok db →
      good { world with db } ∧ post (.ok ()) { world with db }) :
    (execute change).Safe (Statement.handle settings) good post world := by
  rcases applied : change.apply world.db with error | db
  · refine Prog.safe_perform here ?_ ?_
    all_goals simp only [Statement.handle, applied]
    · exact here
    · exact failed error
  · obtain ⟨after, ended⟩ := later db applied
    refine Prog.safe_perform here ?_ ?_
    all_goals simp only [Statement.handle, applied]
    · exact after
    · exact ended

theorem safe_execute {change : Change} {rest : Unit → Transaction α} (here : good world)
    (failed : ∀ error, post (.error error) world)
    (later : ∀ db, change.apply world.db = .ok db →
      (rest ()).Safe (Statement.handle settings) good post { world with db }) :
    (execute change >>= rest).Safe (Statement.handle settings) good post world := by
  have executed : (execute change).Safe (Statement.handle settings) good (fun result after =>
      (∀ error, result = .error error → after = world) ∧ (result = .ok () →
        (rest ()).Safe (Statement.handle settings) good post after)) world :=
    safe_execute_last here (fun _ => ⟨fun _ _ => rfl, fun other => by contradiction⟩) fun db applied =>
      ⟨(later db applied).start, fun _ other => by contradiction, fun _ => later db applied⟩
  refine executed.bind (fun error after _ ended => ?_) fun _ after _ ended => ended.2 rfl
  obtain rfl := ended.1 error rfl
  exact failed error

theorem safe_loadRow {find : Db → Option β} {rest : β → Transaction α} (here : good world)
    (failed : ∀ error, post (.error error) world)
    (found : ∀ row, find world.db = some row →
      (rest row).Safe (Statement.handle settings) good post world) :
    (loadRow find >>= rest).Safe (Statement.handle settings) good post world := by
  rw [loadRow, Prog.bind_assoc]
  refine safe_select (Prog.safe_ofExcept_bind here (fun error _ => failed error) fun row same => ?_)
  rcases read : find world.db with _ | other
  · simp [read] at same
  · simp only [read, Option.elim_some, Except.ok.injEq] at same
    obtain rfl := same
    exact found other read

/-- A program of the storage helpers leaves the rows alone. -/
theorem safe_storage {body : StorageProg β} {rest : β → Transaction α}
    (here : ∀ disk, good { world with disk })
    (failed : ∀ error disk, post (.error error) { world with disk })
    (later : ∀ value disk, (rest value).Safe (Statement.handle settings) good post { world with disk }) :
    (storage body >>= rest).Safe (Statement.handle settings) good post world := by
  have frames : (storage body).Safe (Statement.handle settings) good
      (fun _ after => ∃ disk, after = { world with disk }) world := by
    refine ⟨?_, ensures_storage_frame body⟩
    induction body generalizing world with
    | ret value => exact here world.disk
    | raise error => exact here world.disk
    | call op next ih =>
      refine ⟨here world.disk, ih _ (fun disk => here disk) (fun error disk => failed error disk) ?_⟩
      exact fun value disk => later value disk
  refine frames.bind (fun error after _ ended => ?_) fun value after _ ended => ?_
  · obtain ⟨disk, rfl⟩ := ended
    exact failed error disk
  · obtain ⟨disk, rfl⟩ := ended
    exact later value disk

theorem safe_assertHostingAccess {companyId : Nat} {rest : Unit → Transaction α} (here : good world)
    (failed : ∀ error, post (.error error) world)
    (later : (rest ()).Safe (Statement.handle settings) good post world) :
    (assertHostingAccess settings companyId >>= rest).Safe (Statement.handle settings) good post
      world := by
  rw [assertHostingAccess]
  split
  · exact later
  · rw [Prog.bind_assoc]
    exact safe_select (Prog.safe_check here (fun _ => failed _) fun _ => later)

theorem safe_generatePublicSlug {draws : Fin 32 → SlugDraw} {rest : PyStr → Transaction α}
    (here : good world) (failed : ∀ error, post (.error error) world)
    (later : ∀ slug, (rest slug).Safe (Statement.handle settings) good post world) :
    (generatePublicSlug slugTaken draws >>= rest).Safe (Statement.handle settings) good post
      world := by
  rw [generatePublicSlug]
  induction List.ofFn draws with
  | nil => exact Prog.safe_raise here (failed _)
  | cons draw others ih =>
    rw [generatePublicSlugFrom, Prog.bind_assoc, slugTaken]
    refine safe_select ?_
    rcases world.db.apps.any (·.slug = draw.candidate) with _ | _
    · exact later _
    · exact ih

theorem safe_isPreviewExpired {app : App} {rest : Bool → Transaction α}
    (later : (rest (!app.unexpired world.clock)).Safe (Statement.handle settings) good post world) :
    (isPreviewExpired app >>= rest).Safe (Statement.handle settings) good post world := by
  refine ⟨?_, ensures_isPreviewExpired.mpr later.2⟩
  have every := later.1
  rw [App.unexpired] at every
  rw [isPreviewExpired]
  revert every
  rcases app.expiresAt with _ | expiresAt
  · exact fun every => every
  · intro every
    have same : (!decide (world.clock < expiresAt)) = decide (expiresAt ≤ world.clock) := by
      rw [← decide_not, Bool.decide_congr not_lt]
    rw [Option.all_some, same] at every
    exact ⟨every.start, every⟩

end

/-! ### Requests without a transaction -/

/-- The states of such a request, and where it ends when it returns. -/
abbrev Request.Advances (request : Request) (settings : Settings) (start : Db)
    (body : Transaction Unit) (world : World) : Prop :=
  body.Safe (Statement.handle settings) (fun now => request.Underway start now.db)
    (Prog.Returned fun _ now => request.Told start now.db) world

theorem Request.Told.advances {request : Request} {start : Db} (told : request.Told start world.db) :
    request.Advances settings start (.ret ()) world := Prog.safe_ret (.inr (.inr told)) told

theorem Request.advances_createApp (new : NewApp) :
    (Request.createApp new).Advances settings world.db (do
      let _ ← HostingService.createApp settings library new
      return ()) world := by
  have here : (Request.createApp new).Underway world.db world.db := .inl (.refl _)
  simp only [HostingService.createApp, Prog.bind_assoc]
  refine safe_assertHostingAccess here (fun _ => trivial) (safe_select ?_)
  refine Prog.safe_check here (fun _ => trivial) fun _ => ?_
  refine Prog.safe_ofExcept_bind here (fun _ _ => trivial) fun name _ => safe_select ?_
  refine Prog.safe_check here (fun _ => trivial) fun _ => ?_
  refine safe_generatePublicSlug here (fun _ => trivial) fun slug => ?_
  refine safe_execute here (fun _ => trivial) fun db applied => ?_
  obtain ⟨_, rfl⟩ := insertApp_fresh applied
  refine safe_emitEvent (.inr (.inl ⟨_, _, .createApp rfl, rfl, rfl⟩)) ?_
  exact Request.Told.advances ⟨_, _, .createApp rfl, rfl, rfl⟩

theorem Request.advances_createDeployment (id : Uuid) (new : NewDeployment) :
    (Request.createDeployment id new).Advances settings world.db (do
      let app ← loadRow (·.app id)
      let _ ← HostingService.createDeployment settings library app new
      return ()) world := by
  have here : (Request.createDeployment id new).Underway world.db world.db := .inl (.refl _)
  refine safe_loadRow here (fun _ => trivial) fun app found => ?_
  obtain ⟨present, rfl⟩ := Db.mem_of_app found
  simp only [HostingService.createDeployment, Prog.bind_assoc]
  refine safe_assertHostingAccess here (fun _ => trivial) (safe_select ?_)
  refine Prog.safe_check here (fun _ => trivial) fun _ => ?_
  refine Prog.safe_ofExcept_bind here (fun _ _ => trivial) fun _ _ => ?_
  refine Prog.safe_ofExcept_bind here (fun _ _ => trivial) fun _ _ => ?_
  refine safe_execute here (fun _ => trivial) fun db applied => ?_
  obtain ⟨_, rfl⟩ := insertDeployment_blank applied rfl rfl
  refine safe_emitEvent (.inr (.inl ⟨_, _, .createDeployment present rfl, rfl, rfl⟩)) ?_
  exact Request.Told.advances ⟨_, _, .createDeployment present rfl, rfl, rfl⟩

theorem Request.advances_upload (id : Uuid) (fileobj : Stream Error) (contentLength : Option Nat) :
    (Request.upload id fileobj contentLength).Advances settings world.db (do
      let row ← loadRow (·.deployment id)
      let _ ← uploadDeploymentArtifact settings row fileobj contentLength
      return ()) world := by
  have here : (Request.upload id fileobj contentLength).Underway world.db world.db := .inl (.refl _)
  refine safe_loadRow here (fun _ => trivial) fun row found => ?_
  obtain ⟨_, rfl⟩ := Db.mem_of_deployment found
  simp only [uploadDeploymentArtifact, Prog.bind_assoc]
  refine Prog.safe_check here (fun _ => trivial) fun _ => ?_
  refine Prog.safe_check here (fun _ => trivial) fun _ => ?_
  refine safe_storage (fun _ => here) (fun _ _ => trivial) fun size disk => ?_
  refine safe_execute here (fun _ => trivial) fun db applied => ?_
  obtain rfl := saveDeployment_ok applied
  exact Request.Told.advances ⟨_, _, .upload, rfl, (List.append_nil _).symm⟩

theorem Request.advances_renew (id : Uuid) :
    (Request.renew id).Advances settings world.db (do
      let app ← loadRow (·.app id)
      renewAppExpiry settings app) world := by
  have here : (Request.renew id).Underway world.db world.db := .inl (.refl _)
  refine safe_loadRow here (fun _ => trivial) fun app found => ?_
  obtain ⟨_, rfl⟩ := Db.mem_of_app found
  rw [renewAppExpiry]
  refine Prog.safe_check here (fun _ => trivial) fun _ => safe_isPreviewExpired ?_
  refine Prog.safe_check here (fun _ => trivial) fun _ => ?_
  rw [previewExpiresAt, Prog.bind_assoc]
  refine safe_now (safe_execute_last here (fun _ => trivial) fun db applied => ?_)
  obtain rfl := saveApp_ok applied
  have told {db : Db} (same : db.sites = _) (silent : db.events = world.db.events) :
      (Request.renew app.id).Told world.db db :=
    ⟨.renew app (renewal settings world.clock), [], .renew, same, silent.trans (List.append_nil _).symm⟩
  exact ⟨.inr (.inr (told rfl rfl)), told rfl rfl⟩

/-! ### Transactions -/

/-- Statements that record no event. -/
def EventFree : ∀ β, Statement β → Prop
  | _, .execute (.recordEvent _) => False
  | _, _ => True

theorem Change.apply_quiet {change : Change} {db after : Db} (applied : change.apply db = .ok after)
    (quiet : EventFree Unit (.execute change)) : after.events = db.events := by
  cases change with
  | recordEvent event => exact quiet.elim
  | insertApp row =>
    obtain ⟨_, rfl⟩ := insertApp_fresh applied
    rfl
  | insertDeployment row =>
    simp only [apply] at applied
    split at applied
    · contradiction
    · obtain rfl := Except.ok.inj applied
      rfl
  | saveApp id column =>
    obtain rfl := saveApp_ok applied
    rfl
  | saveDeployment id columns =>
    obtain rfl := saveDeployment_ok applied
    rfl
  | supersede app id =>
    obtain rfl := Except.ok.inj applied
    rfl
  | deleteApp id =>
    obtain rfl := Except.ok.inj applied
    rfl

theorem handle_quiet {statement : Statement β} (quiet : EventFree β statement) (world : World) :
    (Statement.handle settings _ statement world).2.db.events = world.db.events := by
  cases statement with
  | execute change =>
    simp only [Statement.handle]
    split
    · rename_i applied
      exact Change.apply_quiet applied quiet
    · rfl
  | _ => rfl

theorem ensures_quiet {body : Transaction α} (quiet : body.All EventFree) (world : World) :
    body.Ensures (Statement.handle settings) (fun _ after => after.db.events = world.db.events) world := by
  refine Prog.All.run_related (fun before after : World => after.db.events = before.db.events)
    (fun _ => rfl) ?_ (fun _ _ quiet world => handle_quiet quiet world) quiet world
  intro first second third left right
  exact right.trans left

theorem all_quiet_makeCurrent (app : App) (row : Deployment) (finalizedAt : Time) :
    (makeCurrent app row finalizedAt).All EventFree := by
  have executed (change : Change) (quiet : EventFree Unit (.execute change)) : (execute change).All EventFree :=
    Prog.all_perform.mpr quiet
  refine (executed (.supersede app.id row.id) trivial).bind fun _ => ?_
  exact (executed (.saveDeployment row.id ⟨.active, none, some (some finalizedAt)⟩) trivial).bind fun _ => Prog.all_ret _

theorem all_quiet_renewPreviewExpiry (app : App) : (renewPreviewExpiry settings app).All EventFree := by
  rw [renewPreviewExpiry]
  split
  · trivial
  · have read : (previewExpiresAt settings).All EventFree :=
      (Prog.all_perform.mpr trivial : now.All EventFree).bind fun _ => Prog.all_ret _
    exact read.bind fun _ => Prog.all_perform.mpr trivial

/-- What an activation has told at its end: all of it if it returns, nothing if it raises. -/
def ActivationTold (request : Request) (before : Db) : Except Error Deployment → World → Prop
  | .ok _, after => request.Told before after.db
  | .error _, after => after.db.events = before.events

theorem ensures_makeCurrent_row (app : App) (row : Deployment) (finalizedAt : Time) :
    (makeCurrent app row finalizedAt).Ensures (Statement.handle settings) (Prog.Returned fun active _ =>
      active = row.assign ⟨.active, none, some (some finalizedAt)⟩) world := by
  rw [makeCurrent]
  refine ensures_execute.mpr ⟨fun _ _ => trivial, fun _ _ => ?_⟩
  exact ensures_execute.mpr ⟨fun _ _ => trivial, fun _ _ => rfl⟩

theorem ensures_activate_told (row : Deployment) (userId : Option Nat) (actorEmail : PyStr) :
    (activateDeployment settings library row (finalizeActor row userId actorEmail)).Ensures
      (Statement.handle settings) (ActivationTold (.finalize row.id userId actorEmail) world.db) world := by
  rw [activateDeployment]
  refine Prog.ensures_check.mpr ⟨fun _ => rfl, fun _ => ?_⟩
  refine Prog.ensures_check.mpr ⟨fun _ => rfl, fun _ => ?_⟩
  have extracted : (Prog.tryCatch (storage (extractDeploymentArtifact settings library row))
      fun error => throw (artifactMissing error)).Ensures (Statement.handle settings)
      (fun _ after => ∃ disk, after = { world with disk }) world :=
    (ensures_storage_frame _).tryCatch (fun _ _ ended => ended) fun _ _ ended => ended
  refine extracted.bind (fun _ _ ended => ?_) fun count middle ended => ?_
  · obtain ⟨disk, rfl⟩ := ended
    rfl
  obtain ⟨disk, rfl⟩ := ended
  refine ensures_appOf rfl fun app present owner => ensures_now.mpr ?_
  refine (((ensures_makeCurrent app row world.clock).and (ensures_makeCurrent_row app row _)).and
    (ensures_quiet (all_quiet_makeCurrent app row _) _)).bind (fun _ _ ended => ended.2)
    fun active middle ended => ?_
  obtain ⟨⟨made, rfl⟩, _⟩ := ended
  obtain rfl := made
  refine ((ensures_renewPreviewExpiry app).and (ensures_quiet (all_quiet_renewPreviewExpiry app) _)).bind
    (fun _ _ ended => ended.2) fun _ middle ended => ?_
  obtain rfl := ended.1
  refine ensures_execute.mpr ⟨fun _ _ => rfl, fun db applied => ensures_uncache.mpr ?_⟩
  obtain rfl := saveApp_ok applied
  refine ensures_emitEvent.mpr ?_
  have tells : Request.Tells world.db.sites (.finalize row.id userId actorEmail) (.makeCurrent row
      world.clock (app.createdById.map fun _ => renewal settings world.clock)) _ :=
    .activate present owner
  exact ⟨_, _, tells, makeCurrent_sites world.db app row world.clock _ owner, rfl⟩

theorem ensures_markFailed_told (row : Deployment) (userId : Option Nat) (actorEmail : PyStr) :
    (markDeploymentFailed row (finalizeActor row userId actorEmail)).Ensures (Statement.handle settings)
      (Prog.Returned fun _ after => (Request.finalize row.id userId actorEmail).Told world.db after.db)
      world := by
  rw [markDeploymentFailed]
  refine ensures_execute.mpr ⟨fun _ _ => trivial, fun db applied => ?_⟩
  obtain rfl := saveDeployment_ok applied
  exact ensures_appOf trivial fun app present owner => ⟨_, _, .markFailed present owner, rfl, rfl⟩

theorem ensures_rollback_told (row : Deployment) :
    (rollbackDeployment row).Ensures (Statement.handle settings) (Prog.Returned fun _ after =>
      (Request.rollback row.id).Told world.db after.db) world := by
  rw [rollbackDeployment]
  refine Prog.ensures_check.mpr ⟨fun _ => trivial, fun _ => ?_⟩
  refine Prog.ensures_check.mpr ⟨fun _ => trivial, fun _ => ?_⟩
  refine ensures_appOf trivial fun app present owner => ensures_now.mpr ?_
  refine (ensures_makeCurrent app row _).bind (fun _ _ _ => trivial) fun active middle ended => ?_
  obtain rfl := ended
  refine ensures_execute.mpr ⟨fun _ _ => trivial, fun db applied => ensures_uncache.mpr ?_⟩
  obtain rfl := saveApp_ok applied
  have tells : Request.Tells world.db.sites (.rollback row.id)
      (.makeCurrent row (row.finalizedAt.getD world.clock) none) _ := .rollback
  refine ⟨_, _, tells, ?_, (List.append_nil _).symm⟩
  rw [← makeCurrent_sites world.db app row _ none owner]
  simp [Sites.mapApp, Db.sites, Db.withCurrent]

theorem ensures_deleteApp_told {app : App} (present : app ∈ world.db.apps) (userId : Option Nat)
    (actorEmail : PyStr) :
    (deleteApp settings app userId actorEmail).Ensures (Statement.handle settings)
      (Prog.Returned fun _ after => (Request.delete app.id userId actorEmail).Told world.db after.db)
      world := by
  have emptied : (deleteAppArtifacts settings app).Ensures (Statement.handle settings)
      (fun _ after => ∃ disk, after = { world with disk }) world := by
    rw [deleteAppArtifacts]
    exact ensures_select.mpr (ensures_storages_frame _ _)
  rw [deleteApp]
  refine emptied.bind (fun _ _ _ => trivial) fun _ middle ended => ?_
  obtain ⟨disk, rfl⟩ := ended
  refine ensures_execute.mpr ⟨fun _ _ => trivial, fun db applied => ?_⟩
  obtain rfl := Except.ok.inj applied
  exact ⟨_, _, .delete present, rfl, rfl⟩

/-! ### The transaction of a preview -/

theorem ensures_createPreviewApp_told (preview : NewPreview) :
    (createPreviewApp settings preview).Ensures (Statement.handle settings)
      (Prog.Returned fun app after => app.companyId = preview.companyId ∧
        after.db.sites = world.db.sites.insertApp app ∧
        after.db.events = world.db.events ++
          [appNews .appCreated app (actionActor (some preview.userId) preview.actorEmail)]) world := by
  rw [createPreviewApp]
  refine ensures_assertHostingAccess (fun _ => trivial) ?_
  rw [activeAppCount, Prog.bind_assoc]
  refine ensures_now.mpr (ensures_select.mpr (Prog.ensures_check.mpr ⟨fun _ => trivial, fun _ => ?_⟩))
  refine ensures_generatePublicSlug (fun _ => trivial) fun slug _ => ?_
  refine ensures_execute.mpr ⟨fun _ _ => trivial, fun db applied => ?_⟩
  obtain ⟨_, rfl⟩ := insertApp_fresh applied
  exact ensures_emitEvent.mpr ⟨rfl, rfl, rfl⟩

theorem ensures_createDeployment_told (app : App) (new : NewDeployment) :
    (createDeployment settings library app new).Ensures (Statement.handle settings)
      (Prog.Returned fun row after => row.app = app.id ∧
        after.db.sites = world.db.sites.insertDeployment row ∧
        after.db.events = world.db.events ++ [deploymentNews .deploymentCreated app row .draft none
          (actionActor (some new.deployedById) new.actorEmail)]) world := by
  rw [createDeployment]
  refine ensures_assertHostingAccess (fun _ => trivial) ?_
  refine ensures_select.mpr (Prog.ensures_check.mpr ⟨fun _ => trivial, fun _ => ?_⟩)
  refine Prog.ensures_ofExcept_bind.mpr ⟨fun _ _ => trivial, fun _ _ => ?_⟩
  refine Prog.ensures_ofExcept_bind.mpr ⟨fun _ _ => trivial, fun _ _ => ?_⟩
  refine ensures_execute.mpr ⟨fun _ _ => trivial, fun db applied => ?_⟩
  obtain ⟨_, rfl⟩ := insertDeployment_blank applied rfl rfl
  exact ensures_emitEvent.mpr ⟨rfl, rfl, rfl⟩

theorem ensures_preparePreviewDeploy_told (preview : NewPreview) (slug : Option PyStr) (anyUser : Bool)
    (new : NewDeployment) :
    (preparePreviewDeploy settings library preview slug anyUser new).Ensures (Statement.handle settings)
      (Prog.Returned fun _ after =>
        (Request.preparePreviewDeploy preview slug anyUser new).Told world.db after.db) world := by
  rw [preparePreviewDeploy]
  split
  · refine (ensures_createPreviewApp_told preview).bind (fun _ _ _ => trivial) fun app middle ended => ?_
    obtain ⟨company, inserted, first⟩ := ended
    refine (ensures_createDeployment_told app _).bind (fun _ _ _ => trivial) fun row after ended => ?_
    obtain ⟨owner, added, second⟩ := ended
    refine ⟨_, _, .createPreview company owner, ?_, ?_⟩
    · rw [inserted] at added
      exact added
    · rw [first, List.append_assoc] at second
      exact second
  · refine ensures_resolvePreviewApp_found.bind (fun _ _ _ => trivial) fun app middle ended => ?_
    obtain ⟨rfl, present, _⟩ := ended
    refine (ensures_createDeployment_told app _).bind (fun _ _ _ => trivial) fun row after ended => ?_
    obtain ⟨owner, added, told⟩ := ended
    exact ⟨_, _, .redeploy present owner, added, told⟩

end

end HostingService
