import HostingService.Hosting.Calls
import HostingService.Hosting.Performs

/-! The company of a request: the gate that it has to pass, the app that it redeploys,
and the events that it records. -/

namespace HostingService

open Program Text Storage Transaction

/-! ### The gate -/

def accessDenied : Error := hostingError
  "Company does not have hosting access. Request access first." 403 "hosting_access_denied"

/-- `assert_hosting_access` passes. -/
def Db.open (settings : Settings) (db : Db) (companyId : Nat) : Bool :=
  settings.hostingDebugOpen ||
    (db.access.find? (·.companyId = companyId)).any (·.status = .approved)

section
variable {settings : Settings} {library : Library} {world : World} {companyId : Nat} {α : Type}

theorem run_assertHostingAccess_denied (closed : world.db.open settings companyId = false)
    (rest : Unit → Transaction α) :
    (assertHostingAccess settings companyId >>= rest).run (Statement.handle settings) world =
      (.error accessDenied, world) := by
  obtain ⟨gated, unapproved⟩ := Bool.or_eq_false_iff.mp closed
  have checked : (world.db.access.find? (·.companyId = companyId)).all (·.status ≠ .approved) =
      true := by
    revert unapproved
    generalize world.db.access.find? (·.companyId = companyId) = found
    cases found with
    | none => exact fun _ => rfl
    | some record => simp
  rw [assertHostingAccess, gated]
  show ((Prog.when ((world.db.access.find? (·.companyId = companyId)).all (·.status ≠ .approved))
    (throw accessDenied) : Transaction Unit) >>= rest).run (Statement.handle settings) world = _
  rw [checked]
  rfl

theorem run_createDeployment_denied {app : App} (closed : world.db.open settings app.companyId = false)
    (new : NewDeployment) :
    (createDeployment settings library app new).run (Statement.handle settings) world =
      (.error accessDenied, world) :=
  run_assertHostingAccess_denied closed _

theorem run_createPreviewApp_denied {preview : NewPreview}
    (closed : world.db.open settings preview.companyId = false) :
    (createPreviewApp settings preview).run (Statement.handle settings) world =
      (.error accessDenied, world) :=
  run_assertHostingAccess_denied closed _

theorem run_createApp_denied {new : NewApp} (closed : world.db.open settings new.companyId = false) :
    (createApp settings library new).run (Statement.handle settings) world =
      (.error accessDenied, world) :=
  run_assertHostingAccess_denied closed _

/-! ### The app that a preview deploy finds -/

/-- The app is one that the caller may deploy a preview to. -/
structure App.Deployable (app : App) (companyId userId : Nat) (anyUser : Bool) : Prop where
  company : app.companyId = companyId
  preview : anyUser = true → app.isPreview = true
  owner : anyUser = false → ∀ creator, app.createdById = some creator → creator = userId

theorem ensures_resolvePreviewApp_found {slug : PyStr} {userId : Nat} {anyUser : Bool} :
    (resolvePreviewApp library slug companyId userId anyUser).Ensures (Statement.handle settings)
      (Prog.Returned fun app after => after = world ∧ app ∈ world.db.apps ∧
        app.Deployable companyId userId anyUser) world := by
  rw [resolvePreviewApp]
  refine Prog.ensures_ofExcept_bind.mpr ⟨fun _ _ => trivial, fun name _ => ensures_select.mpr ?_⟩
  refine Prog.ensures_ofExcept_bind.mpr ⟨fun _ _ => trivial, fun app found => ?_⟩
  refine Prog.ensures_check.mpr ⟨fun _ => trivial, fun company => ?_⟩
  refine Prog.ensures_check.mpr ⟨fun _ => trivial, fun preview => ?_⟩
  refine Prog.ensures_check.mpr ⟨fun _ => trivial, fun owner => ?_⟩
  rcases read : world.db.apps.find? (·.slug = name) with _ | stored
  · rw [read] at found
    contradiction
  · rw [read] at found
    obtain rfl := Except.ok.inj found
    refine ⟨rfl, List.mem_of_find?_eq_some read, by simpa using company, fun any => ?_, ?_⟩
    · simpa [any] using preview
    · intro own creator created
      simpa [own, created] using owner

/-- A statement that answers from the apps and changes nothing. -/
def SeesApps (settings : Settings) (β : Type) (statement : Statement β) : Prop :=
  ∀ left right : World, left.db.apps = right.db.apps →
    (Statement.handle settings β statement left).1 = (Statement.handle settings β statement right).1 ∧
      (Statement.handle settings β statement left).2.db.apps =
        (Statement.handle settings β statement right).2.db.apps

theorem resolvePreviewApp_seesApps (slug : PyStr) (userId : Nat) (anyUser : Bool) :
    (resolvePreviewApp library slug companyId userId anyUser).All (SeesApps settings) := by
  refine .bind (Prog.all_ofExcept _) fun name => .bind (Prog.all_perform.mpr ?_) fun _ => ?_
  · intro left right same
    exact ⟨by simp only [Statement.handle, same], same⟩
  · refine .bind (Prog.all_ofExcept _) fun _ => all_check.bind fun _ => all_check.bind fun _ => ?_
    exact all_check.bind fun _ => Prog.all_ret _

theorem run_resolvePreviewApp_same {slug : PyStr} {userId : Nat} {anyUser : Bool} {other : World}
    (same : other.db.apps = world.db.apps) :
    (resolvePreviewApp library slug companyId userId anyUser).run (Statement.handle settings) other =
      (((resolvePreviewApp library slug companyId userId anyUser).run (Statement.handle settings)
        world).1, other) := by
  have every : (resolvePreviewApp library slug companyId userId anyUser).All (SeesApps settings) :=
    resolvePreviewApp_seesApps ..
  have alike := every.run_simulated (fun left right : World => left.db.apps = right.db.apps)
    (fun _ _ sees _ _ same => sees _ _ same) same
  exact Prod.ext alike.1 ensures_resolvePreviewApp

/-- Preparing a deploy of a closed company is denied, or fails whatever its access. -/
theorem run_preparePreviewDeploy_denied {preview : NewPreview}
    (closed : world.db.open settings preview.companyId = false) (slug : Option PyStr)
    (anyUser : Bool) (new : NewDeployment) :
    (preparePreviewDeploy settings library preview slug anyUser new).run
        (Statement.handle settings) world = (.error accessDenied, world) ∨
      ∃ error, ∀ other : World, other.db.apps = world.db.apps →
        (preparePreviewDeploy settings library preview slug anyUser new).run
          (Statement.handle settings) other = (.error error, other) := by
  rw [preparePreviewDeploy]
  split
  · exact .inl (Prog.run_bind_error _ (run_createPreviewApp_denied closed) _)
  · rcases resolved : (resolvePreviewApp library (strip (slug.getD [])) preview.companyId
      preview.userId anyUser).run (Statement.handle settings) world with ⟨error | app, after⟩
    · refine .inr ⟨error, fun other same => Prog.run_bind_error _ ?_ _⟩
      rw [run_resolvePreviewApp_same same, resolved]
    · obtain ⟨rfl, _, deployable⟩ := ensures_resolvePreviewApp_found.of_run resolved
      refine .inl ((Prog.run_bind_ok _ resolved _).trans (Prog.run_bind_error _ ?_ _))
      exact run_createDeployment_denied (deployable.company ▸ closed) _

/-- Where a new deployment of a preview goes. -/
theorem ensures_preparePreviewDeploy_placed (preview : NewPreview) (slug : Option PyStr)
    (anyUser : Bool) (new : NewDeployment) :
    (preparePreviewDeploy settings library preview slug anyUser new).Ensures
      (Statement.handle settings) (Prog.Returned fun _ after => ∀ row,
        after.db.sites = world.db.sites.insertDeployment row → ∃ app ∈ world.db.apps,
          row.app = app.id ∧ app.Deployable preview.companyId preview.userId anyUser) world := by
  rw [preparePreviewDeploy]
  split
  · refine (ensures_createPreviewApp preview).bind (fun _ _ _ => trivial) fun app middle ended => ?_
    refine (ensures_createDeployment app _).bind (fun _ _ _ => trivial) fun row after placed => ?_
    rcases placed with ⟨_, same, draft, owner, added⟩ | ⟨⟨_, failed⟩, _⟩
    · intro other inserted
      have apps := congrArg (fun sites => sites.apps.length) (added.symm.trans inserted)
      rw [ended.2.1] at apps
      simp [Sites.insertApp, Sites.insertDeployment] at apps
    · contradiction
  · refine ensures_resolvePreviewApp_found.bind (fun _ _ _ => trivial) fun app middle ended => ?_
    obtain ⟨rfl, present, deployable⟩ := ended
    refine (ensures_createDeployment app _).bind (fun _ _ _ => trivial) fun row after placed => ?_
    rcases placed with ⟨_, same, draft, owner, added⟩ | ⟨⟨_, failed⟩, _⟩
    · intro other inserted
      have rows := congrArg (fun sites => sites.deployments) (added.symm.trans inserted)
      obtain rfl := List.singleton_inj.mp (List.append_cancel_left rows)
      exact ⟨app, present, owner, deployable⟩
    · contradiction

/-! ### Events -/

/-- On the way from one database to the other only events of the company were recorded,
and no access row changed. -/
structure Announces (companyId : Nat) (before after : Db) : Prop where
  access : after.access = before.access
  news : ∃ news, after.events = before.events ++ news ∧ ∀ event ∈ news, event.companyId = companyId

/-- Rows of apps and deployments may change. -/
theorem Announces.silent {before after : Db} (access : after.access = before.access)
    (events : after.events = before.events) : Announces companyId before after :=
  ⟨access, [], by simp [events], by simp⟩

theorem Announces.refl (companyId : Nat) (db : Db) : Announces companyId db db := .silent rfl rfl

theorem Announces.trans {first second third : Db} (left : Announces companyId first second)
    (right : Announces companyId second third) : Announces companyId first third := by
  obtain ⟨some, recorded, ours⟩ := left.news
  obtain ⟨more, added, others⟩ := right.news
  refine ⟨right.access.trans left.access, some ++ more, ?_, fun event member => ?_⟩
  · rw [added, recorded, List.append_assoc]
  · exact (List.mem_append.mp member).elim (ours event) (others event)

def OfCompany (companyId : Nat) : ∀ β, Statement β → Prop
  | _, .execute (.recordEvent event) => event.companyId = companyId
  | _, _ => True

theorem permits_ofCompany (companyId : Nat) : Permits (OfCompany companyId) companyId := by
  refine ⟨fun _ => trivial, trivial, fun _ => trivial, fun change ours => ?_⟩
  cases change with
  | recordEvent event => exact ours event rfl
  | _ => trivial

theorem Change.apply_announces {change : Change} {db after : Db}
    (applied : change.apply db = .ok after) (ours : OfCompany companyId Unit (.execute change)) :
    Announces companyId db after := by
  cases change with
  | recordEvent event =>
    obtain rfl := Except.ok.inj applied
    exact ⟨rfl, [event], rfl, fun other member => List.mem_singleton.mp member ▸ ours⟩
  | insertApp row =>
    obtain ⟨_, rfl⟩ := insertApp_fresh applied
    exact .silent rfl rfl
  | insertDeployment row =>
    simp only [apply] at applied
    split at applied
    · contradiction
    · obtain rfl := Except.ok.inj applied
      exact .silent rfl rfl
  | saveApp id column =>
    obtain rfl := saveApp_ok applied
    exact .silent rfl rfl
  | saveDeployment id columns =>
    obtain rfl := saveDeployment_ok applied
    exact .silent rfl rfl
  | supersede app id =>
    obtain rfl := Except.ok.inj applied
    exact .silent rfl rfl
  | deleteApp id =>
    obtain rfl := Except.ok.inj applied
    exact .silent rfl rfl

theorem ensures_announces {body : Transaction α} (ours : body.All (OfCompany companyId))
    (world : World) : body.Ensures (Statement.handle settings)
      (fun _ after => Announces companyId world.db after.db) world := by
  refine Prog.All.run_related (fun before after => Announces companyId before.db after.db)
    (fun world => .refl companyId world.db) Announces.trans (fun β statement inside world => ?_) ours
    world
  cases statement with
  | execute change =>
    simp only [Statement.handle]
    split
    · rename_i applied
      exact Change.apply_announces applied inside
    · exact .refl companyId world.db
  | _ => exact .refl companyId world.db

theorem Service.ensures_atomic_announces {body : Transaction α}
    (announces : body.Ensures (Statement.handle settings)
      (fun _ after => Announces companyId world.db after.db) world) :
    (Service.atomic body).Ensures (Action.handle settings)
      (fun _ after => Announces companyId world.db after.db) world :=
  Service.ensures_atomic announces (fun _ _ ended => ended) fun _ _ _ => .refl companyId world.db

theorem storage_ofCompany (body : StorageProg α) :
    (Transaction.storage body).All (OfCompany companyId) :=
  Prog.all_hoist.mpr ((Prog.all_true body).mono fun _ _ _ => trivial)

/-! ### The events of requests -/

theorem ensures_createDeployment_announces {app : App} (company : app.companyId = companyId)
    (new : NewDeployment) (world : World) :
    (createDeployment settings library app new).Ensures (Statement.handle settings)
      (fun _ after => Announces companyId world.db after.db) world := by
  subst company
  exact ensures_announces (all_createDeployment (permits_ofCompany _) new) world

theorem ensures_preparePreviewDeploy_announces (preview : NewPreview) (slug : Option PyStr)
    (anyUser : Bool) (new : NewDeployment) (world : World) :
    (preparePreviewDeploy settings library preview slug anyUser new).Ensures
      (Statement.handle settings)
      (fun _ after => Announces preview.companyId world.db after.db) world := by
  have deployed {app : App} {middle : World} (earlier : Announces preview.companyId world.db middle.db)
      (company : app.companyId = preview.companyId) (new : NewDeployment) :
      (createDeployment settings library app new >>= fun row => pure (app, row)).Ensures
        (Statement.handle settings) (fun _ after => Announces preview.companyId world.db after.db)
        middle :=
    (ensures_createDeployment_announces company new middle).bind
      (fun _ _ later => earlier.trans later) fun _ _ later => earlier.trans later
  rw [preparePreviewDeploy]
  split
  · refine ((ensures_announces (all_createPreviewApp (permits_ofCompany _)) world).and
      (ensures_createPreviewApp preview)).bind (fun _ _ ended => ended.1) fun app middle ended => ?_
    obtain ⟨earlier, _, _, _, company, _⟩ := ended
    exact deployed earlier company _
  · refine (ensures_resolvePreviewApp.and ensures_resolvePreviewApp_found).bind
      (fun _ _ ended => ?_) fun app middle ended => ?_
    · rw [ended.1]
      exact .refl _ _
    · obtain ⟨rfl, _, deployable⟩ := ended.2
      exact deployed (.refl _ _) deployable.company _

theorem ensures_activate_announces {row : Deployment} (actor : Option Actor) {world : World}
    (owned : ∀ app ∈ world.db.apps, app.id = row.app → app.companyId = companyId) :
    (activateDeployment settings library row actor).Ensures (Statement.handle settings)
      (fun _ after => Announces companyId world.db after.db) world := by
  rw [activateDeployment]
  refine Prog.ensures_check.mpr ⟨fun _ => .refl _ _, fun _ => ?_⟩
  refine Prog.ensures_check.mpr ⟨fun _ => .refl _ _, fun _ => ?_⟩
  have extracted : (Prog.tryCatch (storage (extractDeploymentArtifact settings library row))
      fun error => throw (artifactMissing error)).Ensures (Statement.handle settings)
      (fun _ after => ∃ disk, after = { world with disk }) world :=
    (ensures_storage_frame _).tryCatch (fun _ _ ended => ended) fun _ _ ended => ended
  refine extracted.bind (fun _ _ ended => ?_) fun count middle ended => ?_
  · obtain ⟨disk, rfl⟩ := ended
    exact .refl _ _
  · obtain ⟨disk, rfl⟩ := ended
    refine ensures_appOf (.refl _ _) fun app present owner => ?_
    obtain rfl := owned app present owner
    exact ensures_announces (all_activated (permits_ofCompany _) row actor) { world with disk }

theorem ensures_markFailed_announces {row : Deployment} (actor : Option Actor) {world : World}
    (owned : ∀ app ∈ world.db.apps, app.id = row.app → app.companyId = companyId) :
    (markDeploymentFailed row actor).Ensures (Statement.handle settings)
      (fun _ after => Announces companyId world.db after.db) world := by
  rw [markDeploymentFailed]
  refine ensures_execute.mpr ⟨fun _ _ => .refl _ _, fun db applied => ?_⟩
  obtain rfl := saveDeployment_ok applied
  refine ensures_appOf (.silent rfl rfl) fun app present owner => ?_
  obtain rfl := owned app present owner
  refine (ensures_announces ((permits_ofCompany _).all_emitEvent ..) _).mono fun _ _ ended => ?_
  exact ⟨ended.access, ended.news⟩

theorem ensures_finalize_announces {row : Deployment} (userId : Option Nat) (actorEmail : PyStr)
    (owned : ∀ app ∈ world.db.apps, app.id = row.app → app.companyId = companyId) :
    (finalizeDeployment settings library row userId actorEmail).Ensures (Action.handle settings)
      (fun _ after => Announces companyId world.db after.db) world := by
  have activated : (Service.atomic (activateDeployment settings library row
      (if userId.isSome then actionActor userId actorEmail else actionActor row.deployedById []))).Ensures
      (Action.handle settings) (fun result after => Announces companyId world.db after.db ∧
        ∀ error, result = .error error → after.db = world.db) world :=
    Service.ensures_atomic (ensures_activate_announces _ owned)
      (fun _ _ ended => ⟨ended, by nofun⟩) fun _ _ _ => ⟨.refl _ _, fun _ _ => rfl⟩
  refine activated.tryCatch (fun _ _ ended => ended.1) fun error middle ended => ?_
  have restored := ended.2 error rfl
  have marked (actor : Option Actor) : (Service.atomic (markDeploymentFailed row actor)).Ensures
      (Action.handle settings) (fun _ after => Announces companyId middle.db after.db) middle :=
    Service.ensures_atomic_announces (ensures_markFailed_announces actor (restored ▸ owned))
  cases error with
  | extractError message =>
    exact (marked _).bind (fun _ _ later => ended.1.trans later) fun _ _ later => ended.1.trans later
  | _ => exact ended.1

/-- The apps that a request is about are of the company. -/
def Request.Concerns (companyId : Nat) (db : Db) : Request → Prop
  | .createApp new => new.companyId = companyId
  | .preparePreviewDeploy preview _ _ _ => preview.companyId = companyId
  | .createDeployment id _ | .renew id | .delete id _ _ =>
    ∀ app ∈ db.apps, app.id = id → app.companyId = companyId
  | .upload id _ _ | .finalize id _ _ | .rollback id => ∀ row ∈ db.deployments, row.id = id →
    ∀ app ∈ db.apps, app.id = row.app → app.companyId = companyId

/-- A request records events of its company alone, and no request writes an access row. -/
theorem Request.announces {request : Request} {world : World}
    (concerns : request.Concerns companyId world.db) :
    (request.service settings library).Ensures (Action.handle settings)
      (fun _ after => Announces companyId world.db after.db) world := by
  have nothing := Announces.refl companyId world.db
  cases request with
  | createApp new =>
    obtain rfl := concerns
    exact Service.ensures_autocommit.mpr (ensures_announces
      ((all_createApp (permits_ofCompany _)).bind fun _ => Prog.all_ret _) world)
  | preparePreviewDeploy preview slug anyUser new =>
    obtain rfl := concerns
    exact (Service.ensures_atomic_announces
      (ensures_preparePreviewDeploy_announces preview slug anyUser new world)).bind
        (fun _ _ ended => ended) fun _ _ ended => ended
  | createDeployment id new =>
    refine Service.ensures_autocommit.mpr (ensures_loadRow nothing fun app found => ?_)
    obtain ⟨present, same⟩ := Db.mem_of_app found
    exact (ensures_createDeployment_announces (concerns app present same) new world).bind
      (fun _ _ ended => ended) fun _ _ ended => ended
  | upload id fileobj contentLength =>
    refine Service.ensures_autocommit.mpr (ensures_loadRow nothing fun row found => ?_)
    refine ensures_announces (.bind (all_check.bind fun _ => all_check.bind fun _ => ?_)
      fun _ => Prog.all_ret _) world
    exact (storage_ofCompany _).bind fun _ =>
      ((permits_ofCompany _).all_execute (by nofun)).bind fun _ => Prog.all_ret _
  | finalize id userId actorEmail =>
    refine Service.ensures_loadRow nothing fun row found => ?_
    obtain ⟨present, same⟩ := Db.mem_of_deployment found
    exact (ensures_finalize_announces userId actorEmail (concerns row present same)).bind
      (fun _ _ ended => ended) fun _ _ ended => ended
  | rollback id =>
    refine Service.ensures_loadRow nothing fun row found => ?_
    exact (Service.ensures_atomic_announces (ensures_announces
      (all_rollback (permits_ofCompany companyId) row) world)).bind
        (fun _ _ ended => ended) fun _ _ ended => ended
  | renew id =>
    refine Service.ensures_autocommit.mpr (ensures_loadRow nothing fun app found => ?_)
    exact ensures_announces (all_renewApp (permits_ofCompany companyId) app) world
  | delete id userId actorEmail =>
    refine Service.ensures_loadRow nothing fun app found => ?_
    obtain ⟨present, same⟩ := Db.mem_of_app found
    obtain rfl := concerns app present same
    refine Service.ensures_atomic_announces (ensures_announces ?_ world)
    rw [deleteApp, deleteAppArtifacts, Prog.bind_assoc]
    refine (permits_ofCompany app.companyId).all_select.bind fun rows => ?_
    refine .bind (.forEach fun row _ => storage_ofCompany _) fun _ => ?_
    exact ((permits_ofCompany _).all_execute (fun _ same => by cases same)).bind fun _ =>
      (permits_ofCompany _).all_emitEvent ..

/-! ### Requests that create -/

def Request.creates : Request → Bool
  | .createApp _ | .preparePreviewDeploy .. | .createDeployment .. => true
  | _ => false

theorem Service.run_atomic_error {body : Transaction α} {error : Error} {world : World}
    (ran : body.run (Statement.handle settings) world = (.error error, world)) :
    (Service.atomic body).run (Action.handle settings) world = (.error error, world) := by
  rw [Service.atomic, Prog.run_perform, Action.handle, ran]

/-- A request that creates rows of a closed company is denied, or fails whatever its access. -/
theorem Request.run_denied {request : Request} {world : World} (creates : request.creates = true)
    (concerns : request.Concerns companyId world.db)
    (closed : world.db.open settings companyId = false) :
    (request.service settings library).run (Action.handle settings) world =
        (.error accessDenied, world) ∨
      ∃ error, ∀ other : World, other.db.apps = world.db.apps →
        (request.service settings library).run (Action.handle settings) other =
          (.error error, other) := by
  cases request with
  | createApp new =>
    obtain rfl := concerns
    exact .inl ((Service.run_autocommit _ world).trans
      (Prog.run_bind_error _ (run_createApp_denied closed) _))
  | preparePreviewDeploy preview slug anyUser new =>
    obtain rfl := concerns
    rcases run_preparePreviewDeploy_denied closed slug anyUser new with denied | ⟨error, fails⟩
    · exact .inl (Prog.run_bind_error _ (Service.run_atomic_error denied) _)
    · exact .inr ⟨error, fun other same =>
        Prog.run_bind_error _ (Service.run_atomic_error (fails other same)) _⟩
  | createDeployment id new =>
    have loaded (other : World) : (loadRow (·.app id)).run (Statement.handle settings) other =
        ((other.db.app id).elim (.error .doesNotExist) .ok, other) := by
      rw [loadRow, select, Prog.run_bind_ok _ (Prog.run_perform ..), Prog.run_ofExcept]
    rcases found : world.db.app id with _ | app
    · refine .inr ⟨.doesNotExist, fun other same => ?_⟩
      refine (Service.run_autocommit _ other).trans (Prog.run_bind_error _ ?_ _)
      rw [loaded, Db.app, same, ← Db.app, found]
      rfl
    · obtain ⟨present, same⟩ := Db.mem_of_app found
      refine .inl ((Service.run_autocommit _ world).trans ?_)
      rw [Prog.run_bind_ok _ ((loaded world).trans (by rw [found]; rfl))]
      exact Prog.run_bind_error _ (run_createDeployment_denied (concerns app present same ▸ closed) _) _
  | _ => contradiction

/-- Where a new deployment of a preview goes. -/
theorem Request.placed (preview : NewPreview) (slug : Option PyStr) (anyUser : Bool)
    (new : NewDeployment) (world : World) :
    ((Request.preparePreviewDeploy preview slug anyUser new).service settings library).Ensures
      (Action.handle settings) (fun _ after => ∀ row,
        after.db.sites = world.db.sites.insertDeployment row → ∃ app ∈ world.db.apps,
          row.app = app.id ∧ app.Deployable preview.companyId preview.userId anyUser) world := by
  have prepared : (Service.atomic (HostingService.preparePreviewDeploy settings library preview slug
      anyUser new)).Ensures (Action.handle settings) (fun _ after => ∀ row,
        after.db.sites = world.db.sites.insertDeployment row → ∃ app ∈ world.db.apps,
          row.app = app.id ∧ app.Deployable preview.companyId preview.userId anyUser) world := by
    refine Service.ensures_atomic (ensures_preparePreviewDeploy_placed preview slug anyUser new)
      (fun _ _ placed => placed) fun _ _ _ row same => ?_
    have lengths := congrArg (fun sites => sites.deployments.length) same
    simp [Db.sites, Sites.insertDeployment] at lengths
  exact prepared.bind (fun _ _ placed => placed) fun _ _ placed => placed

end

end HostingService
