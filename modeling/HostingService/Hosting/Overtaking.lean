import HostingService.Hosting.Current
import HostingService.Hosting.Visits
import HostingService.Program.Interleaving

/-! Uploads, finalizes and rollbacks that overlap. A request acts on the row that it read
first, whatever happened to the deployment since. -/

namespace HostingService

open Program Text Storage Transaction

/-- The write that ends an upload, or a finalize of a bad archive. -/
inductive Overwrites : ∀ β, Action β → Uuid → Prop where
  | upload (id : Uuid) (columns : DeploymentColumns) :
      Overwrites Unit (.autocommit (.execute (.saveDeployment id columns))) id
  | markFailed (row : Deployment) (actor : Option Actor) :
      Overwrites Unit (.atomic (markDeploymentFailed row actor)) row.id

/-- Such a write comes while the stored deployment is not active. -/
def Unovertaken (β : Type) (action : Action β) (world : World) : Prop :=
  ∀ id, Overwrites β action id → ∀ row ∈ world.db.deployments, row.id = id → row.status ≠ .active

/-- Uploads, finalizes and rollbacks. -/
def Request.Deploys : Request → Prop
  | .upload _ _ _ => True
  | .finalize _ _ _ => True
  | .rollback _ => True
  | _ => False

def Deploys (settings : Settings) (library : Library) (thread : Service Unit) : Prop :=
  ∃ request : Request, request.Deploys ∧ thread = request.service settings library

/-- Time passes. -/
def TimePasses (before after : World) : Prop :=
  ∃ span : Nat, after = { before with clock := before.clock + span }

/-- What may be reached from a world in which no request is in progress. -/
def Overlaps (settings : Settings) (library : Library) (guard : ∀ β, Action β → World → Prop)
    (world : World) (pool : Pool Action Error World) : Prop :=
  Pool.Reaches (Action.handle settings) (Deploys settings library) TimePasses guard ⟨world, []⟩ pool

/-- If the app has a current deployment, it is the app's only active one, and served. -/
def Db.SiteServed (db : Db) (app : App) : Prop :=
  ∀ current, app.currentDeployment = some current →
    ∃ row, db.deployment current = some row ∧ row.app = app.id ∧ row.status = .active ∧
      (∀ other ∈ db.deployments, other.app = app.id → other.status = .active → other = row) ∧
      (db.servedApp app.slug).bind resolveDeployment = some row

/-! ### The invariant of overlapping requests -/

/-- The keys of the deployments, which no upload, finalize or rollback changes. -/
def Sites.registry (sites : Sites) : List (Uuid × Uuid) :=
  sites.deployments.map fun row => (row.id, row.app)

structure Sites.Ordered (registry : List (Uuid × Uuid)) (sites : Sites) : Prop where
  formed : sites.WellFormed
  settled : ∀ app ∈ sites.apps, Settled sites.deployments app
  rows : sites.registry = registry

/-- Anything but a write to the database. -/
def LeavesRows : ∀ β, Statement β → Prop
  | _, .execute _ => False
  | _, _ => True

/-- The actions of uploads, finalizes and rollbacks, with the rows they may have read. -/
inductive DeployAction (settings : Settings) (library : Library) (registry : List (Uuid × Uuid)) :
    ∀ β, Action β → Prop where
  | asks {β : Type} (statement : Statement β) (leaves : LeavesRows β statement) :
      DeployAction settings library registry β (.autocommit statement)
  | upload (row : Deployment) (size : Nat) :
      DeployAction settings library registry Unit
        (.autocommit (.execute (.saveDeployment row.id ⟨.uploading, some size, none⟩)))
  | activate (row : Deployment) (actor : Option Actor) (known : (row.id, row.app) ∈ registry) :
      DeployAction settings library registry Deployment
        (.atomic (activateDeployment settings library row actor))
  | markFailed (row : Deployment) (actor : Option Actor) :
      DeployAction settings library registry Unit (.atomic (markDeploymentFailed row actor))
  | rollback (row : Deployment) (known : (row.id, row.app) ∈ registry) :
      DeployAction settings library registry Deployment (.atomic (rollbackDeployment row))

section
variable {settings : Settings} {library : Library} {registry : List (Uuid × Uuid)} {world : World}

theorem handle_rows {β : Type} {statement : Statement β} (leaves : LeavesRows β statement)
    (world : World) : (Statement.handle settings β statement world).2.db = world.db := by
  cases statement with
  | execute change => exact leaves.elim
  | _ => rfl

/-! ### Steps -/

theorem Sites.Ordered.known {sites : Sites} (ordered : sites.Ordered registry) {row : Deployment}
    (known : (row.id, row.app) ∈ registry) :
    ∃ stored ∈ sites.deployments, stored.id = row.id ∧ stored.app = row.app := by
  rw [← ordered.rows] at known
  obtain ⟨stored, member, same⟩ := List.mem_map.mp known
  exact ⟨stored, member, Prod.mk.inj same⟩

theorem registry_map {sites : Sites} {change : Deployment → Deployment} (apps : List App)
    (keeps : Sites.KeepsDeployment change) :
    (Sites.mk apps (sites.deployments.map change)).registry = sites.registry :=
  map_key_of_kept fun row => by rw [keeps.id, keeps.owner]

theorem ordered_reopen {sites after : Sites} {row : Deployment} {columns : DeploymentColumns}
    (ordered : sites.Ordered registry) (quiet : columns.status ∉ [.active, .superseded])
    (idle : ∀ stored ∈ sites.deployments, stored.id = row.id → stored.status ≠ .active)
    (formed : after.WellFormed) (applied : after = (Act.reopen row columns).apply sites) :
    after.Ordered registry := by
  have legal : (Act.reopen row columns).Legal sites := ⟨quiet, idle⟩
  refine ⟨formed, applied ▸ Act.settled ordered.formed legal ordered.settled, ?_⟩
  rw [applied, ← ordered.rows]
  exact registry_map _ ⟨fun row => by split <;> rfl, fun row => by split <;> rfl⟩

theorem ordered_makeCurrent {sites after : Sites} {row : Deployment} {finalizedAt : Time}
    {renewed : Option Time} (ordered : sites.Ordered registry)
    (known : (row.id, row.app) ∈ registry) (formed : after.WellFormed)
    (applied : after = (Act.makeCurrent row finalizedAt renewed).apply sites) :
    after.Ordered registry := by
  have legal : (Act.makeCurrent row finalizedAt renewed).Legal sites := ordered.known known
  refine ⟨formed, applied ▸ Act.settled ordered.formed legal ordered.settled, ?_⟩
  rw [applied, ← ordered.rows]
  exact registry_map _ (keepsDeployment_currentRow ..)

theorem handle_wellFormed {β : Type} (action : Action β) (formed : world.db.sites.WellFormed) :
    (Action.handle settings β action world).2.db.sites.WellFormed := by
  have kept : ((Prog.perform action : Service β).run (Action.handle settings) world).2.db.sites.WellFormed :=
    service_wellFormed _ _ formed
  rwa [Prog.run_perform] at kept

/-- Every action of an upload, a finalize or a rollback keeps the invariant, also when its
row is out of date, unless it overwrites an active deployment. -/
theorem DeployAction.step {β : Type} {action : Action β}
    (one : DeployAction settings library registry β action)
    (guarded : Unovertaken β action world) (ordered : world.db.sites.Ordered registry) :
    (Action.handle settings β action world).2.db.sites.Ordered registry := by
  have formed : (Action.handle settings β action world).2.db.sites.WellFormed :=
    handle_wellFormed action ordered.formed
  cases one with
  | asks statement leaves =>
    have same : (Action.handle settings _ (.autocommit statement) world).2.db = world.db :=
      handle_rows leaves world
    rw [same]
    exact ordered
  | upload row size =>
    have written : (execute (.saveDeployment row.id ⟨.uploading, some size, none⟩)).Ensures
        (Statement.handle settings) (fun _ after => after.db.sites = world.db.sites ∨
          after.db.sites = (Act.reopen row ⟨.uploading, some size, none⟩).apply world.db.sites)
        world := by
      refine ensures_execute_last.mpr ⟨fun _ _ => .inl rfl, fun db applied => .inr ?_⟩
      obtain rfl := saveDeployment_ok applied
      rfl
    rcases Prog.ensures_perform.mp written with same | applied
    · show Sites.Ordered registry (Statement.handle settings _ _ world).2.db.sites
      rw [same]
      exact ordered
    · exact ordered_reopen ordered (by simp) (guarded row.id (.upload row.id _)) formed applied
  | activate row actor known =>
    have acted : (Service.atomic (activateDeployment settings library row actor)).Ensures
        (Action.handle settings) (fun _ after => after.db.sites = world.db.sites ∨
          ∃ renewed, after.db.sites =
            (Act.makeCurrent row world.clock renewed).apply world.db.sites) world := by
      refine Service.ensures_atomic (ensures_activate row actor) (fun _ _ ended => .inr ?_)
        fun _ _ _ => .inl rfl
      obtain ⟨_, _, _, _, _, _, applied⟩ := ended
      exact ⟨_, applied⟩
    rcases Prog.ensures_perform.mp acted with same | ⟨renewed, applied⟩
    · rw [same]
      exact ordered
    · exact ordered_makeCurrent ordered known formed applied
  | markFailed row actor =>
    have acted : (Service.atomic (markDeploymentFailed row actor)).Ensures (Action.handle settings)
        (fun _ after => after.db.sites = world.db.sites ∨
          after.db.sites = (Act.reopen row ⟨.failed, none, none⟩).apply world.db.sites) world :=
      Service.ensures_atomic (ensures_markFailed row actor) (fun _ _ ended => .inr ended)
        fun _ _ _ => .inl rfl
    rcases Prog.ensures_perform.mp acted with same | applied
    · rw [same]
      exact ordered
    · exact ordered_reopen ordered (by simp) (guarded row.id (.markFailed row actor)) formed applied
  | rollback row known =>
    have acted : (Service.atomic (rollbackDeployment row)).Ensures (Action.handle settings)
        (fun _ after => after.db.sites = world.db.sites ∨ ∃ finalizedAt, after.db.sites =
          (Act.makeCurrent row finalizedAt none).apply world.db.sites) world := by
      refine Service.ensures_atomic (ensures_rollback row) (fun _ _ ended => .inr ?_)
        fun _ _ _ => .inl rfl
      obtain ⟨_, _, _, _, _, _, applied⟩ := ended
      exact applied
    rcases Prog.ensures_perform.mp acted with same | ⟨finalizedAt, applied⟩
    · rw [same]
      exact ordered
    · exact ordered_makeCurrent ordered known formed applied

/-! ### Threads -/

theorem autocommit_loadRow {α : Type} (find : Db → Option α) :
    Service.autocommit (loadRow find) = Prog.perform (.autocommit (.select find)) >>= fun row =>
      .ofExcept (row.elim (.error .doesNotExist) .ok) := by
  refine congrArg (Prog.call _) (funext fun answer => ?_)
  rcases answer with error | (_ | row) <;> rfl

/-- A row that a request reads is one of the registry. -/
theorem allGiven_loadRow {id : Uuid} {rest : Deployment → Service Unit}
    (later : ∀ row : Deployment, (row.id, row.app) ∈ registry →
      (rest row).All (DeployAction settings library registry)) :
    (Service.autocommit (loadRow (·.deployment id)) >>= rest).AllGiven (Action.handle settings)
      (fun world => world.db.sites.Ordered registry) (DeployAction settings library registry) := by
  rw [autocommit_loadRow, Prog.bind_assoc]
  refine Prog.allGiven_perform_bind (.asks _ trivial) fun world found ordered read => ?_
  rcases found with _ | row
  · trivial
  · have present := (Db.mem_of_deployment (Except.ok.inj read)).1
    have known : (row.id, row.app) ∈ registry := ordered.rows ▸ List.mem_map_of_mem present
    exact (later row known).given

theorem upload_actions (row : Deployment) (fileobj : Stream Error) (contentLength : Option Nat) :
    (uploadDeploymentArtifact settings row fileobj contentLength).All
      fun β statement => DeployAction settings library registry β (.autocommit statement) := by
  have check {test : Bool} {error : Error} : (Prog.when test (throw error) : Transaction Unit).All
      fun β statement => DeployAction settings library registry β (.autocommit statement) :=
    .when fun _ => Prog.all_raise error
  refine check.bind fun _ => check.bind fun _ => .bind ?_ fun size => ?_
  · exact Prog.all_hoist.mpr ((Prog.all_true _).mono fun β op _ => .asks _ trivial)
  · exact .bind (Prog.all_perform.mpr (.upload row size)) fun _ => Prog.all_ret _

theorem finalize_actions {row : Deployment} (known : (row.id, row.app) ∈ registry)
    (userId : Option Nat) (actorEmail : PyStr) :
    (finalizeDeployment settings library row userId actorEmail).All
      (DeployAction settings library registry) := by
  refine .tryCatch (Prog.all_perform.mpr (.activate row _ known)) fun error => ?_
  cases error with
  | extractError message =>
    exact .bind (Prog.all_perform.mpr (.markFailed row _)) fun _ => Prog.all_raise _
  | _ => exact Prog.all_raise _

theorem Deploys.actions {thread : Service Unit} (deploys : Deploys settings library thread) :
    thread.AllGiven (Action.handle settings) (fun world => world.db.sites.Ordered registry)
      (DeployAction settings library registry) := by
  obtain ⟨request, kind, rfl⟩ := deploys
  cases request with
  | upload id fileobj contentLength =>
    refine Prog.All.given (Prog.all_hoist.mpr (.bind ?_ fun row => ?_))
    · exact .bind (Prog.all_perform.mpr (.asks _ trivial)) fun _ => Prog.all_ofExcept _
    · exact (upload_actions row fileobj contentLength).bind fun _ => Prog.all_ret _
  | finalize id userId actorEmail =>
    exact allGiven_loadRow fun row known =>
      (finalize_actions known userId actorEmail).bind fun _ => Prog.all_ret _
  | rollback id =>
    exact allGiven_loadRow fun row known =>
      .bind (Prog.all_perform.mpr (.rollback row known)) fun _ => Prog.all_ret _
  | _ => exact kind.elim

theorem Overlaps.ordered {pool : Pool Action Error World}
    (consistent : world.db.sites.Consistent)
    (overlaps : Overlaps settings library Unovertaken world pool) :
    pool.shared.db.sites.Ordered world.db.sites.registry := by
  have start : world.db.sites.Ordered world.db.sites.registry :=
    ⟨consistent.formed, consistent.settled, rfl⟩
  refine (Pool.Reaches.invariant (DeployAction settings library world.db.sites.registry)
    (fun state => state.db.sites.Ordered world.db.sites.registry)
    (fun β action state one guarded ordered => one.step guarded ordered) ?_
    (fun thread deploys => deploys.actions) (by simp) start overlaps).1
  rintro before after ⟨span, rfl⟩ ordered
  exact ordered

theorem Sites.Ordered.siteServed (ordered : world.db.sites.Ordered registry) :
    ∀ app ∈ world.db.apps, world.db.SiteServed app := by
  intro app present current set
  rcases ordered.settled app present with ⟨empty, _⟩ | ⟨row, member, same, owner, active, only⟩
  · rw [empty] at set
    contradiction
  · obtain rfl := Option.some.inj (set.symm.trans same)
    refine ⟨row, Db.deployment_of_mem ordered.formed member, owner, active, only, ?_⟩
    rw [servedApp_current ordered.formed present member same]
    exact resolveDeployment_active active

/-! ### A request that is not overtaken -/

theorem Overwrites.answers_unit {β : Type} {action : Action β} {id : Uuid}
    (overwrites : Overwrites β action id) : β = Unit := by
  cases overwrites <;> rfl

/-- Activation and rollback are no such writes; they return a deployment. -/
theorem unovertaken_atomic (body : Transaction Deployment) (world : World) :
    Unovertaken Deployment (.atomic body) world := by
  intro id overwrites
  have same : Deployment = Unit := overwrites.answers_unit
  have only : ∀ first second : Deployment, first = second := by
    rw [same]
    exact fun _ _ => rfl
  have status := congrArg Deployment.status
    (only firstDraft (firstDraft.assign ⟨.failed, none, none⟩))
  contradiction

theorem overwritten_markFailed {row : Deployment} {actor : Option Actor} {id : Uuid}
    (overwrites : Overwrites Unit (.atomic (markDeploymentFailed row actor)) id) : row.id = id := by
  generalize named : Action.atomic (markDeploymentFailed row actor) = action at overwrites
  cases overwrites with
  | upload => contradiction
  | markFailed other otherActor =>
    have bodies := Action.atomic.inj named
    have saves := (Prog.call.inj bodies).2.1
    exact (Change.saveDeployment.inj (Statement.execute.inj (eq_of_heq saves))).1

theorem unovertaken_asks {β : Type} {statement : Statement β} (leaves : LeavesRows β statement)
    (world : World) : Unovertaken β (.autocommit statement) world := by
  intro id overwrites
  cases overwrites
  exact leaves.elim

theorem idle_of_status {row : Deployment} (formed : world.db.sites.WellFormed)
    (member : row ∈ world.db.deployments) (idle : row.status ≠ .active) :
    ∀ stored ∈ world.db.deployments, stored.id = row.id → stored.status ≠ .active := by
  intro stored present same
  rwa [formed.deployment_eq present member same]

theorem along_autocommit {α : Type} {guard : ∀ β, Action β → World → Prop} {body : Transaction α}
    (every : body.Along (Statement.handle settings)
      (fun β statement => guard β (.autocommit statement)) world) :
    (Service.autocommit body).Along (Action.handle settings) guard world := by
  induction body generalizing world with
  | ret value => trivial
  | raise error => trivial
  | call statement next ih => exact ⟨every.1, ih _ every.2⟩

/-- What a request does after it has read its row. -/
theorem partly_loadRow {α : Type} {find : Db → Option α}
    {row : α} {body : α → Transaction Unit} (found : find world.db = some row) :
    (Service.autocommit (loadRow find >>= body)).partly (Action.handle settings) 1 world =
      (Service.autocommit (body row), world) := by
  change (Service.autocommit (Prog.ofExcept ((find world.db).elim (.error .doesNotExist) .ok) >>=
    body)).partly (Action.handle settings) 0 world = _
  rw [found, Option.elim_some, Prog.ofExcept_ok, Prog.ret_bind, Prog.partly_zero]

theorem along_asks {α : Type} {body : Transaction α} (asks : body.All LeavesRows) :
    body.Along (Statement.handle settings)
      (fun β statement => Unovertaken β (.autocommit statement)) world :=
  asks.along fun _ _ state leaves => unovertaken_asks leaves state

/-- The row may be out of date, as long as its status tells that the stored one is not active. -/
theorem upload_along {row : Deployment}
    (idle : row.status ≠ .active →
      ∀ stored ∈ world.db.deployments, stored.id = row.id → stored.status ≠ .active)
    (fileobj : Stream Error) (contentLength : Option Nat) :
    (uploadDeploymentArtifact settings row fileobj contentLength).Along (Statement.handle settings)
      (fun β statement => Unovertaken β (.autocommit statement)) world := by
  have stored (body : StorageProg Nat) : (storage body).All LeavesRows :=
    Prog.all_hoist.mpr ((Prog.all_true body).mono fun _ _ _ => trivial)
  refine Prog.along_check fun opened => Prog.along_check fun _ => ?_
  refine Prog.Along.bind (along_asks (stored _)) (ensures_storage_frame _) fun size after ended => ?_
  obtain ⟨disk, rfl⟩ := ended
  have anything (change : Change) : (execute change).Ensures (Statement.handle settings)
      (fun _ _ => True) { world with disk } := trivial
  refine Prog.Along.bind (Prog.along_perform fun id overwrites => ?_) (anything _)
    fun _ _ _ => trivial
  cases overwrites
  refine idle fun active => ?_
  simp [active] at opened

theorem finalize_along {row : Deployment} (formed : world.db.sites.WellFormed)
    (member : row ∈ world.db.deployments) (userId : Option Nat) (actorEmail : PyStr) :
    (finalizeDeployment settings library row userId actorEmail).Along (Action.handle settings)
      Unovertaken world := by
  have activated : (Service.atomic (activateDeployment settings library row
      (if userId.isSome then actionActor userId actorEmail else actionActor row.deployedById []))).Ensures
      (Action.handle settings) (fun result after => ∀ error, result = .error error →
        after.db = world.db ∧ (error.isExtractError = true →
          row.status ∈ [.uploading, .ready, .draft])) world := by
    refine Service.ensures_atomic (ensures_activate row _) (fun _ _ _ _ failed => by contradiction)
      fun error after ended raised failed => ?_
    obtain rfl := Except.error.inj failed
    exact ⟨rfl, ended⟩
  refine Prog.Along.tryCatch (Prog.along_perform (unovertaken_atomic _ world)) activated
    fun error after ended => ?_
  obtain ⟨same, extracted⟩ := ended error rfl
  cases error with
  | extractError message =>
    have anything : (Service.atomic (markDeploymentFailed row
        (if userId.isSome then actionActor userId actorEmail
          else actionActor row.deployedById []))).Ensures (Action.handle settings)
        (fun _ _ => True) after := trivial
    refine Prog.Along.bind (Prog.along_perform fun id overwrites => ?_) anything fun _ _ _ => trivial
    have ready := extracted rfl
    rw [same]
    refine fun stored present sameId => idle_of_status formed member (fun active => ?_) stored present ?_
    · simp [active] at ready
    · exact sameId.trans (overwritten_markFailed overwrites).symm
  | _ => trivial

/-- A request that nobody overtakes overwrites no active deployment. -/
theorem Request.along {request : Request} (deploys : request.Deploys)
    (formed : world.db.sites.WellFormed) :
    (request.service settings library).Along (Action.handle settings) Unovertaken world := by
  have loaded (id : Uuid) : (loadRow (·.deployment id)).Ensures (Statement.handle settings)
      (Prog.Returned fun row after => after = world ∧ row ∈ world.db.deployments) world := by
    rw [loadRow, ensures_select, Prog.ensures_ofExcept]
    rcases found : world.db.deployment id with _ | row
    · trivial
    · exact ⟨rfl, (Db.mem_of_deployment found).1⟩
  have reads (id : Uuid) : (loadRow (·.deployment id)).All LeavesRows :=
    .bind (Prog.all_perform.mpr trivial) fun _ => Prog.all_ofExcept _
  cases request with
  | upload id fileobj contentLength =>
    refine along_autocommit (Prog.Along.bind (along_asks (reads id)) (loaded id)
      fun row after ended => ?_)
    obtain ⟨rfl, member⟩ := ended
    have anything : (uploadDeploymentArtifact settings row fileobj contentLength).Ensures
        (Statement.handle settings) (fun _ _ => True) after := trivial
    exact Prog.Along.bind (upload_along (idle_of_status formed member) fileobj contentLength) anything
      fun _ _ _ => trivial
  | finalize id userId actorEmail =>
    refine Prog.Along.bind (along_autocommit (along_asks (reads id)))
      (Service.ensures_autocommit.mpr (loaded id)) fun row after ended => ?_
    obtain ⟨rfl, member⟩ := ended
    have anything : (finalizeDeployment settings library row userId actorEmail).Ensures
        (Action.handle settings) (fun _ _ => True) after := trivial
    exact Prog.Along.bind (finalize_along formed member userId actorEmail) anything
      fun _ _ _ => trivial
  | rollback id =>
    refine Prog.Along.bind (along_autocommit (along_asks (reads id)))
      (Service.ensures_autocommit.mpr (loaded id)) fun row after ended => ?_
    have anything : (Service.atomic (rollbackDeployment row)).Ensures
        (Action.handle settings) (fun _ _ => True) after := trivial
    exact Prog.Along.bind (Prog.along_perform (unovertaken_atomic _ after)) anything
      fun _ _ _ => trivial
  | _ => exact deploys.elim

end

/-- However uploads, finalizes and rollbacks overlap: as long as no upload and no failed
finalize writes its status over an active deployment, the current deployment of every app
is its only active one, and served. -/
theorem overlapping_sites_served (settings : Settings) (library : Library) (world : World)
    (reachable : world.Reachable settings library) (faults : List (Option Error))
    (pool : Pool Action Error World)
    (overlaps : Overlaps settings library Unovertaken (world.withFaults faults) pool) :
    ∀ app ∈ pool.shared.db.apps, pool.shared.db.SiteServed app := by
  have consistent : (world.withFaults faults).db.sites.Consistent := reachable.consistent
  exact (overlaps.ordered consistent).siteServed

/-! A site whose first deployment is not yet uploaded, or uploaded and not yet finalized. -/

def uploadedWorld : World :=
  (runFrom defaultSettings demoLibrary emptyWorld uploadedSite).withFaults []

def uploadAgain : Service Unit :=
  (Request.upload ⟨2⟩ ⟨[indexArchive], none⟩ none).service defaultSettings demoLibrary

def finalizeFirst : Service Unit :=
  (Request.finalize ⟨2⟩ (some 7) []).service defaultSettings demoLibrary

/-- The site before its upload. -/
def preparedWorld : World :=
  (runFrom defaultSettings demoLibrary emptyWorld (uploadedSite.take 2)).withFaults []

def uploadOther : Service Unit :=
  (Request.upload ⟨2⟩ ⟨[[1, 2, 3]], none⟩ none).service defaultSettings demoLibrary

/-- An upload has read its row when another one comes and ends. -/
def uploadedTwice : World :=
  let waiting := uploadAgain.partly (Action.handle defaultSettings) 1 preparedWorld
  (waiting.1.run (Action.handle defaultSettings)
    (uploadOther.run (Action.handle defaultSettings) waiting.2).2).2

theorem upload_deploys (id : Uuid) (fileobj : Stream Error) :
    Deploys defaultSettings demoLibrary
      ((Request.upload id fileobj none).service defaultSettings demoLibrary) :=
  ⟨.upload id fileobj none, trivial, rfl⟩

/-- Both uploads save the status of a deployment that is not active. -/
theorem uploadedTwice_reached :
    Overlaps defaultSettings demoLibrary Unovertaken preparedWorld ⟨uploadedTwice, []⟩ := by
  have reachable : (runFrom defaultSettings demoLibrary emptyWorld (uploadedSite.take 2)).Reachable
      defaultSettings demoLibrary := reachable_from_empty ..
  have formed : preparedWorld.db.sites.WellFormed := reachable.wellFormed
  obtain ⟨row, found⟩ : ∃ row, preparedWorld.db.deployment ⟨2⟩ = some row :=
    Option.isSome_iff_exists.mp (by decide +kernel)
  have waits : uploadAgain.partly (Action.handle defaultSettings) 1 preparedWorld = _ :=
    partly_loadRow found
  have statuses : (uploadOther.run (Action.handle defaultSettings) preparedWorld).2.db.deployments.map
      (·.status) = [.uploading] := by decide +kernel
  refine Pool.Reaches.overtaken 1 (upload_deploys ..) (upload_deploys ..)
    (Request.along trivial formed) ?_ ?_
  all_goals rw [waits]
  · exact Request.along trivial formed
  · have anything (world : World) : (uploadDeploymentArtifact defaultSettings row
        ⟨[indexArchive], none⟩ none).Ensures (Statement.handle defaultSettings) (fun _ _ => True)
        world := trivial
    refine along_autocommit (Prog.Along.bind (upload_along (fun _ stored present _ active => ?_) _ _)
      (anything _) fun _ _ _ => trivial)
    have listed : stored.status ∈ [DeploymentStatus.uploading] := by
      rw [← statuses]
      exact List.mem_map_of_mem present
    rw [active] at listed
    exact absurd listed (by decide)

theorem overlapping_sites_served_uploads :
    uploadedTwice.db.deployments.map (·.status) = [.uploading] ∧
    (finalizeFirst.run (Action.handle defaultSettings) uploadedTwice).2.db.deployments.map
      (·.status) = [.active] ∧
    ∀ app ∈ (finalizeFirst.run (Action.handle defaultSettings) uploadedTwice).2.db.apps,
      (finalizeFirst.run (Action.handle defaultSettings) uploadedTwice).2.db.SiteServed app := by
  have reachable : (runFrom defaultSettings demoLibrary emptyWorld (uploadedSite.take 2)).Reachable
      defaultSettings demoLibrary := reachable_from_empty ..
  have consistent : preparedWorld.db.sites.Consistent := reachable.consistent
  have formed := (uploadedTwice_reached.ordered consistent).formed
  have along : finalizeFirst.Along (Action.handle defaultSettings) Unovertaken uploadedTwice :=
    Request.along trivial formed
  refine ⟨by decide +kernel, by decide +kernel, overlapping_sites_served defaultSettings demoLibrary _
    reachable [] ⟨(finalizeFirst.run (Action.handle defaultSettings) uploadedTwice).2, []⟩ ?_⟩
  refine uploadedTwice_reached.trans
    (.head (.arrive finalizeFirst ⟨.finalize ⟨2⟩ (some 7) [], trivial, rfl⟩) ?_)
  exact Pool.Reaches.alone _ _ [] [] along

/-- An upload has read the row when the deployment is finalized; then it ends. -/
theorem overtaken_upload_takes_site_down :
    ∃ pool, Overlaps defaultSettings demoLibrary (fun _ _ _ => True) uploadedWorld pool ∧
      pool.threads = [] ∧ ¬ ∀ app ∈ pool.shared.db.apps, pool.shared.db.SiteServed app := by
  let waiting := uploadAgain.partly (Action.handle defaultSettings) 1 uploadedWorld
  let finalized := (finalizeFirst.run (Action.handle defaultSettings) waiting.2).2
  let ended := (waiting.1.run (Action.handle defaultSettings) finalized).2
  refine ⟨⟨ended, []⟩, ?_, rfl, fun served => ?_⟩
  · have free (body : Service Unit) (world : World) :
        body.Along (Action.handle defaultSettings) (fun _ _ _ => True) world :=
      (Prog.all_true body).along fun _ _ _ _ => trivial
    exact Pool.Reaches.overtaken 1 (upload_deploys ..) ⟨.finalize ⟨2⟩ (some 7) [], trivial, rfl⟩
      (free ..) (free ..) (free ..)
  · have current : (ended.db.apps.map (·.currentDeployment)) = [some ⟨2⟩] := by decide +kernel
    have statuses : ended.db.deployments.map (·.status) = [.uploading] := by decide +kernel
    clear_value ended
    obtain ⟨app, apps, set⟩ := List.map_eq_singleton_iff.mp current
    obtain ⟨row, found, _, active, _⟩ := served app (by rw [apps]; simp) ⟨2⟩ set
    have status : row.status ∈ ended.db.deployments.map (·.status) :=
      List.mem_map_of_mem (Db.mem_of_deployment found).1
    rw [statuses, active] at status
    exact absurd status (by decide)

end HostingService
