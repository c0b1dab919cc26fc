import HostingService.Hosting.Overtaking
import HostingService.Hosting.Transparency
import HostingService.Program.Stages

/-! Visitors who load the app of a site, statement by statement, beside a finalize or a
rollback of the site, whose transaction is seen by no one before it is committed. -/

namespace HostingService

open Program Text Storage Transaction

/-- The call of `_activate_deployment` or `rollback_deployment`: inside its transaction with
what is left to do, the rows as it sees them, and whether it has dropped the cache entry. -/
inductive DeployCall where
  | idle
  | writing (rest : Transaction Deployment) (db : Db) (dropped : Bool)
  | committed
  | returned
  | failed

def DeployCall.hasReturned : DeployCall → Bool
  | .returned => true
  | _ => false

/-- `invalidate_serve_cache` was called for the site. -/
def DeployCall.hasDropped : DeployCall → Bool
  | .writing _ _ dropped => dropped
  | .committed => true
  | .returned => true
  | _ => false

/-- A request for a site; it is late if it came after the call had returned. -/
structure Visitor where
  slug : PyStr
  late : Bool
  rest : Transaction (Option ServedApp)

structure Serving where
  world : World
  call : DeployCall
  visitors : List Visitor

/-- Whether the statement drops the entry of the slug. -/
def drops (slug : PyStr) : ∀ β, Statement β → Bool
  | _, .uncache other => decide (other = slug)
  | _, _ => false

section
variable (settings : Settings) (slug : PyStr) (body : Transaction Deployment)
  (guard : ∀ β, Statement β → DeployCall → Prop)

/-- One step of the process: of a visitor, of the call, or of the clock. -/
inductive Serving.Step : Serving → Serving → Prop where
  | visit {world call visitors} (other : PyStr) :
      Step ⟨world, call, visitors⟩
        ⟨world, call, ⟨other, call.hasReturned, loadApp settings other⟩ :: visitors⟩
  | load {world call left right other late} {β : Type} (statement : Statement β)
      (next : Except Error β → Transaction (Option ServedApp))
      (guarded : guard β statement call) :
      Step ⟨world, call, left ++ ⟨other, late, .call statement next⟩ :: right⟩
        ⟨(Statement.handle settings β statement world).2, call,
          left ++ ⟨other, late, next (Statement.handle settings β statement world).1⟩ :: right⟩
  | begin {world visitors} :
      Step ⟨world, .idle, visitors⟩ ⟨world, .writing body world.db false, visitors⟩
  | write {world visitors db dropped} {β : Type} (statement : Statement β)
      (next : Except Error β → Transaction Deployment) :
      Step ⟨world, .writing (.call statement next) db dropped, visitors⟩
        ⟨{ (Statement.handle settings β statement { world with db }).2 with db := world.db },
          .writing (next (Statement.handle settings β statement { world with db }).1)
            (Statement.handle settings β statement { world with db }).2.db
            (dropped || drops slug β statement), visitors⟩
  | commit {world visitors db dropped} (active : Deployment) :
      Step ⟨world, .writing (.ret active) db dropped, visitors⟩
        ⟨{ world with db }, .committed, visitors⟩
  | abort {world visitors db dropped} (error : Error) :
      Step ⟨world, .writing (.raise error) db dropped, visitors⟩ ⟨world, .failed, visitors⟩
  | comesBack {world visitors} :
      Step ⟨world, .committed, visitors⟩ ⟨world, .returned, visitors⟩
  | passes {world call visitors} (span : Nat) :
      Step ⟨world, call, visitors⟩ ⟨{ world with clock := world.clock + span }, call, visitors⟩

def Serving.Reaches : Serving → Serving → Prop :=
  Relation.ReflTransGen (Serving.Step settings slug body guard)

end

/-- The app as it is served has the deployment as its current one. -/
def ServedApp.Shows (id : Uuid) (served : ServedApp) : Prop :=
  ∃ current, resolveDeployment served = some current ∧ current.id = id

/-- Once the entry is dropped, only an app that has the deployment as its current one is
cached for the site. -/
def CachesFresh (slug : PyStr) (id : Uuid) : ∀ β, Statement β → DeployCall → Prop
  | _, .cache other entry, call => other = slug → call.hasDropped = true → entry.2.Shows id
  | _, _, _ => True

/-- What is stored for the slug shows the deployment. -/
def Db.SiteShows (db : Db) (slug : PyStr) (id : Uuid) : Prop :=
  ∃ served, db.servedApp slug = some served ∧ served.Shows id

def World.CacheShows (world : World) (slug : PyStr) (id : Uuid) : Prop :=
  ∀ entry, world.cache.lookup slug = some entry → entry.2.Shows id

/-! ### The transaction -/

/-- A stage of the transaction: the rows, and whether the entry of the slug was dropped. -/
def writing (settings : Settings) (slug : PyStr) : Staging Statement World (Db × Bool) where
  holds stage world := world.db = stage.1
  moves β statement stage world later :=
    later = ((Statement.handle settings β statement world).2.db, stage.2 || drops slug β statement)

section
variable {settings : Settings} {library : Library} {slug : PyStr} {id : Uuid} {α β : Type}
  {ends : Except Error α → Db × Bool → Prop} {stage : Db × Bool}

theorem follows_select {query : Db → β} {rest : β → Transaction α}
    (later : (rest (query stage.1)).Follows (Statement.handle settings) (writing settings slug) ends
      stage) :
    (select query >>= rest).Follows (Statement.handle settings) (writing settings slug) ends stage := by
  intro world same
  have rows : world.db = stage.1 := same
  refine ⟨stage, by simp [writing, drops, Statement.handle, rows], ?_⟩
  show (rest (query world.db)).Follows _ _ _ stage
  rw [rows]
  exact later

theorem follows_now {rest : Time → Transaction α}
    (later : ∀ time, (rest time).Follows (Statement.handle settings) (writing settings slug) ends
      stage) :
    (now >>= rest).Follows (Statement.handle settings) (writing settings slug) ends stage := by
  intro world same
  refine ⟨stage, ?_, later world.clock⟩
  have rows : world.db = stage.1 := same
  simp [writing, drops, Statement.handle, rows]

theorem follows_execute_last {change : Change} {ends : Except Error Unit → Db × Bool → Prop}
    (failed : ∀ error, change.apply stage.1 = .error error → ends (.error error) stage)
    (applied : ∀ db, change.apply stage.1 = .ok db → ends (.ok ()) (db, stage.2)) :
    (execute change).Follows (Statement.handle settings) (writing settings slug) ends stage := by
  refine Prog.follows_perform.mpr fun world same => ?_
  have rows : world.db = stage.1 := same
  rcases result : change.apply stage.1 with error | db
  · refine ⟨stage, ?_, ?_⟩
    · simp [writing, drops, Statement.handle, rows, result]
    · simp only [Statement.handle, rows, result]
      exact failed error result
  · refine ⟨(db, stage.2), ?_, ?_⟩
    · simp [writing, drops, Statement.handle, rows, result]
    · simp only [Statement.handle, rows, result]
      exact applied db result

theorem follows_execute {change : Change} {rest : Unit → Transaction α}
    (failed : ∀ error, change.apply stage.1 = .error error → ends (.error error) stage)
    (applied : ∀ db, change.apply stage.1 = .ok db →
      (rest ()).Follows (Statement.handle settings) (writing settings slug) ends (db, stage.2)) :
    (execute change >>= rest).Follows (Statement.handle settings) (writing settings slug) ends
      stage := by
  let middle : Except Error Unit → Db × Bool → Prop
    | .ok _, later => (rest ()).Follows (Statement.handle settings) (writing settings slug) ends later
    | .error error, later => ends (.error error) later
  have first : (execute change).Follows (Statement.handle settings) (writing settings slug) middle
      stage := follows_execute_last failed applied
  exact first.bind (fun _ _ ended => ended) fun _ _ later => later

theorem follows_uncache {other : PyStr} {rest : Unit → Transaction α}
    (later : (rest ()).Follows (Statement.handle settings) (writing settings slug) ends
      (stage.1, stage.2 || decide (other = slug))) :
    ((Prog.perform (.uncache other) : Transaction Unit) >>= rest).Follows (Statement.handle settings)
      (writing settings slug) ends stage := by
  intro world same
  have rows : world.db = stage.1 := same
  exact ⟨_, by simp [writing, drops, Statement.handle, rows], later⟩

/-- The files are none of the transaction's rows. -/
theorem follows_storage (body : StorageProg α) (ended : ∀ result, ends result stage) :
    (storage body).Follows (Statement.handle settings) (writing settings slug) ends stage := by
  have onDisk : (storage body).All fun β statement =>
      ∀ world, (Statement.handle settings β statement world).2.db = world.db ∧
        drops slug β statement = false :=
    Prog.all_hoist.mpr ((Prog.all_true body).mono fun _ _ _ _ => ⟨rfl, rfl⟩)
  refine onDisk.follows (fun β statement world quiet same => ?_) ended
  have rows : world.db = stage.1 := same
  simp [writing, quiet world, rows]

/-- The rows are well formed and the app with this id has the slug. -/
structure Db.HasSite (db : Db) (app : Uuid) (slug : PyStr) : Prop where
  formed : db.sites.WellFormed
  app : ∃ stored ∈ db.apps, stored.id = app ∧ stored.slug = slug

/-- The deployment is active. -/
def Db.HasActive (db : Db) (id : Uuid) : Prop :=
  ∃ stored ∈ db.deployments, stored.id = id ∧ stored.status = .active

theorem Db.HasSite.of_apply {db after : Db} {change : Change} {app : Uuid}
    (site : db.HasSite app slug) (applied : change.apply db = .ok after)
    (apps : after.apps = db.apps) : after.HasSite app slug :=
  ⟨Change.apply_wellFormed applied site.formed, apps ▸ site.app⟩

theorem Db.HasSite.saveApp {db after : Db} {target app : Uuid} {column : AppColumn}
    (site : db.HasSite app slug) (applied : (Change.saveApp target column).apply db = .ok after) :
    after.HasSite app slug := by
  have keeps := Sites.keepsApp_assign column
  refine ⟨Change.apply_wellFormed applied site.formed, ?_⟩
  obtain rfl := saveApp_ok applied
  obtain ⟨stored, present, rfl, rfl⟩ := site.app
  refine ⟨_, List.mem_map_of_mem present, ?_, ?_⟩
  · split
    · exact keeps.id stored
    · rfl
  · split
    · exact keeps.slug stored
    · rfl

theorem saveDeployment_active {db after : Db} {finalizedAt : Time}
    (applied : (Change.saveDeployment id ⟨.active, none, some (some finalizedAt)⟩).apply db =
      .ok after) : after.HasActive id := by
  have there : db.deployments.any (·.id = id) = true := by
    simp only [Change.apply] at applied
    split at applied
    · assumption
    · contradiction
  obtain rfl := saveDeployment_ok applied
  obtain ⟨stored, present, same⟩ := List.any_eq_true.mp there
  refine ⟨_, List.mem_map_of_mem present, ?_⟩
  rw [if_pos (of_decide_eq_true same)]
  exact ⟨of_decide_eq_true same, rfl⟩

/-- The site has the deployment, and the app is the one of the slug. -/
def Shown (slug : PyStr) (app : Uuid) (id : Uuid) (dropped : Bool) :
    Except Error α → Db × Bool → Prop
  | .ok _, stage => stage.1.HasSite app slug ∧ stage.1.HasActive id ∧ stage.2 = dropped
  | .error _, _ => True

theorem follows_makeCurrent {app : App} (row : Deployment) (finalizedAt : Time)
    (site : stage.1.HasSite app.id slug) :
    (makeCurrent app row finalizedAt).Follows (Statement.handle settings) (writing settings slug)
      (Shown slug app.id row.id stage.2) stage := by
  rw [makeCurrent]
  refine follows_execute (fun _ _ => trivial) fun db superseded => ?_
  have still : db.HasSite app.id slug := site.of_apply superseded (by
    obtain rfl := Except.ok.inj superseded
    rfl)
  refine follows_execute (fun _ _ => trivial) fun after saved => ?_
  have apps : after.apps = db.apps := by
    obtain rfl := saveDeployment_ok saved
    rfl
  exact ⟨still.of_apply saved apps, saveDeployment_active saved, rfl⟩

theorem Db.HasActive.of_deployments {db after : Db} (active : db.HasActive id)
    (rows : after.deployments = db.deployments) : after.HasActive id := by
  rw [Db.HasActive, rows]
  exact active

theorem follows_renewPreviewExpiry {app : App} {row : Uuid} {dropped : Bool}
    (shown : Shown slug app.id row dropped (.ok () : Except Error Unit) stage) :
    (renewPreviewExpiry settings app).Follows (Statement.handle settings) (writing settings slug)
      (Shown slug app.id row dropped) stage := by
  obtain ⟨site, active, same⟩ := shown
  rw [renewPreviewExpiry]
  split
  · exact ⟨site, active, same⟩
  · rw [previewExpiresAt, Prog.bind_assoc]
    refine follows_now fun time => ?_
    refine follows_execute_last (fun _ _ => trivial) fun db saved => ?_
    have rows : db.deployments = stage.1.deployments := by
      obtain rfl := saveApp_ok saved
      rfl
    exact ⟨site.saveApp saved, active.of_deployments rows, same⟩

theorem follows_emitEvent {eventType : EventType} {companyId : Nat} {payload : Payload}
    {actor : Option Actor} {rest : Unit → Transaction α}
    (later : ∀ events, (rest ()).Follows (Statement.handle settings) (writing settings slug) ends
      ({ stage.1 with events }, stage.2)) :
    (emitEvent eventType companyId payload actor >>= rest).Follows (Statement.handle settings)
      (writing settings slug) ends stage := by
  rw [emitEvent]
  refine follows_execute (fun _ failed => ?_) fun db recorded => ?_
  · contradiction
  · obtain rfl := Except.ok.inj recorded
    exact later _

/-- The app of the row is the one of the slug. -/
theorem follows_appOf {row : Deployment} {rest : App → Transaction α}
    (site : stage.1.HasSite row.app slug) (missing : ends (.error .doesNotExist) stage)
    (later : ∀ app : App, app.id = row.app → app.slug = slug →
      (rest app).Follows (Statement.handle settings) (writing settings slug) ends stage) :
    (appOf row >>= rest).Follows (Statement.handle settings) (writing settings slug) ends stage := by
  rw [appOf, Prog.bind_assoc]
  refine follows_select ?_
  rcases read : stage.1.app row.app with _ | app
  · exact missing
  · obtain ⟨member, same⟩ := Db.mem_of_app read
    obtain ⟨stored, present, owner, slugs⟩ := site.app
    obtain rfl := site.formed.app_eq member present (same.trans owner.symm)
    exact later app same slugs

/-- The end of both calls: the app gets its deployment, and its entry is dropped. -/
theorem shown_pointed {app : App} {row : Uuid} {dropped : Bool} {db : Db}
    (shown : Shown slug app.id row dropped (.ok () : Except Error Unit) stage)
    (saved : (Change.saveApp app.id (.currentDeployment (some row))).apply stage.1 = .ok db) :
    db.SiteShows slug row := by
  obtain ⟨site, ⟨served, member, id, active⟩, _⟩ := shown
  have after := site.saveApp saved
  have formed := after.formed
  obtain rfl := saveApp_ok saved
  obtain ⟨stored, present, owner, slugs⟩ := site.app
  have pointed : { stored with currentDeployment := some row } ∈
      stage.1.apps.map fun other => if other.id = app.id then
        other.assign (.currentDeployment (some row)) else other :=
    List.mem_map.mpr ⟨stored, present, if_pos owner⟩
  have current := @servedApp_current ⟨_, answering ∅, ∅, 0⟩ _ served formed pointed member
    (congrArg some id.symm)
  exact ⟨_, slugs ▸ current, served, resolveDeployment_active active, id⟩

/-- The call ended well: its site shows the deployment, and the entry was dropped. -/
def Finishes (slug : PyStr) (id : Uuid) : Except Error Deployment → Db × Bool → Prop
  | .ok _, stage => stage.1.SiteShows slug id ∧ stage.2 = true
  | .error _, _ => True

theorem follows_activate {row : Deployment} (actor : Option Actor)
    (site : stage.1.HasSite row.app slug) :
    (activateDeployment settings library row actor).Follows (Statement.handle settings)
      (writing settings slug) (Finishes slug row.id) stage := by
  rw [activateDeployment]
  refine Prog.follows_check trivial (Prog.follows_check trivial ?_)
  have unpacked : (storage (extractDeploymentArtifact settings library row)).Follows
      (Statement.handle settings) (writing settings slug) (fun _ later => later = stage) stage :=
    follows_storage _ fun _ => rfl
  have extracted : (Prog.tryCatch (storage (extractDeploymentArtifact settings library row))
      fun error => throw (artifactMissing error)).Follows (Statement.handle settings)
      (writing settings slug) (fun _ later => later = stage) stage :=
    unpacked.tryCatch (fun _ _ same => same) fun _ _ same => same
  refine extracted.bind (fun _ _ _ => trivial) fun _ _ same => ?_
  subst same
  refine follows_appOf site trivial fun app owner slugs => follows_now fun time => ?_
  rw [← owner] at site
  refine (follows_makeCurrent row time site).bind (fun _ _ _ => trivial) fun active later shown => ?_
  refine (follows_renewPreviewExpiry shown).bind (fun _ _ _ => trivial)
    fun _ renewed shown => ?_
  refine follows_execute (fun _ _ => trivial) fun db saved => follows_uncache (follows_emitEvent ?_)
  intro events
  obtain ⟨served, found, shows⟩ := shown_pointed shown saved
  exact ⟨⟨served, found, shows⟩, by simp [slugs]⟩

theorem follows_rollback {row : Deployment} (site : stage.1.HasSite row.app slug) :
    (rollbackDeployment row).Follows (Statement.handle settings) (writing settings slug)
      (Finishes slug row.id) stage := by
  rw [rollbackDeployment]
  refine Prog.follows_check trivial (Prog.follows_check trivial ?_)
  refine follows_appOf site trivial fun app owner slugs => follows_now fun time => ?_
  rw [← owner] at site
  refine (follows_makeCurrent row _ site).bind (fun _ _ _ => trivial) fun active later shown => ?_
  refine follows_execute (fun _ _ => trivial) fun db saved => follows_uncache ?_
  exact ⟨shown_pointed shown saved, by simp [slugs]⟩

/-! ### Late visitors -/

/-- What holds from the return of the call on. -/
def lateStaging (slug : PyStr) (id : Uuid) : Staging Statement World Unit where
  holds _ world := world.db.SiteShows slug id ∧ world.CacheShows slug id
  moves _ _ _ _ _ := True

/-- The visitor gets an app that shows the deployment. -/
def Resolves (id : Uuid) : Except Error (Option ServedApp) → Unit → Prop
  | .ok served, _ => ∃ app, served = some app ∧ app.Shows id
  | .error _, _ => False

theorem late_now {rest : Time → Transaction (Option ServedApp)}
    (later : ∀ time, (rest time).Follows (Statement.handle settings) (lateStaging slug id)
      (Resolves id) ()) :
    (now >>= rest).Follows (Statement.handle settings) (lateStaging slug id) (Resolves id) () :=
  fun world _ => ⟨(), trivial, later world.clock⟩

theorem late_uncache {rest : Unit → Transaction (Option ServedApp)}
    (later : (rest ()).Follows (Statement.handle settings) (lateStaging slug id) (Resolves id) ()) :
    ((Prog.perform (.uncache slug) : Transaction Unit) >>= rest).Follows (Statement.handle settings)
      (lateStaging slug id) (Resolves id) () :=
  fun _ _ => ⟨(), trivial, later⟩

/-- A miss: the visitor reads the app and caches it. -/
theorem late_lookup : (select (fun db => db.servedApp slug) >>= fun served =>
      match served with
      | none => pure none
      | some app => do
        cacheSetApp settings slug app
        return some app : Transaction (Option ServedApp)).Follows (Statement.handle settings)
      (lateStaging slug id) (Resolves id) () := by
  rintro world ⟨⟨served, found, shows⟩, _⟩
  refine ⟨(), trivial, ?_⟩
  have resolved : Resolves id (.ok (some served)) () := ⟨served, rfl, shows⟩
  show (match world.db.servedApp slug with
      | none => pure none
      | some app => do
        cacheSetApp settings slug app
        return some app : Transaction (Option ServedApp)).Follows _ _ _ ()
  rw [found]
  show (cacheSetApp settings slug served >>= fun _ => pure (some served)).Follows _ _ _ ()
  rw [cacheSetApp]
  split
  · exact resolved
  · intro _ _
    exact ⟨(), trivial, fun _ _ => ⟨(), trivial, resolved⟩⟩

theorem late_loadApp : (loadApp settings slug).Follows (Statement.handle settings)
    (lateStaging slug id) (Resolves id) () := by
  rw [loadApp, cacheGetApp]
  split
  · exact late_lookup
  · rw [Prog.bind_assoc]
    refine late_now fun time => ?_
    rw [Prog.bind_assoc]
    rintro world ⟨_, cached⟩
    refine ⟨(), trivial, ?_⟩
    rcases entry : world.cache.lookup slug with _ | ⟨expires, app⟩
    · simp only [Statement.handle, entry]
      exact late_lookup
    · simp only [Statement.handle, entry]
      have shows : app.Shows id := cached _ entry
      have resolved : Resolves id (.ok (some app)) () := ⟨app, rfl, shows⟩
      show ((if expires ≤ time then do
          Prog.perform (.uncache slug)
          return none
        else return some app : Transaction (Option ServedApp)) >>= _).Follows _ _ _ ()
      split
      · rw [Prog.bind_assoc]
        exact late_uncache late_lookup
      · exact resolved

end

/-! ### The process -/

/-- What holds of the cache once the entry was dropped, of the rows once they are committed,
and of the transaction in between. -/
def CallInv (settings : Settings) (slug : PyStr) (id : Uuid) (start : Db) (world : World) :
    DeployCall → Prop
  | .idle => world.db = start
  | .writing rest db dropped => world.db = start ∧ rest.All IgnoresCache ∧
      rest.Follows (Statement.handle settings) (writing settings slug) (Finishes slug id)
        (db, dropped) ∧ (dropped = true → world.CacheShows slug id)
  | .committed => world.db.SiteShows slug id ∧ world.CacheShows slug id
  | .returned => world.db.SiteShows slug id ∧ world.CacheShows slug id
  | .failed => True

/-- A visitor changes no row, and one that is late follows the stages of late visitors. -/
def VisitorInv (settings : Settings) (slug : PyStr) (id : Uuid) (call : DeployCall)
    (visitor : Visitor) : Prop :=
  visitor.rest.All LeavesRows ∧ (visitor.late = true → call = .returned ∧
    (visitor.slug = slug → visitor.rest.Follows (Statement.handle settings) (lateStaging slug id)
      (Resolves id) ()))

structure Serving.Inv (settings : Settings) (slug : PyStr) (id : Uuid) (start : Db)
    (serving : Serving) : Prop where
  call : CallInv settings slug id start serving.world serving.call
  visitors : ∀ visitor ∈ serving.visitors, VisitorInv settings slug id serving.call visitor

section
variable {settings : Settings} {library : Library} {slug : PyStr} {id : Uuid} {start : Db}
  {world : World}

theorem loadApp_leavesRows (other : PyStr) : (loadApp settings other).All LeavesRows := by
  refine (loadApp_loading other).mono fun β statement loading => ?_
  cases statement with
  | execute change => exact loading.elim
  | _ => trivial

/-- A statement of a visitor leaves the cache entry of the site good. -/
theorem cacheShows_load {β : Type} {statement : Statement β} {call : DeployCall}
    (leaves : LeavesRows β statement) (guarded : CachesFresh slug id β statement call)
    (dropped : call.hasDropped = true) (shows : world.CacheShows slug id) :
    (Statement.handle settings β statement world).2.CacheShows slug id := by
  cases statement with
  | execute change => exact leaves.elim
  | cache other entry =>
    intro cached found
    by_cases same : slug = other
    · subst same
      have inserted : (world.cache.insert slug entry).lookup slug = some entry :=
        AList.lookup_insert world.cache
      obtain rfl := Option.some.inj (inserted.symm.trans found)
      exact guarded rfl dropped
    · exact shows cached ((AList.lookup_insert_ne same).symm.trans found)
  | uncache other =>
    intro cached found
    by_cases same : slug = other
    · subst same
      rw [Statement.handle, AList.lookup_erase] at found
      contradiction
    · exact shows cached ((AList.lookup_erase_ne same).symm.trans found)
  | _ => exact shows

/-- A statement of the transaction leaves it good too, and one that drops it makes it good. -/
theorem cacheShows_write {β : Type} {statement : Statement β} {db : Db}
    (ignores : IgnoresCache β statement)
    (shows : drops slug β statement = false → world.CacheShows slug id) :
    ({ (Statement.handle settings β statement { world with db }).2 with db := world.db } :
      World).CacheShows slug id := by
  cases statement with
  | cached other => exact ignores.elim
  | cache other entry => exact ignores.elim
  | uncache other =>
    intro cached found
    by_cases same : slug = other
    · subst same
      have gone : (world.cache.erase slug).lookup slug = none := AList.lookup_erase _ _
      rw [show (world.cache.erase slug).lookup slug = some cached from found] at gone
      contradiction
    · refine shows (decide_eq_false fun other => same other.symm) cached ?_
      exact (AList.lookup_erase_ne same).symm.trans found
  | execute change =>
    have kept : ({ (Statement.handle settings Unit (.execute change) { world with db }).2 with
        db := world.db } : World).cache = world.cache := by
      simp only [Statement.handle]
      split <;> rfl
    intro cached found
    rw [kept] at found
    exact shows rfl cached found
  | select query => exact shows rfl
  | storage op => exact shows rfl
  | now => exact shows rfl

theorem CallInv.load {call : DeployCall} {β : Type} {statement : Statement β}
    (inv : CallInv settings slug id start world call) (leaves : LeavesRows β statement)
    (guarded : CachesFresh slug id β statement call) :
    CallInv settings slug id start (Statement.handle settings β statement world).2 call := by
  have rows : (Statement.handle settings β statement world).2.db = world.db :=
    handle_rows leaves world
  cases call with
  | idle => exact rows.trans inv
  | writing rest db dropped =>
    obtain ⟨same, ignores, follows, shows⟩ := inv
    exact ⟨rows.trans same, ignores, follows,
      fun gone => cacheShows_load leaves guarded gone (shows gone)⟩
  | committed => exact ⟨rows ▸ inv.1, cacheShows_load leaves guarded rfl inv.2⟩
  | returned => exact ⟨rows ▸ inv.1, cacheShows_load leaves guarded rfl inv.2⟩
  | failed => trivial

theorem CallInv.passes {call : DeployCall} (inv : CallInv settings slug id start world call)
    (span : Nat) :
    CallInv settings slug id start { world with clock := world.clock + span } call := by
  cases call <;> exact inv

/-- What a visitor has left, it has left whatever the call does next. -/
theorem VisitorInv.mono {before after : DeployCall} {visitor : Visitor}
    (inv : VisitorInv settings slug id before visitor) (stays : before = .returned → after = .returned) :
    VisitorInv settings slug id after visitor :=
  ⟨inv.1, fun late => ⟨stays (inv.2 late).1, (inv.2 late).2⟩⟩

variable {body : Transaction Deployment} {serving before after : Serving}

theorem Serving.Inv.visit {call : DeployCall} {visitors : List Visitor} (other : PyStr)
    (inv : (Serving.mk world call visitors).Inv settings slug id start) :
    (Serving.mk world call (⟨other, call.hasReturned, loadApp settings other⟩ :: visitors)).Inv
      settings slug id start := by
  refine ⟨inv.call, fun visitor member => ?_⟩
  rcases List.mem_cons.mp member with rfl | old
  · refine ⟨loadApp_leavesRows other, fun late => ⟨?_, ?_⟩⟩
    · cases call with
      | returned => rfl
      | _ => contradiction
    · rintro rfl
      exact late_loadApp
  · exact inv.visitors visitor old

theorem Serving.Inv.load {call : DeployCall} {left right : List Visitor} {other : PyStr}
    {late : Bool} {β : Type} {statement : Statement β}
    {next : Except Error β → Transaction (Option ServedApp)}
    (guarded : CachesFresh slug id β statement call)
    (inv : (Serving.mk world call (left ++ ⟨other, late, .call statement next⟩ :: right)).Inv
      settings slug id start) :
    (Serving.mk (Statement.handle settings β statement world).2 call
      (left ++ ⟨other, late, next (Statement.handle settings β statement world).1⟩ :: right)).Inv
      settings slug id start := by
  obtain ⟨every, lates⟩ := inv.visitors ⟨other, late, .call statement next⟩ (by simp)
  refine ⟨inv.call.load every.1 guarded, fun visitor member => ?_⟩
  rcases mem_middle.mp member with rfl | others
  · refine ⟨every.2 _, fun isLate => ?_⟩
    obtain ⟨rfl, follows⟩ := lates isLate
    refine ⟨rfl, fun same => ?_⟩
    obtain ⟨_, _, rest⟩ := follows same world inv.call
    exact rest
  · exact inv.visitors visitor (mem_middle.mpr (Or.inr others))

theorem Serving.Inv.write {visitors : List Visitor} {db : Db} {dropped : Bool} {β : Type}
    {statement : Statement β} {next : Except Error β → Transaction Deployment}
    (inv : (Serving.mk world (.writing (.call statement next) db dropped) visitors).Inv settings
      slug id start) :
    (Serving.mk { (Statement.handle settings β statement { world with db }).2 with db := world.db }
      (.writing (next (Statement.handle settings β statement { world with db }).1)
        (Statement.handle settings β statement { world with db }).2.db
        (dropped || drops slug β statement)) visitors).Inv settings slug id start := by
  obtain ⟨⟨same, ignores, follows, shows⟩, visitors⟩ := inv
  obtain ⟨_, moved, rest⟩ := follows { world with db } rfl
  obtain rfl := moved
  refine ⟨⟨same, ignores.2 _, rest, fun gone => ?_⟩, fun visitor member =>
    (visitors visitor member).mono nofun⟩
  refine cacheShows_write ignores.1 fun kept => shows ?_
  rwa [kept, Bool.or_false] at gone

/-- One step keeps the invariant, if visitors cache nothing stale. -/
theorem Serving.Inv.step (inv : before.Inv settings slug id start)
    (bodyFollows : body.Follows (Statement.handle settings) (writing settings slug)
      (Finishes slug id) (start, false)) (ignores : body.All IgnoresCache)
    (step : Serving.Step settings slug body (CachesFresh slug id) before after) :
    after.Inv settings slug id start := by
  cases step with
  | visit other => exact inv.visit other
  | load statement next guarded => exact inv.load guarded
  | begin =>
    have rows := inv.call
    refine ⟨⟨rows, ignores, ?_, nofun⟩, fun visitor member =>
      (inv.visitors visitor member).mono nofun⟩
    rw [show _ = start from rows]
    exact bodyFollows
  | write statement next => exact inv.write
  | commit active =>
    obtain ⟨_, _, ended, shows⟩ := inv.call
    obtain ⟨site, gone⟩ := ended
    exact ⟨⟨site, shows gone⟩, fun visitor member => (inv.visitors visitor member).mono nofun⟩
  | abort error => exact ⟨trivial, fun visitor member => (inv.visitors visitor member).mono nofun⟩
  | comesBack =>
    exact ⟨inv.call, fun visitor member => (inv.visitors visitor member).mono fun _ => rfl⟩
  | passes span => exact ⟨inv.call.passes span, inv.visitors⟩

theorem Serving.Reaches.inv
    (bodyFollows : body.Follows (Statement.handle settings) (writing settings slug)
      (Finishes slug id) (world.db, false)) (ignores : body.All IgnoresCache)
    (reaches : Serving.Reaches settings slug body (CachesFresh slug id) ⟨world, .idle, []⟩ serving) :
    serving.Inv settings slug id world.db := by
  induction reaches with
  | refl => exact ⟨rfl, fun visitor member => by simp at member⟩
  | tail _ last ih => exact ih.step bodyFollows ignores last

end

/-- What a finalize or a rollback of the deployment runs in its transaction. -/
inductive DeployBody (settings : Settings) (library : Library) (row : Deployment) :
    Transaction Deployment → Prop where
  | finalize (actor : Option Actor) :
      DeployBody settings library row (activateDeployment settings library row actor)
  | rollback : DeployBody settings library row (rollbackDeployment row)

/-- In any interleaving of visitors with a finalize or a rollback, if from the invalidation
on no visitor caches an app that does not show the deployment, every visitor who comes after
the call has returned gets the app with the deployment as its current one. -/
theorem serve_cache_fresh (settings : Settings) (library : Library) {world : World}
    (reachable : world.Reachable settings library) {row : Deployment} {app : App}
    (present : app ∈ world.db.apps) (owner : app.id = row.app)
    {body : Transaction Deployment} (deploys : DeployBody settings library row body)
    {serving : Serving}
    (reaches : Serving.Reaches settings app.slug body (CachesFresh app.slug row.id)
      ⟨world, .idle, []⟩ serving) :
    ∀ visitor ∈ serving.visitors, visitor.slug = app.slug → visitor.late = true →
      visitor.rest.Finished → ∃ served, visitor.rest = .ret (some served) ∧ served.Shows row.id := by
  have site : world.db.HasSite row.app app.slug :=
    ⟨reachable.consistent.formed, app, present, owner, rfl⟩
  have follows : body.Follows (Statement.handle settings) (writing settings app.slug)
      (Finishes app.slug row.id) (world.db, false) := by
    cases deploys with
    | finalize actor => exact follows_activate actor site
    | rollback => exact follows_rollback site
  have ignores : body.All IgnoresCache := by
    cases deploys with
    | finalize actor => exact all_activate permits_ignoresCache (storage_ignoresCache _) actor
    | rollback => exact all_rollback (permits_ignoresCache 0) row
  have inv := reaches.inv follows ignores
  intro visitor member same late finished
  have rest := ((inv.visitors visitor member).2 late).2 same
  rcases ended : visitor.rest with served | error | ⟨statement, next⟩
  · rw [ended] at rest
    obtain ⟨app, rfl, shows⟩ := rest
    exact ⟨app, rfl, shows⟩
  · rw [ended] at rest
    exact rest.elim
  · rw [ended] at finished
    exact finished.elim

/-! ### Orders of steps -/

section
variable (settings : Settings) (slug : PyStr)

/-- The visitor after some statements that nothing interrupts, and the world they lead to. -/
def Visitor.after : Nat → Visitor → World → Visitor × World
  | statements + 1, ⟨other, late, .call statement next⟩, world =>
    Visitor.after statements ⟨other, late, next (Statement.handle settings _ statement world).1⟩
      (Statement.handle settings _ statement world).2
  | _, visitor, world => (visitor, world)

/-- The call after some steps that nothing interrupts. -/
def DeployCall.after : Nat → DeployCall → World → DeployCall × World
  | steps + 1, .writing (.call statement next) db dropped, world =>
    DeployCall.after steps
      (.writing (next (Statement.handle settings _ statement { world with db }).1)
        (Statement.handle settings _ statement { world with db }).2.db
        (dropped || drops slug _ statement))
      { (Statement.handle settings _ statement { world with db }).2 with db := world.db }
  | steps + 1, .writing (.ret _) db _, world =>
    DeployCall.after steps .committed { world with db }
  | steps + 1, .committed, world => DeployCall.after steps .returned world
  | _, call, world => (call, world)

end

section
variable {settings : Settings} {slug : PyStr} {id : Uuid} {body : Transaction Deployment}
  {guard : ∀ β, Statement β → DeployCall → Prop}

theorem Serving.Reaches.loads {call : DeployCall} (statements : Nat) (visitor : Visitor)
    (world : World) (left right : List Visitor)
    (guarded : visitor.rest.Along (Statement.handle settings)
      (fun β statement _ => guard β statement call) world) :
    Serving.Reaches settings slug body guard ⟨world, call, left ++ visitor :: right⟩
      ⟨(visitor.after settings statements world).2, call,
        left ++ (visitor.after settings statements world).1 :: right⟩ := by
  induction statements generalizing visitor world with
  | zero => exact .refl
  | succ statements ih =>
    obtain ⟨other, late, rest⟩ := visitor
    cases rest with
    | ret served => exact .refl
    | raise error => exact .refl
    | call statement next => exact .head (.load statement next guarded.1) (ih _ _ guarded.2)

theorem Serving.Reaches.calls (steps : Nat) (call : DeployCall) (world : World)
    (visitors : List Visitor) :
    Serving.Reaches settings slug body guard ⟨world, call, visitors⟩
      ⟨(call.after settings slug steps world).2, (call.after settings slug steps world).1,
        visitors⟩ := by
  induction steps generalizing call world with
  | zero => exact .refl
  | succ steps ih =>
    cases call with
    | idle | returned | failed => exact .refl
    | committed => exact .head .comesBack (ih _ _)
    | writing rest db dropped =>
      cases rest with
      | ret active => exact .head (.commit active) (ih _ _)
      | raise error => exact .refl
      | call statement next => exact .head (.write statement next) (ih _ _)

theorem Serving.Reaches.visits (statements : Nat) (world : World) (call : DeployCall)
    (visitors : List Visitor) (other : PyStr)
    (guarded : (loadApp settings other).Along (Statement.handle settings)
      (fun β statement _ => guard β statement call) world) :
    Serving.Reaches settings slug body guard ⟨world, call, visitors⟩
      ⟨(Visitor.after settings statements ⟨other, call.hasReturned, loadApp settings other⟩ world).2,
        call,
        (Visitor.after settings statements ⟨other, call.hasReturned, loadApp settings other⟩
          world).1 :: visitors⟩ :=
  .head (.visit other) (Serving.Reaches.loads statements _ world [] visitors guarded)

theorem Serving.Reaches.returns {steps : Nat} {world : World} (visitors : List Visitor)
    (returned : ((DeployCall.writing body world.db false).after settings slug steps world).1 =
      .returned) :
    Serving.Reaches settings slug body guard ⟨world, .idle, visitors⟩
      ⟨((DeployCall.writing body world.db false).after settings slug steps world).2, .returned,
        visitors⟩ := by
  have calls : Serving.Reaches settings slug body guard
      ⟨world, .writing body world.db false, visitors⟩ _ := Serving.Reaches.calls steps _ _ _
  rw [returned] at calls
  exact .head .begin calls

/-- A visitor whom nothing interrupts caches only what is stored. -/
theorem along_loadApp {call : DeployCall} {world : World} (shows : world.db.SiteShows slug id) :
    (loadApp settings slug).Along (Statement.handle settings)
      (fun β statement _ => CachesFresh slug id β statement call) world := by
  have quiet : (cacheGetApp settings slug).All fun β statement =>
      CachesFresh slug id β statement call := by
    rw [cacheGetApp]
    split
    · trivial
    · refine .bind (Prog.all_perform.mpr trivial) fun time => ?_
      refine .bind (Prog.all_perform.mpr trivial) fun entry => ?_
      rcases entry with _ | ⟨expires, app⟩
      · trivial
      · show (ite _ _ _ : Transaction (Option ServedApp)).All _
        split
        · exact .bind (Prog.all_perform.mpr trivial) fun _ => Prog.all_ret _
        · trivial
  rw [loadApp]
  refine Prog.Along.bind (quiet.along fun _ _ _ good => good) (ensures_cacheGetApp slug world)
    fun found middle ended => ?_
  have rows : middle.db = world.db := by
    rcases ended with ⟨_, rfl | rfl⟩ | ⟨_, _, _, _, rfl⟩ <;> rfl
  rcases found with _ | app
  · refine ⟨trivial, ?_⟩
    obtain ⟨served, found, fresh⟩ := shows
    show (match middle.db.servedApp slug with
      | none => pure none
      | some app => do
        cacheSetApp settings slug app
        return some app : Transaction (Option ServedApp)).Along _ _ middle
    rw [rows, found]
    show (cacheSetApp settings slug served >>= fun _ => pure (some served)).Along _ _ middle
    rw [cacheSetApp]
    split
    · trivial
    · exact ⟨trivial, fun _ _ => fresh, trivial⟩
  · trivial

end

/-! ### A visitor before, and one after a finalize -/

/-- The second build of the site waits for its finalize. -/
def rebuiltWorld : World :=
  runFrom defaultSettings demoLibrary emptyWorld (firstSite ++ uploadBuild ⟨1⟩ ⟨3⟩)

def waitingBuild : Deployment := (rebuiltWorld.db.deployment ⟨3⟩).getD firstDraft

def rebuiltApp : App := (rebuiltWorld.db.apps.head?).getD ⟨⟨0⟩, [], [], 0, [], none, none, none⟩

def finalizeWaiting : Transaction Deployment :=
  activateDeployment defaultSettings demoLibrary waitingBuild none

def siteVisitor (late : Bool) : Visitor :=
  ⟨rebuiltApp.slug, late, loadApp defaultSettings rebuiltApp.slug⟩

/-- The call, from its begin to its return. -/
def finalizedFrom (world : World) : DeployCall × World :=
  (DeployCall.writing finalizeWaiting world.db false).after defaultSettings rebuiltApp.slug 60 world

def servedId : Transaction (Option ServedApp) → Option Uuid
  | .ret (some served) => (resolveDeployment served).map (·.id)
  | _ => none

theorem shows_of_servedId {id : Uuid} {served : ServedApp}
    (found : servedId (.ret (some served)) = some id) : served.Shows id := by
  obtain ⟨current, resolved, same⟩ := Option.map_eq_some_iff.mp found
  exact ⟨current, resolved, same⟩

theorem finished_of_servedId {rest : Transaction (Option ServedApp)} {id : Uuid}
    (found : servedId rest = some id) : rest.Finished := by
  cases rest with
  | ret served => trivial
  | raise error => contradiction
  | call statement next => contradiction

theorem rebuiltWorld_reachable : rebuiltWorld.Reachable defaultSettings demoLibrary :=
  reachable_from_empty ..

theorem rebuiltApp_present : rebuiltApp ∈ rebuiltWorld.db.apps := by decide +kernel

theorem rebuiltApp_owner : rebuiltApp.id = waitingBuild.app := by decide +kernel

/-- The visitor comes when the call has returned. -/
def visitedAfter : Visitor × World :=
  (siteVisitor true).after defaultSettings 9 (finalizedFrom rebuiltWorld).2

theorem finalizedFrom_returned : (finalizedFrom rebuiltWorld).1.hasReturned = true := by
  decide +kernel

theorem DeployCall.eq_returned {call : DeployCall} (returned : call.hasReturned = true) :
    call = .returned := by
  cases call with
  | returned => rfl
  | _ => contradiction

theorem finalizedFrom_shows :
    (finalizedFrom rebuiltWorld).2.db.SiteShows rebuiltApp.slug waitingBuild.id := by
  have found : servedId (.ret ((finalizedFrom rebuiltWorld).2.db.servedApp rebuiltApp.slug)) =
      some waitingBuild.id := by decide +kernel
  rcases stored : (finalizedFrom rebuiltWorld).2.db.servedApp rebuiltApp.slug with _ | served
  · rw [stored] at found
    contradiction
  · rw [stored] at found
    exact ⟨served, stored, shows_of_servedId found⟩

theorem visitedAfter_reached : Serving.Reaches defaultSettings rebuiltApp.slug finalizeWaiting
    (CachesFresh rebuiltApp.slug waitingBuild.id) ⟨rebuiltWorld, .idle, []⟩
    ⟨visitedAfter.2, .returned, [visitedAfter.1]⟩ := by
  have returned := DeployCall.eq_returned finalizedFrom_returned
  exact (Serving.Reaches.returns [] returned).trans
    (Serving.Reaches.visits 9 (finalizedFrom rebuiltWorld).2 .returned [] rebuiltApp.slug
      (along_loadApp finalizedFrom_shows))

theorem serve_cache_fresh_after :
    ∃ served, visitedAfter.1.rest = .ret (some served) ∧ served.Shows waitingBuild.id := by
  obtain ⟨slug, late, found⟩ : visitedAfter.1.slug = rebuiltApp.slug ∧ visitedAfter.1.late = true ∧
      servedId visitedAfter.1.rest = some waitingBuild.id := by decide +kernel
  have reached := visitedAfter_reached
  -- from here on the visit is any that ends so: it is not run again
  generalize visitedAfter = visited at slug late found reached ⊢
  exact serve_cache_fresh defaultSettings demoLibrary rebuiltWorld_reachable rebuiltApp_present
    rebuiltApp_owner (.finalize none) reached visited.1 (List.mem_singleton_self visited.1) slug late
    (finished_of_servedId found)

/-- A visitor has read the app when the call begins, and caches it when the call is over. -/
def readBefore : Visitor × World := (siteVisitor false).after defaultSettings 3 rebuiltWorld

def cachedAfter : Visitor × World :=
  readBefore.1.after defaultSettings 2 (finalizedFrom readBefore.2).2

def visitedLate : Visitor × World := (siteVisitor true).after defaultSettings 9 cachedAfter.2

theorem visitedLate_reached : Serving.Reaches defaultSettings rebuiltApp.slug finalizeWaiting
    (fun _ _ _ => True) ⟨rebuiltWorld, .idle, []⟩
    ⟨visitedLate.2, .returned, [visitedLate.1, cachedAfter.1]⟩ := by
  have free (rest : Transaction (Option ServedApp)) (world : World) : rest.Along
      (Statement.handle defaultSettings) (fun _ _ _ => True) world :=
    (Prog.all_true rest).along fun _ _ _ _ => trivial
  have resumed (visitor : Visitor) (world : World) : Serving.Reaches defaultSettings
      rebuiltApp.slug finalizeWaiting (fun _ _ _ => True) ⟨world, .returned, [visitor]⟩
      ⟨(visitor.after defaultSettings 2 world).2, .returned,
        [(visitor.after defaultSettings 2 world).1]⟩ :=
    Serving.Reaches.loads 2 visitor world [] [] (free _ _)
  have returned : (finalizedFrom readBefore.2).1 = .returned :=
    DeployCall.eq_returned (by decide +kernel)
  refine (Serving.Reaches.visits 3 rebuiltWorld .idle [] rebuiltApp.slug (free _ _)).trans ?_
  refine (Serving.Reaches.returns [readBefore.1] returned).trans ?_
  refine (resumed readBefore.1 (finalizedFrom readBefore.2).2).trans ?_
  exact Serving.Reaches.visits 9 cachedAfter.2 .returned [cachedAfter.1] rebuiltApp.slug (free _ _)

/-- The late visitor gets the deployment of before, out of the cache. -/
theorem serve_cache_not_fresh :
    ¬∀ (settings : Settings) (library : Library) (world : World),
      world.Reachable settings library → ∀ (row : Deployment), ∀ app ∈ world.db.apps,
        app.id = row.app → ∀ body, DeployBody settings library row body → ∀ serving,
          Serving.Reaches settings app.slug body (fun _ _ _ => True) ⟨world, .idle, []⟩ serving →
            ∀ visitor ∈ serving.visitors, visitor.slug = app.slug → visitor.late = true →
              visitor.rest.Finished →
                ∃ served, visitor.rest = .ret (some served) ∧ served.Shows row.id := by
  intro fresh
  obtain ⟨slug, late, old, new⟩ : visitedLate.1.slug = rebuiltApp.slug ∧ visitedLate.1.late = true ∧
      servedId visitedLate.1.rest = some ⟨2⟩ ∧ waitingBuild.id = ⟨3⟩ := by decide +kernel
  have reached := visitedLate_reached
  generalize visitedLate = visited at slug late old reached
  obtain ⟨served, ended, current, resolved, same⟩ := fresh defaultSettings demoLibrary rebuiltWorld
    rebuiltWorld_reachable waitingBuild rebuiltApp rebuiltApp_present rebuiltApp_owner
    finalizeWaiting (.finalize none) _ reached visited.1 List.mem_cons_self slug late
    (finished_of_servedId old)
  rw [ended, servedId, resolved, Option.map_some, same, new] at old
  exact absurd old (by decide)

end HostingService
