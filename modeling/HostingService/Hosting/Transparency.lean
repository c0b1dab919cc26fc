import HostingService.Hosting.Current
import HostingService.Hosting.Visits

/-! A worker with a serve cache answers its visitors as one without, unless an app is
deleted or its expiry moved under a live entry. -/

namespace HostingService

open Program Text Storage Transaction

/-- The settings with `HOSTING_SERVE_CACHE_TTL_SECONDS=0`. -/
def Settings.uncached (settings : Settings) : Settings :=
  { settings with hostingServeCacheTtlSeconds := 0 }

/-- A worker process that has just started. -/
def World.freshProcess (world : World) : World := { world with cache := ∅ }

/-- An entry for the slug that the next visit would take. -/
def World.LiveEntry (world : World) (slug : PyStr) (expires : Time) (cached : ServedApp) : Prop :=
  world.cache.lookup slug = some (expires, cached) ∧ world.clock < expires

section
variable (settings : Settings) (library : Library)

def Occurrence.answer (world : World) : Occurrence → Option (Except Error Response)
  | .visit slug pathInfo faults => some (HostingService.visit settings library slug pathInfo faults world).1
  | _ => none

/-- What the visitors of a run are answered, one after the other. -/
def visitAnswers : World → List Occurrence → List (Except Error Response)
  | _, [] => []
  | world, occurrence :: later =>
    (occurrence.answer settings library world).toList ++
      visitAnswers (occurrence.next settings library world) later

/-- No app is deleted while its slug has a live entry, and no expiry is moved that the entry
would outlive, before or after. -/
def KeepsCached (world : World) : Occurrence → Prop
  | .request (.delete id _ _) _ => ∀ app, world.db.app id = some app →
      ∀ expires cached, ¬world.LiveEntry app.slug expires cached
  | .request (.renew id) _ => ∀ app, world.db.app id = some app →
      app.isPreview = true → app.unexpired world.clock = true →
        ∀ expires cached, world.LiveEntry app.slug expires cached →
          app.expiresAt = some (renewal settings world.clock) ∨
            app.expiresAt.all (expires ≤ ·) = true ∧ expires ≤ renewal settings world.clock
  | _ => True

end

/-- Until the entry runs out, it says what the stored app says. -/
structure ServedApp.SameUntil (now expires : Time) (cached stored : ServedApp) : Prop where
  deployment : cached.currentDeployment = stored.currentDeployment
  expiry : ∀ time, now ≤ time → time < expires →
    cached.app.unexpired time = stored.app.unexpired time

/-- Every live entry is one of a stored app. -/
def World.CacheGood (world : World) : Prop :=
  ∀ slug expires cached, world.LiveEntry slug expires cached →
    ∃ stored, world.db.servedApp slug = some stored ∧ cached.SameUntil world.clock expires stored

/-- The two worlds differ in their caches only. -/
structure World.Mirrors (first second : World) : Prop where
  db : first.db = second.db
  disk : first.disk = second.disk
  clock : first.clock = second.clock

/-! ### Settings without the cache -/

section
variable {settings : Settings} {library : Library}

theorem openFirst_uncached (deployment : Deployment) (candidates seen : List PyStr) :
    openFirst settings.uncached deployment candidates seen =
      openFirst settings deployment candidates seen := by
  induction candidates generalizing seen with
  | nil => rfl
  | cons candidate candidates ih =>
    simp only [openFirst, ih]
    rfl

theorem serveDeployment_uncached (deployment : Deployment) (path : PyStr) :
    serveDeployment settings.uncached library deployment path =
      serveDeployment settings library deployment path := by
  simp only [serveDeployment, pickFile, openFirst_uncached]
  rfl

theorem deleteExtractedListing_uncached (depth : Nat) (storagePrefix : PyStr) :
    deleteExtractedListing settings.uncached depth storagePrefix =
      deleteExtractedListing settings depth storagePrefix := by
  induction depth generalizing storagePrefix with
  | zero => rfl
  | succ depth ih =>
    simp only [deleteExtractedListing, ih]
    rfl

theorem deleteExtractedPrefix_uncached (storagePrefix : PyStr) :
    deleteExtractedPrefix settings.uncached storagePrefix =
      deleteExtractedPrefix settings storagePrefix := by
  simp only [deleteExtractedPrefix, deleteExtractedListing_uncached]
  rfl

theorem deleteArtifactListing_uncached (depth : Nat) (root : PyStr) :
    deleteArtifactListing settings.uncached depth root =
      deleteArtifactListing settings depth root := by
  induction depth generalizing root with
  | zero => rfl
  | succ depth ih =>
    simp only [deleteArtifactListing, ih]
    rfl

theorem deleteDeploymentArtifacts_uncached (deployment : Deployment) :
    deleteDeploymentArtifacts settings.uncached deployment =
      deleteDeploymentArtifacts settings deployment := by
  simp only [deleteDeploymentArtifacts, deleteExtractedPrefix_uncached, deleteArtifactPrefix,
    deleteArtifactListing_uncached]
  rfl

theorem extractTarMembers_uncached (limits : ExtractLimits) (root : PyStr)
    (members : List TarMember) (progress : Progress) :
    extractTarMembers settings.uncached limits root members progress =
      extractTarMembers settings limits root members progress := by
  induction members generalizing progress with
  | nil => rfl
  | cons member members ih =>
    simp only [extractTarMembers, ih]
    rfl

theorem extractDeploymentArtifact_uncached (deployment : Deployment) :
    extractDeploymentArtifact settings.uncached library deployment =
      extractDeploymentArtifact settings library deployment := by
  simp only [extractDeploymentArtifact, unpackArtifact, deleteExtractedPrefix_uncached,
    extractTarMembers_uncached]
  rfl

/-- No request looks at the lifetime of cache entries. -/
theorem Request.service_uncached (request : Request) :
    request.service settings.uncached library = request.service settings library := by
  cases request with
  | finalize deployment userId actorEmail =>
    simp only [service, finalizeDeployment, activateDeployment, extractDeploymentArtifact_uncached]
    rfl
  | delete app userId actorEmail =>
    simp only [service, deleteApp, deleteAppArtifacts, deleteDeploymentArtifacts_uncached]
  | _ => rfl

end

/-! ### Stored apps -/

section
variable {settings : Settings} {library : Library} {sites : Sites} {request : Request} {now : Time}
  {act : Act} {app : App}

/-- The current deployment of a settled app is active and its own. -/
theorem Sites.Consistent.current_row (consistent : sites.Consistent) (present : app ∈ sites.apps)
    {row : Deployment} (member : row ∈ sites.deployments)
    (current : app.currentDeployment = some row.id) : row.app = app.id ∧ row.status = .active := by
  rcases consistent.settled app present with ⟨empty, _⟩ | ⟨active, found, same, owner, running, _⟩
  · rw [empty] at current
    contradiction
  · rw [same] at current
    obtain rfl := consistent.formed.deployment_eq found member (Option.some.inj current)
    exact ⟨owner, running⟩

/-- The app and its current deployment are there as before. -/
def Sites.Keeps (app : App) (before after : Sites) : Prop :=
  app ∈ after.apps ∧ ∀ row ∈ before.deployments, app.currentDeployment = some row.id →
    row ∈ after.deployments

theorem Sites.Consistent.keeps_reopen {row : Deployment} {columns : DeploymentColumns}
    (consistent : sites.Consistent) (present : app ∈ sites.apps)
    (legal : (Act.reopen row columns).Legal sites) :
    sites.Keeps app ((Act.reopen row columns).apply sites) := by
  refine ⟨present, fun served member current => ?_⟩
  have running := (consistent.current_row present member current).2
  have other : served.id ≠ row.id := fun same => legal.2 served member same running
  exact List.mem_map.mpr ⟨served, member, if_neg other⟩

theorem Sites.Consistent.keeps_makeCurrent {row : Deployment} {finalizedAt : Time}
    {renewed : Option Time} (consistent : sites.Consistent) (present : app ∈ sites.apps)
    (legal : (Act.makeCurrent row finalizedAt renewed).Legal sites) (foreign : app.id ≠ row.app) :
    sites.Keeps app ((Act.makeCurrent row finalizedAt renewed).apply sites) := by
  refine ⟨List.mem_map.mpr ⟨app, present, if_neg foreign⟩, fun served member current => ?_⟩
  have owner := (consistent.current_row present member current).1
  have apart : served.app ≠ row.app := fun same => foreign (owner.symm.trans same)
  obtain ⟨stored, found, id, owns⟩ := legal
  have other : served.id ≠ row.id := by
    intro same
    obtain rfl := consistent.formed.deployment_eq member found (same.trans id.symm)
    exact apart owns
  exact List.mem_map.mpr ⟨served, member, currentRow_other apart other⟩

theorem Sites.Consistent.keeps_delete {target : App} (consistent : sites.Consistent)
    (present : app ∈ sites.apps) (different : app.id ≠ target.id) :
    sites.Keeps app ((Act.delete target).apply sites) := by
  constructor
  · refine List.mem_map.mpr ⟨app, List.mem_filter.mpr ⟨present, by simpa using different⟩, ?_⟩
    rw [(consistent.settled app present).kept consistent.formed different]
    rfl
  · intro row member current
    have owner := (consistent.current_row present member current).1
    exact List.mem_filter.mpr ⟨member, by simpa [owner] using different⟩

/-- An act leaves an app as it is, or it is an act on this app. -/
theorem Request.Admits.keeps_or (consistent : sites.Consistent)
    (admitted : request.Admits settings library now sites act) (present : app ∈ sites.apps) :
    sites.Keeps app (act.apply sites) ∨
      (∃ row finalizedAt renewed, act = .makeCurrent row finalizedAt renewed ∧ app.id = row.app) ∨
      (∃ expiresAt, act = .renew app expiresAt) ∨ act = .delete app := by
  have legal := admitted.legal consistent.formed
  cases act with
  | createApp new =>
    left
    exact ⟨List.mem_append_left _ present, fun row member _ => member⟩
  | createDeployment row =>
    left
    exact ⟨present, fun other member _ => List.mem_append_left _ member⟩
  | createPreview new row =>
    left
    exact ⟨List.mem_append_left _ present, fun other member _ => List.mem_append_left _ member⟩
  | reopen row columns =>
    left
    exact consistent.keeps_reopen present legal
  | makeCurrent row finalizedAt renewed =>
    by_cases owner : app.id = row.app
    · right
      left
      exact ⟨row, finalizedAt, renewed, rfl, owner⟩
    · left
      exact consistent.keeps_makeCurrent present legal owner
  | renew target expiresAt =>
    by_cases same : app.id = target.id
    · have stored : target ∈ sites.apps := by
        cases admitted
        assumption
      obtain rfl := consistent.formed.app_eq present stored same
      right
      right
      left
      exact ⟨expiresAt, rfl⟩
    · left
      exact ⟨List.mem_map.mpr ⟨app, present, if_neg same⟩, fun row member _ => member⟩
  | delete target =>
    by_cases same : app.id = target.id
    · have stored : target ∈ sites.apps := by
        cases admitted
        assumption
      obtain rfl := consistent.formed.app_eq present stored same
      right
      right
      right
      rfl
    · left
      exact consistent.keeps_delete present same

theorem mem_of_servedApp {db : Db} {slug : PyStr} {stored : ServedApp}
    (found : db.servedApp slug = some stored) : stored.app ∈ db.apps ∧ stored.app.slug = slug ∧
      stored.currentDeployment = stored.app.currentDeployment.bind db.deployment := by
  obtain ⟨app, search, rfl⟩ := Option.map_eq_some_iff.mp found
  exact ⟨List.mem_of_find?_eq_some search, by simpa using List.find?_some search, rfl⟩

theorem servedApp_of_mem {db : Db} (formed : db.sites.WellFormed) (present : app ∈ db.apps) :
    db.servedApp app.slug = some ⟨app, app.currentDeployment.bind db.deployment⟩ := by
  have bySlug : db.apps.find? (·.slug = app.slug) = some app :=
    find?_of_unique formed.slugs present
  rw [Db.servedApp, bySlug, Option.map_some]

/-- What is stored for a kept app is what was stored. -/
theorem servedApp_of_keeps {before after : Db} {stored : ServedApp} {slug : PyStr} {row : App}
    (consistent : before.sites.Consistent) (formed : after.sites.WellFormed)
    (found : before.servedApp slug = some stored) (slugs : row.slug = slug)
    (current : row.currentDeployment = stored.app.currentDeployment) (present : row ∈ after.apps)
    (rows : ∀ other ∈ before.deployments, stored.app.currentDeployment = some other.id →
      other ∈ after.deployments) :
    after.servedApp slug = some ⟨row, stored.currentDeployment⟩ := by
  obtain ⟨member, _, loaded⟩ := mem_of_servedApp found
  have same : row.currentDeployment.bind after.deployment = stored.currentDeployment := by
    rw [loaded, current]
    rcases consistent.settled stored.app member with ⟨empty, _⟩ | ⟨active, there, names, _⟩
    · rw [empty]
      rfl
    · rw [names]
      exact (Db.deployment_of_mem formed (rows active there names)).trans
        (Db.deployment_of_mem consistent.formed there).symm
  rw [← slugs, servedApp_of_mem formed present, same]

theorem servedApp_of_sites {before after : Db} (same : after.sites = before.sites) (slug : PyStr) :
    after.servedApp slug = before.servedApp slug := by
  have apps : after.apps = before.apps := congrArg Sites.apps same
  have rows : after.deployments = before.deployments := congrArg Sites.deployments same
  have loads : after.deployment = before.deployment := by
    funext id
    rw [Db.deployment, rows]
    rfl
  rw [Db.servedApp, apps, loads]
  rfl

end

/-! ### Requests and the cache -/

/-- Statements that neither look at the cache nor fill it. -/
def IgnoresCache : ∀ β, Statement β → Prop
  | _, .cached _ => False
  | _, .cache _ _ => False
  | _, _ => True

theorem permits_ignoresCache (companyId : Nat) : Permits IgnoresCache companyId :=
  ⟨fun _ => trivial, trivial, fun _ => trivial, fun _ _ => trivial⟩

theorem storage_ignoresCache {α : Type} (body : StorageProg α) : (storage body).All IgnoresCache :=
  Prog.all_hoist.mpr ((Prog.all_true body).mono fun _ _ _ => trivial)

section
variable {settings : Settings} {library : Library} {world first second : World} {α : Type}
  {slug pathInfo : PyStr}

theorem Request.service_ignoresCache (request : Request) :
    (request.service settings library).All (Action.All IgnoresCache) :=
  request.service_all permits_ignoresCache storage_ignoresCache

theorem handle_mirrors {β : Type} {statement : Statement β} (ignores : IgnoresCache β statement)
    (mirrors : first.Mirrors second) :
    (Statement.handle settings β statement first).1 =
        (Statement.handle settings β statement second).1 ∧
      (Statement.handle settings β statement first).2.Mirrors
        (Statement.handle settings β statement second).2 := by
  obtain ⟨db, disk, clock⟩ := mirrors
  cases statement with
  | select query =>
    simp only [Statement.handle, db]
    exact ⟨trivial, db, disk, clock⟩
  | execute change =>
    simp only [Statement.handle, db]
    split
    · exact ⟨rfl, rfl, disk, clock⟩
    · exact ⟨rfl, db, disk, clock⟩
  | storage op =>
    simp only [Statement.handle, disk]
    exact ⟨trivial, db, rfl, clock⟩
  | now =>
    simp only [Statement.handle, clock]
    exact ⟨trivial, db, disk, clock⟩
  | uncache slug => exact ⟨rfl, db, disk, clock⟩
  | cached slug | cache slug entry => exact ignores.elim

theorem run_mirrors {body : Transaction α} (ignores : body.All IgnoresCache)
    (mirrors : first.Mirrors second) :
    (body.run (Statement.handle settings) first).1 =
        (body.run (Statement.handle settings) second).1 ∧
      (body.run (Statement.handle settings) first).2.Mirrors
        (body.run (Statement.handle settings) second).2 :=
  ignores.run_simulated World.Mirrors (fun _ _ ignores _ _ mirrors => handle_mirrors ignores mirrors)
    mirrors

theorem service_mirrors {body : Service α} (ignores : body.All (Action.All IgnoresCache))
    (mirrors : first.Mirrors second) :
    (body.run (Action.handle settings) first).1 = (body.run (Action.handle settings) second).1 ∧
      (body.run (Action.handle settings) first).2.Mirrors
        (body.run (Action.handle settings) second).2 := by
  refine ignores.run_simulated World.Mirrors (fun β action ignores left right mirrors => ?_) mirrors
  cases action with
  | autocommit statement => exact handle_mirrors ignores mirrors
  | atomic body =>
    obtain ⟨results, worlds⟩ := run_mirrors ignores mirrors
    simp only [Action.handle]
    rcases one : body.run (Statement.handle settings) left with ⟨result, after⟩
    rcases two : body.run (Statement.handle settings) right with ⟨_, later⟩
    rw [one, two] at results worlds
    obtain rfl := results
    cases result with
    | ok value => exact ⟨rfl, worlds⟩
    | error error => exact ⟨rfl, mirrors.db, worlds.disk, worlds.clock⟩

/-- A request leaves the entries that it does not drop. -/
theorem service_cache {body : Service α} (ignores : body.All (Action.All IgnoresCache))
    (world : World) (slug : PyStr) :
    (body.run (Action.handle settings) world).2.cache.lookup slug = none ∨
      (body.run (Action.handle settings) world).2.cache.lookup slug = world.cache.lookup slug := by
  refine service_related (fun before after =>
    after.cache.lookup slug = none ∨ after.cache.lookup slug = before.cache.lookup slug)
    (fun _ => .inr rfl) (fun left right => ?_) (fun related => related)
    (fun β statement ignores world => ?_) ignores world
  · rcases right with gone | kept
    · exact Or.inl gone
    · rw [kept]
      exact left
  · cases statement with
    | execute change =>
      right
      simp only [Statement.handle]
      split <;> rfl
    | uncache dropped =>
      by_cases same : slug = dropped
      · left
        rw [same]
        exact AList.lookup_erase _ _
      · right
        exact AList.lookup_erase_ne same
    | cached slug | cache slug entry => exact ignores.elim
    | _ => exact Or.inr rfl

/-- A deployment that becomes current takes the entry of its app out of the cache. -/
def Act.Evicts (act : Act) (before after : World) : Prop :=
  ∀ row finalizedAt renewed, act = .makeCurrent row finalizedAt renewed →
    ∀ app ∈ before.db.apps, app.id = row.app → after.cache.lookup app.slug = none

theorem Act.Evicts.of_makeCurrent {row : Deployment} {finalizedAt : Time} {renewed : Option Time}
    {app : App} (formed : world.db.sites.WellFormed) (present : app ∈ world.db.apps)
    (owner : app.id = row.app) {after : World} (dropped : after.cache.lookup app.slug = none) :
    (Act.makeCurrent row finalizedAt renewed).Evicts world after := by
  intro other _ _ same app' present' owner'
  obtain ⟨rfl, _, _⟩ := Act.makeCurrent.inj same
  rw [formed.app_eq present' present (owner'.trans owner.symm)]
  exact dropped

/-- How a request ends that starts in `before`, as to its tables and its cache entries. -/
def Request.Ends (settings : Settings) (library : Library) (request : Request)
    (before after : World) : Prop :=
  after.db.sites = before.db.sites ∨
    ∃ act, request.Admits settings library before.clock before.db.sites act ∧
      after.db.sites = act.apply before.db.sites ∧ act.Evicts before after

theorem Request.ends_finalize (id : Uuid) (userId : Option Nat) (actorEmail : PyStr)
    (formed : world.db.sites.WellFormed) :
    ((Request.finalize id userId actorEmail).service settings library).Ensures
      (Action.handle settings)
      (fun _ after => (Request.finalize id userId actorEmail).Ends settings library world after)
      world := by
  refine Service.ensures_loadRow (Or.inl rfl) fun row found => ?_
  obtain ⟨member, rfl⟩ := Db.mem_of_deployment found
  have ended : (finalizeDeployment settings library row userId actorEmail).Ensures
      (Action.handle settings)
      (fun _ after => (Request.finalize row.id userId actorEmail).Ends settings library world after)
      world := by
    refine (ensures_finalize row userId actorEmail).mono fun result after ends => ?_
    rcases ends with ⟨active, _, activated⟩ | ⟨_, same | ⟨ready, failed⟩⟩
    · obtain ⟨app, present, owner, ready, full, dropped, applied⟩ := activated
      right
      exact ⟨_, .activate member ready full present owner, applied,
        .of_makeCurrent formed present owner dropped⟩
    · left
      exact same
    · right
      exact ⟨_, .markFailed member ready, failed, fun _ _ _ other => by contradiction⟩
  exact ended.bind (fun _ _ ends => ends) fun _ _ ends => ends

theorem Request.ends_rollback (id : Uuid) (formed : world.db.sites.WellFormed) :
    ((Request.rollback id).service settings library).Ensures (Action.handle settings)
      (fun _ after => (Request.rollback id).Ends settings library world after) world := by
  refine Service.ensures_loadRow (Or.inl rfl) fun row found => ?_
  obtain ⟨member, rfl⟩ := Db.mem_of_deployment found
  have ended : (Service.atomic (rollbackDeployment row)).Ensures (Action.handle settings)
      (fun _ after => (Request.rollback row.id).Ends settings library world after) world := by
    refine Service.ensures_atomic (ensures_rollback row) (fun _ after done => ?_)
      fun _ _ _ => Or.inl rfl
    obtain ⟨app, present, owner, served, full, dropped, finalizedAt, applied⟩ := done
    right
    exact ⟨_, .rollback member served full ⟨app, present, owner⟩, applied,
      .of_makeCurrent formed present owner dropped⟩
  exact ended.bind (fun _ _ ends => ends) fun _ _ ends => ends

theorem Request.ends (request : Request) (formed : world.db.sites.WellFormed) :
    (request.service settings library).Ensures (Action.handle settings)
      (fun _ after => request.Ends settings library world after) world := by
  have others (quiet : ∀ row finalizedAt renewed, ¬request.Admits settings library world.clock
      world.db.sites (.makeCurrent row finalizedAt renewed)) :
      (request.service settings library).Ensures (Action.handle settings)
        (fun _ after => request.Ends settings library world after) world := by
    rcases request.performs world with ⟨act, admitted, applied, _⟩ | ⟨_, same⟩
    · right
      refine ⟨act, admitted, applied, fun row finalizedAt renewed makes => ?_⟩
      rw [makes] at admitted
      exact absurd admitted (quiet row finalizedAt renewed)
    · left
      exact same
  cases request with
  | finalize id userId actorEmail => exact ends_finalize id userId actorEmail formed
  | rollback id => exact ends_rollback id formed
  | _ =>
    refine others fun row finalizedAt renewed admitted => ?_
    cases admitted

/-! ### Live entries -/

theorem World.LiveEntry.earlier {before after : World} {expires : Time} {cached : ServedApp}
    (live : after.LiveEntry slug expires cached)
    (cache : after.cache.lookup slug = before.cache.lookup slug)
    (clock : before.clock ≤ after.clock) : before.LiveEntry slug expires cached :=
  ⟨cache ▸ live.1, lt_of_le_of_lt clock live.2⟩

theorem ServedApp.SameUntil.refl (now expires : Time) (app : ServedApp) :
    app.SameUntil now expires app := ⟨rfl, fun _ _ _ => rfl⟩

theorem ServedApp.SameUntil.later {now next expires : Time} {cached stored : ServedApp}
    (same : cached.SameUntil now expires stored) (passed : now ≤ next) :
    cached.SameUntil next expires stored :=
  ⟨same.deployment, fun time after before => same.expiry time (passed.trans after) before⟩

/-- The same app is stored for the slug. -/
theorem World.CacheGood.of_stored {before after : World} (good : before.CacheGood)
    (cache : ∀ slug, after.cache.lookup slug = none ∨
      after.cache.lookup slug = before.cache.lookup slug)
    (clock : before.clock ≤ after.clock)
    (stored : ∀ slug expires cached row, before.LiveEntry slug expires cached →
      after.cache.lookup slug = before.cache.lookup slug →
      before.db.servedApp slug = some row → cached.SameUntil before.clock expires row →
      ∃ now, after.db.servedApp slug = some now ∧ cached.SameUntil before.clock expires now) :
    after.CacheGood := by
  intro slug expires cached live
  rcases cache slug with gone | kept
  · rw [World.LiveEntry, gone] at live
    exact absurd live.1 (by simp)
  · have earlier := live.earlier kept clock
    obtain ⟨row, found, same⟩ := good slug expires cached earlier
    obtain ⟨now, finds, agrees⟩ := stored slug expires cached row earlier kept found same
    exact ⟨now, finds, agrees.later clock⟩

theorem cacheGood_passes (good : world.CacheGood) (span : Nat) :
    ({ world with clock := world.clock + span } : World).CacheGood := by
  refine good.of_stored (fun slug => Or.inr rfl) (Int.le_add_of_nonneg_right (Int.natCast_nonneg span))
    fun slug expires cached row _ _ found same => ?_
  exact ⟨row, found, same⟩

/-- A renewal that the entry does not outlive. -/
theorem sameUntil_renewed {now expires renewed : Time} {cached : ServedApp} {app : App}
    {row : Option Deployment} (same : cached.SameUntil now expires ⟨app, row⟩)
    (kept : app.expiresAt = some renewed ∨
      app.expiresAt.all (expires ≤ ·) = true ∧ expires ≤ renewed) :
    cached.SameUntil now expires ⟨{ app with expiresAt := some renewed }, row⟩ := by
  refine ⟨same.deployment, fun time after before => ?_⟩
  rw [same.expiry time after before, App.unexpired, App.unexpired]
  rcases kept with equal | ⟨old, new⟩
  · rw [equal]
  · have unexpired : decide (time < renewed) = true := decide_eq_true (lt_of_lt_of_le before new)
    rw [Option.all_some, unexpired]
    rcases held : app.expiresAt with _ | expiresAt
    · rfl
    · rw [held, Option.all_some, decide_eq_true_eq] at old
      exact decide_eq_true (lt_of_lt_of_le before old)

theorem cacheGood_request (consistent : world.db.sites.Consistent) (good : world.CacheGood)
    (request : Request) (faults : List (Option Error))
    (keeps : KeepsCached settings world (.request request faults)) :
    (request.run settings library faults world).2.CacheGood := by
  have formed : (request.run settings library faults world).2.db.sites.WellFormed :=
    service_wellFormed _ _ consistent.formed
  have clock : (request.run settings library faults world).2.clock = world.clock :=
    service_clock _ _
  have cache (slug : PyStr) : (request.run settings library faults world).2.cache.lookup slug = none ∨
      (request.run settings library faults world).2.cache.lookup slug = world.cache.lookup slug :=
    service_cache request.service_ignoresCache (world.withFaults faults) slug
  refine good.of_stored cache clock.ge fun slug expires cached stored live kept found same => ?_
  obtain ⟨present, slugs, _⟩ := mem_of_servedApp found
  have started : (world.withFaults faults).db.sites.WellFormed := consistent.formed
  rcases request.ends started with unchanged | ⟨act, admitted, applied, evicts⟩
  · exact ⟨stored, (servedApp_of_sites unchanged slug).trans found, same⟩
  · have apps : (request.run settings library faults world).2.db.apps = _ :=
      congrArg Sites.apps applied
    have rows : (request.run settings library faults world).2.db.deployments = _ :=
      congrArg Sites.deployments applied
    rcases admitted.keeps_or consistent present with
      stays | ⟨row, finalizedAt, renewed, rfl, owner⟩ | ⟨expiresAt, rfl⟩ | rfl
    · refine ⟨stored, ?_, same⟩
      exact servedApp_of_keeps consistent formed found slugs rfl (apps ▸ stays.1) (rows ▸ stays.2)
    · have gone := evicts row finalizedAt renewed rfl stored.app present owner
      rw [slugs] at gone
      have held := kept.symm.trans gone
      rw [live.1] at held
      contradiction
    · cases admitted with
      | renew stored' preview unexpired =>
        have isPreview : stored.app.isPreview = true := by
          rcases preview with created | expiring
          · simp [App.isPreview, Option.isSome_iff_ne_none.mpr created]
          · simp [App.isPreview, Option.isSome_iff_ne_none.mpr expiring]
        have outlived := keeps stored.app (Db.app_of_mem consistent.formed present) isPreview
          unexpired expires cached (slugs ▸ live)
        refine ⟨_, servedApp_of_keeps consistent formed found ?_ ?_ ?_ ?_,
          sameUntil_renewed same outlived⟩
        · exact slugs
        · rfl
        · rw [apps]
          exact List.mem_map.mpr ⟨stored.app, present, if_pos rfl⟩
        · rw [rows]
          exact fun other member _ => member
    · cases admitted with
      | delete stored' =>
        have gone := keeps stored.app (Db.app_of_mem consistent.formed present) expires cached
        rw [slugs] at gone
        exact absurd live gone

/-! ### Visits -/

/-- What a visitor is answered once the app is loaded. -/
def answerApp (settings : Settings) (library : Library) (path : PyStr) :
    Option ServedApp → Transaction Response
  | none => return .siteUnavailable .notFound
  | some app => serveApp settings library app path

/-- The two apps are served alike at this time. -/
def SameAnswer (now : Time) : Option ServedApp → Option ServedApp → Prop
  | none, none => True
  | some cached, some stored => cached.currentDeployment = stored.currentDeployment ∧
      cached.app.unexpired now = stored.app.unexpired now
  | _, _ => False

theorem SameAnswer.refl (now : Time) (served : Option ServedApp) : SameAnswer now served served := by
  cases served with
  | none => trivial
  | some app => exact ⟨rfl, rfl⟩

theorem run_serveApp (app : ServedApp) (path : PyStr) (world : World) :
    (serveApp settings library app path).run (Statement.handle settings) world =
      if app.app.unexpired world.clock then
        match resolveDeployment app with
        | none => (.ok (.siteUnavailable .unavailable), world)
        | some row => (storage (serveDeployment settings library row path)).run
            (Statement.handle settings) world
      else (.ok (.siteUnavailable .expired), world) := by
  have asked : (isPreviewExpired app.app).run (Statement.handle settings) world =
      (.ok (!app.app.unexpired world.clock), world) := by
    rw [isPreviewExpired, App.unexpired]
    rcases app.app.expiresAt with _ | expiresAt
    · rfl
    · show (Except.ok (decide (expiresAt ≤ world.clock)), world) = _
      rw [Option.all_some, ← decide_not, decide_eq_decide.mpr not_lt]
  rw [serveApp, Prog.run_bind_ok _ asked]
  cases app.app.unexpired world.clock with
  | false => rfl
  | true => rcases resolveDeployment app with _ | row <;> rfl

theorem answerApp_mirrors {found stored : Option ServedApp} {path : PyStr}
    (same : SameAnswer first.clock found stored) (mirrors : first.Mirrors second) :
    ((answerApp settings library path found).run (Statement.handle settings) first).1 =
        ((answerApp settings.uncached library path stored).run
          (Statement.handle settings.uncached) second).1 ∧
      ((answerApp settings library path found).run (Statement.handle settings) first).2.Mirrors
        ((answerApp settings.uncached library path stored).run
          (Statement.handle settings.uncached) second).2 := by
  cases found with
  | none =>
    cases stored with
    | none => exact ⟨rfl, mirrors⟩
    | some stored => exact same.elim
  | some cached =>
    cases stored with
    | none => exact same.elim
    | some stored =>
      have resolved : resolveDeployment cached = resolveDeployment stored := by
        rw [resolveDeployment, resolveDeployment, same.1]
      rw [answerApp, answerApp, run_serveApp, run_serveApp, same.2, mirrors.clock, resolved]
      cases stored.app.unexpired second.clock with
      | false => exact ⟨rfl, mirrors⟩
      | true =>
        rcases resolveDeployment stored with _ | row
        · exact ⟨rfl, mirrors⟩
        · simp only [if_true, serveDeployment_uncached]
          exact run_mirrors (storage_ignoresCache _) mirrors

theorem cacheGood_insert (good : world.CacheGood) {app : ServedApp}
    (found : world.db.servedApp slug = some app) (expires : Time) :
    ({ world with cache := world.cache.insert slug (expires, app) } : World).CacheGood := by
  intro other until' cached live
  by_cases same : other = slug
  · subst same
    have entry : (world.cache.insert other (expires, app)).lookup other = some (expires, app) :=
      AList.lookup_insert world.cache
    obtain ⟨rfl, rfl⟩ := Prod.mk.inj (Option.some.inj (entry.symm.trans live.1))
    exact ⟨app, found, .refl _ _ app⟩
  · exact good other until' cached ⟨(AList.lookup_insert_ne same).symm.trans live.1, live.2⟩

theorem cacheGood_erase (good : world.CacheGood) :
    ({ world with cache := world.cache.erase slug } : World).CacheGood := by
  refine good.of_stored (fun other => ?_) le_rfl fun slug expires cached row _ _ found same =>
    ⟨row, found, same⟩
  by_cases same : other = slug
  · left
    rw [same]
    exact AList.lookup_erase _ _
  · right
    exact AList.lookup_erase_ne same

/-- The app of a visit is served as the stored one. -/
theorem ensures_loadApp_good (good : world.CacheGood) :
    (loadApp settings slug).Ensures (Statement.handle settings) (fun result after =>
      after.CacheGood ∧ after.Mirrors world ∧
        ∃ found, result = .ok found ∧ SameAnswer world.clock found (world.db.servedApp slug)) world := by
  rw [loadApp]
  refine (ensures_cacheGetApp slug world).bind ?_ fun found middle ended => ?_
  · rintro error after (⟨failed, _⟩ | ⟨entry, _, _, failed, _⟩) <;> contradiction
  · rcases ended with ⟨missed, kept⟩ | ⟨⟨expires, cached⟩, entry, live, same, rfl⟩
    · obtain rfl := Except.ok.inj missed
      have still : middle.CacheGood ∧ middle.Mirrors world := by
        rcases kept with rfl | rfl
        · exact ⟨good, rfl, rfl, rfl⟩
        · exact ⟨cacheGood_erase good, rfl, rfl, rfl⟩
      refine ensures_select.mpr ?_
      rw [← still.2.db]
      rcases stored : middle.db.servedApp slug with _ | app
      · exact ⟨still.1, still.2, none, rfl, trivial⟩
      · refine (ensures_cacheSetApp slug app middle).bind (fun _ _ failed => by cases failed.1)
          fun _ after ended => ?_
        rcases ended.2 with rfl | ⟨expires, rfl⟩
        · exact ⟨still.1, still.2, some app, rfl, rfl, rfl⟩
        · exact ⟨cacheGood_insert still.1 stored expires, ⟨still.2.db, still.2.disk, still.2.clock⟩,
            some app, rfl, rfl, rfl⟩
    · obtain rfl := Except.ok.inj same
      obtain ⟨row, found, agrees⟩ := good slug expires cached ⟨entry, live⟩
      rw [found]
      exact ⟨good, ⟨rfl, rfl, rfl⟩, some cached, rfl, agrees.deployment,
        agrees.expiry _ le_rfl live⟩

theorem run_loadApp_uncached (slug : PyStr) (world : World) :
    (loadApp settings.uncached slug).run (Statement.handle settings.uncached) world =
      (.ok (world.db.servedApp slug), world) := by
  have missed : cacheGetApp settings.uncached slug = (pure none : Transaction (Option ServedApp)) :=
    if_pos (le_of_eq (Int.zero_mul _))
  have dropped (app : ServedApp) : cacheSetApp settings.uncached slug app = pure () :=
    if_pos (le_of_eq (Int.zero_mul _))
  have selected : (select fun db => db.servedApp slug).run (Statement.handle settings.uncached)
      world = (.ok (world.db.servedApp slug), world) := rfl
  rw [loadApp, missed, Prog.pure_eq_ret, Prog.ret_bind]
  simp only
  rw [Prog.run_bind_ok _ selected]
  rcases world.db.servedApp slug with _ | app
  · rfl
  · simp only [dropped]
    rfl

theorem visit_run (slug pathInfo : PyStr) (faults : List (Option Error)) (world : World) :
    visit settings library slug pathInfo faults world =
      (loadApp settings slug >>= answerApp settings library (lstripSlash pathInfo)).run
        (Statement.handle settings) (world.withFaults faults) := by
  rw [visit, Service.run_autocommit]
  have same : hostedAppServe settings library slug pathInfo =
      (loadApp settings slug >>= answerApp settings library (lstripSlash pathInfo)) := by
    refine congrArg (loadApp settings slug >>= ·) (funext fun served => ?_)
    cases served with
    | none => rfl
    | some app => rfl
  rw [same]

theorem visit_mirrors (good : first.CacheGood) (mirrors : first.Mirrors second)
    (faults : List (Option Error)) :
    (visit settings library slug pathInfo faults first).1 =
        (visit settings.uncached library slug pathInfo faults second).1 ∧
      (visit settings library slug pathInfo faults first).2.Mirrors
        (visit settings.uncached library slug pathInfo faults second).2 ∧
      (visit settings library slug pathInfo faults first).2.CacheGood := by
  have started : (first.withFaults faults).Mirrors (second.withFaults faults) :=
    ⟨mirrors.db, by rw [World.withFaults, World.withFaults, mirrors.disk], mirrors.clock⟩
  obtain ⟨kept, alike, found, loaded, same⟩ :=
    ensures_loadApp_good (show (first.withFaults faults).CacheGood from good)
  have plain : (loadApp settings.uncached slug).run (Statement.handle settings.uncached)
      (second.withFaults faults) = _ := run_loadApp_uncached slug (second.withFaults faults)
  rcases ran : (loadApp settings slug).run (Statement.handle settings) (first.withFaults faults) with
    ⟨result, middle⟩
  rw [ran] at kept alike loaded
  obtain rfl := loaded
  rw [← started.db] at plain
  have between : middle.Mirrors (second.withFaults faults) :=
    ⟨alike.db.trans started.db, alike.disk.trans started.disk, alike.clock.trans started.clock⟩
  have now : SameAnswer middle.clock found ((first.withFaults faults).db.servedApp slug) := by
    rw [alike.clock]
    exact same
  rw [visit_run, visit_run, Prog.run_bind_ok _ ran, Prog.run_bind_ok _ plain]
  refine and_assoc.mp ⟨answerApp_mirrors now between, ?_⟩
  rcases found with _ | app
  · exact kept
  · have after : ((serveApp settings library app (lstripSlash pathInfo)).run
        (Statement.handle settings) middle).2 = { middle with disk := _ } :=
      (serveApp_frame app (lstripSlash pathInfo) middle).choose_spec
    rw [answerApp, after]
    exact kept

/-! ### Runs -/

/-- What holds of the two processes throughout a run. -/
structure World.InStep (cached plain : World) : Prop where
  consistent : cached.db.sites.Consistent
  good : cached.CacheGood
  mirrors : cached.Mirrors plain

theorem request_mirrors (mirrors : first.Mirrors second) (request : Request)
    (faults : List (Option Error)) :
    (request.run settings library faults first).2.Mirrors
      (request.run settings.uncached library faults second).2 := by
  have started : (first.withFaults faults).Mirrors (second.withFaults faults) :=
    ⟨mirrors.db, by rw [World.withFaults, World.withFaults, mirrors.disk], mirrors.clock⟩
  rw [Request.run, Request.run, Request.service_uncached]
  exact (service_mirrors request.service_ignoresCache started).2

/-- One occurrence keeps the two processes in step, and a visitor is answered alike. -/
theorem World.InStep.next {cached plain : World} (inStep : cached.InStep plain)
    (occurrence : Occurrence) (keeps : KeepsCached settings cached occurrence) :
    occurrence.answer settings library cached = occurrence.answer settings.uncached library plain ∧
      (occurrence.next settings library cached).InStep
        (occurrence.next settings.uncached library plain) := by
  have consistent : (occurrence.next settings library cached).db.sites.Consistent :=
    occurrence.next_consistent inStep.consistent
  obtain ⟨db, disk, clock⟩ := inStep.mirrors
  cases occurrence with
  | request request faults =>
    exact ⟨rfl, consistent, cacheGood_request inStep.consistent inStep.good request faults keeps,
      request_mirrors inStep.mirrors request faults⟩
  | visit slug pathInfo faults =>
    obtain ⟨answers, worlds, good⟩ : (visit settings library slug pathInfo faults cached).1 =
        (visit settings.uncached library slug pathInfo faults plain).1 ∧ _ :=
      visit_mirrors inStep.good inStep.mirrors faults
    exact ⟨congrArg some answers, consistent, good, worlds⟩
  | passes span =>
    exact ⟨rfl, consistent, cacheGood_passes inStep.good span, db, disk,
      congrArg (· + (span : Int)) clock⟩
  | grants access =>
    refine ⟨rfl, consistent, fun slug expires entry live => ?_, ?_, disk, clock⟩
    · exact inStep.good slug expires entry live
    · exact congrArg (fun db : Db => { db with access }) db

theorem World.InStep.visitAnswers {cached plain : World} (inStep : cached.InStep plain)
    {occurrences : List Occurrence}
    (meets : RunMeets settings library (KeepsCached settings) cached occurrences) :
    visitAnswers settings library cached occurrences =
      visitAnswers settings.uncached library plain occurrences := by
  induction occurrences generalizing cached plain with
  | nil => rfl
  | cons occurrence later ih =>
    obtain ⟨answers, next⟩ : occurrence.answer settings library cached =
        occurrence.answer settings.uncached library plain ∧ _ := inStep.next occurrence meets.1
    rw [HostingService.visitAnswers, HostingService.visitAnswers, answers, ih next meets.2]

end

/-- From any reachable database on, a worker with a serve cache answers every visitor as one
without, if no deletion and no renewal meets an entry that it makes wrong. -/
theorem cache_transparent (settings : Settings) (library : Library) (world : World)
    (reachable : world.Reachable settings library) (occurrences : List Occurrence)
    (meets : RunMeets settings library (KeepsCached settings) world.freshProcess occurrences) :
    visitAnswers settings library world.freshProcess occurrences =
      visitAnswers settings.uncached library world.freshProcess occurrences := by
  have started : (World.freshProcess world).InStep world.freshProcess := by
    refine ⟨reachable.consistent, fun slug expires cached live => ?_, rfl, rfl, rfl⟩
    have missing : (World.freshProcess world).cache.lookup slug = none := rfl
    rw [World.LiveEntry, missing] at live
    exact absurd live.1 (by simp)
  exact started.visitAnswers meets

/-! ### A site that is deployed again, and one that is deleted -/

def demoVisit : Occurrence := .visit (letterDraw 3).candidate (lit "/") []

def demoWorker : World := runFrom defaultSettings demoLibrary emptyWorld firstSite

/-- Between two visits the site gets a second deployment. -/
def redeployed : List Occurrence :=
  [demoVisit] ++ uploadBuild ⟨1⟩ ⟨3⟩ ++ [finalizeBuild ⟨3⟩, demoVisit]

theorem cache_transparent_redeployed :
    visitAnswers defaultSettings demoLibrary demoWorker.freshProcess redeployed =
      visitAnswers defaultSettings.uncached demoLibrary demoWorker.freshProcess redeployed :=
  cache_transparent defaultSettings demoLibrary demoWorker (reachable_from_empty ..) redeployed
    ⟨trivial, trivial, trivial, trivial, trivial, trivial⟩

/-- Between two visits the app is deleted. -/
def deletedBetween : List Occurrence := [demoVisit, (Request.delete ⟨1⟩ none []).served, demoVisit]

/-- The second visitor is told that the site is unavailable, and not that there is none. -/
theorem cache_not_transparent :
    ¬∀ (settings : Settings) (library : Library) (world : World),
      world.Reachable settings library → 0 < settings.hostingServeCacheTtlSeconds →
        ∀ occurrences, visitAnswers settings library world.freshProcess occurrences =
          visitAnswers settings.uncached library world.freshProcess occurrences := by
  intro transparent
  have same := congrArg List.getLast? (transparent defaultSettings demoLibrary demoWorker
    (reachable_from_empty ..) (by decide) deletedBetween)
  have stale : (visitAnswers defaultSettings demoLibrary demoWorker.freshProcess
      deletedBetween).getLast? = some (.ok (.siteUnavailable .unavailable)) := by decide +kernel
  have fresh : (visitAnswers defaultSettings.uncached demoLibrary demoWorker.freshProcess
      deletedBetween).getLast? = some (.ok (.siteUnavailable .notFound)) := by decide +kernel
  rw [stale, fresh] at same
  contradiction

end HostingService
