import HostingService.Api.Reach
import HostingService.Hosting.Progress

/-! Who changes what a preview serves: its creator and the deploy tokens, as long as no
other member of the company finalizes or rolls back one of its deployments. -/

namespace HostingService

open Program Text Storage

/-- The deployment that a finalize or a rollback makes the current one, if it lets them. -/
def ApiRequest.raises (world : ApiWorld) (request : ApiRequest) : Option Deployment :=
  match request.endpoint, request.method with
  | .finalize _ id, .post => (world.hosting.db.deployment id).filter (·.isReady)
  | .rollback _ id, .post => (world.hosting.db.deployment id).filter (·.isRestorable)
  | _, _ => none

/-- The creator of the app, or a deploy token, of its company. -/
def HostingPrincipal.owns (principal : HostingPrincipal) (app : App) : Bool :=
  principal.companyId = some app.companyId &&
    (principal.deployTokenId.isSome || app.createdById = some principal.userId)

/-- A member of the company raises a deployment of a preview that somebody else created. -/
def ApiRequest.trespasses (library : ApiLibrary) (world : ApiWorld) (request : ApiRequest) : Bool :=
  (request.raises world).any fun row => (world.hosting.db.app row.app).any fun app =>
    app.createdById.isSome && (request.principal library world).any fun principal =>
      principal.companyId = some app.companyId && !principal.owns app

def Incident.trespasses (library : ApiLibrary) (world : ApiWorld) : Incident → Bool
  | .request asked => asked.trespasses library world
  | _ => false

/-- Only an owner gives a preview another current deployment, and no request, unless it
deletes an app, touches the files of a current deployment. -/
structure Incident.Respects (settings : ApiSettings) (library : ApiLibrary) (before : ApiWorld)
    (incident : Incident) : Prop where
  current : ∀ app ∈ before.hosting.db.apps, app.createdById ≠ none →
    ∀ later ∈ (incident.next settings library before).hosting.db.apps, later.id = app.id →
      later.currentDeployment = app.currentDeployment ∨
        ∃ asked principal, incident = .request asked ∧
          asked.principal library before = some principal ∧ principal.owns app = true
  files : ∀ asked, incident = .request asked → asked.method ≠ .delete →
    ∀ app ∈ before.hosting.db.apps, ∀ row ∈ before.hosting.db.deployments,
      app.currentDeployment = some row.id → ∀ key, InFolder (folderKey settings.hosting row) key →
        (incident.next settings library before).hosting.disk.objects.lookup key =
          before.hosting.disk.objects.lookup key

section
variable {settings : ApiSettings} {library : ApiLibrary} {world : ApiWorld}
  {principal : HostingPrincipal} {request : ApiRequest}

/-- What a request raises is a deployment that its view found for the principal. -/
theorem Asks.raises {asked : Request} {row : Deployment} {now finalizedAt : Time}
    {renewed : Option Time}
    (asks : Asks principal world.hosting.db request.endpoint request.method asked)
    (formed : world.hosting.db.sites.WellFormed)
    (admitted : asked.Admits settings.hosting library.hosting now world.hosting.db.sites
      (.makeCurrent row finalizedAt renewed)) :
    request.raises world = some row ∧ ∃ app, principal.Redeploys world.hosting.db app row := by
  rw [ApiRequest.raises]
  generalize request.endpoint = endpoint at asks
  generalize request.method = method at asks
  cases asks with
  | @finalize ref app found userId actorEmail redeploys =>
    generalize named : found.id = id at admitted
    cases admitted with
    | activate stored ready full =>
      obtain rfl := formed.deployment_eq redeploys.stored stored named
      refine ⟨?_, app, redeploys⟩
      show (world.hosting.db.deployment found.id).filter (·.isReady) = some found
      rw [Db.deployment_of_mem formed stored, Option.filter_some,
        if_pos (by simp [Deployment.isReady, ready, full])]
  | @rollback ref app found redeploys =>
    generalize named : found.id = id at admitted
    cases admitted with
    | rollback stored served full =>
      obtain rfl := formed.deployment_eq redeploys.stored stored named
      refine ⟨?_, app, redeploys⟩
      show (world.hosting.db.deployment found.id).filter (·.isRestorable) = some found
      rw [Db.deployment_of_mem formed stored, Option.filter_some,
        if_pos (by simp [Deployment.isRestorable, served, full])]
  | createApp | prepare => cases admitted
  | @createDeployment _ target | @renew _ target | @delete _ target =>
    generalize target.id = id at admitted
    cases admitted
  | @upload _ _ found =>
    generalize found.id = id at admitted
    cases admitted

/-- A deployment that a lawful request raises is one of its own previews. -/
theorem Asks.owns {asked : Request} {row : Deployment} {now finalizedAt : Time}
    {renewed : Option Time} {app : App}
    (asks : Asks principal world.hosting.db request.endpoint request.method asked)
    (formed : world.hosting.db.sites.WellFormed)
    (admitted : asked.Admits settings.hosting library.hosting now world.hosting.db.sites
      (.makeCurrent row finalizedAt renewed))
    (named : request.principal library world = some principal)
    (lawful : request.trespasses library world = false) (present : app ∈ world.hosting.db.apps)
    (preview : app.createdById ≠ none) (owner : row.app = app.id) : principal.owns app = true := by
  obtain ⟨raised, target, redeploys⟩ := asks.raises formed admitted
  obtain rfl := formed.app_eq redeploys.present present (redeploys.owner.symm.trans owner)
  by_contra foreign
  have trespasses : request.trespasses library world = true := by
    rw [ApiRequest.trespasses, raised, Option.any_some, redeploys.owner,
      Db.app_of_mem formed redeploys.present, Option.any_some, named, Option.any_some]
    simp only [Option.isSome_iff_ne_none.mpr preview, redeploys.company, decide_true,
      Bool.true_and, Bool.not_eq_true', Bool.eq_false_iff.mpr foreign]
  rw [trespasses] at lawful
  contradiction

theorem Settled.active {rows : List Deployment} {app : App} {row : Deployment} (settled : Settled rows app)
    (current : app.currentDeployment = some row.id) :
    ∃ stored ∈ rows, stored.id = row.id ∧ stored.app = app.id ∧ stored.status = .active := by
  rcases settled with ⟨empty, _⟩ | ⟨active, member, named, owner, running, _⟩
  · rw [empty] at current
    contradiction
  · exact ⟨active, member, Option.some.inj (named.symm.trans current), owner, running⟩

/-- The files of a current deployment are in no footprint but that of the deletion of its app. -/
theorem Asks.spares {asked : Request} {app : App} {row : Deployment} {key : PyStr}
    (asks : Asks principal world.hosting.db request.endpoint request.method asked)
    (keeps : request.method ≠ .delete) (consistent : world.hosting.db.sites.Consistent)
    (present : app ∈ world.hosting.db.apps) (stored : row ∈ world.hosting.db.deployments)
    (current : app.currentDeployment = some row.id) (inside : InFolder (folderKey settings.hosting row) key) :
    ¬ asked.Footprint settings.hosting world.hosting.db.sites key := by
  have running : row.status = .active := by
    obtain ⟨active, listed, same, _, running⟩ := (consistent.settled app present).active current
    rwa [consistent.formed.deployment_eq listed stored same] at running
  have spared {statuses : List DeploymentStatus} {id : Uuid} (idle : .active ∉ statuses) :
      ¬ ∃ other ∈ world.hosting.db.sites.deployments, other.id = id ∧ other.status ∈ statuses ∧
        InFolder (folderKey settings.hosting other) key := by
    rintro ⟨other, listed, _, status, within⟩
    obtain rfl := consistent.formed.deployment_eq listed stored (folderKey_disjoint within inside).2
    rw [running] at status
    exact idle status
  generalize request.endpoint = endpoint at asks
  generalize request.method = method at asks keeps
  cases asks with
  | createApp | prepare | createDeployment | rollback | renew => exact id
  | upload | finalize => exact spared (by decide)
  | delete => contradiction

theorem Deed.spares {after : ApiWorld} (deed : Deed settings library principal request world after)
    (keeps : request.method ≠ .delete) (consistent : world.hosting.db.sites.Consistent) {app : App}
    {row : Deployment} {key : PyStr} (present : app ∈ world.hosting.db.apps)
    (stored : row ∈ world.hosting.db.deployments) (current : app.currentDeployment = some row.id)
    (inside : InFolder (folderKey settings.hosting row) key) :
    after.hosting.disk.objects.lookup key = world.hosting.disk.objects.lookup key := by
  cases deed with
  | serves asks =>
    exact ApiWorld.serve_confined settings library _ _ _ world key
      (asks.spares keeps consistent present stored current inside)
  | requestsAccess => rw [(world.setsAccess_requestAccess _ _).kept.2.2.2]
  | reviews => rw [(world.setsAccess_updateAccess _ _ _ _).kept.2.2.2]
  | _ => rfl

theorem ApiRequest.run_spares (keeps : request.method ≠ .delete) (sound : world.Sound) {app : App}
    {row : Deployment} {key : PyStr} (present : app ∈ world.hosting.db.apps)
    (stored : row ∈ world.hosting.db.deployments) (current : app.currentDeployment = some row.id)
    (inside : InFolder (folderKey settings.hosting row) key) :
    (request.run settings library world).2.hosting.disk.objects.lookup key =
      world.hosting.disk.objects.lookup key := by
  have effect := request.run_effect settings library world
  generalize (request.run settings library world).2 = after at effect
  cases effect with
  | nothing | touches | flags => rfl
  | acts _ _ deed => exact deed.spares keeps sound.sites present stored current inside

theorem Incident.next_respects {incident : Incident} (sound : world.Sound)
    (lawful : incident.trespasses library world = false) :
    incident.Respects settings library world where
  current := by
    intro app present preview later member same
    have formed := sound.sites.formed
    rcases incident.next_sites sound with stays | ⟨target, deleted⟩ | ⟨asked, principal, given, act,
      rfl, named, asks, admitted, moved⟩
    · rw [formed.app_eq (Sites.mem_apps stays member) present same]
      exact .inl rfl
    · rcases Act.app_current sound.sites (Sites.mem_apps deleted member) with
        inserts | ⟨old, stored, id, current | ⟨_, _, _, made, _⟩⟩
      · exact inserts.elim
      · obtain rfl := formed.app_eq stored present (id.trans same)
        exact .inl current.symm
      · contradiction
    · rcases Act.app_current sound.sites (Sites.mem_apps moved member) with
        inserts | ⟨old, stored, id, current | ⟨row, finalizedAt, renewed, rfl, owner⟩⟩
      · exact absurd same.symm ((admitted.inserts inserts).1.fresh app present).1
      · obtain rfl := formed.app_eq stored present (id.trans same)
        exact .inl current.symm
      · obtain rfl := formed.app_eq stored present (id.trans same)
        exact .inr ⟨asked, principal, rfl, named,
          asks.owns formed admitted named lawful stored preview owner⟩
  files := by
    rintro asked rfl keeps app present row stored current key inside
    exact asked.run_spares keeps sound present stored current inside

/-- As long as nobody raises a deployment of the preview of somebody else, what a preview
serves is changed by its creator and by deploy tokens alone. -/
theorem previews_respect_owner (settings : ApiSettings) (library : ApiLibrary) (world : ApiWorld)
    (incidents : List Incident) (reachable : world.Reachable settings library)
    (lawful : Meets (Incident.next settings library) (fun world incident =>
      incident.trespasses library world = false) world incidents) :
    Meets (Incident.next settings library) (Incident.Respects settings library) world incidents :=
  lawful.along (fun _ incident sound lawful =>
    ⟨incident.next_sound sound, Incident.next_respects sound lawful⟩) reachable.sound

end

/-- An owner prepares a preview and uploads its artifact. -/
def ownUpload : List Incident :=
  [.request (call "h.owner.s" .post .preview),
    .request (call "h.owner.s" .put (.upload (Uuid.text ⟨1⟩) ⟨2⟩))]

/-- A colleague uploads to the preview too, its owner finalizes it, and the colleague's next
upload comes too late. -/
def sharedPreview : List Incident :=
  ownUpload ++
    [.request (call "h.colleague.s" .put (.upload (Uuid.text ⟨1⟩) ⟨2⟩)),
      .request (call "h.owner.s" .post (.finalize (Uuid.text ⟨1⟩) ⟨2⟩)),
      .request (call "h.colleague.s" .put (.upload (Uuid.text ⟨1⟩) ⟨2⟩))]

theorem previews_respect_owner_shared :
    Meets (Incident.next apiSettings demoApi) (Incident.Respects apiSettings demoApi) emptyApi
      sharedPreview ∧
    ((emptyApi.runs apiSettings demoApi sharedPreview).hosting.db.apps.map fun app =>
      (app.createdById, app.currentDeployment)) = [(some 7, some ⟨2⟩)] :=
  ⟨previews_respect_owner apiSettings demoApi emptyApi sharedPreview emptyApi_reachable
    (by decide +kernel), by decide +kernel⟩

def demoColleague : HostingPrincipal where
  userId := 8
  companyId := some 3
  email := []
  isStaff := false
  isCompanyOwner := false
  accessGlobalMetrics := false
  deployTokenId := none
  patRo := false

/-- Another user of the company finalizes the preview. -/
theorem colleague_finalizes_preview :
    ¬ ∀ (world : ApiWorld) (request : ApiRequest) (principal : HostingPrincipal),
      world.Reachable apiSettings demoApi → request.principal demoApi world = some principal →
        ∀ app ∈ world.hosting.db.apps, app.createdById ≠ none →
          ∀ later ∈ (request.run apiSettings demoApi world).2.hosting.db.apps, later.id = app.id →
            later.currentDeployment ≠ app.currentDeployment → principal.owns app = true := by
  intro owned
  have before : ((emptyApi.runs apiSettings demoApi ownUpload).hosting.db.apps.any fun app =>
      app.id = ⟨1⟩ && app.createdById = some 7 && app.currentDeployment = none) = true := by
    decide +kernel
  have after : (((call "h.colleague.s" .post (.finalize (Uuid.text ⟨1⟩) ⟨2⟩)).run apiSettings demoApi
      (emptyApi.runs apiSettings demoApi ownUpload)).2.hosting.db.apps.any fun app =>
        app.id = ⟨1⟩ && app.currentDeployment = some ⟨2⟩) = true := by decide +kernel
  obtain ⟨app, present, facts⟩ := List.any_eq_true.mp before
  obtain ⟨later, member, changed⟩ := List.any_eq_true.mp after
  simp only [Bool.and_eq_true, decide_eq_true_eq] at facts changed
  obtain ⟨⟨id, creator⟩, idle⟩ := facts
  have owns := owned _ _ demoColleague (reachable_of_empty ownUpload) (by decide +kernel) app present
    (by simp [creator]) later member (changed.1.trans id.symm) (by simp [changed.2, idle])
  simp [HostingPrincipal.owns, demoColleague, creator] at owns

end HostingService
