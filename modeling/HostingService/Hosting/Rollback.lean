import HostingService.Hosting.Current
import HostingService.Hosting.Visits

/-! What a rollback brings back. The files of a deployment that was active stay as they
are until its app is deleted, so they are served again after a rollback. -/

namespace HostingService

open Program Text Storage Transaction

def Request.Deletes (app : Uuid) : Request → Prop
  | .delete id _ _ => id = app
  | _ => False

/-- Anything but a request to delete the app. -/
def Occurrence.Spares (app : Uuid) : Occurrence → Prop
  | .request asked _ => ¬ asked.Deletes app
  | _ => True

/-- The deployment was active once and was not reopened since. -/
def Sites.Served (row : Deployment) (sites : Sites) : Prop :=
  ∃ stored ∈ sites.deployments, stored.id = row.id ∧ stored.app = row.app ∧
    stored.status ∈ [.active, .superseded]

section
variable {settings : Settings} {library : Library} {sites : Sites} {row : Deployment}

/-! ### A served deployment stays served -/

theorem Sites.Served.insertDeployment (served : sites.Served row) (other : Deployment) :
    (sites.insertDeployment other).Served row := by
  obtain ⟨stored, member, facts⟩ := served
  exact ⟨stored, List.mem_append_left _ member, facts⟩

theorem currentRow_served {app id : Uuid} {finalizedAt : Time} {stored : Deployment}
    (served : stored.status ∈ [.active, .superseded]) :
    (Sites.currentRow app id finalizedAt stored).status ∈ [.active, .superseded] := by
  rw [Sites.currentRow]
  split
  · simp
  · rw [Deployment.supersededBy]
    split
    · simp
    · exact served

/-- No upload and no failed extraction reaches a deployment that was active. -/
theorem Sites.Served.reopen (formed : sites.WellFormed) {other : Deployment}
    {columns : DeploymentColumns} (found : other ∈ sites.deployments)
    (opened : other.status ∉ [.active, .superseded]) (served : sites.Served row) :
    ((Act.reopen other columns).apply sites).Served row := by
  obtain ⟨stored, member, id, owner, status⟩ := served
  have apart : stored.id ≠ other.id := by
    intro same
    obtain rfl := formed.deployment_eq member found same
    exact opened status
  exact ⟨stored, List.mem_map.mpr ⟨stored, member, if_neg apart⟩, id, owner, status⟩

theorem Request.Admits.served {request : Request} {act : Act} {now : Time}
    (formed : sites.WellFormed) (admitted : request.Admits settings library now sites act)
    (spares : ¬ request.Deletes row.app) (served : sites.Served row) :
    (act.apply sites).Served row := by
  have kept {other : Deployment} {finalizedAt : Time} {renewed : Option Time} :
      ((Act.makeCurrent other finalizedAt renewed).apply sites).Served row := by
    obtain ⟨stored, member, id, owner, status⟩ := served
    have keeps := keepsDeployment_currentRow other.app other.id finalizedAt
    exact ⟨_, List.mem_map_of_mem member, (keeps.id stored).trans id,
      (keeps.owner stored).trans owner, currentRow_served status⟩
  cases admitted with
  | createApp => exact served
  | createPreview => exact Sites.Served.insertDeployment served _
  | redeploy => exact served.insertDeployment _
  | createDeployment => exact served.insertDeployment _
  | @upload other fileobj contentLength size found opened =>
    refine served.reopen formed found fun active => ?_
    generalize other.status = status at opened active
    cases status <;> simp at opened active
  | activate => exact kept
  | @markFailed other userId actorEmail found ready =>
    refine served.reopen formed found fun active => ?_
    generalize other.status = status at ready active
    cases status <;> simp at ready active
  | rollback => exact kept
  | renew => exact served
  | delete present =>
    obtain ⟨stored, member, id, owner, status⟩ := served
    refine ⟨stored, List.mem_filter.mpr ⟨member, ?_⟩, id, owner, status⟩
    rw [owner]
    simpa using fun same : row.app = _ => spares same.symm

/-- The folder of a served deployment is in the footprint of no request that spares its app. -/
theorem Request.footprint_apart {request : Request} (formed : sites.WellFormed)
    (served : sites.Served row) (spares : ¬ request.Deletes row.app) {key : PyStr}
    (inside : InFolder (folderKey settings row) key) : ¬ request.Footprint settings sites key := by
  obtain ⟨stored, member, id, owner, status⟩ := served
  have only {other : Deployment} (found : other ∈ sites.deployments)
      (within : InFolder (folderKey settings other) key) : other = stored := by
    have same := (folderKey_disjoint within inside).2
    exact formed.deployment_eq found member (same.trans id.symm)
  intro touched
  cases request with
  | upload =>
    obtain ⟨other, found, _, opened, within⟩ := touched
    rw [only found within] at opened
    generalize stored.status = current at opened status
    cases current <;> simp at opened status
  | finalize =>
    obtain ⟨other, found, _, ready, within⟩ := touched
    rw [only found within] at ready
    generalize stored.status = current at ready status
    cases current <;> simp at ready status
  | delete =>
    obtain ⟨other, found, owned, within⟩ := touched
    have same := (folderKey_disjoint within inside).1
    exact spares (owned.symm.trans same)
  | _ => exact touched

/-- The deployment stays served, and its folder as it was in `objects`. -/
structure World.Keeps (settings : Settings) (row : Deployment) (objects : Objects)
    (world : World) : Prop where
  formed : world.db.sites.WellFormed
  served : world.db.sites.Served row
  files : SameWithin (InFolder (folderKey settings row)) objects world.disk.objects

variable {world : World} {objects : Objects}

theorem Occurrence.next_keeps (occurrence : Occurrence) (spares : occurrence.Spares row.app)
    (keeps : world.Keeps settings row objects) :
    (occurrence.next settings library world).Keeps settings row objects := by
  refine ⟨occurrence.next_wellFormed settings library keeps.formed, ?_, ?_⟩
  · rcases occurrence.next_sites settings library world with
      same | ⟨request, faults, act, rfl, admitted, applied, _⟩
    · rw [same]
      exact keeps.served
    · rw [applied]
      exact admitted.served keeps.formed spares keeps.served
  · cases occurrence with
    | request request faults =>
      have changed : SameOutside (request.Footprint settings world.db.sites) world.disk.objects
        (request.run settings library faults world).2.disk.objects :=
        request.confined (world.withFaults faults)
      exact keeps.files.trans (changed.within fun key inside =>
        Request.footprint_apart keeps.formed keeps.served spares inside)
    | visit slug pathInfo faults =>
      exact keeps.files.trans ((visit_reads slug pathInfo faults world).2.within fun _ _ => id)
    | passes span => exact keeps.files
    | grants access => exact keeps.files

theorem run_keeps (occurrences : List Occurrence)
    (spares : ∀ occurrence ∈ occurrences, occurrence.Spares row.app)
    (keeps : world.Keeps settings row objects) :
    (runFrom settings library world occurrences).Keeps settings row objects := by
  induction occurrences generalizing world with
  | nil => exact keeps
  | cons occurrence later ih =>
    refine ih (fun other member => spares other (List.mem_cons_of_mem _ member)) ?_
    exact occurrence.next_keeps (spares occurrence List.mem_cons_self) keeps

/-! ### The site after a rollback -/

/-- A visit, or time that passes. -/
def Occurrence.Quiet : Occurrence → Prop
  | .visit _ _ _ => True
  | .passes _ => True
  | _ => False

/-- The site of the app is the one that the deployment had in `objects`. -/
structure World.Shows (settings : Settings) (row : Deployment) (objects : Objects) (app : App)
    (world : World) : Prop where
  current : ∃ stored, world.db.servedApp app.slug = some ⟨app, some stored⟩ ∧
    stored.status = .active ∧ stored.storagePrefix = row.storagePrefix
  files : SameWithin (InFolder (folderKey settings row)) objects world.disk.objects
  cached : world.CacheSound app.slug

variable {app : App}

theorem Occurrence.next_shows (occurrence : Occurrence) (quiet : occurrence.Quiet)
    (shows : world.Shows settings row objects app) :
    (occurrence.next settings library world).Shows settings row objects app := by
  cases occurrence with
  | visit slug pathInfo faults =>
    obtain ⟨rows, files⟩ := visit_reads slug pathInfo faults world
    refine ⟨?_, shows.files.trans (files.within fun _ _ => id),
      visit_cacheSound slug pathInfo faults shows.cached⟩
    rw [Occurrence.next, rows]
    exact shows.current
  | passes span => exact ⟨shows.current, shows.files, shows.cached⟩
  | request asked faults => exact quiet.elim
  | grants access => exact quiet.elim

theorem run_shows (occurrences : List Occurrence)
    (quiet : ∀ occurrence ∈ occurrences, occurrence.Quiet)
    (shows : world.Shows settings row objects app) :
    (runFrom settings library world occurrences).Shows settings row objects app := by
  induction occurrences generalizing world with
  | nil => exact shows
  | cons occurrence later ih =>
    refine ih (fun other member => quiet other (List.mem_cons_of_mem _ member)) ?_
    exact occurrence.next_shows (quiet occurrence List.mem_cons_self) shows

theorem World.Shows.answer (shows : world.Shows settings row objects app) (pathInfo : PyStr)
    (faults : List (Option Error)) :
    (visit settings library app.slug pathInfo faults world).1 =
      if app.unexpired world.clock then siteAnswer settings library row pathInfo ⟨objects, faults⟩
      else .ok (.siteUnavailable .expired) := by
  obtain ⟨stored, found, active, place⟩ := shows.current
  rw [visit_answer shows.cached found (resolveDeployment_active active), siteAnswer_row place,
    siteAnswer_files shows.files]

theorem ensures_rollbackRequest (id : Uuid) (world : World) :
    ((Request.rollback id).service settings library).Ensures (Action.handle settings)
      (Prog.Returned fun _ after => ∃ row ∈ world.db.deployments, row.id = id ∧
        ∃ app ∈ world.db.apps, app.id = row.app ∧ after.cache.lookup app.slug = none ∧
          ∃ finalizedAt, after.db.sites =
            (Act.makeCurrent row finalizedAt none).apply world.db.sites) world := by
  refine Service.ensures_loadRow trivial fun row found => ?_
  obtain ⟨present, same⟩ := Db.mem_of_deployment found
  refine (Service.ensures_atomic_returned (ensures_rollback row)).bind (fun _ _ _ => trivial) fun _ after ended => ?_
  obtain ⟨app, stored, owner, _, _, uncached, finalizedAt, applied⟩ := ended
  exact ⟨row, present, same, app, stored, owner, uncached, finalizedAt, applied⟩

/-- Becoming current shows the files that are stored then. -/
theorem shows_of_makeCurrent {before after : World} {old : App} {finalizedAt : Time}
    {renewed : Option Time} (formed : before.db.sites.WellFormed)
    (formedAfter : after.db.sites.WellFormed)
    (applied : after.db.sites = (Act.makeCurrent row finalizedAt renewed).apply before.db.sites)
    (found : row ∈ before.db.deployments) (oldPresent : old ∈ before.db.apps)
    (oldOwner : old.id = row.app) (uncached : after.cache.lookup old.slug = none)
    (present : app ∈ after.db.apps) (owner : app.id = row.app) :
    after.Shows settings row after.disk.objects app := by
  have slugs : old.slug = app.slug := by
    have apps : after.db.apps = _ := congrArg Sites.apps applied
    rw [apps] at present
    obtain ⟨kept, stays, rfl⟩ := List.mem_map.mp present
    have ids : kept.id = row.app := by
      rw [← owner]
      split <;> rfl
    rw [formed.app_eq oldPresent stays (oldOwner.trans ids.symm)]
    split <;> rfl
  refine ⟨⟨_, servedApp_of_makeCurrent formedAfter applied found present owner, rfl, rfl⟩,
    SameWithin.refl _ _, ?_⟩
  exact World.cacheSound_of_lookup_none (slugs ▸ uncached)

theorem rollback_shows {faults : List (Option Error)} {after : World}
    (keeps : world.Keeps settings row objects)
    (ran : (Request.rollback row.id).run settings library faults world = (.ok (), after))
    (present : app ∈ after.db.apps) (owner : app.id = row.app) :
    after.Shows settings row objects app := by
  have later : after = Occurrence.next settings library world (.request (.rollback row.id) faults) :=
    (congrArg Prod.snd ran).symm
  have kept : after.Keeps settings row objects := later ▸ Occurrence.next_keeps _ id keeps
  obtain ⟨stored, found, same, old, oldPresent, oldOwner, uncached, finalizedAt, applied⟩ :=
    (ensures_rollbackRequest row.id (world.withFaults faults)).of_run ran
  obtain ⟨served, member, servedId, servedApp, _⟩ := keeps.served
  obtain rfl := keeps.formed.deployment_eq found member (same.trans servedId.symm)
  have shows : after.Shows settings stored after.disk.objects app :=
    shows_of_makeCurrent keeps.formed kept.formed applied found oldPresent oldOwner uncached present
      (owner.trans servedApp.symm)
  obtain ⟨⟨current, loaded, active, place⟩, _, sound⟩ := shows
  refine ⟨⟨current, loaded, active, place.trans ?_⟩, kept.files, sound⟩
  rw [stored.storagePrefix_eq, row.storagePrefix_eq, servedId, servedApp]

end

/-- From a state in which a deployment is active on, its extracted files stay as they are
until a request to delete its app, whatever else is asked and whatever fails. After it is
rolled back to, every visit is answered from them, unless the preview has expired. -/
theorem rollback_restores (settings : Settings) (library : Library) (world : World)
    (reachable : world.Reachable settings library) (row : Deployment)
    (member : row ∈ world.db.deployments) (active : row.status = .active)
    (later : List Occurrence) (spares : ∀ occurrence ∈ later, occurrence.Spares row.app) :
    SameWithin (InFolder (siteRoot settings row)) world.disk.objects
        (runFrom settings library world later).disk.objects ∧
      ∀ faults after,
        (Request.rollback row.id).run settings library faults (runFrom settings library world later) =
          (.ok (), after) →
        ∀ visits, (∀ occurrence ∈ visits, occurrence.Quiet) →
        ∀ app ∈ after.db.apps, app.id = row.app → ∀ pathInfo faults,
          (visit settings library app.slug pathInfo faults
              (runFrom settings library after visits)).1 =
            if app.unexpired (runFrom settings library after visits).clock then
              siteAnswer settings library row pathInfo ⟨world.disk.objects, faults⟩
            else .ok (.siteUnavailable .expired) := by
  have start : world.Keeps settings row world.disk.objects :=
    ⟨reachable.wellFormed, ⟨row, member, rfl, rfl, by simp [active]⟩, SameWithin.refl _ _⟩
  have keeps : (runFrom settings library world later).Keeps settings row world.disk.objects :=
    run_keeps later spares start
  constructor
  · intro key inside
    have folder : InFolder (folderKey settings row) (siteRoot settings row) :=
      extractedRoot_eq_siteRoot settings row ▸ extractedRoot_inFolder settings row
    obtain ⟨rest, rfl⟩ := inside
    exact keeps.files _ ((folder.deeper _).deeper rest)
  · intro faults after ran visits quiet app present owner pathInfo visitFaults
    exact (run_shows visits quiet (rollback_shows keeps ran present owner)).answer pathInfo visitFaults

/-! The first site, after a second build and a rollback to the first one. -/

def firstActive : Deployment :=
  firstDraft.assign ⟨.active, some indexArchive.length, some (some 0)⟩

def secondBuild : List Occurrence := uploadBuild ⟨1⟩ ⟨3⟩ ++ [finalizeBuild ⟨3⟩]

def rolledBack : Except Error Unit × World :=
  (Request.rollback firstActive.id).run defaultSettings demoLibrary []
    (runFrom defaultSettings demoLibrary (runFrom defaultSettings demoLibrary emptyWorld firstSite)
      secondBuild)

theorem secondBuild_spares : ∀ occurrence ∈ secondBuild, occurrence.Spares firstActive.app := by
  simp [secondBuild, uploadBuild, finalizeBuild, Request.served, Occurrence.Spares, Request.Deletes]

theorem rollback_restores_firstSite :
    SameWithin (InFolder (siteRoot defaultSettings firstActive))
        (runFrom defaultSettings demoLibrary emptyWorld firstSite).disk.objects
        (runFrom defaultSettings demoLibrary
          (runFrom defaultSettings demoLibrary emptyWorld firstSite) secondBuild).disk.objects ∧
      ∀ app ∈ rolledBack.2.db.apps, app.id = firstActive.app → ∀ pathInfo faults,
        (visit defaultSettings demoLibrary app.slug pathInfo faults
            (runFrom defaultSettings demoLibrary rolledBack.2 [.passes 1])).1 =
          if app.unexpired (runFrom defaultSettings demoLibrary rolledBack.2 [.passes 1]).clock then
            siteAnswer defaultSettings demoLibrary firstActive pathInfo
              ⟨(runFrom defaultSettings demoLibrary emptyWorld firstSite).disk.objects, faults⟩
          else .ok (.siteUnavailable .expired) := by
  obtain ⟨member, accepted⟩ : firstActive ∈
      (runFrom defaultSettings demoLibrary emptyWorld firstSite).db.deployments ∧
        rolledBack.1 = .ok () := by
    decide +kernel
  have returned : rolledBack = (.ok (), rolledBack.2) := by
    rw [← accepted]
  obtain ⟨files, answers⟩ := rollback_restores defaultSettings demoLibrary _
    (reachable_from_empty ..) firstActive member rfl secondBuild secondBuild_spares
  exact ⟨files, answers [] rolledBack.2 returned [.passes 1] (by simp [Occurrence.Quiet])⟩

def shownPreview : List Occurrence := preparePreview none 0 ⟨1⟩ ⟨2⟩ :: uploadAndFinalize ⟨2⟩

/-- A rollback to an expired preview shows no file of it, and a deletion that fails on the
artifact leaves the app without its files. -/
theorem rollback_of_expired_preview :
    let shown := runFrom defaultSettings demoLibrary emptyWorld shownPreview
    let back := (Request.rollback ⟨2⟩).run defaultSettings demoLibrary []
      (runFrom defaultSettings demoLibrary shown [.passes (8 * 86400 * 1000000)])
    let undeleted := (Request.delete ⟨1⟩ (some 7) []).run defaultSettings demoLibrary
      [none, none, none, some .osError, none, none, some .osError] shown
    firstActive ∈ shown.db.deployments ∧
      (back.1 = .ok () ∧
        (visit defaultSettings demoLibrary (letterDraw 0).candidate [] [] back.2).1 ≠
          siteAnswer defaultSettings demoLibrary firstActive [] ⟨shown.disk.objects, []⟩) ∧
      (undeleted.1 = .error .osError ∧ (undeleted.2.db.app ⟨1⟩).isSome ∧
        ¬ SameWithin (InFolder (siteRoot defaultSettings firstActive)) shown.disk.objects
          undeleted.2.disk.objects) := by
  intro shown back undeleted
  let key := siteRoot defaultSettings firstActive ++ slash :: indexHtml
  obtain ⟨member, shows, refused, present, lost⟩ : firstActive ∈ shown.db.deployments ∧
      (back.1 = .ok () ∧
        (visit defaultSettings demoLibrary (letterDraw 0).candidate [] [] back.2).1 ≠
          siteAnswer defaultSettings demoLibrary firstActive [] ⟨shown.disk.objects, []⟩) ∧
      undeleted.1 = .error .osError ∧ (undeleted.2.db.app ⟨1⟩).isSome ∧
      undeleted.2.disk.objects.lookup key ≠ shown.disk.objects.lookup key := by
    decide +kernel
  refine ⟨member, shows, refused, present, fun same => ?_⟩
  exact lost (same key (InFolder.below _ _))

end HostingService
