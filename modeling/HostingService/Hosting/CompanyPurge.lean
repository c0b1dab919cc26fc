import HostingService.Hosting.Frames
import HostingService.Hosting.Publishing

/-! The clean-up of the apps of a deleted company, and stored files that have no row. -/

namespace HostingService

open Program Text Storage Transaction

section
variable (settings : Settings)

/-- One round of `delete_company_artifacts`. -/
def deleteCompanyApp (app : App) : Transaction Unit := do
  deleteAppArtifacts settings app
  .perform (.uncache app.slug)
  execute (.deleteApp app.id)

def deleteCompanyApps : List App → Nat → Transaction Nat
  | [], deleted => return deleted
  | app :: apps, deleted => do
    deleteCompanyApp settings app
    deleteCompanyApps apps (deleted + 1)

/-- Each app's artifacts and extracted files, then the app; no transaction around them. -/
def deleteCompanyArtifacts (companyId : Nat) : Transaction Nat := do
  let apps ← select fun db => (db.apps.filter (·.companyId = companyId)).insertionSort
    fun first second => first.name ≤ second.name
  deleteCompanyApps settings apps 0

/-- The hook as it is called by a purge, with the outcomes of its storage calls. -/
def purgeFiles (companyId : Nat) (faults : List (Option Error)) (world : World) :
    Except Error Nat × World :=
  (Service.autocommit (deleteCompanyArtifacts settings companyId)).run (Action.handle settings)
    (world.withFaults faults)

end

/-- The row is of a deployment of the company. -/
def Db.OfCompany (db : Db) (companyId : Nat) (row : Deployment) : Prop :=
  row ∈ db.deployments ∧ ∃ app ∈ db.apps, app.id = row.app ∧ app.companyId = companyId

/-- The stored objects of the company's deployments. -/
def CompanyKey (settings : Settings) (db : Db) (companyId : Nat) (key : PyStr) : Prop :=
  ∃ row, db.OfCompany companyId row ∧ InFolder (folderKey settings row) key

/-- Nothing is stored in the folder of the deployment. -/
def Vacated (settings : Settings) (row : Deployment) (objects : Objects) : Prop :=
  ∀ key ∈ objects, ¬ InFolder (folderKey settings row) key

/-- The store answers, and on S3 every folder of the company can be found. -/
structure World.PurgeReaches (settings : Settings) (companyId : Nat) (world : World) : Prop where
  answers : world.disk.faults = []
  addressable : isS3Backend settings = true → ∀ row, world.db.OfCompany companyId row →
    ∀ key ∈ world.disk.objects, AddressableBelow (folderKey settings row) key

/-- What a purge of the company may have done so far, from `start`. -/
structure World.Purging (settings : Settings) (companyId : Nat) (start world : World) : Prop where
  consistent : world.db.sites.Consistent
  others : world.db.sites.others (·.companyId = companyId) =
    start.db.sites.others (·.companyId = companyId)
  tables : world.db.access = start.db.access ∧ world.db.events = start.db.events
  cache : ∀ slug, (∀ app ∈ start.db.apps, app.companyId = companyId → app.slug ≠ slug) →
    world.cache.lookup slug = start.cache.lookup slug
  outside : SameOutside (CompanyKey settings start.db companyId) start.disk.objects world.disk.objects
  shrinks : Shrinks start.disk.objects world.disk.objects
  apps : ∀ app ∈ world.db.apps, app ∈ start.db.apps
  rows : ∀ row ∈ world.db.deployments, row ∈ start.db.deployments
  answers : start.PurgeReaches settings companyId → world.disk.faults = []
  /-- No row of the company goes before its files. -/
  vacated : start.PurgeReaches settings companyId → ∀ row, start.db.OfCompany companyId row →
    row ∈ world.db.deployments ∨ Vacated settings row world.disk.objects

section
variable {settings : Settings} {companyId : Nat} {start world : World} {app : App}

theorem Vacated.shrinks {row : Deployment} {first second : Objects}
    (vacated : Vacated settings row first) (shrinks : Shrinks first second) :
    Vacated settings row second := fun key stored => vacated key (shrinks.mem stored)

/-! ### The folders of an app -/

theorem ensures_folders (rows : List Deployment)
    (reaches : ∀ row ∈ rows, CleanUpReaches settings row world.disk) :
    (Prog.forEach (fun row => storage (deleteDeploymentArtifacts settings row)) rows).Ensures
      (Statement.handle settings) (Prog.Returned fun _ after =>
        (∀ row ∈ rows, Vacated settings row after.disk.objects) ∧
          (∀ key ∈ after.disk.objects, key ∈ world.disk.objects) ∧
          (world.disk.faults = [] → after.disk.faults = [])) world := by
  induction rows generalizing world with
  | nil => exact ⟨fun row none => absurd none List.not_mem_nil, fun _ stored => stored, id⟩
  | cons row rows ih =>
    have first : (storage (deleteDeploymentArtifacts settings row)).Ensures (Statement.handle settings)
        (Prog.Returned fun _ after => FolderEmptied settings row world.disk after.disk) world := by
      refine ensures_storage_last.mpr ((ensures_deleteDeploymentArtifacts
        (reaches row List.mem_cons_self)).mono fun result after ended => ?_)
      cases result with
      | error error => trivial
      | ok value => exact ended
    refine first.bind (fun _ _ _ => trivial) fun _ middle emptied => ?_
    have later : ∀ other ∈ rows, CleanUpReaches settings other middle.disk := by
      refine fun other member => ⟨emptied.answers, fun s3 key stored => ?_⟩
      exact (reaches other (List.mem_cons_of_mem _ member)).addressable s3 key
        (emptied.empty key stored).1
    refine (ih later).mono fun result after ended => ?_
    cases result with
    | error error => trivial
    | ok value =>
      obtain ⟨vacated, fewer, answers⟩ := ended
      refine ⟨fun other member => ?_, fun key stored => (emptied.empty key (fewer key stored)).1,
        fun _ => answers emptied.answers⟩
      rcases List.mem_cons.mp member with rfl | tail
      · exact fun key stored => (emptied.empty key (fewer key stored)).2
      · exact vacated other tail

/-- A store that answers goes on answering. -/
theorem ensures_answers {α : Type} (body : Transaction α) (answers : world.disk.faults = []) :
    body.Ensures (Statement.handle settings) (fun _ after => after.disk.faults = []) world := by
  refine (Prog.all_true body).run_related
    (fun first second : World => first.disk.faults = [] → second.disk.faults = []) (fun _ same => same)
    (fun left right same => right (left same)) (fun β statement _ state same => ?_) world answers
  cases statement with
  | storage op =>
    obtain ⟨db, ⟨objects, faults⟩, cache, clock⟩ := state
    obtain rfl : faults = [] := same
    exact congrArg (fun pair => pair.2.faults) (handle_answering (storageBackend settings) op objects)
  | execute change =>
    simp only [Statement.handle]
    split <;> exact same
  | _ => exact same

/-- What the clean-up of some deployments leaves, whatever it ends in. -/
structure RowsCleaned (settings : Settings) (rows : List Deployment) (before : World)
    (result : Except Error Unit) (after : World) : Prop where
  frame : ∃ disk, after = { before with disk }
  outside : SameOutside (fun key => ∃ row ∈ rows, InFolder (folderKey settings row) key)
    before.disk.objects after.disk.objects
  shrinks : Shrinks before.disk.objects after.disk.objects
  answers : before.disk.faults = [] → after.disk.faults = []
  vacated : (∀ row ∈ rows, CleanUpReaches settings row before.disk) → result = .ok () →
    ∀ row ∈ rows, Vacated settings row after.disk.objects

theorem ensures_rowsCleaned (rows : List Deployment) :
    (Prog.forEach (fun row => storage (deleteDeploymentArtifacts settings row)) rows).Ensures
      (Statement.handle settings) (RowsCleaned settings rows world) world := by
  have every {allowed : ∀ β, StorageCall β → Prop}
      (good : ∀ row ∈ rows, (deleteDeploymentArtifacts settings row).All allowed) :
      (Prog.forEach (fun row => storage (deleteDeploymentArtifacts settings row)) rows).All
        (OnStorage allowed) :=
    .forEach fun row member => onStorage_hoist.mpr (good row member)
  have outside : Prog.Ensures (Statement.handle settings) _ _ world := ensures_sameOutside
    (every fun row member => (deleteDeploymentArtifacts_changes _ row).mono fun β op writes =>
      writes.mono (fun key inside => (⟨row, member, inside⟩ :
        ∃ row ∈ rows, InFolder (folderKey settings row) key)) fun key inside => inside)
  have shrinks : Prog.Ensures (Statement.handle settings) _ _ world := ensures_shrinks
    (every fun row _ => (deleteDeploymentArtifacts_changes (fun _ => False) row).mono
      fun β op changes => changes.mono (fun _ _ => trivial) fun _ saved => saved)
  refine ⟨ensures_storages_frame _ _, outside, shrinks, fun same => ensures_answers _ same, ?_⟩
  intro reaches returned
  have emptied := ensures_folders rows reaches
  rw [Prog.Ensures, returned] at emptied
  exact emptied.1

/-! ### One app -/

theorem Sites.Consistent.without_app {sites : Sites} (consistent : sites.Consistent) (app : App) :
    ((Act.delete app).apply sites).Consistent where
  formed := by
    have applied : (Change.deleteApp app.id).apply ⟨sites.apps, sites.deployments, [], []⟩ = .ok _ := rfl
    exact Change.apply_wellFormed applied consistent.formed
  settled := by
    have legal : (Act.delete app).Legal sites := trivial
    exact Act.settled consistent.formed legal consistent.settled
  stored := fun row member => consistent.stored row (List.mem_filter.mp member).1

/-- No other app pointed to a deployment that went. -/
theorem Sites.Consistent.delete_apps {sites : Sites} (consistent : sites.Consistent) (app : App) :
    ((Act.delete app).apply sites).apps = sites.apps.filter (·.id ≠ app.id) := by
  refine (List.map_congr_left fun other listed => ?_).trans (List.map_id' _)
  obtain ⟨there, different⟩ := List.mem_filter.mp listed
  rw [(consistent.settled other there).kept consistent.formed (by simpa using different)]
  rfl

theorem World.Purging.reaches (purging : start.Purging settings companyId world)
    (reaches : start.PurgeReaches settings companyId) {row : Deployment}
    (owned : start.db.OfCompany companyId row) : CleanUpReaches settings row world.disk := by
  refine ⟨purging.answers reaches, fun s3 key stored => ?_⟩
  exact reaches.addressable s3 row owned key (purging.shrinks.mem stored)

theorem ensures_deleteCompanyApp (purging : start.Purging settings companyId world)
    (present : app ∈ world.db.apps) (company : app.companyId = companyId) :
    (deleteCompanyApp settings app).Ensures (Statement.handle settings) (fun result after =>
      start.Purging settings companyId after ∧
        (result = .ok () → after.db.apps = world.db.apps.filter (·.id ≠ app.id))) world := by
  have listed {row : Deployment} : row ∈ (world.db.deployments.filter (·.app = app.id)).reverse ↔
      row ∈ world.db.deployments ∧ row.app = app.id := by simp
  have owned {row : Deployment} (there : row ∈ world.db.deployments) (owner : row.app = app.id) :
      start.db.OfCompany companyId row :=
    ⟨purging.rows row there, app, purging.apps app present, owner.symm, company⟩
  have cleaned : (deleteAppArtifacts settings app).Ensures (Statement.handle settings)
      (RowsCleaned settings (world.db.deployments.filter (·.app = app.id)).reverse world) world := by
    rw [deleteAppArtifacts]
    exact ensures_select.mpr (ensures_rowsCleaned _)
  have emptied {result : Except Error Unit} {after : World}
      (ended : RowsCleaned settings (world.db.deployments.filter (·.app = app.id)).reverse world result after) :
      start.Purging settings companyId after := by
    obtain ⟨⟨disk, rfl⟩, outside, shrinks, answers, _⟩ := ended
    refine ⟨purging.consistent, purging.others, purging.tables, purging.cache, ?_,
      purging.shrinks.trans shrinks, purging.apps, purging.rows,
      fun reaches => answers (purging.answers reaches), ?_⟩
    · refine purging.outside.trans (outside.mono ?_)
      rintro key ⟨row, member, inside⟩
      obtain ⟨there, owner⟩ := listed.mp member
      exact ⟨row, owned there owner, inside⟩
    · intro reaches row ofCompany
      exact (purging.vacated reaches row ofCompany).imp id fun vacated => vacated.shrinks shrinks
  rw [deleteCompanyApp]
  refine cleaned.bind (fun _ _ ended => ⟨emptied ended, fun other => by cases other⟩) fun _ middle ended => ?_
  have middlePurging := emptied ended
  obtain ⟨⟨disk, rfl⟩, _, _, _, vacated⟩ := ended
  refine ensures_uncache.mpr ?_
  refine ensures_execute_last.mpr ⟨fun error refused => ?_, fun db applied => ?_⟩
  · cases refused
  obtain rfl := Except.ok.inj applied
  have fewer := purging.consistent.delete_apps app
  refine ⟨⟨purging.consistent.without_app app, ?_, purging.tables, ?_, middlePurging.outside,
    middlePurging.shrinks, ?_, ?_, middlePurging.answers, ?_⟩, fun _ => fewer⟩
  · exact (others_delete purging.consistent present (decide_eq_true company)).trans purging.others
  · intro slug foreign
    refine (AList.lookup_erase_ne ?_).trans (purging.cache slug foreign)
    exact Ne.symm (foreign app (purging.apps app present) company)
  · intro other there
    have kept : other ∈ ((Act.delete app).apply world.db.sites).apps := there
    rw [fewer] at kept
    exact purging.apps other (List.mem_filter.mp kept).1
  · exact fun row there => purging.rows row (List.mem_filter.mp there).1
  · intro reaches row ofCompany
    have cleanable : ∀ other ∈ (world.db.deployments.filter (·.app = app.id)).reverse,
        CleanUpReaches settings other world.disk := by
      intro other member
      exact purging.reaches reaches (owned (listed.mp member).1 (listed.mp member).2)
    rcases middlePurging.vacated reaches row ofCompany with there | gone
    · by_cases owner : row.app = app.id
      · exact .inr (vacated cleanable rfl row (listed.mpr ⟨there, owner⟩))
      · exact .inl (List.mem_filter.mpr ⟨there, by simpa using owner⟩)
    · exact .inr gone

/-! ### The apps of the company -/

theorem ensures_deleteCompanyApps {apps : List App} (deleted : Nat)
    (purging : start.Purging settings companyId world) (present : ∀ app ∈ apps, app ∈ world.db.apps)
    (distinct : (apps.map (·.id)).Nodup) (company : ∀ app ∈ apps, app.companyId = companyId) :
    (deleteCompanyApps settings apps deleted).Ensures (Statement.handle settings) (fun result after =>
      start.Purging settings companyId after ∧ ∀ count, result = .ok count →
        count = deleted + apps.length ∧
          after.db.apps = world.db.apps.filter fun app => app.id ∉ apps.map (·.id)) world := by
  induction apps generalizing world deleted with
  | nil =>
    refine ⟨purging, fun count same => ⟨(Except.ok.inj same).symm, ?_⟩⟩
    exact (List.filter_eq_self.mpr fun app _ => by simp).symm
  | cons app apps ih =>
    rw [deleteCompanyApps]
    refine (ensures_deleteCompanyApp purging (present app List.mem_cons_self)
      (company app List.mem_cons_self)).bind
      (fun _ _ ended => ⟨ended.1, fun _ other => by cases other⟩) fun _ middle ended => ?_
    obtain ⟨middlePurging, fewer⟩ := ended
    have fewerApps := fewer rfl
    obtain ⟨fresh, rest⟩ := List.nodup_cons.mp distinct
    have stillThere : ∀ other ∈ apps, other ∈ middle.db.apps := by
      intro other member
      rw [fewerApps]
      refine List.mem_filter.mpr ⟨present other (List.mem_cons_of_mem _ member), ?_⟩
      have different : other.id ≠ app.id := fun same =>
        fresh (List.mem_map.mpr ⟨other, member, same⟩)
      simpa using different
    refine (ih (deleted + 1) middlePurging stillThere rest fun other member =>
      company other (List.mem_cons_of_mem _ member)).mono fun result after later => ?_
    refine ⟨later.1, fun count same => ?_⟩
    obtain ⟨counted, left⟩ := later.2 count same
    refine ⟨by rw [counted, List.length_cons]; omega, ?_⟩
    rw [left, fewerApps, List.filter_filter]
    refine List.filter_congr fun other _ => ?_
    by_cases struck : other.id = app.id
    · simp [struck]
    · simp [List.map_cons, List.mem_cons, struck]

theorem purging_start (consistent : world.db.sites.Consistent) :
    world.Purging settings companyId world where
  consistent := consistent
  others := rfl
  tables := ⟨rfl, rfl⟩
  cache := fun _ _ => rfl
  outside := SameOutside.refl _ _
  shrinks := Shrinks.refl _
  apps := fun _ present => present
  rows := fun _ present => present
  answers := fun reaches => reaches.answers
  vacated := fun _ _ ofCompany => .inl ofCompany.1

/-- What the hook leaves, whatever storage calls fail. -/
theorem ensures_deleteCompanyArtifacts (world : World) (consistent : world.db.sites.Consistent) :
    (deleteCompanyArtifacts settings companyId).Ensures (Statement.handle settings) (fun result after =>
      world.Purging settings companyId after ∧ ∀ count, result = .ok count →
        count = (world.db.apps.filter (·.companyId = companyId)).length ∧
          ∀ app ∈ after.db.apps, app.companyId ≠ companyId) world := by
  have ordered := List.perm_insertionSort (fun first second : App => first.name ≤ second.name)
    (world.db.apps.filter (·.companyId = companyId))
  have listed {app : App} : app ∈ (world.db.apps.filter (·.companyId = companyId)).insertionSort
      (fun first second => first.name ≤ second.name) ↔ app ∈ world.db.apps ∧ app.companyId = companyId := by
    rw [ordered.mem_iff, List.mem_filter]
    simp
  rw [deleteCompanyArtifacts]
  refine ensures_select.mpr ((ensures_deleteCompanyApps 0 (purging_start consistent)
    (fun app member => (listed.mp member).1) ?_ fun app member => (listed.mp member).2).mono
    fun result after ended => ⟨ended.1, fun count same => ?_⟩)
  · refine ((ordered.map (·.id)).nodup_iff).mpr ?_
    exact consistent.formed.appIds.sublist (List.filter_sublist.map _)
  · obtain ⟨counted, left⟩ := ended.2 count same
    refine ⟨by rw [counted, Nat.zero_add, ordered.length_eq], fun app there company => ?_⟩
    rw [left] at there
    obtain ⟨old, spared⟩ := List.mem_filter.mp there
    refine of_decide_eq_true spared (List.mem_map.mpr ⟨app, listed.mpr ⟨old, company⟩, rfl⟩)

/-- The rows of the other companies stay. -/
theorem World.Purging.has (purging : start.Purging settings companyId world)
    (formed : start.db.sites.WellFormed) {row : Deployment} (member : row ∈ start.db.deployments)
    (foreign : ¬ start.db.OfCompany companyId row) : row ∈ world.db.deployments := by
  obtain ⟨app, present, owner⟩ := formed.owned row member
  have outer : row ∈ (start.db.sites.others (·.companyId = companyId)).deployments := by
    refine List.mem_filter.mpr ⟨member, List.any_eq_true.mpr ⟨app, ?_, decide_eq_true owner⟩⟩
    refine List.mem_filter.mpr ⟨present, ?_⟩
    have other : app.companyId ≠ companyId := fun company => foreign ⟨member, app, present, owner, company⟩
    simpa using other
  rw [← purging.others] at outer
  exact (List.mem_filter.mp outer).1

end

/-! ### Runs with purges -/

/-- An occurrence of the service, or a purge of a company's files. -/
inductive Upkeep where
  | serves (occurrence : Occurrence)
  | purges (companyId : Nat) (faults : List (Option Error))

section
variable (settings : Settings) (library : Library)

def Upkeep.next (world : World) : Upkeep → World
  | .serves occurrence => occurrence.next settings library world
  | .purges companyId faults => (purgeFiles settings companyId faults world).2

def upkeepFrom (world : World) (steps : List Upkeep) : World :=
  steps.foldl (Upkeep.next settings library) world

def World.Upkept (world : World) : Prop :=
  ∃ start steps, World.Initial start ∧ world = upkeepFrom settings library start steps

end

section
variable {settings : Settings} {library : Library} {world : World}

theorem purgeFiles_purging (consistent : world.db.sites.Consistent) (companyId : Nat)
    (faults : List (Option Error)) :
    (world.withFaults faults).Purging settings companyId (purgeFiles settings companyId faults world).2 :=
  (Service.ensures_autocommit.mpr
    (ensures_deleteCompanyArtifacts (world.withFaults faults) consistent) :
    Prog.Ensures _ _ _ _).1

theorem Upkeep.next_consistent (step : Upkeep) (consistent : world.db.sites.Consistent) :
    (step.next settings library world).db.sites.Consistent := by
  cases step with
  | serves occurrence => exact occurrence.next_consistent consistent
  | purges companyId faults => exact (purgeFiles_purging consistent companyId faults).consistent

theorem upkeep_invariant (holds : World → Prop) (steps : List Upkeep)
    (step : ∀ world, ∀ step ∈ steps, holds world → holds (step.next settings library world))
    (start : holds world) : holds (upkeepFrom settings library world steps) := by
  induction steps generalizing world with
  | nil => exact start
  | cons first later ih =>
    exact ih (fun world other member => step world other (List.mem_cons_of_mem _ member))
      (step world first List.mem_cons_self start)

theorem World.Upkept.consistent (upkept : world.Upkept settings library) :
    world.db.sites.Consistent := by
  obtain ⟨start, steps, initial, rfl⟩ := upkept
  exact upkeep_invariant (·.db.sites.Consistent) steps (fun _ step _ now => step.next_consistent now)
    initial.consistent

end

/-- The other companies have their rows, their cached apps and their files. -/
structure World.OthersKept (settings : Settings) (companyId : Nat) (before after : World) : Prop where
  sites : after.db.sites.others (·.companyId = companyId) =
    before.db.sites.others (·.companyId = companyId)
  tables : after.db.access = before.db.access ∧ after.db.events = before.db.events
  cache : ∀ slug, (∀ app ∈ before.db.apps, app.companyId = companyId → app.slug ≠ slug) →
    after.cache.lookup slug = before.cache.lookup slug
  files : SameOutside (CompanyKey settings before.db companyId) before.disk.objects after.disk.objects

/-- The apps of the company are gone, with their deployments and their files. -/
structure World.CompanyGone (settings : Settings) (companyId : Nat) (before after : World) : Prop where
  apps : ∀ app ∈ after.db.apps, app.companyId ≠ companyId
  rows : ∀ row, before.db.OfCompany companyId row → row ∉ after.db.deployments
  files : ∀ row, before.db.OfCompany companyId row → Vacated settings row after.disk.objects

/-- Whatever the storage does, a purge leaves the other companies as they are. If the clean-up
reaches the files, no row of the company goes before its files, and when the hook returns
nothing of the company's apps is left, neither rows nor objects. -/
theorem purge_company_files (settings : Settings) (library : Library) (world : World)
    (upkept : world.Upkept settings library) (companyId : Nat) (faults : List (Option Error)) :
    world.OthersKept settings companyId (purgeFiles settings companyId faults world).2 ∧
      ((world.withFaults faults).PurgeReaches settings companyId →
        (∀ row, world.db.OfCompany companyId row →
          row ∈ (purgeFiles settings companyId faults world).2.db.deployments ∨
            Vacated settings row (purgeFiles settings companyId faults world).2.disk.objects) ∧
        ∀ count, (purgeFiles settings companyId faults world).1 = .ok count →
          count = (world.db.apps.filter (·.companyId = companyId)).length ∧
            world.CompanyGone settings companyId (purgeFiles settings companyId faults world).2) := by
  have ended : Prog.Ensures (Action.handle settings)
      (Service.autocommit (deleteCompanyArtifacts settings companyId)) _ (world.withFaults faults) :=
    Service.ensures_autocommit.mpr
      (ensures_deleteCompanyArtifacts (world.withFaults faults) upkept.consistent)
  obtain ⟨purging, returned⟩ := ended
  refine ⟨⟨purging.others, purging.tables, purging.cache, purging.outside⟩,
    fun reaches => ⟨purging.vacated reaches, fun count same => ?_⟩⟩
  obtain ⟨counted, left⟩ := returned count same
  have removed (row : Deployment) (ofCompany : world.db.OfCompany companyId row) :
      row ∉ (purgeFiles settings companyId faults world).2.db.deployments := by
    intro there
    obtain ⟨app, present, owner⟩ := purging.consistent.formed.owned row there
    obtain ⟨_, old, oldPresent, oldOwner, company⟩ := ofCompany
    have same := upkept.consistent.formed.app_eq (purging.apps app present) oldPresent
      (owner.trans oldOwner.symm)
    exact left app present (same ▸ company)
  exact ⟨counted, left, removed, fun row ofCompany =>
    (purging.vacated reaches row ofCompany).resolve_left (removed row ofCompany)⟩

/-! The first site, and the deletion of its company. -/

def keptSite : World := upkeepFrom defaultSettings demoLibrary emptyWorld (firstSite.map .serves)

def purgedSite : Except Error Nat × World := purgeFiles defaultSettings 3 [] keptSite

theorem purge_company_files_firstSite :
    keptSite.CompanyGone defaultSettings 3 purgedSite.2 ∧ keptSite.db.OfCompany 3 firstActive := by
  have upkept : keptSite.Upkept defaultSettings demoLibrary := ⟨emptyWorld, _, emptyWorld_initial, rfl⟩
  have reaches : (keptSite.withFaults []).PurgeReaches defaultSettings 3 := ⟨rfl, fun s3 => by cases s3⟩
  have returned : (purgeFiles defaultSettings 3 [] keptSite).1 = .ok 1 := by decide +kernel
  have owner : keptSite.db.apps.any fun app => app.id = firstActive.app ∧ app.companyId = 3 := by
    decide +kernel
  obtain ⟨app, present, facts⟩ := List.any_eq_true.mp owner
  have purged := (purge_company_files defaultSettings demoLibrary keptSite upkept 3 []).2 reaches
  exact ⟨(purged.2 1 returned).2, by decide +kernel, app, present, by simpa using facts⟩

/-! ### No file without a row -/

/-- Whatever is stored in the folder of a deployment, the table has its row. -/
def World.Housed (settings : Settings) (world : World) : Prop :=
  ∀ key ∈ world.disk.objects, ∀ row : Deployment, InFolder (folderKey settings row) key →
    world.db.sites.Has row

section
variable {settings : Settings} {library : Library} {world : World}

theorem folderKey_congr {first second : Deployment} (ids : first.id = second.id)
    (owners : first.app = second.app) : folderKey settings first = folderKey settings second := by
  rw [folderKey, folderKey, ids, owners]

/-- A deletion that returns has emptied the folders of the app, if the store answers. -/
theorem ensures_deleteRequest (onDisk : isS3Backend settings = false)
    (answers : world.disk.faults = []) (id : Uuid) (userId : Option Nat)
    (actorEmail : PyStr) :
    ((Request.delete id userId actorEmail).service settings library).Ensures (Action.handle settings)
      (Prog.Returned fun _ after => ∀ row ∈ world.db.deployments, row.app = id →
        Vacated settings row after.disk.objects) world := by
  refine Service.ensures_loadRow trivial fun app found => ?_
  obtain ⟨_, rfl⟩ := Db.mem_of_app found
  refine Service.ensures_atomic_returned ?_
  have cleaned : (deleteAppArtifacts settings app).Ensures (Statement.handle settings)
      (RowsCleaned settings (world.db.deployments.filter (·.app = app.id)).reverse world) world := by
    rw [deleteAppArtifacts]
    exact ensures_select.mpr (ensures_rowsCleaned _)
  rw [deleteApp]
  refine cleaned.bind (fun _ _ _ => trivial) fun _ middle ended => ?_
  obtain ⟨⟨disk, rfl⟩, _, _, _, vacated⟩ := ended
  have reaches : ∀ row ∈ (world.db.deployments.filter (·.app = app.id)).reverse,
      CleanUpReaches settings row world.disk := by
    refine fun row _ => ⟨answers, fun s3 => ?_⟩
    rw [onDisk] at s3
    contradiction
  refine ensures_execute.mpr ⟨fun _ _ => trivial, fun db _ row present owner => ?_⟩
  exact vacated reaches rfl row (by simpa using ⟨present, owner⟩)

/-- What a request stores, it stores for a row that was there before. -/
theorem Request.stores_housed {request : Request} {faults : List (Option Error)}
    (housed : world.Housed settings) {key : PyStr}
    (stored : key ∈ (request.run settings library faults world).2.disk.objects) {row : Deployment}
    (inside : InFolder (folderKey settings row) key) : world.db.sites.Has row := by
  have confined : SameOutside (request.Footprint settings world.db.sites) world.disk.objects
      (request.run settings library faults world).2.disk.objects :=
    request.confined (world.withFaults faults)
  have owner {other : Deployment} (member : other ∈ world.db.sites.deployments)
      (within : InFolder (folderKey settings other) key) : world.db.sites.Has row := by
    obtain ⟨apps, ids⟩ := folderKey_disjoint within inside
    exact ⟨other, member, ids, apps⟩
  by_cases touched : request.Footprint settings world.db.sites key
  · cases request with
    | upload =>
      obtain ⟨other, member, _, _, within⟩ := touched
      exact owner member within
    | finalize =>
      obtain ⟨other, member, _, _, within⟩ := touched
      exact owner member within
    | delete =>
      obtain ⟨other, member, _, within⟩ := touched
      exact owner member within
    | _ => exact touched.elim
  · have same := confined key touched
    refine housed key ?_ row inside
    rw [← AList.lookup_isSome, ← same, AList.lookup_isSome]
    exact stored

/-- The store answers the deletions of apps and the purges. -/
def Upkeep.Steady : Upkeep → Prop
  | .serves (.request (.delete _ _ _) faults) => faults = []
  | .serves _ => True
  | .purges _ faults => faults = []

theorem Occurrence.next_housed (onDisk : isS3Backend settings = false) (occurrence : Occurrence)
    (steady : (Upkeep.serves occurrence).Steady) (housed : world.Housed settings) : (occurrence.next settings library world).Housed settings := by
  cases occurrence with
  | visit slug pathInfo faults =>
    obtain ⟨rows, files⟩ := visit_reads slug pathInfo faults world
    intro key stored row inside
    rw [Occurrence.next, rows]
    exact housed key (files.shrinks.mem stored) row inside
  | passes span => exact housed
  | grants access => exact housed
  | request request faults =>
    intro key stored row inside
    have before : world.db.sites.Has row := request.stores_housed housed stored inside
    by_cases deletes : request.Deletes row.app
    · rcases Occurrence.next_sites settings library (.request request faults) world with
        same | ⟨asked, _, act, known, admitted, applied, ends⟩
      · rw [same]
        exact before
      · cases known
        cases request with
        | delete id userId actorEmail =>
          have returned : ((Request.delete id userId actorEmail).run settings library faults world).1 =
              .ok () := by
            rcases ends with returned | reopens
            · exact returned
            · cases admitted with
              | delete => exact reopens.elim
          have emptied : Prog.Ensures (Action.handle settings)
              ((Request.delete id userId actorEmail).service settings library) _ (world.withFaults faults) :=
            ensures_deleteRequest onDisk (show (world.withFaults faults).disk.faults = [] from steady)
              id userId actorEmail
          have ran : ((Request.delete id userId actorEmail).service settings library).run
              (Action.handle settings) (world.withFaults faults) = (.ok (), _) :=
            Prod.ext returned rfl
          obtain ⟨old, member, ids, owners⟩ := before
          have vacated := emptied.of_run ran old member (owners.trans deletes.symm)
          refine absurd ?_ (vacated key stored)
          rw [folderKey_congr ids owners]
          exact inside
        | _ => exact deletes.elim
    · exact Occurrence.next_has (.request request faults) deletes before

theorem Upkeep.next_housed (onDisk : isS3Backend settings = false) (step : Upkeep)
    (steady : step.Steady) (consistent : world.db.sites.Consistent) (housed : world.Housed settings) :
    (step.next settings library world).Housed settings := by
  cases step with
  | serves occurrence => exact occurrence.next_housed onDisk steady housed
  | purges companyId faults =>
    have purging : (world.withFaults faults).Purging settings companyId
        (purgeFiles settings companyId faults world).2 := purgeFiles_purging consistent companyId faults
    intro key stored row inside
    obtain ⟨old, member, ids, owners⟩ := housed key (purging.shrinks.mem stored) row inside
    refine ⟨old, ?_, ids, owners⟩
    by_cases ofCompany : world.db.OfCompany companyId old
    · have reaches : (world.withFaults faults).PurgeReaches settings companyId := by
        refine ⟨steady, fun s3 => ?_⟩
        rw [onDisk] at s3
        contradiction
      refine (purging.vacated reaches old ofCompany).resolve_right fun vacated => vacated key stored ?_
      rw [folderKey_congr ids owners]
      exact inside
    · exact purging.has consistent.formed member ofCompany

end

/-- The first site, an upload of a second build that fails on the way, and a purge. -/
def patchyUpkeep : List Upkeep :=
  firstSite.map .serves ++
    [.serves (.request (.createDeployment ⟨1⟩ (build ⟨5⟩)) []),
      .serves (.request (.upload ⟨5⟩ ⟨[page], none⟩ none) [none, some .osError]), .purges 3 []]

/-- A purge whose first look at the folder fails takes the row and leaves the file. -/
example :
    let purged := upkeepFrom defaultSettings demoLibrary emptyWorld
      (firstSite.map .serves ++ [.purges 3 [some .osError, none, none, some .osError]])
    purged.db.deployments = [] ∧ purged.disk.objects.keys ≠ [] := by
  decide +kernel

end HostingService
