import HostingService.Hosting.Confinement
import HostingService.Hosting.Footprints
import HostingService.Hosting.Performs

/-! Runs of the service in which requests do not overlap. -/

namespace HostingService

open Program Text Storage Transaction

/-- What happens next. A request and a visit come with the outcomes of their calls
to the file store. -/
inductive Occurrence where
  | request (request : Request) (faults : List (Option Error))
  | visit (slug pathInfo : PyStr) (faults : List (Option Error))
  | passes (span : Nat)
  | grants (access : List CompanyHostingAccess)

def World.withFaults (world : World) (faults : List (Option Error)) : World :=
  { world with disk := { world.disk with faults } }

section
variable (settings : Settings) (library : Library)

/-- The answer of a request and the world after it. -/
def Request.run (request : Request) (faults : List (Option Error)) (world : World) :
    Except Error Unit × World :=
  (request.service settings library).run (Action.handle settings) (world.withFaults faults)

def visit (slug pathInfo : PyStr) (faults : List (Option Error)) (world : World) :
    Except Error Response × World :=
  (Service.autocommit (hostedAppServe settings library slug pathInfo)).run
    (Action.handle settings) (world.withFaults faults)

def Occurrence.next (world : World) : Occurrence → World
  | .request asked faults => (asked.run settings library faults world).2
  | .visit slug pathInfo faults => (HostingService.visit settings library slug pathInfo faults world).2
  | .passes span => { world with clock := world.clock + span }
  | .grants access => { world with db := { world.db with access } }

def runFrom (world : World) (occurrences : List Occurrence) : World :=
  occurrences.foldl (Occurrence.next settings library) world

/-- Every occurrence meets the guard in the world it happens in. -/
def RunMeets (guard : World → Occurrence → Prop) : World → List Occurrence → Prop
  | _, [] => True
  | world, occurrence :: later =>
    guard world occurrence ∧ RunMeets guard (occurrence.next settings library world) later

/-- There are no apps yet; the file store may hold anything. -/
def World.Initial (world : World) : Prop := world.db.apps = [] ∧ world.db.deployments = []

def World.Reachable (world : World) : Prop :=
  ∃ start occurrences, World.Initial start ∧ world = runFrom settings library start occurrences

end

section
variable {settings : Settings} {library : Library} {guard : World → Occurrence → Prop}
  {world : World} {occurrences : List Occurrence} {allowed : ∀ β, StorageCall β → Prop}

/-- What every guarded occurrence preserves holds at the end of a run. -/
theorem run_invariant (holds : World → Prop)
    (step : ∀ world occurrence, guard world occurrence → holds world →
      holds (occurrence.next settings library world))
    (meets : RunMeets settings library guard world occurrences) (start : holds world) :
    holds (runFrom settings library world occurrences) := by
  induction occurrences generalizing world with
  | nil => exact start
  | cons occurrence later ih => exact ih meets.2 (step world occurrence meets.1 start)

theorem runMeets_always : RunMeets settings library (fun _ _ => True) world occurrences := by
  induction occurrences generalizing world with
  | nil => trivial
  | cons occurrence later ih => exact ⟨trivial, ih⟩

theorem runFrom_append (first second : List Occurrence) :
    runFrom settings library world (first ++ second) =
      runFrom settings library (runFrom settings library world first) second :=
  List.foldl_append

theorem World.Reachable.later (reachable : world.Reachable settings library)
    (occurrences : List Occurrence) :
    (runFrom settings library world occurrences).Reachable settings library := by
  obtain ⟨start, earlier, initial, rfl⟩ := reachable
  exact ⟨start, earlier ++ occurrences, initial, (runFrom_append earlier occurrences).symm⟩

/-! ### Visits change no row and no file -/

/-- Statements that read. -/
def Reads : ∀ β, Statement β → Prop
  | _, .execute _ => False
  | _, .storage op => Writes (fun _ => False) _ op
  | _, _ => True

/-- The statement reads the database, the clock or the cache, or writes to the cache. -/
def Loading : ∀ β, Statement β → Prop
  | _, .execute _ => False
  | _, .storage _ => False
  | _, _ => True

theorem Loading.reads {β : Type} {statement : Statement β} (loading : Loading β statement) :
    Reads β statement := by
  cases statement with
  | execute change => exact loading.elim
  | storage op => exact loading.elim
  | _ => trivial

theorem loadApp_loading (slug : PyStr) : (loadApp settings slug).All Loading := by
  have asked {β : Type} {statement : Statement β} (loading : Loading β statement) :
      (Prog.perform statement : Transaction β).All Loading := Prog.all_perform.mpr loading
  have cached : (cacheGetApp settings slug).All Loading := by
    rw [cacheGetApp]
    split
    · trivial
    · refine .bind (asked trivial) fun now => .bind (asked trivial) fun entry => ?_
      rcases entry with _ | ⟨expires, app⟩
      · trivial
      · show (ite _ _ _ : Transaction (Option ServedApp)).All Loading
        split
        · exact .bind (asked trivial) fun _ => Prog.all_ret _
        · trivial
  have stored (app : ServedApp) : (cacheSetApp settings slug app).All Loading := by
    rw [cacheSetApp]
    split
    · trivial
    · exact .bind (asked trivial) fun _ => asked trivial
  refine cached.bind fun found => ?_
  rcases found with _ | app
  · refine .bind (asked trivial) fun row => ?_
    rcases row with _ | app
    · trivial
    · exact (stored app).bind fun _ => Prog.all_ret _
  · trivial

theorem hostedAppServe_reads (slug pathInfo : PyStr) :
    (hostedAppServe settings library slug pathInfo).All Reads := by
  have loaded : (loadApp settings slug).All Reads :=
    (loadApp_loading slug).mono fun _ _ loading => loading.reads
  refine loaded.bind fun found => ?_
  rcases found with _ | app
  · trivial
  · refine .bind ?_ fun expired => ?_
    · rw [isPreviewExpired]
      split
      · trivial
      · exact .bind (Prog.all_perform.mpr trivial) fun _ => Prog.all_ret _
    · cases expired with
      | true => trivial
      | false =>
        rcases resolveDeployment app with _ | deployment
        · trivial
        · exact Prog.all_hoist.mpr (serveDeployment_all (fun _ => trivial) trivial _)

theorem visit_reads (slug pathInfo : PyStr) (faults : List (Option Error)) (world : World) :
    (visit settings library slug pathInfo faults world).2.db = world.db ∧
      SameOutside (fun _ => False) world.disk.objects
        (visit settings library slug pathInfo faults world).2.disk.objects := by
  refine service_related (fun before after => after.db = before.db ∧
    SameOutside (fun _ => False) before.disk.objects after.disk.objects)
    (fun world => ⟨rfl, SameOutside.refl _ _⟩)
    (fun left right => ⟨right.1.trans left.1, left.2.trans right.2⟩)
    (fun related => ⟨rfl, related.2⟩) (fun β statement reads world => ?_)
    (all_autocommit.mpr (hostedAppServe_reads slug pathInfo)) (world.withFaults faults)
  cases statement with
  | execute change => exact reads.elim
  | storage op => exact ⟨rfl, handle_sameOutside (storageBackend settings) reads world.disk⟩
  | _ => exact ⟨rfl, SameOutside.refl _ _⟩

/-! ### What one occurrence does -/

/-- The tables change by an act that the request admits, or not at all. -/
theorem Occurrence.next_sites (settings : Settings) (library : Library) (occurrence : Occurrence)
    (world : World) :
    (occurrence.next settings library world).db.sites = world.db.sites ∨
      ∃ request faults act, occurrence = .request request faults ∧
        request.Admits settings library world.clock world.db.sites act ∧
        (occurrence.next settings library world).db.sites = act.apply world.db.sites ∧
        ((request.run settings library faults world).1 = .ok () ∨ act.Reopens) := by
  cases occurrence with
  | request request faults =>
    rcases request.performs (world.withFaults faults) with ⟨act, admitted, applied, ends⟩ | refused
    · exact .inr ⟨request, faults, act, rfl, admitted, applied, ends⟩
    · exact .inl refused.2
  | visit slug pathInfo faults =>
    exact .inl (congrArg Db.sites (visit_reads slug pathInfo faults world).1)
  | passes span => exact .inl rfl
  | grants access => exact .inl rfl

theorem Occurrence.next_clock (settings : Settings) (library : Library) (occurrence : Occurrence)
    (world : World) :
    world.clock ≤ (occurrence.next settings library world).clock := by
  cases occurrence with
  | request request faults => exact (service_clock _ _).ge
  | visit slug pathInfo faults => exact (service_clock _ _).ge
  | passes span => exact Int.le_add_of_nonneg_right (Int.natCast_nonneg span)
  | grants access => exact le_rfl

theorem Occurrence.next_wellFormed (settings : Settings) (library : Library)
    (occurrence : Occurrence) {world : World} (formed : world.db.sites.WellFormed) :
    (occurrence.next settings library world).db.sites.WellFormed := by
  cases occurrence with
  | request request faults => exact service_wellFormed _ _ formed
  | visit slug pathInfo faults => exact service_wellFormed _ _ formed
  | passes span => exact formed
  | grants access => exact formed

theorem run_wellFormed (settings : Settings) (library : Library) (formed : world.db.sites.WellFormed)
    (occurrences : List Occurrence) :
    (runFrom settings library world occurrences).db.sites.WellFormed :=
  run_invariant (fun world => world.db.sites.WellFormed)
    (fun _ occurrence _ formed => occurrence.next_wellFormed settings library formed) runMeets_always formed

theorem World.Initial.wellFormed (initial : world.Initial) : world.db.sites.WellFormed := by
  obtain ⟨apps, deployments⟩ := initial
  constructor <;> simp [Db.sites, apps, deployments]

theorem World.Reachable.wellFormed (reachable : world.Reachable settings library) :
    world.db.sites.WellFormed := by
  obtain ⟨start, occurrences, initial, rfl⟩ := reachable
  exact run_wellFormed settings library initial.wellFormed occurrences

end

/-! A service with one approved company, and the requests that put a first site on it. -/

def emptyWorld : World :=
  { db := ⟨[], [], [⟨3, .approved⟩], []⟩
    disk := answering ∅
    cache := ∅
    clock := 0 }

def letterDraw (letter : Fin 26) : SlugDraw := ⟨letter, fun _ => 0⟩

def demoApp : NewApp where
  companyId := 3
  name := lit "demo"
  displayName := []
  userId := some 7
  actorEmail := []
  appId := ⟨1⟩
  draws := fun _ => letterDraw 3

def build (deployment : Uuid) : NewDeployment where
  appVersion := lit "1.0.0"
  shelluiVersion := lit "0.5.0"
  deployedById := 7
  pinned := false
  actorEmail := []
  deploymentId := deployment

/-- A request whose storage calls all go through. -/
def Request.served (request : Request) : Occurrence := .request request []

def demoLibrary : Library := .knowing indexArchive indexMembers

/-- A draft of the app with the archive of one page uploaded. -/
def uploadBuild (app deployment : Uuid) : List Occurrence :=
  [(Request.createDeployment app (build deployment)).served,
    (Request.upload deployment ⟨[indexArchive], none⟩ none).served]

def finalizeBuild (deployment : Uuid) : Occurrence :=
  (Request.finalize deployment (some 7) []).served

def uploadedSite : List Occurrence :=
  (Request.createApp demoApp).served :: uploadBuild ⟨1⟩ ⟨2⟩

def firstSite : List Occurrence :=
  (Request.createApp demoApp).served :: uploadBuild ⟨1⟩ ⟨2⟩ ++ [finalizeBuild ⟨2⟩]

def preparePreview (slug : Option PyStr) (letter : Fin 26) (app deployment : Uuid) : Occurrence :=
  (Request.preparePreviewDeploy
    { companyId := 3
      userId := 7
      displayName := []
      actorEmail := []
      appId := app
      draws := fun _ => letterDraw letter }
    slug false (build deployment)).served

def uploadAndFinalize (deployment : Uuid) : List Occurrence :=
  [(Request.upload deployment ⟨[indexArchive], none⟩ none).served, finalizeBuild deployment]

theorem emptyWorld_initial : emptyWorld.Initial := ⟨rfl, rfl⟩

theorem reachable_from_empty (settings : Settings) (library : Library)
    (occurrences : List Occurrence) :
    (runFrom settings library emptyWorld occurrences).Reachable settings library :=
  ⟨emptyWorld, occurrences, emptyWorld_initial, rfl⟩

end HostingService
