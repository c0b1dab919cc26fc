import HostingService.Hosting.Runs

/-! An app is found under its id, its name and its slug, as long as no name can be
taken for an id or for the slug of another app of the company. -/

namespace HostingService

open Program Text Storage Transaction

/-! ### Names, slugs and ids as texts -/

theorem slugChar_plain {c : Nat} (slugChar : isSlugChar c = true) :
    isSpace c = false ∧ c ≠ 0x3A := by
  simp only [isSlugChar, isLowerLetter, hyphen, Bool.or_eq_true, Bool.and_eq_true,
    decide_eq_true_eq, beq_iff_eq] at slugChar
  constructor
  · simp only [isSpace, Bool.or_eq_false_iff, Bool.and_eq_false_iff, decide_eq_false_iff_not,
      beq_eq_false_iff_ne]
    omega
  · omega

theorem strip_slugChars {text : PyStr} (plain : ∀ c ∈ text, isSlugChar c = true) :
    strip text = text :=
  stripBy_of_not_mem isSpace fun c member => (slugChar_plain (plain c member)).1

theorem candidate_slugChars (draw : SlugDraw) : ∀ c ∈ draw.candidate, isSlugChar c = true := by
  intro c member
  rcases List.mem_cons.mp member with rfl | later
  · have small := draw.first.isLt
    simp only [isSlugChar, isLowerLetter, Bool.or_eq_true, Bool.and_eq_true, decide_eq_true_eq]
    omega
  · obtain ⟨choice, _, rfl⟩ := List.mem_map.mp later
    have small := choice.isLt
    rw [slugLetter]
    split
    all_goals
      simp only [isSlugChar, isLowerLetter, Bool.or_eq_true, Bool.and_eq_true, decide_eq_true_eq]
      omega

theorem candidate_parse (draw : SlugDraw) : Uuid.parse draw.candidate = none := by
  refine Uuid.parse_short (fun colon => ?_) (by rw [candidate_length]; decide)
  exact (slugChar_plain (candidate_slugChars draw _ colon)).2 rfl

theorem validateAppName_ok {library : Library} {value name : PyStr}
    (valid : validateAppName library value = .ok name) : matchesSlugPattern name = true := by
  simp only [validateAppName, validateLabel] at valid
  split at valid
  · contradiction
  · rename_i matched
    split at valid
    · contradiction
    · obtain rfl := Except.ok.inj valid
      simpa using matched

/-! ### What the tables must say -/

/-- Names and slugs are of their language, and no name is an id or the slug of another
app of the company. -/
structure Sites.Referable (sites : Sites) : Prop where
  names : ∀ app ∈ sites.apps, app.name ≠ [] ∧ ∀ c ∈ app.name, isSlugChar c = true
  slugs : ∀ app ∈ sites.apps, ∃ draw : SlugDraw, app.slug = draw.candidate
  notIds : ∀ app ∈ sites.apps, Uuid.parse app.name = none
  apart : ∀ app ∈ sites.apps, ∀ other ∈ sites.apps, other.companyId = app.companyId →
    other.slug = app.name → other = app

theorem Sites.Referable.image {sites others : Sites} (referable : sites.Referable)
    {change : App → App} (keeps : Sites.KeepsApp change)
    (old : ∀ row ∈ others.apps, ∃ app ∈ sites.apps, change app = row) : others.Referable := by
  constructor
  · intro row member
    obtain ⟨app, present, rfl⟩ := old row member
    rw [keeps.name]
    exact referable.names app present
  · intro row member
    obtain ⟨app, present, rfl⟩ := old row member
    rw [keeps.slug]
    exact referable.slugs app present
  · intro row member
    obtain ⟨app, present, rfl⟩ := old row member
    rw [keeps.name]
    exact referable.notIds app present
  · intro row member other listed company same
    obtain ⟨app, present, rfl⟩ := old row member
    obtain ⟨second, there, rfl⟩ := old other listed
    rw [keeps.companyId, keeps.companyId] at company
    rw [keeps.slug, keeps.name] at same
    rw [referable.apart app present second there company same]

theorem Sites.Referable.insertApp {sites : Sites} (referable : sites.Referable) {app : App}
    (name : app.name ≠ [] ∧ ∀ c ∈ app.name, isSlugChar c = true)
    (slug : ∃ draw : SlugDraw, app.slug = draw.candidate) (notId : Uuid.parse app.name = none)
    (nameFree : ∀ other ∈ sites.apps, other.companyId = app.companyId → other.slug ≠ app.name)
    (slugFree : ∀ other ∈ sites.apps, other.companyId = app.companyId → other.name ≠ app.slug) :
    (sites.insertApp app).Referable := by
  have cases {other : App} (member : other ∈ (sites.insertApp app).apps) :
      other ∈ sites.apps ∨ other = app := by
    rcases List.mem_append.mp member with old | new
    · exact .inl old
    · exact .inr (List.mem_singleton.mp new)
  constructor
  · intro other member
    rcases cases member with old | rfl
    · exact referable.names other old
    · exact name
  · intro other member
    rcases cases member with old | rfl
    · exact referable.slugs other old
    · exact slug
  · intro other member
    rcases cases member with old | rfl
    · exact referable.notIds other old
    · exact notId
  · intro first one second two company same
    rcases cases one with oldFirst | rfl
    · rcases cases two with oldSecond | rfl
      · exact referable.apart first oldFirst second oldSecond company same
      · exact absurd same.symm (slugFree first oldFirst company.symm)
    · rcases cases two with oldSecond | rfl
      · exact absurd same (nameFree second oldSecond company)
      · rfl

/-! ### Runs -/

/-- A new name is no id and no slug of an app of the company, and the slug that is drawn
is no name of one. -/
def ClearReferences (library : Library) (world : World) : Occurrence → Prop
  | .request (.createApp new) _ =>
    (∀ name, validateAppName library new.name = .ok name → Uuid.parse name = none ∧
      ∀ app ∈ world.db.apps, app.companyId = new.companyId → app.slug ≠ name) ∧
    ∀ slug, world.db.sites.publicSlug new.draws = some slug →
      ∀ app ∈ world.db.apps, app.companyId = new.companyId → app.name ≠ slug
  | _ => True

section
variable {settings : Settings} {library : Library} {world : World}

theorem publicSlug_drawn {sites : Sites} {draws : Fin 32 → SlugDraw} {slug : PyStr}
    (drawn : sites.publicSlug draws = some slug) : ∃ draw : SlugDraw, slug = draw.candidate := by
  obtain ⟨draw, _, rfl⟩ := List.mem_map.mp (List.mem_of_find?_eq_some drawn)
  exact ⟨draw, rfl⟩

theorem Act.referable {request : Request} {faults : List (Option Error)} {act : Act}
    (admitted : request.Admits settings library world.clock world.db.sites act)
    (clear : ClearReferences library world (.request request faults))
    (referable : world.db.sites.Referable) : (act.apply world.db.sites).Referable := by
  have kept : Sites.KeepsApp fun row => row :=
    ⟨fun _ => rfl, fun _ => rfl, fun _ => rfl, fun _ => rfl⟩
  cases admitted with
  | createApp blank company room named drawn unowned =>
    obtain ⟨⟨first, rest, shape, _⟩, chars, _⟩ := matchesSlugPattern_facts (validateAppName_ok named)
    obtain ⟨notId, nameFree⟩ := clear.1 _ named
    refine referable.insertApp ⟨by simp [shape], chars⟩ (publicSlug_drawn drawn) notId ?_ ?_
    · exact fun other member same => nameFree other member (same.trans company)
    · exact fun other member same => clear.2 _ drawn other member (same.trans company)
  | createPreview blank company room named drawn created draft owner =>
    obtain ⟨draw, same⟩ := publicSlug_drawn drawn
    have inserted := referable.insertApp ⟨by simp [named, same, SlugDraw.candidate],
      by rw [named, same]; exact candidate_slugChars draw⟩ ⟨draw, same⟩
      (by rw [named, same]; exact candidate_parse draw)
      (fun other member _ clash => (blank.fresh other member).2.1 (clash.trans named))
      fun other member company clash =>
        (blank.fresh other member).2.2 ⟨company, clash.trans named.symm⟩
    exact inserted.image kept fun row member => ⟨row, member, rfl⟩
  | redeploy => exact referable.image kept fun row member => ⟨row, member, rfl⟩
  | createDeployment => exact referable.image kept fun row member => ⟨row, member, rfl⟩
  | upload => exact referable.image kept fun row member => ⟨row, member, rfl⟩
  | markFailed => exact referable.image kept fun row member => ⟨row, member, rfl⟩
  | activate =>
    refine referable.image (Sites.KeepsApp.only ?_ _) fun row member => List.mem_map.mp member
    exact ⟨fun _ => rfl, fun _ => rfl, fun _ => rfl, fun _ => rfl⟩
  | rollback =>
    refine referable.image (Sites.KeepsApp.only ?_ _) fun row member => List.mem_map.mp member
    exact ⟨fun _ => rfl, fun _ => rfl, fun _ => rfl, fun _ => rfl⟩
  | renew =>
    refine referable.image (Sites.KeepsApp.only ?_ _) fun row member => List.mem_map.mp member
    exact ⟨fun _ => rfl, fun _ => rfl, fun _ => rfl, fun _ => rfl⟩
  | delete =>
    have emptied (gone : Uuid → Bool) : Sites.KeepsApp fun row =>
        if row.currentDeployment.any gone then { row with currentDeployment := none } else row :=
      (Sites.keepsApp_assign (.currentDeployment none)).only _
    exact referable.image (emptied _) fun row member => (List.mem_map.mp member).imp
      fun app old => ⟨(List.mem_filter.mp old.1).1, old.2⟩

theorem run_referable {start : World} {occurrences : List Occurrence} (initial : start.Initial)
    (clear : RunMeets settings library (ClearReferences library) start occurrences) :
    (runFrom settings library start occurrences).db.sites.Referable := by
  refine run_invariant (fun world => world.db.sites.Referable) (fun world occurrence clear now => ?_)
    clear ?_
  · rcases occurrence.next_sites settings library world with
      same | ⟨request, faults, act, rfl, admitted, applied, _⟩
    · rw [same]
      exact now
    · rw [applied]
      exact Act.referable admitted clear now
  · constructor <;> simp [Db.sites, initial.1]

/-! ### Resolving -/

theorem mem_scope {db : Db} {app : App} {company : Nat} :
    app ∈ db.scope (some company) ↔ app ∈ db.apps ∧ app.companyId = company := by
  simp [Db.scope]

/-- A plain text that the lookup of a company answers with `app`. -/
theorem resolveAppRef_of_lookup {ref : PyStr} {app : App} (plain : strip ref = ref) (full : ref ≠ [])
    (found : world.db.resolve (some app.companyId) ref = some app) :
    (resolveAppRef ref (some app.companyId)).run (Statement.handle settings) world =
      (.ok app, world) := by
  rw [resolveAppRef]
  simp only [plain, decide_eq_false full, Prog.when_false, Prog.ret_bind]
  show (Prog.ofExcept (Option.elim (world.db.resolve (some app.companyId) ref) _ _) :
    Transaction App).run _ world = _
  rw [found, Prog.run_ofExcept]
  rfl

theorem resolve_id (formed : world.db.sites.WellFormed) {app : App} (present : app ∈ world.db.apps) :
    world.db.resolve (some app.companyId) app.id.text = some app := by
  rw [Db.resolve, Uuid.parse_text]
  refine find?_only (mem_scope.mpr ⟨present, rfl⟩) (by simp) fun other listed same => ?_
  exact formed.app_eq (mem_scope.mp listed).1 present (by simpa using same)

theorem find?_name (formed : world.db.sites.WellFormed) {app : App} (present : app ∈ world.db.apps) :
    (world.db.scope (some app.companyId)).find? (·.name = app.name) = some app := by
  refine find?_only (mem_scope.mpr ⟨present, rfl⟩) (by simp) fun other listed same => ?_
  obtain ⟨there, company⟩ := mem_scope.mp listed
  refine List.inj_on_of_nodup_map formed.names there present ?_
  rw [company, show other.name = app.name by simpa using same]

theorem resolve_name (formed : world.db.sites.WellFormed) (referable : world.db.sites.Referable)
    {app : App} (present : app ∈ world.db.apps) :
    world.db.resolve (some app.companyId) app.name = some app := by
  rw [Db.resolve, referable.notIds app present]
  simp only [find?_name formed present, Option.some_or]

theorem resolve_slug (formed : world.db.sites.WellFormed) (referable : world.db.sites.Referable)
    {app : App} (present : app ∈ world.db.apps) :
    world.db.resolve (some app.companyId) app.slug = some app := by
  obtain ⟨draw, drawn⟩ := referable.slugs app present
  have notId : Uuid.parse app.slug = none := drawn ▸ candidate_parse draw
  rw [Db.resolve, notId]
  rcases named : (world.db.scope (some app.companyId)).find? (·.name = app.slug) with _ | other
  · simp only [named, Option.none_or]
    refine find?_only (mem_scope.mpr ⟨present, rfl⟩) (by simp) fun other listed same => ?_
    exact List.inj_on_of_nodup_map formed.slugs (mem_scope.mp listed).1 present (by simpa using same)
  · obtain ⟨there, company⟩ := mem_scope.mp (List.mem_of_find?_eq_some named)
    have same : other.name = app.slug := by simpa using List.find?_some named
    simp only [named, Option.some_or]
    rw [referable.apart other there app present company.symm same.symm]

end

/-- Each of the three references of an app is resolved to it. -/
def ReferencesResolve (settings : Settings) (world : World) (app : App) : Prop :=
  ∀ ref ∈ [app.id.text, app.name, app.slug],
    (resolveAppRef ref (some app.companyId)).run (Statement.handle settings) world = (.ok app, world)

/-- In every state of a run whose app creations keep references clear, every app is
found in its company under its id, its name and its slug. -/
theorem references_resolve (settings : Settings) (library : Library) (start : World)
    (occurrences : List Occurrence) (initial : start.Initial)
    (clear : RunMeets settings library (ClearReferences library) start occurrences) :
    ∀ app ∈ (runFrom settings library start occurrences).db.apps,
      ReferencesResolve settings (runFrom settings library start occurrences) app := by
  have formed := run_wellFormed settings library initial.wellFormed occurrences
  have referable := run_referable initial clear
  generalize runFrom settings library start occurrences = world at formed referable ⊢
  intro app present ref member
  simp only [List.mem_cons, List.not_mem_nil, or_false] at member
  rcases member with same | same | same
  · rw [same]
    refine resolveAppRef_of_lookup ?_ app.id.text_ne_nil (resolve_id formed present)
    exact stripBy_of_not_mem isSpace fun c inside => text_not_space inside
  · obtain ⟨full, plain⟩ := referable.names app present
    rw [same]
    exact resolveAppRef_of_lookup (strip_slugChars plain) full (resolve_name formed referable present)
  · obtain ⟨draw, drawn⟩ := referable.slugs app present
    rw [same]
    refine resolveAppRef_of_lookup (strip_slugChars ?_) ?_ (resolve_slug formed referable present)
    · exact drawn ▸ candidate_slugChars draw
    · simp [drawn, SlugDraw.candidate]

theorem clearReferences_of {library : Library} {world : World} {new : NewApp}
    {faults : List (Option Error)} {name slug : PyStr}
    (named : validateAppName library new.name = .ok name)
    (drawn : world.db.sites.publicSlug new.draws = some slug) (plain : Uuid.parse name = none)
    (apart : ∀ app ∈ world.db.apps, app.companyId = new.companyId →
      app.slug ≠ name ∧ app.name ≠ slug) :
    ClearReferences library world (.request (.createApp new) faults) := by
  constructor
  · intro other valid
    obtain rfl := Except.ok.inj (named.symm.trans valid)
    exact ⟨plain, fun app present company => (apart app present company).1⟩
  · intro other found app present company
    obtain rfl := Option.some.inj (drawn.symm.trans found)
    exact (apart app present company).2

/-- Two apps of one company, and a preview. -/
def threeApps : List Occurrence :=
  [(Request.createApp demoApp).served,
    (Request.createApp { demoApp with
      name := lit "docs", appId := ⟨3⟩, draws := fun _ => letterDraw 5 }).served,
    preparePreview none 7 ⟨4⟩ ⟨5⟩]

theorem references_resolve_three :
    (runFrom defaultSettings demoLibrary emptyWorld threeApps).db.apps.length = 3 ∧
    ∀ app ∈ (runFrom defaultSettings demoLibrary emptyWorld threeApps).db.apps,
      ReferencesResolve defaultSettings
        (runFrom defaultSettings demoLibrary emptyWorld threeApps) app := by
  refine ⟨by decide +kernel, references_resolve defaultSettings demoLibrary emptyWorld threeApps
    emptyWorld_initial ⟨?demo, ?docs, trivial, trivial⟩⟩
  case demo =>
    exact @clearReferences_of _ _ _ _ (lit "demo") (letterDraw 3).candidate (by decide +kernel)
      (by decide +kernel) (by decide +kernel) (by decide +kernel)
  case docs =>
    exact @clearReferences_of _ _ _ _ (lit "docs") (letterDraw 5).candidate (by decide +kernel)
      (by decide +kernel) (by decide +kernel) (by decide +kernel)

/-- A name of 32 hexadecimal digits is a valid name, and taken for an id. -/
def hexNamed : List Occurrence :=
  [(Request.createApp { demoApp with name := lit "deadbeefdeadbeefdeadbeefdeadbeef" }).served]

theorem hex_name_not_found :
    ¬ ∀ app ∈ (runFrom defaultSettings demoLibrary emptyWorld hexNamed).db.apps,
      ReferencesResolve defaultSettings (runFrom defaultSettings demoLibrary emptyWorld hexNamed)
        app := by
  intro resolves
  obtain ⟨app, found⟩ : ∃ app, (runFrom defaultSettings demoLibrary emptyWorld hexNamed).db.app ⟨1⟩ =
      some app := Option.isSome_iff_exists.mp (by decide +kernel)
  have named : ((runFrom defaultSettings demoLibrary emptyWorld hexNamed).db.app ⟨1⟩).map
      (fun app => (app.name, app.companyId)) =
      some (lit "deadbeefdeadbeefdeadbeefdeadbeef", 3) := by decide +kernel
  rw [found, Option.map_some, Option.some_inj, Prod.mk.injEq] at named
  have resolved := congrArg Prod.fst (resolves app (Db.mem_of_app found).1 app.name (by simp))
  have missing : ((resolveAppRef (lit "deadbeefdeadbeefdeadbeefdeadbeef") (some 3)).run
      (Statement.handle defaultSettings)
      (runFrom defaultSettings demoLibrary emptyWorld hexNamed)).1 = .error appNotFound := by
    decide +kernel
  rw [named.1, named.2, missing] at resolved
  contradiction

end HostingService
