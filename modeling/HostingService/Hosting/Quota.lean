import HostingService.Hosting.Runs

/-! How many unexpired apps a company may have over a run. -/

namespace HostingService

open Text

/-! ### Counting rows -/

theorem countP_map_le {α : Type} {test : α → Bool} {change : α → α} {rows : List α}
    (shrinks : ∀ row ∈ rows, test (change row) = true → test row = true) :
    (rows.map change).countP test ≤ rows.countP test := by
  rw [List.countP_map]
  exact List.countP_mono_left fun row member passes => shrinks row member passes

/-- A change of the row of one key adds at most one row to the count. -/
theorem countP_map_one {α β : Type} [DecidableEq β] {key : α → β} {test : α → Bool}
    {change : α → α} {rows : List α} {chosen : β} (unique : (rows.map key).Nodup)
    (fixed : ∀ row ∈ rows, key row ≠ chosen → change row = row) :
    (rows.map change).countP test ≤ rows.countP test + 1 := by
  induction rows with
  | nil => simp
  | cons row rows ih =>
    rw [List.map_cons, List.nodup_cons] at unique
    have later := ih unique.2 fun other member => fixed other (List.mem_cons_of_mem _ member)
    rw [List.map_cons, List.countP_cons, List.countP_cons]
    by_cases same : key row = chosen
    · have rest : rows.map change = rows := by
        refine (List.map_congr_left fun other member => ?_).trans (List.map_id' rows)
        refine fixed other (List.mem_cons_of_mem _ member) fun clash => unique.1 ?_
        exact List.mem_map.mpr ⟨other, member, clash.trans same.symm⟩
      rw [rest]
      split <;> split <;> omega
    · rw [fixed row (by simp) same]
      omega

namespace Sites

/-- `_active_app_count` -/
def activeApps (sites : Sites) (company : Nat) (now : Time) : Nat :=
  sites.apps.countP fun app => app.companyId = company && app.unexpired now

theorem activeApps_eq (sites : Sites) (company : Nat) (now : Time) :
    ((sites.apps.filter (·.companyId = company)).filter (·.unexpired now)).length =
      sites.activeApps company now := by
  rw [activeApps, List.countP_eq_length_filter, List.filter_filter]
  congr 1
  exact List.filter_congr fun app _ => Bool.and_comm _ _

end Sites

theorem App.unexpired_earlier {app : App} {now later : Time} (passes : now ≤ later)
    (live : app.unexpired later = true) : app.unexpired now = true := by
  rw [unexpired] at live ⊢
  rcases expires : app.expiresAt with _ | expiresAt
  · rfl
  · rw [expires, Option.all_some, decide_eq_true_eq] at live
    rw [Option.all_some, decide_eq_true_eq]
    exact passes.trans_lt live

/-! ### What an act adds -/

section
variable {settings : Settings} {library : Library} {sites : Sites} {company : Nat} {now : Time}

theorem activeApps_later (sites : Sites) (company : Nat) {later : Time} (passes : now ≤ later) :
    sites.activeApps company later ≤ sites.activeApps company now := by
  refine List.countP_mono_left fun _ _ counted => ?_
  rw [Bool.and_eq_true] at counted ⊢
  exact ⟨counted.1, App.unexpired_earlier passes counted.2⟩

theorem activeApps_le_rows :
    sites.activeApps company now ≤ (sites.apps.filter (·.companyId = company)).length := by
  rw [← Sites.activeApps_eq]
  exact List.length_filter_le ..

theorem activeApps_insert {app : App} :
    (sites.insertApp app).activeApps company now ≤ sites.activeApps company now +
      if app.companyId = company then 1 else 0 := by
  rw [Sites.activeApps, Sites.insertApp, List.countP_append, List.countP_singleton]
  by_cases same : app.companyId = company
  · rw [if_pos same, Sites.activeApps]
    split <;> omega
  · simp [same, Sites.activeApps]

/-- A change of one app adds it to the count only if it is of the company and expired. -/
theorem activeApps_mapApp {app : App} {change : App → App} (formed : sites.WellFormed)
    (present : app ∈ sites.apps)
    (shrinks : ((change app).companyId = company && (change app).unexpired now) = true →
      (app.companyId = company && app.unexpired now) = true) :
    (sites.mapApp app.id change).activeApps company now ≤ sites.activeApps company now := by
  refine countP_map_le fun _ member counted => ?_
  split at counted
  · rename_i same
    obtain rfl := formed.app_eq member present same
    exact shrinks counted
  · exact counted

theorem activeApps_mapApp_one {id : Uuid} {change : App → App} (formed : sites.WellFormed) :
    (sites.mapApp id change).activeApps company now ≤ sites.activeApps company now + 1 :=
  countP_map_one formed.appIds fun _ _ other => if_neg other

/-- A finalize for an expired preview of a company that is at its limit. -/
def Request.Revives (settings : Settings) (company : Nat) (now : Time) (sites : Sites) :
    Request → Prop
  | .finalize id _ _ => settings.hostingMaxAppsPerCompany ≤ sites.activeApps company now ∧
      ∃ row ∈ sites.deployments, row.id = id ∧ ∃ app ∈ sites.apps, app.id = row.app ∧
        app.companyId = company ∧ app.createdById.isSome = true ∧ app.unexpired now = false
  | _ => False

instance decidableRevives (settings : Settings) (company : Nat) (now : Time) (sites : Sites) :
    ∀ request : Request, Decidable (request.Revives settings company now sites)
  | .finalize _ _ _ => inferInstanceAs (Decidable (_ ∧ _))
  | .createApp _ | .preparePreviewDeploy _ _ _ _ | .createDeployment _ _ | .upload _ _ _
  | .rollback _ | .renew _ | .delete _ _ _ => .isFalse id

theorem Request.Admits.activeApps (company : Nat) {request : Request} {act : Act}
    (formed : sites.WellFormed) (admitted : request.Admits settings library now sites act) :
    ((act.apply sites).activeApps company now : Int) ≤
        max settings.hostingMaxAppsPerCompany (sites.activeApps company now) ∨
      request.Revives settings company now sites ∧ ¬ act.Reopens ∧
        (act.apply sites).activeApps company now ≤ sites.activeApps company now + 1 := by
  have unchanged {others : Sites} (same : others.activeApps company now ≤
      sites.activeApps company now) : (others.activeApps company now : Int) ≤
        max settings.hostingMaxAppsPerCompany (sites.activeApps company now) :=
    le_max_of_le_right (Int.ofNat_le.mpr same)
  cases admitted with
  | @createApp new app blank owner room named drawn unowned =>
    left
    have added : (sites.insertApp app).activeApps company now ≤ _ := activeApps_insert
    by_cases same : app.companyId = company
    · rw [if_pos same] at added
      rw [← owner, same] at room
      have counted : sites.activeApps company now ≤ _ := activeApps_le_rows
      refine le_max_of_le_left ?_
      show ((sites.insertApp app).activeApps company now : Int) ≤ _
      omega
    · rw [if_neg same] at added
      exact unchanged added
  | @createPreview preview slug anyUser new app row blank owner room named drawn created draft owned =>
    left
    have added : (sites.insertApp app).activeApps company now ≤ _ := activeApps_insert
    by_cases same : app.companyId = company
    · rw [if_pos same] at added
      rw [← owner, same, Sites.activeApps_eq] at room
      refine le_max_of_le_left ?_
      show ((sites.insertApp app).activeApps company now : Int) ≤ _
      omega
    · rw [if_neg same] at added
      exact unchanged added
  | redeploy => exact .inl (unchanged le_rfl)
  | createDeployment => exact .inl (unchanged le_rfl)
  | upload => exact .inl (unchanged le_rfl)
  | markFailed => exact .inl (unchanged le_rfl)
  | @activate row app userId actorEmail found ready full present owner =>
    by_cases revived : app.companyId = company ∧ app.createdById.isSome = true ∧
        app.unexpired now = false
    · have added : ((Act.makeCurrent row now
          (app.createdById.map fun _ => renewal settings now)).apply sites).activeApps company now ≤
          sites.activeApps company now + 1 := activeApps_mapApp_one formed
      by_cases full : settings.hostingMaxAppsPerCompany ≤ sites.activeApps company now
      · exact .inr ⟨⟨full, row, found, rfl, app, present, owner, revived⟩, id, added⟩
      · exact .inl (le_max_of_le_left (by omega))
    · refine .inl (unchanged ?_)
      show (sites.mapApp row.app _).activeApps company now ≤ _
      rw [← owner]
      refine activeApps_mapApp formed present fun counted => ?_
      simp only [Bool.and_eq_true, decide_eq_true_eq] at counted ⊢
      refine ⟨counted.1, ?_⟩
      by_contra expired
      rw [Bool.not_eq_true] at expired
      rcases created : app.createdById with _ | user
      · have live := counted.2
        simp only [created, Option.map_none, Option.none_or, App.unexpired] at live
        simp [App.unexpired, live] at expired
      · exact revived ⟨counted.1, by rw [created]; rfl, expired⟩
  | @rollback row finalizedAt found served full owned =>
    obtain ⟨app, present, owner⟩ := owned
    refine .inl (unchanged ?_)
    show (sites.mapApp row.app _).activeApps company now ≤ _
    rw [← owner]
    exact activeApps_mapApp formed present fun counted => counted
  | renew present preview live =>
    refine .inl (unchanged (activeApps_mapApp formed present fun counted => ?_))
    simp only [Bool.and_eq_true, decide_eq_true_eq] at counted ⊢
    exact ⟨counted.1, live⟩
  | delete present =>
    refine .inl (unchanged ((countP_map_le fun _ _ counted => ?_).trans
      (List.filter_sublist.countP_le)))
    split at counted <;> exact counted

/-! ### Runs -/

/-- The finalize also goes through. -/
def Occurrence.Revives (settings : Settings) (library : Library) (company : Nat) (world : World) :
    Occurrence → Prop
  | .request asked faults => asked.Revives settings company world.clock world.db.sites ∧
      (asked.run settings library faults world).1 = .ok ()
  | _ => False

instance (settings : Settings) (library : Library) (company : Nat) (world : World) :
    ∀ occurrence : Occurrence, Decidable (occurrence.Revives settings library company world)
  | .request _ _ => inferInstanceAs (Decidable (_ ∧ _))
  | .visit _ _ _ | .passes _ | .grants _ => .isFalse id

/-- How often in the run a finalize brings back an expired preview over the limit. -/
def revivals (settings : Settings) (library : Library) (company : Nat) :
    World → List Occurrence → Nat
  | _, [] => 0
  | world, occurrence :: later =>
    (if occurrence.Revives settings library company world then 1 else 0) +
      revivals settings library company (occurrence.next settings library world) later

theorem next_activeApps (settings : Settings) (library : Library) (company : Nat) {world : World}
    (occurrence : Occurrence) (formed : world.db.sites.WellFormed) :
    ((occurrence.next settings library world).db.sites.activeApps company
        (occurrence.next settings library world).clock : Int) ≤
      max settings.hostingMaxAppsPerCompany (world.db.sites.activeApps company world.clock) +
        if occurrence.Revives settings library company world then 1 else 0 := by
  have passes := occurrence.next_clock settings library world
  have later := activeApps_later (occurrence.next settings library world).db.sites company passes
  rcases occurrence.next_sites settings library world with
    same | ⟨request, faults, act, rfl, admitted, applied, ends⟩
  · rw [same] at later ⊢
    have bound : (world.db.sites.activeApps company world.clock : Int) ≤
        max settings.hostingMaxAppsPerCompany _ := le_max_right ..
    split <;> omega
  · rw [applied] at later ⊢
    rcases admitted.activeApps company formed with bounded | ⟨revives, kept, added⟩
    · split <;> omega
    · have counted : (Occurrence.request request faults).Revives settings library company world :=
        ⟨revives, ends.resolve_right kept⟩
      have bound : (world.db.sites.activeApps company world.clock : Int) ≤
        max settings.hostingMaxAppsPerCompany _ := le_max_right ..
      rw [if_pos counted]
      omega

theorem run_activeApps (settings : Settings) (library : Library) (company : Nat) {world : World}
    (formed : world.db.sites.WellFormed) (occurrences : List Occurrence) :
    ((runFrom settings library world occurrences).db.sites.activeApps company
        (runFrom settings library world occurrences).clock : Int) ≤
      max settings.hostingMaxAppsPerCompany (world.db.sites.activeApps company world.clock) +
        revivals settings library company world occurrences := by
  induction occurrences generalizing world with
  | nil => simp [runFrom, revivals]
  | cons occurrence later ih =>
    have first := next_activeApps settings library company occurrence formed
    have rest := ih (occurrence.next_wellFormed settings library formed)
    refine rest.trans ?_
    rw [revivals]
    by_cases revives : occurrence.Revives settings library company world
    · rw [if_pos revives] at first ⊢
      omega
    · rw [if_neg revives] at first ⊢
      omega

end

/-- In every state of a run, a company has at most as many unexpired apps as the limit says,
and one more for each successful finalize that brought back an expired preview over it. -/
theorem activeApps_le_quota (settings : Settings) (library : Library) (start : World)
    (occurrences : List Occurrence) (company : Nat) (initial : start.Initial)
    (positive : 1 ≤ settings.hostingMaxAppsPerCompany) :
    ((runFrom settings library start occurrences).db.sites.activeApps company
        (runFrom settings library start occurrences).clock : Int) ≤
      settings.hostingMaxAppsPerCompany + revivals settings library company start occurrences := by
  have bound := run_activeApps settings library company initial.wellFormed occurrences
  have none : start.db.sites.activeApps company start.clock = 0 := by
    simp [Sites.activeApps, Db.sites, initial.1]
  rw [none] at bound
  refine bound.trans (by omega)

/-! A company with a limit of one site. Its preview expires, it creates another one,
and then deploys again to the first. -/

def oneSite : Settings := { defaultSettings with hostingMaxAppsPerCompany := 1 }

def revivedPreview : List Occurrence :=
  preparePreview none 0 ⟨1⟩ ⟨2⟩ :: uploadAndFinalize ⟨2⟩ ++
    [.passes (8 * 86400 * 1000000), preparePreview none 1 ⟨3⟩ ⟨4⟩,
      preparePreview (some (letterDraw 0).candidate) 0 ⟨1⟩ ⟨5⟩] ++ uploadAndFinalize ⟨5⟩

theorem activeApps_le_quota_revived :
    ((runFrom oneSite demoLibrary emptyWorld revivedPreview).db.sites.activeApps 3
        (runFrom oneSite demoLibrary emptyWorld revivedPreview).clock : Int) ≤
      oneSite.hostingMaxAppsPerCompany +
        revivals oneSite demoLibrary 3 emptyWorld revivedPreview :=
  activeApps_le_quota oneSite demoLibrary emptyWorld revivedPreview 3 emptyWorld_initial (by decide)

theorem revived_preview_exceeds_quota :
    ¬ ((runFrom oneSite demoLibrary emptyWorld revivedPreview).db.sites.activeApps 3
        (runFrom oneSite demoLibrary emptyWorld revivedPreview).clock : Int) ≤
      oneSite.hostingMaxAppsPerCompany := by
  have two : (runFrom oneSite demoLibrary emptyWorld revivedPreview).db.sites.activeApps 3
      (runFrom oneSite demoLibrary emptyWorld revivedPreview).clock = 2 := by decide +kernel
  rw [two]
  decide

end HostingService
