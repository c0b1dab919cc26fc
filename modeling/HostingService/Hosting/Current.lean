import HostingService.Hosting.Runs

/-! The current deployment of an app is its only active one. -/

namespace HostingService

open Text

/-- No deployment of the app is or was active, or the current one is the only active one. -/
def Settled (rows : List Deployment) (app : App) : Prop :=
  (app.currentDeployment = none ∧
    ∀ row ∈ rows, row.app = app.id → row.status ∉ [.active, .superseded]) ∨
  ∃ row ∈ rows, app.currentDeployment = some row.id ∧ row.app = app.id ∧ row.status = .active ∧
    ∀ other ∈ rows, other.app = app.id → other.status = .active → other = row

/-- Only the rows of the app matter. -/
theorem Settled.congr {rows others : List Deployment} {app : App}
    (same : ∀ row : Deployment, row.app = app.id → (row ∈ rows ↔ row ∈ others))
    (settled : Settled rows app) : Settled others app := by
  rcases settled with ⟨empty, quiet⟩ | ⟨row, member, current, owner, active, only⟩
  · left
    exact ⟨empty, fun row member owner => quiet row ((same row owner).mpr member) owner⟩
  · right
    refine ⟨row, (same row owner).mp member, current, owner, active, fun other present owned => ?_⟩
    exact only other ((same other owned).mpr present) owned

theorem Settled.of_app {rows : List Deployment} {app other : App} (settled : Settled rows app)
    (id : other.id = app.id) (current : other.currentDeployment = app.currentDeployment) :
    Settled rows other := by
  unfold Settled
  rwa [id, current]

theorem Settled.insert_draft {rows : List Deployment} {app : App} {row : Deployment}
    (settled : Settled rows app) (draft : row.status = .draft) : Settled (rows ++ [row]) app := by
  rcases settled with ⟨empty, quiet⟩ | ⟨active, member, current, owner, running, only⟩
  · refine .inl ⟨empty, fun other present owned => ?_⟩
    rcases List.mem_append.mp present with old | new
    · exact quiet other old owned
    · obtain rfl := List.mem_singleton.mp new
      simp [draft]
  · refine .inr ⟨active, List.mem_append_left _ member, current, owner, running, ?_⟩
    intro other present owned isActive
    rcases List.mem_append.mp present with old | new
    · exact only other old owned isActive
    · obtain rfl := List.mem_singleton.mp new
      rw [draft] at isActive
      contradiction

/-- Rows of the app that a change leaves alone stay, and none is added. -/
theorem Settled.map_fixed {rows : List Deployment} {app : App} {change : Deployment → Deployment}
    (keeps : Sites.KeepsDeployment change)
    (fixed : ∀ row ∈ rows, row.app = app.id → change row = row) (settled : Settled rows app) :
    Settled (rows.map change) app := by
  refine settled.congr fun row owner => ?_
  constructor
  · intro member
    exact List.mem_map.mpr ⟨row, member, fixed row member owner⟩
  · intro member
    obtain ⟨old, present, rfl⟩ := List.mem_map.mp member
    rw [keeps.owner] at owner
    rwa [fixed old present owner]

/-! ### Acts -/

/-- What an act needs of the tables to keep the apps settled. The row of an act may be
out of date; what counts is the stored row with its id. -/
def Act.Legal (sites : Sites) : Act → Prop
  | .createApp app => sites.BlankApp app
  | .createDeployment row => sites.BlankDeployment row
  | .createPreview app row => sites.BlankApp app ∧ (sites.insertApp app).BlankDeployment row
  | .reopen row columns => columns.status ∉ [.active, .superseded] ∧
      ∀ stored ∈ sites.deployments, stored.id = row.id → stored.status ≠ .active
  | .makeCurrent row _ _ => ∃ stored ∈ sites.deployments, stored.id = row.id ∧ stored.app = row.app
  | .renew _ _ => True
  | .delete _ => True

section
variable {sites : Sites}

theorem settled_createApp {app : App} (formed : sites.WellFormed) (blank : sites.BlankApp app)
    (settled : ∀ other ∈ sites.apps, Settled sites.deployments other) :
    ∀ other ∈ (sites.insertApp app).apps, Settled (sites.insertApp app).deployments other := by
  intro other member
  rcases List.mem_append.mp member with old | new
  · exact settled other old
  · obtain rfl := List.mem_singleton.mp new
    refine .inl ⟨blank.currentDeployment, fun row present owner => ?_⟩
    obtain ⟨owning, stored, same⟩ := formed.owned row present
    exact absurd (same.trans owner) (blank.fresh owning stored).1

theorem settled_createDeployment {row : Deployment} (blank : sites.BlankDeployment row)
    (settled : ∀ other ∈ sites.apps, Settled sites.deployments other) :
    ∀ other ∈ (sites.insertDeployment row).apps,
      Settled (sites.insertDeployment row).deployments other :=
  fun other member => (settled other member).insert_draft blank.status

theorem settled_reopen {row : Deployment} {columns : DeploymentColumns} {app : App}
    (quiet : columns.status ∉ [.active, .superseded])
    (idle : ∀ stored ∈ sites.deployments, stored.id = row.id → stored.status ≠ .active)
    (settled : Settled sites.deployments app) :
    Settled (sites.deployments.map fun other =>
      if other.id = row.id then other.assign columns else other) app := by
  rcases settled with ⟨empty, none⟩ | ⟨active, member, current, owner, running, only⟩
  · refine .inl ⟨empty, fun other present owned => ?_⟩
    obtain ⟨old, stored, rfl⟩ := List.mem_map.mp present
    split
    · exact quiet
    · rename_i other
      rw [if_neg other] at owned
      exact none old stored owned
  · have kept : active.id ≠ row.id := fun same => idle active member same running
    refine .inr ⟨active, List.mem_map.mpr ⟨active, member, if_neg kept⟩, current, owner, running, ?_⟩
    intro other present owned isActive
    obtain ⟨old, stored, rfl⟩ := List.mem_map.mp present
    by_cases same : old.id = row.id
    · rw [if_pos same] at isActive
      exact absurd (by simpa using isActive) (fun active => quiet (by simp [active]))
    · rw [if_neg same] at owned isActive ⊢
      exact only old stored owned isActive

theorem keepsDeployment_currentRow (app id : Uuid) (finalizedAt : Time) :
    Sites.KeepsDeployment (Sites.currentRow app id finalizedAt) := by
  constructor
  all_goals intro row
  all_goals rw [Sites.currentRow]
  all_goals split <;> simp

/-- Of the rows of the app, only the new current one is active afterwards. -/
theorem currentRow_active {app id : Uuid} {finalizedAt : Time} {row : Deployment}
    (owner : row.app = app) (active : (Sites.currentRow app id finalizedAt row).status = .active) :
    row.id = id := by
  by_contra other
  rw [Sites.currentRow, if_neg other, Deployment.supersededBy] at active
  split at active
  · contradiction
  · rename_i idle
    exact idle ⟨owner, active, other⟩

theorem currentRow_other {app id : Uuid} {finalizedAt : Time} {row : Deployment}
    (foreign : row.app ≠ app) (other : row.id ≠ id) :
    Sites.currentRow app id finalizedAt row = row := by
  rw [Sites.currentRow, if_neg other, Deployment.supersededBy, if_neg fun both => foreign both.1]

theorem settled_makeCurrent {row stored : Deployment} {finalizedAt : Time} {renewed : Option Time}
    (formed : sites.WellFormed) (member : stored ∈ sites.deployments) (same : stored.id = row.id)
    (owner : stored.app = row.app)
    (settled : ∀ other ∈ sites.apps, Settled sites.deployments other) :
    ∀ other ∈ ((Act.makeCurrent row finalizedAt renewed).apply sites).apps,
      Settled ((Act.makeCurrent row finalizedAt renewed).apply sites).deployments other := by
  have keeps := keepsDeployment_currentRow row.app row.id finalizedAt
  intro app present
  obtain ⟨old, found, rfl⟩ := List.mem_map.mp present
  by_cases target : old.id = row.app
  · rw [if_pos target]
    have promoted : Sites.currentRow row.app row.id finalizedAt stored =
        stored.assign ⟨.active, none, some (some finalizedAt)⟩ := if_pos same
    refine .inr ⟨_, List.mem_map_of_mem member, ?_, ?_, ?_, ?_⟩
    · rw [keeps.id, same]
    · rw [keeps.owner, owner, target]
    · rw [promoted, Deployment.assign_status]
    · intro other listed owned active
      obtain ⟨before, stays, rfl⟩ := List.mem_map.mp listed
      rw [keeps.owner] at owned
      have chosen := currentRow_active (owned.trans target) active
      rw [formed.deployment_eq stays member (chosen.trans same.symm)]
  · rw [if_neg target]
    refine (settled old found).map_fixed keeps fun other stays owned => ?_
    have foreign : other.app ≠ row.app := fun owns => target (owned.symm.trans owns)
    refine currentRow_other foreign fun sameId => foreign ?_
    rw [formed.deployment_eq stays member (sameId.trans same.symm), owner]

/-- The current deployment of another app does not go with the deleted app. -/
theorem Settled.kept {app other : App} (formed : sites.WellFormed)
    (settled : Settled sites.deployments other) (different : other.id ≠ app.id) :
    (other.currentDeployment.any fun current =>
      current ∈ (sites.deployments.filter (·.app = app.id)).map (·.id)) = false := by
  rcases settled with ⟨empty, _⟩ | ⟨row, stored, current, owner, _, _⟩
  · rw [empty]
    rfl
  · rw [current, Option.any_some, decide_eq_false_iff_not]
    intro doomed
    obtain ⟨victim, listed, sameId⟩ := List.mem_map.mp doomed
    obtain ⟨there, belongs⟩ := List.mem_filter.mp listed
    have same := formed.deployment_eq there stored sameId
    have owned : victim.app = app.id := by simpa using belongs
    exact different (by rw [← owner, ← same, owned])

theorem settled_delete {app : App} (formed : sites.WellFormed)
    (settled : ∀ other ∈ sites.apps, Settled sites.deployments other) :
    ∀ other ∈ ((Act.delete app).apply sites).apps,
      Settled ((Act.delete app).apply sites).deployments other := by
  intro other member
  obtain ⟨old, remaining, rfl⟩ := List.mem_map.mp member
  obtain ⟨present, stays⟩ := List.mem_filter.mp remaining
  have different : old.id ≠ app.id := by simpa using stays
  rw [(settled old present).kept formed different]
  refine (settled old present).congr fun row owner => ?_
  simp [Act.apply, Sites.without, owner, different]

/-- Every legal act keeps every app settled. -/
theorem Act.settled {act : Act} (formed : sites.WellFormed) (legal : act.Legal sites)
    (settled : ∀ app ∈ sites.apps, Settled sites.deployments app) :
    ∀ app ∈ (act.apply sites).apps, Settled (act.apply sites).deployments app := by
  cases act with
  | createApp app => exact settled_createApp formed legal settled
  | createDeployment row => exact settled_createDeployment legal settled
  | createPreview app row =>
    exact settled_createDeployment legal.2 (settled_createApp formed legal.1 settled)
  | reopen row columns =>
    exact fun app present => settled_reopen legal.1 legal.2 (settled app present)
  | makeCurrent row finalizedAt renewed =>
    obtain ⟨stored, member, same, owner⟩ := legal
    exact settled_makeCurrent formed member same owner settled
  | renew app expiresAt =>
    intro other present
    obtain ⟨old, found, rfl⟩ := List.mem_map.mp present
    refine (settled old found).of_app ?_ ?_
    · split <;> rfl
    · split <;> rfl
  | delete app => exact settled_delete formed settled

/-! ### Requests and runs -/

variable {settings : Settings} {library : Library} {now : Time} {request : Request} {act : Act}

theorem Request.Admits.legal (formed : sites.WellFormed)
    (admitted : request.Admits settings library now sites act) : act.Legal sites := by
  cases admitted with
  | createApp blank => exact blank
  | createPreview blank company room named drawn created draft => exact ⟨blank, draft⟩
  | redeploy draft => exact draft
  | createDeployment draft => exact draft
  | @upload row fileobj contentLength size found opened =>
    refine ⟨by simp, fun stored member same active => ?_⟩
    rw [formed.deployment_eq member found same] at active
    simp [active] at opened
  | activate found => exact ⟨_, found, rfl, rfl⟩
  | @markFailed row userId actorEmail found ready =>
    refine ⟨by simp, fun stored member same active => ?_⟩
    rw [formed.deployment_eq member found same] at active
    simp [active] at ready
  | rollback found => exact ⟨_, found, rfl, rfl⟩
  | renew present => trivial
  | delete present => trivial

/-- What is or was active has an artifact. -/
def Sites.Stored (sites : Sites) : Prop :=
  ∀ row ∈ sites.deployments, row.status ∈ [.active, .superseded] → row.artifactSize ≠ 0

theorem stored_insertDeployment {row : Deployment} {sites : Sites} (draft : row.status = .draft)
    (stored : sites.Stored) : (sites.insertDeployment row).Stored := by
  intro other member served
  rcases List.mem_append.mp member with old | new
  · exact stored other old served
  · obtain rfl := List.mem_singleton.mp new
    simp [draft] at served

theorem Request.Admits.stored (formed : sites.WellFormed)
    (admitted : request.Admits settings library now sites act) (stored : sites.Stored) :
    (act.apply sites).Stored := by
  have reopened {row : Deployment} {columns : DeploymentColumns}
      (quiet : columns.status ∉ [.active, .superseded]) :
      ((Act.reopen row columns).apply sites).Stored := by
    intro other member served
    obtain ⟨old, present, rfl⟩ := List.mem_map.mp member
    split at served
    · exact absurd served quiet
    · rename_i other
      rw [if_neg other]
      exact stored old present served
  have promoted {row : Deployment} {finalizedAt : Time} {renewed : Option Time}
      (found : row ∈ sites.deployments) (full : row.artifactSize ≠ 0) :
      ((Act.makeCurrent row finalizedAt renewed).apply sites).Stored := by
    intro other member served
    obtain ⟨old, present, rfl⟩ := List.mem_map.mp member
    by_cases same : old.id = row.id
    · obtain rfl := formed.deployment_eq present found same
      simpa [Sites.currentRow, Deployment.assign] using full
    · rw [Sites.currentRow, if_neg same] at served ⊢
      rw [Deployment.supersededBy_artifactSize]
      refine stored old present ?_
      rw [Deployment.supersededBy] at served
      split at served
      · rename_i running
        simp [running.2.1]
      · exact served
  cases admitted with
  | createApp => exact stored
  | createPreview blank company room named drawn created draft =>
    exact stored_insertDeployment draft.status stored
  | redeploy draft => exact stored_insertDeployment draft.status stored
  | createDeployment draft => exact stored_insertDeployment draft.status stored
  | upload => exact reopened (by simp)
  | activate found ready full => exact promoted found full
  | markFailed => exact reopened (by simp)
  | rollback found served full => exact promoted found full
  | renew => exact stored
  | delete =>
    intro row member
    exact stored row (List.mem_filter.mp member).1

/-- The invariant of the tables. -/
structure Sites.Consistent (sites : Sites) : Prop where
  formed : sites.WellFormed
  settled : ∀ app ∈ sites.apps, Settled sites.deployments app
  stored : sites.Stored

theorem Occurrence.next_consistent (occurrence : Occurrence) {world : World}
    (consistent : world.db.sites.Consistent) :
    (occurrence.next settings library world).db.sites.Consistent := by
  refine ⟨occurrence.next_wellFormed settings library consistent.formed, ?_, ?_⟩
  · rcases occurrence.next_sites settings library world with
      same | ⟨request, faults, act, _, admitted, applied, _⟩
    · rw [same]
      exact consistent.settled
    · rw [applied]
      exact Act.settled consistent.formed (admitted.legal consistent.formed) consistent.settled
  · rcases occurrence.next_sites settings library world with
      same | ⟨request, faults, act, _, admitted, applied, _⟩
    · rw [same]
      exact consistent.stored
    · rw [applied]
      exact admitted.stored consistent.formed consistent.stored

theorem World.Initial.consistent {world : World} (initial : world.Initial) :
    world.db.sites.Consistent := by
  obtain ⟨apps, deployments⟩ := initial
  refine ⟨World.Initial.wellFormed ⟨apps, deployments⟩, ?_, ?_⟩
  · simp [Db.sites, apps]
  · simp [Sites.Stored, Db.sites, deployments]

theorem run_consistent {world : World} (consistent : world.db.sites.Consistent)
    (occurrences : List Occurrence) :
    (runFrom settings library world occurrences).db.sites.Consistent :=
  run_invariant (fun world => world.db.sites.Consistent)
    (fun _ occurrence _ now => occurrence.next_consistent now) runMeets_always consistent

theorem World.Reachable.consistent {world : World} (reachable : world.Reachable settings library) :
    world.db.sites.Consistent := by
  obtain ⟨start, occurrences, initial, rfl⟩ := reachable
  exact run_consistent initial.consistent occurrences

end

/-- The current deployment is empty and no deployment of the app is or was active, or it
is a deployment of the app, has an artifact and is the app's only active one. -/
def Db.CurrentSound (db : Db) (app : App) : Prop :=
  match app.currentDeployment with
  | none => ∀ row ∈ db.deployments, row.app = app.id →
      row.status ≠ .active ∧ row.status ≠ .superseded
  | some current => ∃ row, db.deployment current = some row ∧ row.app = app.id ∧
      row.status = .active ∧ row.artifactSize > 0 ∧
      ∀ other ∈ db.deployments, other.app = app.id → other.status = .active → other = row

/-- In every state of a run without overlapping requests, whatever the file store does. -/
theorem reachable_current (settings : Settings) (library : Library) (world : World)
    (reachable : world.Reachable settings library) :
    ∀ app ∈ world.db.apps, world.db.CurrentSound app := by
  have consistent := reachable.consistent
  intro app present
  rcases consistent.settled app present with ⟨empty, quiet⟩ | ⟨row, member, current, owner, active, only⟩
  · rw [Db.CurrentSound, empty]
    exact fun row member owner => by simpa using quiet row member owner
  · rw [Db.CurrentSound, current]
    refine ⟨row, Db.deployment_of_mem consistent.formed member, owner, active, ?_, only⟩
    exact Nat.pos_of_ne_zero (consistent.stored row member (by simp [active]))

theorem reachable_current_firstSite :
    (runFrom defaultSettings demoLibrary emptyWorld firstSite).db.apps.length = 1 ∧
      ∀ app ∈ (runFrom defaultSettings demoLibrary emptyWorld firstSite).db.apps,
        (runFrom defaultSettings demoLibrary emptyWorld firstSite).db.CurrentSound app :=
  ⟨by decide +kernel, reachable_current defaultSettings demoLibrary _ (reachable_from_empty ..)⟩

end HostingService
