import HostingService.Hosting.Current
import HostingService.Program.Tables

/-! Acts on some of the apps leave the other apps and their deployments alone. -/

namespace HostingService

open Program Text

/-- The apps outside a set. -/
def Sites.outer (inside : App → Bool) (sites : Sites) : List App :=
  sites.apps.filter fun app => !inside app

/-- The deployments of some apps. -/
def deploymentsOf (apps : List App) (rows : List Deployment) : List Deployment :=
  rows.filter fun row => apps.any (·.id = row.app)

/-- The apps outside a set, with their deployments. -/
def Sites.others (inside : App → Bool) (sites : Sites) : Sites :=
  ⟨sites.outer inside, deploymentsOf (sites.outer inside) sites.deployments⟩

/-- An app stays in the set when it gets a current deployment or an expiry. -/
structure Lasting (inside : App → Bool) : Prop where
  current : ∀ app value, inside app = true → inside { app with currentDeployment := value } = true
  expires : ∀ app value, inside app = true → inside { app with expiresAt := some value } = true

/-- The act is about apps in the set. -/
def Act.Within (inside : App → Bool) (sites : Sites) : Act → Prop
  | .createApp app => inside app = true
  | .createPreview app row => inside app = true ∧ row.app = app.id ∧ sites.Fresh app
  | .createDeployment row => ∃ app ∈ sites.apps, row.app = app.id ∧ inside app = true
  | .reopen row _ | .makeCurrent row _ _ => row ∈ sites.deployments ∧
      ∃ app ∈ sites.apps, row.app = app.id ∧ inside app = true
  | .renew app _ | .delete app => app ∈ sites.apps ∧ inside app = true

section
variable {inside : App → Bool} {sites : Sites}

theorem Lasting.renewed (lasting : Lasting inside) {app : App} (member : inside app = true)
    (renewed : Option Time) (current : Option Uuid) :
    inside { app with expiresAt := renewed.or app.expiresAt, currentDeployment := current } = true := by
  cases renewed with
  | none => exact lasting.current app current member
  | some value => exact lasting.current _ current (lasting.expires app value member)

theorem Sites.others_eq {after : Sites} (apps : after.outer inside = sites.outer inside)
    (rows : deploymentsOf (sites.outer inside) after.deployments =
      deploymentsOf (sites.outer inside) sites.deployments) :
    after.others inside = sites.others inside := by
  rw [others, others, apps, rows]

/-- No app outside the set has the key of one inside. -/
theorem outer_any {app : App} {id : Uuid} (formed : sites.WellFormed) (present : app ∈ sites.apps)
    (owner : id = app.id) (member : inside app = true) :
    (sites.outer inside).any (·.id = id) = false := by
  rw [List.any_eq_false]
  intro other listed same
  obtain ⟨there, foreign⟩ := List.mem_filter.mp listed
  obtain rfl := formed.app_eq there present ((by simpa using same : other.id = id).trans owner)
  simp [member] at foreign

/-- A write to one app of the set. -/
theorem outer_mapApp {app : App} {change : App → App} (formed : sites.WellFormed)
    (present : app ∈ sites.apps) (member : inside app = true) (stays : inside (change app) = true) :
    (sites.mapApp app.id change).outer inside = sites.outer inside := by
  refine filter_update fun other there same => ?_
  obtain rfl := formed.app_eq there present same
  simp [member, stays]

/-- A write to deployments of one app of the set. -/
theorem deploymentsOf_map {app : App} {change : Deployment → Deployment} (formed : sites.WellFormed)
    (present : app ∈ sites.apps) (member : inside app = true)
    (keeps : Sites.KeepsDeployment change)
    (fixed : ∀ row ∈ sites.deployments, row.app ≠ app.id → change row = row) :
    deploymentsOf (sites.outer inside) (sites.deployments.map change) =
      deploymentsOf (sites.outer inside) sites.deployments := by
  have written : sites.deployments.map change =
      update (fun row => row.app = app.id) change sites.deployments := by
    refine List.map_congr_left fun row there => ?_
    by_cases owner : row.app = app.id
    · rw [if_pos owner]
    · rw [if_neg owner, fixed row there owner]
  rw [written]
  refine filter_update fun row _ owner => ⟨outer_any formed present owner member, ?_⟩
  rw [keeps.owner]
  exact outer_any formed present owner member

theorem others_insertDeployment {row : Deployment} {app : App} (formed : sites.WellFormed)
    (present : app ∈ sites.apps) (owner : row.app = app.id) (member : inside app = true) :
    (sites.insertDeployment row).others inside = sites.others inside :=
  Sites.others_eq rfl (filter_concat (outer_any formed present owner member))

theorem others_insertApp {app : App} (member : inside app = true) :
    (sites.insertApp app).others inside = sites.others inside := by
  have apps : (sites.insertApp app).outer inside = sites.outer inside :=
    filter_concat (by simp [member])
  exact Sites.others_eq apps rfl

theorem others_delete {app : App} (consistent : sites.Consistent) (present : app ∈ sites.apps)
    (member : inside app = true) :
    ((Act.delete app).apply sites).others inside = sites.others inside := by
  have formed := consistent.formed
  have untouched : ((Act.delete app).apply sites).apps = sites.apps.filter (·.id ≠ app.id) := by
    refine (List.map_congr_left fun other listed => ?_).trans (List.map_id' _)
    obtain ⟨there, different⟩ := List.mem_filter.mp listed
    rw [(consistent.settled other there).kept formed (by simpa using different)]
    rfl
  refine Sites.others_eq ?_ (filter_delete fun row _ owned => decide_eq_true fun owner => ?_)
  · rw [Sites.outer, untouched]
    refine filter_delete fun other there foreign => decide_eq_true fun same => ?_
    obtain rfl := formed.app_eq there present same
    simp [member] at foreign
  · rw [outer_any formed present owner member] at owned
    contradiction

theorem Act.Within.mono {inside wider : App → Bool} {sites : Sites} {act : Act}
    (implies : ∀ app, inside app = true → wider app = true) (within : act.Within inside sites) :
    act.Within wider sites := by
  cases act with
  | createApp app => exact implies app within
  | createPreview app row => exact ⟨implies app within.1, within.2⟩
  | createDeployment row =>
    obtain ⟨app, present, owner, member⟩ := within
    exact ⟨app, present, owner, implies app member⟩
  | reopen row columns | makeCurrent row finalizedAt renewed =>
    obtain ⟨stored, app, present, owner, member⟩ := within
    exact ⟨stored, app, present, owner, implies app member⟩
  | renew app expiresAt | delete app => exact ⟨within.1, implies app within.2⟩

theorem Act.others {act : Act} (consistent : sites.Consistent) (lasting : Lasting inside)
    (within : act.Within inside sites) : (act.apply sites).others inside = sites.others inside := by
  have formed := consistent.formed
  cases act with
  | createApp app => exact others_insertApp within
  | createPreview app row =>
    obtain ⟨member, owner, fresh⟩ := within
    have apps : ((sites.insertApp app).insertDeployment row).outer inside = sites.outer inside :=
      filter_concat (by simp [member])
    refine Sites.others_eq apps (filter_concat (List.any_eq_false.mpr fun other listed same => ?_))
    have known : other.id = app.id := (of_decide_eq_true same).trans owner
    exact (fresh other (List.mem_filter.mp listed).1).1 known
  | createDeployment row =>
    obtain ⟨app, present, owner, member⟩ := within
    exact others_insertDeployment formed present owner member
  | reopen row columns =>
    obtain ⟨stored, app, present, owner, member⟩ := within
    refine Sites.others_eq rfl (deploymentsOf_map formed present member
      ⟨fun row => by split <;> rfl, fun row => by split <;> rfl⟩ fun other there foreign => ?_)
    refine if_neg fun same => foreign ?_
    rw [formed.deployment_eq there stored same, owner]
  | makeCurrent row finalizedAt renewed =>
    obtain ⟨stored, app, present, owner, member⟩ := within
    refine Sites.others_eq ?_ (deploymentsOf_map formed present member
      (keepsDeployment_currentRow ..) fun other there foreign => ?_)
    · rw [Act.apply, owner]
      exact outer_mapApp formed present member (lasting.renewed member renewed (some row.id))
    · refine currentRow_other (owner ▸ foreign) fun same => foreign ?_
      rw [formed.deployment_eq there stored same, owner]
  | renew app expiresAt =>
    obtain ⟨present, member⟩ := within
    exact Sites.others_eq (outer_mapApp formed present member (lasting.expires app expiresAt member))
      rfl
  | delete app => exact others_delete consistent within.1 within.2

end

end HostingService
