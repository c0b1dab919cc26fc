import HostingService.Hosting.Statements

/-! The apps and deployments as one state, and the acts by which it changes. -/

namespace HostingService

open Text

structure Sites where
  apps : List App
  deployments : List Deployment

def Db.sites (db : Db) : Sites := ⟨db.apps, db.deployments⟩

@[simp] theorem Deployment.assign_id (columns : DeploymentColumns) (row : Deployment) :
    (row.assign columns).id = row.id := rfl

@[simp] theorem Deployment.assign_app (columns : DeploymentColumns) (row : Deployment) :
    (row.assign columns).app = row.app := rfl

@[simp] theorem Deployment.assign_status (columns : DeploymentColumns) (row : Deployment) :
    (row.assign columns).status = columns.status := rfl

@[simp] theorem Deployment.supersededBy_id (app id : Uuid) (row : Deployment) :
    (row.supersededBy app id).id = row.id := by
  unfold supersededBy
  split <;> rfl

@[simp] theorem Deployment.supersededBy_app (app id : Uuid) (row : Deployment) :
    (row.supersededBy app id).app = row.app := by
  unfold supersededBy
  split <;> rfl

@[simp] theorem Deployment.supersededBy_artifactSize (app id : Uuid) (row : Deployment) :
    (row.supersededBy app id).artifactSize = row.artifactSize := by
  unfold supersededBy
  split <;> rfl

theorem Deployment.supersededBy_self (app : Uuid) (row : Deployment) :
    row.supersededBy app row.id = row := by
  simp [supersededBy]

/-! ### Well-formed tables -/

/-- Keys are unique and every deployment belongs to an app. -/
structure Sites.WellFormed (sites : Sites) : Prop where
  appIds : (sites.apps.map (·.id)).Nodup
  slugs : (sites.apps.map (·.slug)).Nodup
  names : (sites.apps.map fun app => (app.companyId, app.name)).Nodup
  deploymentIds : (sites.deployments.map (·.id)).Nodup
  owned : ∀ row ∈ sites.deployments, ∃ app ∈ sites.apps, app.id = row.app

namespace Sites.WellFormed
variable {sites : Sites}

theorem app_eq (formed : sites.WellFormed) {first second : App} (one : first ∈ sites.apps)
    (two : second ∈ sites.apps) (same : first.id = second.id) : first = second :=
  List.inj_on_of_nodup_map formed.appIds one two same

theorem deployment_eq (formed : sites.WellFormed) {first second : Deployment}
    (one : first ∈ sites.deployments) (two : second ∈ sites.deployments)
    (same : first.id = second.id) : first = second :=
  List.inj_on_of_nodup_map formed.deploymentIds one two same

end Sites.WellFormed

theorem Db.mem_of_app {db : Db} {id : Uuid} {app : App} (found : db.app id = some app) :
    app ∈ db.apps ∧ app.id = id :=
  ⟨List.mem_of_find?_eq_some found, by simpa using List.find?_some found⟩

theorem Db.mem_of_deployment {db : Db} {id : Uuid} {row : Deployment}
    (found : db.deployment id = some row) : row ∈ db.deployments ∧ row.id = id :=
  ⟨List.mem_of_find?_eq_some found, by simpa using List.find?_some found⟩

theorem find?_only {α : Type} {test : α → Bool} {rows : List α} {row : α} (member : row ∈ rows)
    (passes : test row = true) (only : ∀ other ∈ rows, test other = true → other = row) :
    rows.find? test = some row := by
  rcases found : rows.find? test with _ | other
  · exact absurd passes (List.find?_eq_none.mp found row member)
  · rw [only other (List.mem_of_find?_eq_some found) (List.find?_some found)]

theorem find?_of_unique {α β : Type} [DecidableEq β] {key : α → β} {rows : List α} {row : α}
    (unique : (rows.map key).Nodup) (member : row ∈ rows) :
    rows.find? (fun other => key other = key row) = some row :=
  find?_only member (by simp) fun other present same =>
    List.inj_on_of_nodup_map unique present member (by simpa using same)

theorem Db.app_of_mem {db : Db} (formed : db.sites.WellFormed) {app : App} (member : app ∈ db.apps) :
    db.app app.id = some app := find?_of_unique formed.appIds member

theorem Db.deployment_of_mem {db : Db} (formed : db.sites.WellFormed) {row : Deployment}
    (member : row ∈ db.deployments) : db.deployment row.id = some row :=
  find?_of_unique formed.deploymentIds member

/-- A row that no other row of the table clashes with. -/
def Sites.Fresh (sites : Sites) (row : App) : Prop :=
  ∀ other ∈ sites.apps, other.id ≠ row.id ∧ other.slug ≠ row.slug ∧
    ¬ (other.companyId = row.companyId ∧ other.name = row.name)

theorem nodup_concat {α β : Type} {key : α → β} {rows : List α} {row : α}
    (unique : (rows.map key).Nodup) (fresh : ∀ other ∈ rows, key other ≠ key row) :
    ((rows ++ [row]).map key).Nodup := by
  rw [List.map_append, List.nodup_append]
  refine ⟨unique, by simp, ?_⟩
  intro first member second last same
  obtain ⟨other, present, rfl⟩ := List.mem_map.mp member
  obtain rfl := List.mem_singleton.mp last
  exact fresh other present same

theorem map_key_of_kept {α β : Type} {key : α → β} {change : α → α} {rows : List α}
    (kept : ∀ row, key (change row) = key row) : (rows.map change).map key = rows.map key := by
  rw [List.map_map]
  exact List.map_congr_left fun row _ => kept row

namespace Sites

/-- A change of an app that keeps what the table is keyed by. -/
structure KeepsApp (change : App → App) : Prop where
  id : ∀ row, (change row).id = row.id
  slug : ∀ row, (change row).slug = row.slug
  companyId : ∀ row, (change row).companyId = row.companyId
  name : ∀ row, (change row).name = row.name

structure KeepsDeployment (change : Deployment → Deployment) : Prop where
  id : ∀ row, (change row).id = row.id
  owner : ∀ row, (change row).app = row.app

theorem KeepsApp.only {change : App → App} (keeps : KeepsApp change) (test : App → Prop)
    [DecidablePred test] : KeepsApp fun row => if test row then change row else row := by
  constructor
  all_goals intro row
  all_goals split
  all_goals first | rfl | simp [keeps.id, keeps.slug, keeps.companyId, keeps.name]

theorem keepsApp_assign (column : AppColumn) : KeepsApp (App.assign column) := by
  cases column <;> exact ⟨fun _ => rfl, fun _ => rfl, fun _ => rfl, fun _ => rfl⟩

theorem WellFormed.map {sites : Sites} (formed : sites.WellFormed) {app : App → App}
    {deployment : Deployment → Deployment} (keepsApp : KeepsApp app)
    (keepsDeployment : KeepsDeployment deployment) :
    (Sites.mk (sites.apps.map app) (sites.deployments.map deployment)).WellFormed where
  appIds := by
    rw [map_key_of_kept keepsApp.id]
    exact formed.appIds
  slugs := by
    rw [map_key_of_kept keepsApp.slug]
    exact formed.slugs
  names := by
    rw [map_key_of_kept fun row => by rw [keepsApp.companyId, keepsApp.name]]
    exact formed.names
  deploymentIds := by
    rw [map_key_of_kept keepsDeployment.id]
    exact formed.deploymentIds
  owned := by
    intro row member
    obtain ⟨old, present, rfl⟩ := List.mem_map.mp member
    obtain ⟨owner, stored, same⟩ := formed.owned old present
    exact ⟨app owner, List.mem_map_of_mem stored, by rw [keepsApp.id, keepsDeployment.owner, same]⟩

theorem WellFormed.mapApps {sites : Sites} (formed : sites.WellFormed) {change : App → App}
    (keeps : KeepsApp change) : (Sites.mk (sites.apps.map change) sites.deployments).WellFormed := by
  have same : KeepsDeployment fun row => row := ⟨fun _ => rfl, fun _ => rfl⟩
  have mapped := formed.map keeps same
  rwa [List.map_id'] at mapped

theorem WellFormed.mapDeployments {sites : Sites} (formed : sites.WellFormed)
    {change : Deployment → Deployment} (keeps : KeepsDeployment change) :
    (Sites.mk sites.apps (sites.deployments.map change)).WellFormed := by
  have same : KeepsApp fun row => row :=
    ⟨fun _ => rfl, fun _ => rfl, fun _ => rfl, fun _ => rfl⟩
  have mapped := formed.map same keeps
  rwa [List.map_id'] at mapped

/-- The rows that deleting an app leaves. -/
def without (id : Uuid) (sites : Sites) : Sites :=
  ⟨sites.apps.filter (·.id ≠ id), sites.deployments.filter (·.app ≠ id)⟩

theorem WellFormed.without {sites : Sites} (formed : sites.WellFormed) (id : Uuid) :
    (sites.without id).WellFormed where
  appIds := formed.appIds.sublist (List.filter_sublist.map _)
  slugs := formed.slugs.sublist (List.filter_sublist.map _)
  names := formed.names.sublist (List.filter_sublist.map _)
  deploymentIds := formed.deploymentIds.sublist (List.filter_sublist.map _)
  owned := by
    intro row member
    obtain ⟨present, kept⟩ := List.mem_filter.mp member
    obtain ⟨owner, stored, same⟩ := formed.owned row present
    exact ⟨owner, List.mem_filter.mpr ⟨stored, by simpa [same] using kept⟩, same⟩

end Sites

theorem insertApp_fresh {db after : Db} {row : App}
    (applied : (Change.insertApp row).apply db = .ok after) :
    db.sites.Fresh row ∧ after = { db with apps := db.apps ++ [row] } := by
  simp only [Change.apply] at applied
  split at applied
  · contradiction
  · rename_i free
    refine ⟨fun other member => ?_, (Except.ok.inj applied).symm⟩
    have clash := List.any_eq_false.mp (Bool.not_eq_true _ ▸ free) other member
    simpa only [decide_eq_true_eq, not_or] using clash

/-- The constraints of the tables keep them well formed, whatever is written. -/
theorem Change.apply_wellFormed {change : Change} {db after : Db}
    (applied : change.apply db = .ok after) (formed : db.sites.WellFormed) :
    after.sites.WellFormed := by
  cases change with
  | insertApp row =>
    obtain ⟨fresh, rfl⟩ := insertApp_fresh applied
    refine ⟨nodup_concat formed.appIds fun other member => (fresh other member).1,
      nodup_concat formed.slugs fun other member => (fresh other member).2.1,
      nodup_concat formed.names fun other member same => (fresh other member).2.2 ?_,
      formed.deploymentIds, fun row member => ?_⟩
    · exact Prod.mk.inj same
    · obtain ⟨owner, present, same⟩ := formed.owned row member
      exact ⟨owner, List.mem_append_left _ present, same⟩
  | insertDeployment row =>
    simp only [apply] at applied
    split at applied
    · contradiction
    · rename_i free
      obtain ⟨unused, owned⟩ := not_or.mp free
      obtain rfl := Except.ok.inj applied
      refine ⟨formed.appIds, formed.slugs, formed.names,
        nodup_concat formed.deploymentIds fun other member same => ?_, fun other member => ?_⟩
      · exact unused (List.any_eq_true.mpr ⟨other, member, by simpa using same⟩)
      · rcases List.mem_append.mp member with old | new
        · exact formed.owned other old
        · obtain rfl := List.mem_singleton.mp new
          obtain ⟨owner, present, same⟩ := List.any_eq_true.mp (not_not.mp owned)
          exact ⟨owner, present, by simpa using same⟩
  | saveApp id column =>
    simp only [apply] at applied
    split at applied
    · obtain rfl := Except.ok.inj applied
      exact formed.mapApps ((Sites.keepsApp_assign column).only (·.id = id))
    · contradiction
  | saveDeployment id columns =>
    simp only [apply] at applied
    split at applied
    · obtain rfl := Except.ok.inj applied
      exact formed.mapDeployments
        ⟨fun row => by split <;> rfl, fun row => by split <;> rfl⟩
    · contradiction
  | supersede app id =>
    obtain rfl := Except.ok.inj applied
    exact formed.mapDeployments
      ⟨Deployment.supersededBy_id app id, Deployment.supersededBy_app app id⟩
  | deleteApp id =>
    obtain rfl := Except.ok.inj applied
    exact (formed.without id).mapApps ((Sites.keepsApp_assign (.currentDeployment none)).only _)
  | recordEvent event =>
    obtain rfl := Except.ok.inj applied
    exact formed

theorem service_wellFormed {settings : Settings} {α : Type} (body : Service α) (world : World) :
    world.db.sites.WellFormed →
      (body.run (Action.handle settings) world).2.db.sites.WellFormed := by
  refine service_related
    (fun before after => before.db.sites.WellFormed → after.db.sites.WellFormed)
    (fun _ formed => formed) (fun left right formed => right (left formed))
    (fun _ formed => formed) (fun β statement _ world formed => ?_) (all_statements body) world
  cases statement with
  | execute change =>
    simp only [Statement.handle]
    split
    · rename_i applied
      exact Change.apply_wellFormed applied formed
    · exact formed
  | _ => exact formed

/-! ### Acts -/

/-- What one request may do to the tables. -/
inductive Act where
  | createApp (app : App)
  | createDeployment (row : Deployment)
  | createPreview (app : App) (row : Deployment)
  /-- An upload, or a failed extraction. -/
  | reopen (row : Deployment) (columns : DeploymentColumns)
  /-- An activation or a rollback, with the new expiry of the app if it gets one. -/
  | makeCurrent (row : Deployment) (finalizedAt : Time) (renewed : Option Time)
  | renew (app : App) (expiresAt : Time)
  | delete (app : App)

namespace Sites

def insertApp (app : App) (sites : Sites) : Sites := { sites with apps := sites.apps ++ [app] }

def insertDeployment (row : Deployment) (sites : Sites) : Sites :=
  { sites with deployments := sites.deployments ++ [row] }

def mapApp (id : Uuid) (change : App → App) (sites : Sites) : Sites :=
  { sites with apps := sites.apps.map fun row => if row.id = id then change row else row }

/-- The row of a deployment after the deployment `id` of the app became current. -/
def currentRow (app id : Uuid) (finalizedAt : Time) (row : Deployment) : Deployment :=
  if row.id = id then row.assign ⟨.active, none, some (some finalizedAt)⟩
  else row.supersededBy app id

end Sites

def Act.apply (sites : Sites) : Act → Sites
  | .createApp app => sites.insertApp app
  | .createDeployment row => sites.insertDeployment row
  | .createPreview app row => (sites.insertApp app).insertDeployment row
  | .reopen row columns =>
    { sites with deployments := sites.deployments.map fun other =>
      if other.id = row.id then other.assign columns else other }
  | .makeCurrent row finalizedAt renewed =>
    { sites.mapApp row.app fun app =>
        { app with
          expiresAt := renewed.or app.expiresAt
          currentDeployment := some row.id } with
      deployments := sites.deployments.map (Sites.currentRow row.app row.id finalizedAt) }
  | .renew app expiresAt => sites.mapApp app.id fun app => { app with expiresAt := some expiresAt }
  | .delete app =>
    { sites.without app.id with
      apps := (sites.without app.id).apps.map fun row =>
        if row.currentDeployment.any fun current =>
            current ∈ (sites.deployments.filter (·.app = app.id)).map (·.id) then
          { row with currentDeployment := none }
        else row }

end HostingService
