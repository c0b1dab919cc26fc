import HostingService.Hosting.Footprints
import HostingService.Hosting.Previews
import HostingService.Hosting.Scopes

/-! Requests that go on with a deployment which is there already, and what the other
requests leave. -/

namespace HostingService

open Program Text Storage Transaction

/-- The row may be uploaded to. -/
def Deployment.isOpen (row : Deployment) : Bool := row.status ∈ [.draft, .uploading, .failed]

/-- The checks of `_activate_deployment` pass. -/
def Deployment.isReady (row : Deployment) : Bool :=
  row.status ∈ [.uploading, .ready, .draft] && row.artifactSize ≠ 0

/-- The checks of `rollback_deployment` pass. -/
def Deployment.isRestorable (row : Deployment) : Bool :=
  row.status ∈ [.ready, .active, .superseded] && row.artifactSize ≠ 0

/-- An upload, a finalize or a rollback of a deployment that lets it through. -/
def Request.Proceeds (sites : Sites) : Request → Prop
  | .upload id _ _ => ∃ row ∈ sites.deployments, row.id = id ∧ row.isOpen = true
  | .finalize id _ _ => ∃ row ∈ sites.deployments, row.id = id ∧ row.isReady = true
  | .rollback id => ∃ row ∈ sites.deployments, row.id = id ∧ row.isRestorable = true
  | _ => False

/-- There is no new app and no new deployment, and the apps have the current deployments
that they had. -/
structure Sites.Unmoved (before after : Sites) : Prop where
  apps : ∀ app ∈ after.apps, ∃ old ∈ before.apps, old.id = app.id ∧
    old.currentDeployment = app.currentDeployment
  deployments : ∀ row ∈ after.deployments, ∃ old ∈ before.deployments, old.id = row.id

section
variable {settings : Settings} {library : Library} {sites : Sites} {request : Request} {now : Time}
  {act : Act}

theorem Sites.Unmoved.refl (sites : Sites) : sites.Unmoved sites :=
  ⟨fun app member => ⟨app, member, rfl, rfl⟩, fun row member => ⟨row, member, rfl⟩⟩

theorem Sites.Unmoved.any_app {before after : Db} (unmoved : before.sites.Unmoved after.sites)
    (test : Uuid → Option Uuid → Bool)
    (found : (after.apps.any fun app => test app.id app.currentDeployment) = true) :
    (before.apps.any fun app => test app.id app.currentDeployment) = true := by
  obtain ⟨app, member, passes⟩ := List.any_eq_true.mp found
  obtain ⟨old, present, id, current⟩ := unmoved.apps app member
  refine List.any_eq_true.mpr ⟨old, present, ?_⟩
  rwa [id, current]

/-- Only requests that proceed make a deployment the current one. -/
theorem Request.Admits.proceeds {row : Deployment} {finalizedAt : Time} {renewed : Option Time}
    (admitted : request.Admits settings library now sites (.makeCurrent row finalizedAt renewed)) :
    request.Proceeds sites := by
  cases admitted with
  | activate found ready full =>
    exact ⟨row, found, rfl, by simp [Deployment.isReady, ready, full]⟩
  | rollback found served full =>
    exact ⟨row, found, rfl, by simp [Deployment.isRestorable, served, full]⟩

/-- Where an app after an act comes from, with the deployment that it serves. -/
theorem Act.app_current {app : App} (consistent : sites.Consistent)
    (member : app ∈ (act.apply sites).apps) :
    act.Inserts app ∨ ∃ old ∈ sites.apps, old.id = app.id ∧
      (old.currentDeployment = app.currentDeployment ∨
        ∃ row finalizedAt renewed, act = .makeCurrent row finalizedAt renewed ∧ row.app = old.id) := by
  cases act with
  | createApp new | createPreview new row =>
    rcases List.mem_append.mp member with old | inserted
    · exact .inr ⟨app, old, rfl, .inl rfl⟩
    · exact .inl (List.mem_singleton.mp inserted)
  | createDeployment | reopen => exact .inr ⟨app, member, rfl, .inl rfl⟩
  | makeCurrent row finalizedAt renewed =>
    obtain ⟨old, stored, rfl⟩ := List.mem_map.mp member
    refine .inr ⟨old, stored, ?_⟩
    split
    · rename_i owner
      exact ⟨rfl, .inr ⟨row, finalizedAt, renewed, rfl, owner.symm⟩⟩
    · exact ⟨rfl, .inl rfl⟩
  | renew =>
    obtain ⟨old, stored, rfl⟩ := List.mem_map.mp member
    refine .inr ⟨old, stored, ?_⟩
    split <;> exact ⟨rfl, .inl rfl⟩
  | delete target =>
    obtain ⟨old, stays, rfl⟩ := List.mem_map.mp member
    obtain ⟨stored, different⟩ := List.mem_filter.mp stays
    refine .inr ⟨old, stored, ?_⟩
    rw [(consistent.settled old stored).kept consistent.formed (by simpa using different)]
    exact ⟨rfl, .inl rfl⟩

/-- Where a deployment after an act comes from. -/
theorem Act.deployment_from {row : Deployment} (member : row ∈ (act.apply sites).deployments) :
    (∃ old ∈ sites.deployments, old.id = row.id) ∨ act = .createDeployment row ∨
      ∃ app, act = .createPreview app row := by
  cases act with
  | createApp | renew => exact .inl ⟨row, member, rfl⟩
  | createPreview app new =>
    rcases List.mem_append.mp member with old | inserted
    · exact .inl ⟨row, old, rfl⟩
    · exact .inr (.inr ⟨app, by rw [List.mem_singleton.mp inserted]⟩)
  | createDeployment new =>
    rcases List.mem_append.mp member with old | inserted
    · exact .inl ⟨row, old, rfl⟩
    · exact .inr (.inl (by rw [List.mem_singleton.mp inserted]))
  | reopen target columns =>
    obtain ⟨old, present, rfl⟩ := List.mem_map.mp member
    refine .inl ⟨old, present, ?_⟩
    split <;> rfl
  | makeCurrent target finalizedAt renewed =>
    obtain ⟨old, present, rfl⟩ := List.mem_map.mp member
    exact .inl ⟨old, present, ((keepsDeployment_currentRow ..).id old).symm⟩
  | delete target => exact .inl ⟨row, (List.mem_filter.mp member).1, rfl⟩

/-- A request that creates nothing and does not proceed moves nothing. -/
theorem Request.Admits.unmoved (consistent : sites.Consistent) (creates : request.creates = false)
    (stopped : ¬ request.Proceeds sites) (admitted : request.Admits settings library now sites act) :
    sites.Unmoved (act.apply sites) := by
  constructor
  · intro app member
    rcases Act.app_current consistent member with inserts | ⟨old, stored, id, same | makes⟩
    · rcases (admitted.inserts inserts).2 with ⟨_, rfl, _⟩ | ⟨_, _, _, _, rfl, _⟩
      all_goals contradiction
    · exact ⟨old, stored, id, same⟩
    · obtain ⟨row, finalizedAt, renewed, rfl, owner⟩ := makes
      exact absurd admitted.proceeds stopped
  · intro row member
    rcases Act.deployment_from member with old | rfl | ⟨app, rfl⟩
    · exact old
    · cases admitted <;> contradiction
    · cases admitted
      contradiction

/-- A request that does not proceed stores nothing. -/
theorem Request.shrinks {world : World} (stopped : ¬ request.Proceeds world.db.sites) :
    (request.service settings library).Ensures (Action.handle settings)
      (fun _ after => Shrinks world.disk.objects after.disk.objects) world := by
  have kept : Shrinks world.disk.objects world.disk.objects := Shrinks.refl _
  have confined : (request.service settings library).Ensures (Action.handle settings)
      (fun _ after => SameOutside (request.Footprint settings world.db.sites)
        world.disk.objects after.disk.objects) world := request.confined world
  cases request with
  | createApp | preparePreviewDeploy | createDeployment | rollback | renew =>
    exact confined.mono fun _ _ same => SameOutside.shrinks same
  | upload id fileobj contentLength =>
    refine Service.ensures_autocommit.mpr (ensures_loadRow kept fun row found => ?_)
    obtain ⟨present, same⟩ := Db.mem_of_deployment found
    rw [uploadDeploymentArtifact, Prog.bind_assoc]
    refine Prog.ensures_check.mpr ⟨fun _ => kept, fun passed => ?_⟩
    have opened := not_not.mp (of_decide_eq_false passed)
    exact absurd ⟨row, present, same, decide_eq_true opened⟩ stopped
  | finalize id userId actorEmail =>
    refine Service.ensures_loadRow kept fun row found => ?_
    obtain ⟨present, same⟩ := Db.mem_of_deployment found
    have unready : row.status ∉ [.uploading, .ready, .draft] ∨ row.artifactSize = 0 := by
      by_contra both
      obtain ⟨ready, full⟩ := not_or.mp both
      exact stopped ⟨row, present, same, by simp [Deployment.isReady, not_not.mp ready, full]⟩
    exact (ensures_finalize_refused userId actorEmail unready).bind (fun _ _ same => same ▸ kept)
      fun _ _ same => same ▸ kept
  | delete id userId actorEmail =>
    refine Service.ensures_loadRow kept fun app found => ?_
    exact Service.ensures_atomic (ensures_deleteApp_shrinks app userId actorEmail)
      (fun _ _ shrinks => shrinks) fun _ _ shrinks => shrinks

end

end HostingService
