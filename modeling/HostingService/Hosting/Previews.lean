import HostingService.Hosting.Current

/-! Which apps are previews: the ones that were created as such. -/

namespace HostingService

open Text

/-- An app without a creator does not expire. -/
def Sites.Plain (sites : Sites) : Prop :=
  ∀ app ∈ sites.apps, app.createdById = none → app.expiresAt = none

/-- The columns of an app that no request writes. -/
def App.identity (app : App) : App := { app with expiresAt := none, currentDeployment := none }

/-- The act inserts the app. -/
def Act.Inserts (app : App) : Act → Prop
  | .createApp new | .createPreview new _ => app = new
  | _ => False

section
variable {settings : Settings} {library : Library} {sites : Sites} {now : Time} {request : Request}
  {act : Act}

/-- In plain tables the previews are the apps with a creator. -/
theorem Sites.Plain.isPreview (plain : sites.Plain) {app : App} (present : app ∈ sites.apps) :
    app.isPreview = app.createdById.isSome := by
  rcases creator : app.createdById with _ | userId
  · simp [App.isPreview, creator, plain app present creator]
  · simp [App.isPreview, creator]

theorem Act.app_from {app : App} (member : app ∈ (act.apply sites).apps) :
    (∃ old ∈ sites.apps, app.identity = old.identity) ∨ act.Inserts app := by
  cases act with
  | createApp new =>
    rcases List.mem_append.mp member with old | inserted
    · exact .inl ⟨app, old, rfl⟩
    · exact .inr (List.mem_singleton.mp inserted)
  | createPreview new row =>
    rcases List.mem_append.mp member with old | inserted
    · exact .inl ⟨app, old, rfl⟩
    · exact .inr (List.mem_singleton.mp inserted)
  | createDeployment row => exact .inl ⟨app, member, rfl⟩
  | reopen row columns => exact .inl ⟨app, member, rfl⟩
  | makeCurrent | renew =>
    obtain ⟨old, present, rfl⟩ := List.mem_map.mp member
    refine .inl ⟨old, present, ?_⟩
    split <;> rfl
  | delete target =>
    obtain ⟨old, stays, rfl⟩ := List.mem_map.mp member
    refine .inl ⟨old, (List.mem_filter.mp stays).1, ?_⟩
    split <;> rfl

theorem Request.Admits.plain (formed : sites.WellFormed) (plain : sites.Plain)
    (admitted : request.Admits settings library now sites act) : (act.apply sites).Plain := by
  have inserted {new : App} (expiresAt : new.expiresAt = none) :
      ∀ app ∈ sites.apps ++ [new], app.createdById = none → app.expiresAt = none := by
    intro app member created
    rcases List.mem_append.mp member with old | last
    · exact plain app old created
    · obtain rfl := List.mem_singleton.mp last
      exact expiresAt
  cases admitted with
  | createApp blank => exact inserted blank.expiresAt
  | createPreview blank => exact inserted blank.expiresAt
  | redeploy => exact plain
  | createDeployment => exact plain
  | upload => exact plain
  | markFailed => exact plain
  | @activate row app userId actorEmail found ready full present owner =>
    intro other member created
    obtain ⟨old, stored, rfl⟩ := List.mem_map.mp member
    by_cases target : old.id = row.app
    · obtain rfl := formed.app_eq stored present (target.trans owner.symm)
      rw [if_pos target] at created ⊢
      have unowned : old.createdById = none := created
      simp [unowned, plain old stored unowned]
    · rw [if_neg target] at created ⊢
      exact plain old stored created
  | rollback =>
    intro other member created
    obtain ⟨old, stored, rfl⟩ := List.mem_map.mp member
    split at created
    · rename_i target
      rw [if_pos target]
      exact plain old stored created
    · rename_i target
      rw [if_neg target]
      exact plain old stored created
  | @renew app present preview =>
    intro other member created
    obtain ⟨old, stored, rfl⟩ := List.mem_map.mp member
    by_cases target : old.id = app.id
    · obtain rfl := formed.app_eq stored present target
      rw [if_pos target] at created
      have unowned : old.createdById = none := created
      exact absurd (plain old stored unowned) (preview.resolve_left (not_not.mpr unowned))
    · rw [if_neg target] at created ⊢
      exact plain old stored created
  | delete =>
    intro other member created
    obtain ⟨old, stays, rfl⟩ := List.mem_map.mp member
    have stored := (List.mem_filter.mp stays).1
    split at created
    · rename_i doomed
      rw [if_pos doomed]
      exact plain old stored created
    · rename_i kept
      rw [if_neg kept]
      exact plain old stored created

/-- A new app has a creator if it is a preview. -/
theorem Request.Admits.inserts {app : App} (admitted : request.Admits settings library now sites act)
    (inserts : act.Inserts app) : sites.BlankApp app ∧
      ((∃ new, request = .createApp new ∧ app.companyId = new.companyId ∧ app.createdById = none) ∨
        ∃ preview slug anyUser new, request = .preparePreviewDeploy preview slug anyUser new ∧
          app.companyId = preview.companyId ∧ app.createdById = some preview.userId) := by
  cases admitted with
  | createApp blank company room named drawn unowned =>
    obtain rfl := inserts
    exact ⟨blank, .inl ⟨_, rfl, company, unowned⟩⟩
  | createPreview blank company room named drawn created =>
    obtain rfl := inserts
    exact ⟨blank, .inr ⟨_, _, _, _, rfl, company, created⟩⟩
  | _ => exact inserts.elim

end

end HostingService
