import HostingService.Api.Effects
import HostingService.Hosting.Footprints
import HostingService.Hosting.Frames

/-! The apps that a principal covers: its service requests write to no other. -/

namespace HostingService

open Program Text Storage Transaction

/-- The apps of the company; for a deploy token only the previews among them. -/
def HostingPrincipal.covers (principal : HostingPrincipal) (app : App) : Bool :=
  principal.companyId = some app.companyId && (principal.deployTokenId.isNone || app.isPreview)

section
variable {settings : ApiSettings} {library : ApiLibrary} {principal : HostingPrincipal}
  {endpoint : Endpoint} {method : Method} {asked : Request} {db : Db} {app : App}

theorem HostingPrincipal.covers_lasting (principal : HostingPrincipal) : Lasting principal.covers := by
  constructor
  · exact fun app value member => member
  · intro app value member
    obtain ⟨company, _⟩ := Bool.and_eq_true_iff.mp member
    exact Bool.and_eq_true_iff.mpr ⟨company, by simp [App.isPreview]⟩

theorem HostingPrincipal.covers_company (covered : principal.covers app = true) :
    principal.companyId = some app.companyId :=
  of_decide_eq_true (Bool.and_eq_true_iff.mp covered).1

theorem HostingPrincipal.covers_preview (covered : principal.covers app = true)
    (token : principal.deployTokenId.isSome = true) : app.isPreview = true := by
  have either := (Bool.and_eq_true_iff.mp covered).2
  rw [← Option.not_isSome, token] at either
  exact either

theorem covers_of_person (company : principal.companyId = some app.companyId)
    (person : principal.deployTokenId = none) : principal.covers app = true := by
  simp [HostingPrincipal.covers, company, person]

theorem HostingPrincipal.Deploys.covers (deploys : principal.Deploys db app) :
    principal.covers app = true := by
  refine Bool.and_eq_true_iff.mpr ⟨decide_eq_true deploys.company, ?_⟩
  rcases token : principal.deployTokenId with _ | id
  · rfl
  · exact deploys.preview (by rw [token]; rfl)

/-- Outside the actions API a deploy token needs a view that opts in. -/
theorem permits_token (permitted : endpoint.permits principal method = true)
    (family : endpoint.family ≠ .actions) :
    principal.deployTokenId = none ∨ method ∈ endpoint.deployTokenMethods := by
  rw [Endpoint.permits] at permitted
  split at permitted
  · contradiction
  · have allowed := (Bool.and_eq_true_iff.mp permitted).1
    simpa [isAuthenticatedPrincipal] using allowed

theorem permits_person (permitted : endpoint.permits principal method = true)
    (family : endpoint.family ≠ .actions) (closed : endpoint.deployTokenMethods = []) :
    principal.deployTokenId = none := by
  rcases permits_token permitted family with person | listed
  · exact person
  · rw [closed] at listed
    contradiction

/-! ### What is asked concerns covered apps -/

/-- The request is about apps that the principal covers; a preview deploy checks its app itself. -/
theorem Asks.covered (asks : Asks principal db endpoint method asked)
    (permitted : endpoint.permits principal method = true) (formed : db.sites.WellFormed) {now : Time}
    {act : Act} (admitted : asked.Admits settings.hosting library.hosting now db.sites act)
    (placed : ∀ preview slug anyUser new row, asked = .preparePreviewDeploy preview slug anyUser new →
      act = .createDeployment row → ∃ app ∈ db.apps, row.app = app.id ∧
        app.Deployable preview.companyId preview.userId anyUser) :
    act.Within principal.covers db.sites := by
  cases asks with
  | createApp company =>
    cases admitted with
    | createApp blank same =>
      exact covers_of_person (by rw [company, same]) (permits_person permitted nofun rfl)
  | @prepare preview slug new company =>
    cases admitted with
    | createPreview blank same room named drawn created draft owner =>
      refine ⟨Bool.and_eq_true_iff.mpr ⟨decide_eq_true (by rw [company, same]), ?_⟩, owner,
        blank.fresh⟩
      simp [App.isPreview, created]
    | @redeploy _ _ _ _ row =>
      obtain ⟨app, present, owner, deployable⟩ := placed _ _ _ _ row rfl rfl
      refine ⟨app, present, owner, Bool.and_eq_true_iff.mpr ⟨decide_eq_true ?_, ?_⟩⟩
      · rw [company, deployable.company]
      · rcases token : principal.deployTokenId with _ | id
        · rfl
        · exact deployable.preview (by rw [token]; rfl)
  | createDeployment deploys =>
    cases admitted with
    | createDeployment draft owner =>
      exact ⟨_, deploys.present, owner, deploys.covers⟩
  | @upload ref app row fileobj contentLength redeploys =>
    generalize named : row.id = id at admitted
    cases admitted with
    | upload found =>
      obtain rfl := formed.deployment_eq redeploys.stored found named
      exact ⟨found, app, redeploys.present, redeploys.owner, redeploys.toDeploys.covers⟩
  | @finalize ref app row userId actorEmail redeploys =>
    generalize named : row.id = id at admitted
    cases admitted with
    | activate found | markFailed found =>
      obtain rfl := formed.deployment_eq redeploys.stored found named
      exact ⟨found, app, redeploys.present, redeploys.owner, redeploys.toDeploys.covers⟩
  | @rollback ref app row redeploys =>
    generalize named : row.id = id at admitted
    cases admitted with
    | rollback found =>
      obtain rfl := formed.deployment_eq redeploys.stored found named
      exact ⟨found, app, redeploys.present, redeploys.owner, redeploys.toDeploys.covers⟩
  | @renew ref app listed =>
    generalize named : app.id = id at admitted
    cases admitted with
    | renew found =>
      obtain rfl := formed.app_eq listed.present found named
      exact ⟨found, covers_of_person listed.company (permits_person permitted nofun rfl)⟩
  | @delete ref app userId actorEmail listed =>
    generalize named : app.id = id at admitted
    cases admitted with
    | delete found =>
      obtain rfl := formed.app_eq listed.present found named
      exact ⟨found, covers_of_person listed.company (permits_person permitted nofun rfl)⟩

/-- The stored keys that a principal may change: those of deployments of apps that it covers. -/
def Covered (settings : Settings) (principal : HostingPrincipal) (sites : Sites) (key : PyStr) : Prop :=
  ∃ row ∈ sites.deployments, ∃ app ∈ sites.apps, row.app = app.id ∧ principal.covers app = true ∧
    InFolder (folderKey settings row) key

theorem Asks.footprint (asks : Asks principal db endpoint method asked)
    (permitted : endpoint.permits principal method = true) (formed : db.sites.WellFormed)
    {key : PyStr} (inside : asked.Footprint settings.hosting db.sites key) :
    Covered settings.hosting principal db.sites key := by
  cases asks with
  | createApp | prepare | createDeployment | rollback | renew => exact inside.elim
  | upload redeploys | finalize redeploys =>
    obtain ⟨row, stored, same, _, within⟩ := inside
    obtain rfl := formed.deployment_eq redeploys.stored stored same.symm
    exact ⟨_, stored, _, redeploys.present, redeploys.owner, redeploys.toDeploys.covers, within⟩
  | delete listed =>
    obtain ⟨row, stored, owner, within⟩ := inside
    have person := permits_person permitted nofun rfl
    exact ⟨row, stored, _, listed.present, owner, covers_of_person listed.company person, within⟩

theorem Asks.concerns (asks : Asks principal db endpoint method asked) (formed : db.sites.WellFormed) :
    ∃ companyId, principal.companyId = some companyId ∧ asked.Concerns companyId db := by
  cases asks with
  | createApp company => exact ⟨_, company, rfl⟩
  | prepare company => exact ⟨_, company, rfl⟩
  | createDeployment deploys =>
    refine ⟨_, deploys.company, fun other present same => ?_⟩
    rw [formed.app_eq present deploys.present same]
  | renew listed | delete listed =>
    refine ⟨_, listed.company, fun other present same => ?_⟩
    rw [formed.app_eq present listed.present same]
  | upload redeploys | finalize redeploys | rollback redeploys =>
    refine ⟨_, redeploys.company, fun row stored same other present owner => ?_⟩
    obtain rfl := formed.deployment_eq stored redeploys.stored same
    rw [formed.app_eq present redeploys.present (owner.trans redeploys.owner)]

end

end HostingService
