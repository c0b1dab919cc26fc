import HostingService.Api.Reach

/-! Personal access tokens that may only read. -/

namespace HostingService

open Program Text

section
variable {settings : ApiSettings} {library : ApiLibrary} {principal : HostingPrincipal}
  {request : ApiRequest} {world : ApiWorld}

/-- An unsafe request that a view outside the actions API admits: nothing there asks
whether the token may write. -/
def ApiRequest.unchecked (settings : ApiSettings) (library : ApiLibrary) (principal : HostingPrincipal)
    (request : ApiRequest) : Bool :=
  request.endpoint.family ≠ .actions && !request.method.isSafe &&
    request.endpoint.permits principal request.method &&
    !(request.endpoint.throttles request.method && request.throttled) &&
    (request.handler settings library principal).isSome

/-- A request of a read-only token, which the permission of the actions API checks if it
could write. -/
def Incident.checkedReader (settings : ApiSettings) (library : ApiLibrary) (world : ApiWorld) :
    Incident → Bool
  | .request asked => asked.endpoint.authenticates &&
      (asked.principal library world).any fun principal =>
        principal.patRo && !asked.unchecked settings library principal
  | _ => false

/-- Only tokens of users carry claims. -/
theorem authenticate_patRo {authorization : Authorization} {now : Time} {tokens after : List DeployToken}
    (authenticated : authenticate library authorization now tokens = .ok (some principal, after))
    (readOnly : principal.patRo = true) : after = tokens := by
  rcases authenticate_cases authenticated with ⟨same, _⟩ | ⟨token, _, same, _⟩
  · exact same
  · obtain rfl := Option.some.inj same
    contradiction

/-- A writing request that reaches its handler is unchecked. -/
theorem ApiRequest.Reaches.unchecked (reaches : request.Reaches settings library principal)
    (readOnly : principal.patRo = true) : request.unchecked settings library principal = true := by
  have foreign : request.endpoint.family ≠ .actions := by
    intro family
    have permitted := reaches.permitted
    simp [Endpoint.permits, family, actionsAdminPermission, readOnly, reaches.writing] at permitted
  simp [ApiRequest.unchecked, foreign, reaches.writing, reaches.permitted, reaches.unthrottled,
    reaches.handled]

theorem ApiRequest.run_reader (named : request.principal library world = some principal)
    (readOnly : principal.patRo = true)
    (checked : request.unchecked settings library principal = false)
    (authenticates : request.endpoint.authenticates = true) :
    (request.run settings library world).2 = world := by
  have effect := request.run_effect settings library world
  generalize (request.run settings library world).2 = after at effect
  cases effect with
  | nothing => rfl
  | touches authenticated =>
    obtain rfl := Option.some.inj (named.symm.trans (principal_eq authenticated))
    rw [authenticate_patRo authenticated readOnly]
  | flags endpoint =>
    rw [endpoint] at authenticates
    contradiction
  | acts authenticated reaches deed =>
    obtain rfl := Option.some.inj (named.symm.trans (principal_eq authenticated))
    rw [reaches.unchecked readOnly] at checked
    contradiction

theorem Incident.next_reader {incident : Incident}
    (checked : incident.checkedReader settings library world = true) :
    incident.next settings library world = world := by
  cases incident with
  | request asked =>
    obtain ⟨authenticates, reads⟩ := Bool.and_eq_true_iff.mp checked
    obtain ⟨principal, named, both⟩ := (Option.any_eq_true ..).mp reads
    obtain ⟨readOnly, checked⟩ := Bool.and_eq_true_iff.mp both
    exact asked.run_reader named readOnly (by simpa using checked) authenticates
  | _ => contradiction

/-- Requests of read-only tokens change nothing, as long as the actions API or no handler
gets those that could write. -/
theorem read_only_tokens_change_nothing (settings : ApiSettings) (library : ApiLibrary)
    (world : ApiWorld) (incidents : List Incident)
    (checked : Meets (Incident.next settings library) (fun world incident =>
      incident.checkedReader settings library world = true) world incidents) :
    world.runs settings library incidents = world :=
  checked.invariant (· = world) (fun _ _ reader same => (Incident.next_reader reader).trans same) rfl

end

/-- A read-only token lists apps and rules, and may not create a rule. -/
def reader : List Incident :=
  [.request (call "h.reader.s" .get .apps), .request (call "h.reader.s" .get .rules),
    .request (call "h.reader.s" .post .rules)]

theorem read_only_tokens_change_nothing_reader :
    emptyApi.runs apiSettings demoApi reader = emptyApi :=
  read_only_tokens_change_nothing apiSettings demoApi emptyApi reader (by decide +kernel)

/-- The hosting API lets a read-only token create an app. -/
theorem read_only_token_creates_app :
    ¬ ∀ (world : ApiWorld) (request : ApiRequest) (principal : HostingPrincipal),
      world.Reachable apiSettings demoApi → request.endpoint.authenticates = true →
        request.principal demoApi world = some principal → principal.patRo = true →
          (request.run apiSettings demoApi world).2 = world := by
  intro unchanged
  have same := unchanged emptyApi (call "h.reader.s" .post .apps) _ emptyApi_reachable rfl rfl rfl
  have added : ((call "h.reader.s" .post .apps).run apiSettings demoApi emptyApi).2.hosting.db.apps ≠
      [] := by decide +kernel
  exact added (congrArg (·.hosting.db.apps) same)

end HostingService
