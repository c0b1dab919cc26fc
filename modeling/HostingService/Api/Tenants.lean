import HostingService.Api.Reach

/-! The rows and files of other companies. -/

namespace HostingService

open Program Text Storage

/-- Rows that belong to companies. -/
structure CompanyRows where
  sites : Sites
  access : List CompanyHostingAccess
  reviews : List AccessReview
  events : List Event
  tokens : List DeployToken
  rules : List ActionRule
  outbox : List ActionOutbox
  attempts : List DeliveryAttempt

/-- The attempts at some rows. -/
def ActionsDb.attemptsAt (rows : List ActionOutbox) (db : ActionsDb) : List DeliveryAttempt :=
  db.attempts.filter fun attempt => rows.any (·.id = attempt.outbox)

/-- The rows of the companies that pass a test. -/
def ApiWorld.rowsOf (test : Nat → Bool) (world : ApiWorld) : CompanyRows where
  sites := world.hosting.db.sites.others fun app => !test app.companyId
  access := world.hosting.db.access.filter fun row => test row.companyId
  reviews := world.reviews.filter fun row => test row.companyId
  events := world.hosting.db.events.filter fun event => test event.companyId
  tokens := world.tokens.filter fun token => test token.companyId
  rules := world.actions.rules.filter fun rule => test rule.companyId
  outbox := world.actions.outbox.filter fun row => test row.companyId
  attempts := world.actions.attemptsAt (world.actions.outbox.filter fun row => test row.companyId)

section
variable {settings : ApiSettings} {library : ApiLibrary} {principal : HostingPrincipal}
  {request : ApiRequest} {world after : ApiWorld} {companyId : Nat} {test : Nat → Bool}

/-! ### The tables of actions -/

/-- The part of the rows that the actions API keeps. -/
structure ActionsDb.SameOf (test : Nat → Bool) (before after : ActionsDb) : Prop where
  rules : after.rules.filter (fun rule => test rule.companyId) =
    before.rules.filter fun rule => test rule.companyId
  outbox : after.outbox.filter (fun row => test row.companyId) =
    before.outbox.filter fun row => test row.companyId
  attempts : after.attemptsAt (after.outbox.filter fun row => test row.companyId) =
    before.attemptsAt (before.outbox.filter fun row => test row.companyId)

theorem ActionsDb.sameOf_delete {db : ActionsDb} {rule : ActionRule} (sound : db.Sound)
    (present : rule ∈ db.rules) (outside : test rule.companyId = false) :
    db.SameOf test (db.deleteRule rule.id) := by
  have owned {row : ActionOutbox} (member : row ∈ db.outbox) (linked : row.actionRule = some rule.id) :
      test row.companyId = false := by
    obtain ⟨other, listed, same, company⟩ := sound.linked row member rule.id linked
    rw [← company, sound.rule_eq listed present same]
    exact outside
  have outbox : (db.deleteRule rule.id).outbox.filter (fun row => test row.companyId) =
      db.outbox.filter fun row => test row.companyId := by
    refine filter_delete fun row member ours => decide_eq_true fun linked => ?_
    rw [owned member linked] at ours
    contradiction
  refine ⟨filter_delete fun other member ours => decide_eq_true fun same => ?_, outbox, ?_⟩
  · rw [sound.rule_eq member present same, outside] at ours
    contradiction
  · rw [outbox]
    refine filter_delete fun attempt member ours => decide_eq_true fun doomed => ?_
    obtain ⟨row, listed, same⟩ := List.any_eq_true.mp ours
    obtain ⟨stored, kept⟩ := List.mem_filter.mp listed
    obtain ⟨victim, gone, sameId⟩ := List.mem_map.mp doomed
    obtain ⟨there, linked⟩ := List.mem_filter.mp gone
    have known : row = victim := sound.row_eq stored there ((of_decide_eq_true same).trans sameId.symm)
    rw [known, owned there (of_decide_eq_true linked)] at kept
    contradiction

theorem ActionsChange.Concerns.sameOf {db after : ActionsDb} {change : ActionsChange}
    (concerns : change.Concerns companyId db) (sound : db.Sound) (outside : test companyId = false)
    (applied : change.apply db = .ok after) : db.SameOf test after := by
  cases concerns with
  | createRule company =>
    simp only [ActionsChange.apply] at applied
    split at applied
    · contradiction
    · obtain rfl := Except.ok.inj applied
      exact ⟨filter_concat (by rw [company]; exact outside), rfl, rfl⟩
  | @saveRule old rule present company id kept =>
    simp only [ActionsChange.apply] at applied
    split at applied
    · obtain rfl := Except.ok.inj applied
      refine ⟨filter_update fun other member same => ?_, rfl, rfl⟩
      rw [sound.rule_eq member present (same.trans id), kept, company]
      exact ⟨outside, outside⟩
    · contradiction
  | deleteRule present company =>
    obtain rfl := Except.ok.inj applied
    exact ActionsDb.sameOf_delete sound present (company ▸ outside)
  | @requeue row present company =>
    obtain rfl := Except.ok.inj applied
    have outbox : (db.assign row.id .requeued).outbox.filter (fun row => test row.companyId) =
        db.outbox.filter fun row => test row.companyId := by
      refine filter_update fun other member same => ?_
      rw [(ActionOutbox.assign_keys _ other).1, sound.row_eq member present same, company]
      exact ⟨outside, outside⟩
    refine ⟨rfl, outbox, ?_⟩
    rw [outbox]
    rfl

theorem ActionsDb.SameOf.rowsOf {actions : ActionsDb} (same : world.actions.SameOf test actions) :
    ({ world with actions } : ApiWorld).rowsOf test = world.rowsOf test := by
  obtain ⟨rules, outbox, attempts⟩ := same
  simp only [ApiWorld.rowsOf, rules, attempts]
  rw [outbox]

/-! ### Hosting requests -/

theorem Served.rowsOf {asked : Request} (served : Served settings library principal asked companyId world after)
    (own : principal.companyId = some companyId) (sound : world.Sound)
    (outside : test companyId = false) : after.rowsOf test = world.rowsOf test := by
  have sites : (after.hosting.db.sites.others fun app => !test app.companyId) =
      world.hosting.db.sites.others fun app => !test app.companyId := by
    refine served.sites.others sound.sites ⟨fun _ _ member => member, fun _ _ member => member⟩
      fun app covered => ?_
    have company := HostingPrincipal.covers_company covered
    rw [← Option.some.inj (own.symm.trans company), outside]
    rfl
  obtain ⟨news, recorded, ours⟩ := served.announces.news
  have events : after.hosting.db.events.filter (fun event => test event.companyId) =
      world.hosting.db.events.filter fun event => test event.companyId := by
    rw [recorded]
    refine filter_append_outside fun event member => ?_
    rw [ours event member, outside]
  obtain ⟨created, appended, about⟩ := served.outbox
  have outbox : after.actions.outbox.filter (fun row => test row.companyId) =
      world.actions.outbox.filter fun row => test row.companyId := by
    rw [appended]
    refine filter_append_outside fun row member => ?_
    rw [(about row member).1, outside]
  simp only [ApiWorld.rowsOf, ActionsDb.attemptsAt, sites, served.announces.access, served.reviews,
    events, served.tokens, served.rules, outbox, served.attempts]

/-! ### Requests -/

theorem ApiWorld.SetsAccess.rowsOf (sets : world.SetsAccess companyId after)
    (outside : test companyId = false) : after.rowsOf test = world.rowsOf test := by
  have narrower (other : Nat) (passes : test other = true) : decide (other ≠ companyId) = true := by
    refine decide_eq_true fun same => ?_
    rw [same, outside] at passes
    contradiction
  cases sets with
  | sets rows others =>
    simp only [ApiWorld.rowsOf]
    rw [filter_narrow rows fun row => narrower row.companyId,
      filter_narrow others fun row => narrower row.companyId]
    rfl

theorem ApiWorld.rowsOf_tokens {tokens : List DeployToken}
    (same : tokens.filter (fun token => test token.companyId) =
      world.tokens.filter fun token => test token.companyId) :
    ({ world with tokens } : ApiWorld).rowsOf test = world.rowsOf test := by
  simp only [ApiWorld.rowsOf]
  rw [same]

theorem ApiWorld.Sound.token_eq (sound : world.Sound) {first second : DeployToken}
    (one : first ∈ world.tokens) (two : second ∈ world.tokens) (same : first.id = second.id) :
    first = second := List.inj_on_of_nodup_map sound.tokenIds one two same

theorem Deed.rowsOf (permitted : request.endpoint.permits principal request.method = true)
    (member : principal.isStaff = false) (sound : world.Sound)
    (outside : ∀ own, principal.companyId = some own → test own = false)
    (deed : Deed settings library principal request world after) :
    after.rowsOf test = world.rowsOf test := by
  have own {companyId : Nat} (scope : principal.isStaff = true ∨ principal.companyId = some companyId) :
      test companyId = false := by
    rcases scope with staff | same
    · rw [member] at staff
      contradiction
    · exact outside companyId same
  cases deed with
  | serves asks =>
    obtain ⟨companyId, company, served⟩ := asks.served permitted sound.sites.formed
    exact served.rowsOf company sound (outside companyId company)
  | requestsAccess endpoint company =>
    exact (ApiWorld.setsAccess_requestAccess ..).rowsOf (outside _ company)
  | reviews endpoint scope =>
    exact (ApiWorld.setsAccess_updateAccess ..).rowsOf (own scope)
  | createsToken endpoint company =>
    exact ApiWorld.rowsOf_tokens (filter_concat (outside _ company))
  | revokesToken endpoint present company =>
    refine ApiWorld.rowsOf_tokens (filter_update fun row stored hit => ?_)
    rw [sound.token_eq stored present hit.1]
    exact ⟨outside _ company, outside _ company⟩
  | writes family governs concerns applied =>
    exact (concerns.sameOf sound.actions (own governs.scope) applied).rowsOf

/-- The use of a token is seen in its own row. -/
theorem authenticate_rowsOf {authorization : Authorization} {now : Time} {tokens : List DeployToken}
    (authenticated : authenticate library authorization now world.tokens =
      .ok (some principal, tokens)) (sound : world.Sound)
    (outside : ∀ own, principal.companyId = some own → test own = false) :
    ({ world with tokens } : ApiWorld).rowsOf test = world.rowsOf test := by
  rcases authenticate_cases authenticated with ⟨rfl, _⟩ | ⟨token, present, same, rfl⟩
  · rfl
  · obtain rfl := Option.some.inj same
    refine ApiWorld.rowsOf_tokens ?_
    rw [touchToken]
    split
    · refine filter_update fun row stored hit => ?_
      rw [sound.token_eq stored present hit]
      exact ⟨outside _ rfl, outside _ rfl⟩
    · rfl

end

/-- A request of somebody who is not staff leaves every row of the other companies, and
every file of their deployments. -/
theorem requests_stay_in_company (settings : ApiSettings) (library : ApiLibrary) (world : ApiWorld)
    (request : ApiRequest) (principal : HostingPrincipal)
    (reachable : world.Reachable settings library)
    (family : request.endpoint.family ∈ [.hosting, .actions])
    (named : request.principal library world = some principal) (member : principal.isStaff = false) :
    let after := (request.run settings library world).2
    let foreign := fun companyId : Nat => decide (principal.companyId ≠ some companyId)
    after.rowsOf foreign = world.rowsOf foreign ∧
      ∀ row ∈ world.hosting.db.deployments, ∀ app ∈ world.hosting.db.apps, row.app = app.id →
        foreign app.companyId = true → ∀ key, InFolder (folderKey settings.hosting row) key →
          after.hosting.disk.objects.lookup key = world.hosting.disk.objects.lookup key := by
  intro after foreign
  have sound := reachable.sound
  have outside : ∀ own, principal.companyId = some own → foreign own = false := by
    intro own same
    simp [foreign, same]
  have effect := request.run_effect settings library world
  change request.Effect settings library world after at effect
  generalize after = ended at effect
  cases effect with
  | nothing => exact ⟨rfl, fun _ _ _ _ _ _ _ _ => rfl⟩
  | touches authenticated =>
    obtain rfl := Option.some.inj (named.symm.trans (ApiRequest.principal_eq authenticated))
    exact ⟨authenticate_rowsOf authenticated sound outside, fun _ _ _ _ _ _ _ _ => rfl⟩
  | flags endpoint =>
    rw [endpoint] at family
    contradiction
  | acts authenticated reaches deed =>
    obtain rfl := Option.some.inj (named.symm.trans (ApiRequest.principal_eq authenticated))
    have used := authenticate_sound authenticated sound
    refine ⟨(deed.rowsOf reaches.permitted member used outside).trans
      (authenticate_rowsOf authenticated sound outside), fun row listed app present owner others key inside => ?_⟩
    refine deed.objects reaches.permitted used key fun covered => ?_
    obtain ⟨other, stored, target, known, owns, reached, within⟩ := covered
    have same : target.id = app.id := by
      rw [← owns, (folderKey_disjoint within inside).1, owner]
    obtain rfl := sound.sites.formed.app_eq known present same
    rw [outside _ (HostingPrincipal.covers_company reached)] at others
    contradiction

/-- The owner of the other company created an app. -/
def neighbours : ApiWorld :=
  emptyApi.runs apiSettings demoApi [.request (call "h.owner.s" .post .apps)]

theorem requests_stay_in_company_neighbours :
    let deletion := call "h.waiting.s" .delete (.app (lit "demo"))
    ((deletion.run apiSettings demoApi neighbours).2.rowsOf fun companyId =>
      decide (some 4 ≠ some companyId)) = neighbours.rowsOf fun companyId =>
        decide (some 4 ≠ some companyId) :=
  (requests_stay_in_company apiSettings demoApi neighbours
    (call "h.waiting.s" .delete (.app (lit "demo"))) _ (reachable_of_empty _) (by decide)
    (show _ = some (personClaims 9 4 |> principalFromClaims |>.get rfl) by decide +kernel) rfl).1

end HostingService
