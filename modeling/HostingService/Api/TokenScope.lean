import HostingService.Api.Reach

/-! What a deploy token may change: previews of its company, with the events that announce
it. -/

namespace HostingService

open Program Text Storage

/-- The app was created as a preview of the company. -/
def App.previewOf (companyId : Nat) (app : App) : Bool :=
  app.companyId = companyId && app.createdById.isSome

/-- A stored key of a deployment of such an app. -/
def PreviewKey (settings : Settings) (companyId : Nat) (sites : Sites) (key : PyStr) : Prop :=
  ∃ row ∈ sites.deployments, ∃ app ∈ sites.apps, row.app = app.id ∧ app.previewOf companyId = true ∧
    InFolder (folderKey settings row) key

/-- At most previews of the company differ, besides new rows of its event log and outbox and
the last use of tokens. -/
structure ApiWorld.PreviewsOnly (settings : ApiSettings) (companyId : Nat) (before after : ApiWorld) :
    Prop where
  others : after.hosting.db.sites.others (·.previewOf companyId) =
    before.hosting.db.sites.others (·.previewOf companyId)
  stays : ∀ app ∈ before.hosting.db.apps, ∃ later ∈ after.hosting.db.apps,
    later.identity = app.identity
  source : ∀ later ∈ after.hosting.db.apps,
    (∃ app ∈ before.hosting.db.apps, later.identity = app.identity) ∨
      before.hosting.db.sites.Fresh later ∧ later.previewOf companyId = true
  objects : SameOutside (PreviewKey settings.hosting companyId before.hosting.db.sites)
    before.hosting.disk.objects after.hosting.disk.objects
  access : after.hosting.db.access = before.hosting.db.access
  reviews : after.reviews = before.reviews
  deletions : after.deletions = before.deletions
  rules : after.actions.rules = before.actions.rules
  attempts : after.actions.attempts = before.actions.attempts
  tokens : after.tokens.map (·.untouched) = before.tokens.map (·.untouched)
  events : ∃ news, after.hosting.db.events = before.hosting.db.events ++ news ∧
    ∀ event ∈ news, event.companyId = companyId
  outbox : ∃ created, after.actions.outbox = before.actions.outbox ++ created ∧
    ∀ row ∈ created, row.companyId = companyId

def Answer.isFailed : Answer → Bool
  | .failed .. => true
  | .served _ => false

section
variable {settings : ApiSettings} {library : ApiLibrary} {world : ApiWorld} {companyId : Nat}
  {principal : HostingPrincipal} {request : ApiRequest} {sites : Sites} {act : Act}

/-! ### Who a token is -/

theorem deployTokenOf_some {authorization : Authorization} {raw : PyStr}
    (named : deployTokenOf authorization = some raw) :
    ∃ raw, authorization = .bearer true raw ∧ tokenPrefix.isPrefixOf raw = true := by
  cases authorization with
  | bearer exactCase text =>
    cases exactCase with
    | true =>
      by_cases prefixed : tokenPrefix.isPrefixOf text = true
      · exact ⟨text, rfl, prefixed⟩
      · rw [deployTokenOf, if_neg prefixed] at named
        contradiction
    | false => contradiction
  | _ => contradiction

theorem authenticate_token {authorization : Authorization} {now : Time}
    {tokens after : List DeployToken}
    (authenticated : authenticate library authorization now tokens = .ok (some principal, after))
    (token : principal.deployTokenId.isSome = true) :
    (∃ raw, authorization = .bearer true raw ∧ tokenPrefix.isPrefixOf raw = true) ∧
      principal.isStaff = false ∧ principal.isCompanyOwner = false ∧
      after.map (·.untouched) = tokens.map (·.untouched) := by
  rcases authenticate_cases authenticated with ⟨_, person⟩ | ⟨row, _, same, rfl⟩
  · rw [person principal rfl] at token
    contradiction
  · obtain rfl := Option.some.inj same
    refine ⟨?_, rfl, rfl, touchToken_untouched row now tokens⟩
    rw [authenticate] at authenticated
    rcases header : deployTokenOf authorization with _ | raw
    · rw [header] at authenticated
      rcases verified : authenticateJwt library authorization with error | found
      · rw [verified] at authenticated
        contradiction
      · rw [verified] at authenticated
        obtain ⟨rfl, _⟩ := Prod.mk.inj (Except.ok.inj authenticated)
        obtain ⟨_, _, _, accepted⟩ := authenticateJwt_claims verified
        have person := (principalFromClaims_claims accepted).1
        contradiction
    · exact deployTokenOf_some header

/-! ### Tables -/

theorem Sites.others_congr {inside other : App → Bool}
    (same : ∀ app ∈ sites.apps, inside app = other app) : sites.others inside = sites.others other := by
  have outer : sites.outer inside = sites.outer other :=
    List.filter_congr fun app member => by rw [same app member]
  rw [Sites.others, Sites.others, outer]

/-- For a deploy token the covered apps are the previews of its company. -/
theorem Sites.Plain.covers (plain : sites.Plain) (token : principal.deployTokenId.isSome = true)
    (own : principal.companyId = some companyId) {app : App} (member : app ∈ sites.apps) :
    principal.covers app = app.previewOf companyId := by
  have named : principal.deployTokenId.isNone = false := by
    rw [← Option.not_isSome, token]
    rfl
  rw [HostingPrincipal.covers, named, Bool.false_or, plain.isPreview member, own, App.previewOf]
  simp [eq_comm]

theorem Act.app_stays (kept : ∀ target, act ≠ .delete target) {app : App} (member : app ∈ sites.apps) :
    ∃ later ∈ (act.apply sites).apps, later.identity = app.identity := by
  cases act with
  | createApp | createPreview => exact ⟨app, List.mem_append_left _ member, rfl⟩
  | createDeployment | reopen => exact ⟨app, member, rfl⟩
  | makeCurrent | renew =>
    refine ⟨_, List.mem_map_of_mem member, ?_⟩
    split <;> rfl
  | delete target => exact absurd rfl (kept target)

/-- What the service does for a token. -/
theorem Served.previewsOnly {asked : Request} {after : ApiWorld}
    (served : Served settings library principal asked companyId world after)
    (keeps : ∀ app userId actorEmail, asked ≠ .delete app userId actorEmail) (sound : world.Sound)
    (token : principal.deployTokenId.isSome = true) (own : principal.companyId = some companyId) :
    world.PreviewsOnly settings companyId after := by
  have plain := sound.plain
  have later : after.hosting.db.sites.Plain := (served.sound sound).plain
  have same {sites : Sites} (plain : sites.Plain) : sites.others (·.previewOf companyId) =
      sites.others principal.covers :=
    Sites.others_congr fun app member => (plain.covers token own member).symm
  obtain ⟨created, appended, ours⟩ := served.outbox
  refine ⟨?_, ?_, ?_, ?_, served.announces.access, served.reviews, served.deletions, served.rules,
    served.attempts, by rw [served.tokens], served.announces.news, created, appended,
    fun row member => (ours row member).1⟩
  · rw [same plain, same later]
    exact served.sites.others sound.sites principal.covers_lasting fun app covered => covered
  · intro app member
    rcases served.sites with stays | ⟨act, admitted, _, moved⟩
    · exact ⟨app, Sites.mem_apps stays.symm member, rfl⟩
    · have kept : ∀ target, act ≠ .delete target := by
        rintro target rfl
        cases admitted
        exact keeps _ _ _ rfl
      have listed : app ∈ world.hosting.db.sites.apps := member
      obtain ⟨later, stays, id⟩ := Act.app_stays kept listed
      exact ⟨later, Sites.mem_apps moved.symm stays, id⟩
  · intro app member
    rcases served.sites.app_from member with old | ⟨blank, covered, _⟩
    · exact .inl old
    · refine .inr ⟨blank.fresh, ?_⟩
      rwa [← later.covers token own member]
  · refine SameOutside.mono served.objects fun key covered => ?_
    obtain ⟨row, stored, app, present, owner, covers, inside⟩ := covered
    exact ⟨row, stored, app, present, owner, by rwa [← plain.covers token own present], inside⟩

theorem Deed.previewsOnly {after : ApiWorld} (deed : Deed settings library principal request world after)
    (permitted : request.endpoint.permits principal request.method = true) (sound : world.Sound)
    (token : principal.deployTokenId.isSome = true) (own : principal.companyId = some companyId)
    (member : principal.isStaff = false) (owner : principal.isCompanyOwner = false) :
    world.PreviewsOnly settings companyId after := by
  have closed (family : request.endpoint.family ≠ .actions)
      (none : request.endpoint.deployTokenMethods = []) : False := by
    rw [permits_person permitted family none] at token
    contradiction
  cases deed with
  | @serves asked asks =>
    obtain ⟨other, same, served⟩ := asks.served permitted sound.sites.formed
    obtain rfl := Option.some.inj (own.symm.trans same)
    refine served.previewsOnly (fun app userId actorEmail deletes => ?_) sound token own
    subst deletes
    generalize endpoint : request.endpoint = path at asks
    generalize request.method = method at asks
    cases asks
    exact closed (by rw [endpoint]; nofun) (by rw [endpoint]; rfl)
  | requestsAccess endpoint => exact (closed (by rw [endpoint]; nofun) (by rw [endpoint]; rfl)).elim
  | reviews endpoint => exact (closed (by rw [endpoint]; nofun) (by rw [endpoint]; rfl)).elim
  | createsToken endpoint => exact (closed (by rw [endpoint]; nofun) (by rw [endpoint]; rfl)).elim
  | revokesToken endpoint => exact (closed (by rw [endpoint]; nofun) (by rw [endpoint]; rfl)).elim
  | writes _ governs =>
    rcases governs.admin with staff | owns
    · rw [member] at staff
      contradiction
    · rw [owner] at owns
      contradiction

theorem ApiWorld.PreviewsOnly.touched {after : ApiWorld} {tokens : List DeployToken}
    (only : ({ world with tokens } : ApiWorld).PreviewsOnly settings companyId after)
    (same : tokens.map (·.untouched) = world.tokens.map (·.untouched)) :
    world.PreviewsOnly settings companyId after :=
  { only with tokens := only.tokens.trans same }

theorem ApiWorld.PreviewsOnly.refl (settings : ApiSettings) (companyId : Nat) (world : ApiWorld) :
    world.PreviewsOnly settings companyId world where
  others := rfl
  stays := fun app member => ⟨app, member, rfl⟩
  source := fun app member => .inl ⟨app, member, rfl⟩
  objects := SameOutside.refl _ _
  access := rfl
  reviews := rfl
  deletions := rfl
  rules := rfl
  attempts := rfl
  tokens := rfl
  events := ⟨[], by simp, by simp⟩
  outbox := ⟨[], by simp, by simp⟩

theorem ApiRequest.run_previewsOnly (sound : world.Sound)
    (assertions : ∀ raw, tokenPrefix.isPrefixOf raw = true → library.verifyAssertion raw = none)
    (named : request.principal library world = some principal)
    (token : principal.deployTokenId.isSome = true) (own : principal.companyId = some companyId) :
    world.PreviewsOnly settings companyId (request.run settings library world).2 := by
  have known {tokens : List DeployToken} {other : HostingPrincipal}
      (authenticated : authenticate library request.authorization world.hosting.clock world.tokens =
        .ok (some other, tokens)) : other = principal :=
    Option.some.inj ((principal_eq authenticated).symm.trans named)
  have effect := request.run_effect settings library world
  generalize (request.run settings library world).2 = after at effect
  cases effect with
  | nothing => exact .refl settings companyId world
  | touches authenticated =>
    obtain rfl := known authenticated
    obtain ⟨_, _, _, same⟩ := authenticate_token authenticated token
    exact (ApiWorld.PreviewsOnly.refl settings companyId _).touched same
  | @flags other exactCase raw endpoint header verified =>
    rw [ApiRequest.principal] at named
    rcases authenticated : authenticate library request.authorization world.hosting.clock
      world.tokens with error | ⟨found, tokens⟩
    · rw [authenticated] at named
      contradiction
    · rw [authenticated] at named
      obtain rfl : found = some principal := named
      obtain ⟨⟨text, same, prefixed⟩, _⟩ := authenticate_token authenticated token
      rw [header] at same
      obtain ⟨_, rfl⟩ := Authorization.bearer.inj same
      rw [assertions raw prefixed] at verified
      contradiction
  | acts authenticated reaches deed =>
    obtain rfl := known authenticated
    obtain ⟨_, member, owner, same⟩ := authenticate_token authenticated token
    exact (deed.previewsOnly reaches.permitted (authenticate_sound authenticated sound) token own
      member owner).touched same

/-! ### Answers -/

theorem companyView_forbidden {view : Nat → View} (member : principal.isStaff = false)
    (owner : principal.isCompanyOwner = false) :
    (companyView principal request view world).1.isFailed = true := by
  have refused : ∃ answer, requireStaffOrCompanyOwner principal request = .error answer ∧
      answer.isFailed = true := by
    rw [requireStaffOrCompanyOwner]
    split
    · rename_i failed
      refine ⟨_, rfl, ?_⟩
      rw [requestedCompany] at failed
      split at failed
      · obtain rfl := Except.error.inj failed
        rfl
      · split at failed
        · obtain rfl := Except.error.inj failed
          rfl
        · contradiction
      · obtain rfl := Except.error.inj failed
        rfl
      · contradiction
    · rw [member, owner]
      exact ⟨_, rfl, rfl⟩
  obtain ⟨answer, failed, isFailed⟩ := refused
  rw [companyView, failed]
  exact isFailed

/-- No view of the actions API shows its rows to a deploy token. -/
theorem Endpoint.get_forbidden {view : View} {endpoint : Endpoint} (family : endpoint.family = .actions)
    (member : principal.isStaff = false) (owner : principal.isCompanyOwner = false)
    (handled : endpoint.get settings principal request = some view) :
    (view world).1.isFailed = true := by
  cases endpoint with
  | eventLog | eventLogTypes | eventLogRetention | eventLogEntry | actionEvents | rules | rule |
      deliveries | delivery =>
    obtain rfl := Option.some.inj handled
    exact companyView_forbidden member owner
  | sendTest | rotateSecret | requeue => contradiction
  | _ => contradiction

theorem Endpoint.deployTokenMethods_unsafe {endpoint : Endpoint} {method : Method}
    (listed : method ∈ endpoint.deployTokenMethods) : method.isSafe = false := by
  have member : method = .post ∨ method = .put := by
    cases endpoint with
    | preview | finalize => exact .inl (List.mem_singleton.mp listed)
    | upload => simpa [deployTokenMethods, or_comm] using listed
    | _ => contradiction
  rcases member with rfl | rfl <;> rfl

/-- What an admitted request with a safe method shows to a deploy token. -/
theorem ApiRequest.handleChecked_unread (safe : request.method.isSafe = true)
    (token : principal.deployTokenId.isSome = true) (member : principal.isStaff = false)
    (owner : principal.isCompanyOwner = false) {content : Content}
    (served : (request.handleChecked settings library principal world).1 = .served content) :
    content = .metadata := by
  rw [handleChecked] at served
  split at served
  · contradiction
  · rename_i permitted
    split at served
    · contradiction
    · rw [handle] at served
      split at served
      · contradiction
      · rename_i view handled
        have hidden (got : request.endpoint.get settings principal request = some view) : False := by
          by_cases family : request.endpoint.family = .actions
          · have failed : (view world).1.isFailed = true :=
            Endpoint.get_forbidden family member owner got
            rw [served] at failed
            contradiction
          · rcases permits_token (by simpa using permitted) family with person | listed
            · rw [person] at token
              contradiction
            · rw [Endpoint.deployTokenMethods_unsafe listed] at safe
              contradiction
        rw [handler] at handled
        rcases method : request.method
        all_goals rw [method] at handled safe
        case get => exact (hidden handled).elim
        case head => exact (hidden handled).elim
        case options =>
          obtain rfl := Option.some.inj handled
          exact (Answer.served.inj served).symm
        all_goals contradiction

theorem ApiRequest.run_unread (safe : request.method.isSafe = true)
    (named : request.principal library world = some principal)
    (token : principal.deployTokenId.isSome = true) {content : Content}
    (served : (request.run settings library world).1 = .served content) :
    content = .metadata ∨ request.endpoint = .health := by
  rw [run] at served
  split at served
  · rename_i authenticates
    split at served
    · rename_i failed
      rw [ApiRequest.principal, failed] at named
      contradiction
    · contradiction
    · rename_i other tokens authenticated
      obtain rfl := Option.some.inj ((principal_eq authenticated).symm.trans named)
      obtain ⟨_, member, owner, _⟩ := authenticate_token authenticated token
      exact .inl (handleChecked_unread safe token member owner served)
  · rename_i anybody
    rw [handle] at served
    split at served
    · contradiction
    · rename_i view handled
      rw [handler] at handled
      rcases endpoint : request.endpoint
      all_goals rw [endpoint] at anybody handled
      case health => exact .inr rfl
      case companyDeletions =>
        rcases method : request.method
        all_goals rw [method] at handled safe
        case options =>
          obtain rfl := Option.some.inj handled
          exact .inl (Answer.served.inj served).symm
        all_goals contradiction
      all_goals exact absurd rfl anybody

/-! ### Named apps stay named -/

theorem Incident.next_identity {incident : Incident} (sound : world.Sound) {app later : App}
    (present : app ∈ world.hosting.db.apps)
    (member : later ∈ (incident.next settings library world).hosting.db.apps)
    (same : later.id = app.id) : later.identity = app.identity := by
  have formed := sound.sites.formed
  have from_old {old : App} (stored : old ∈ world.hosting.db.apps)
      (kept : later.identity = old.identity) : later.identity = app.identity := by
    have id : later.id = old.id := congrArg (·.id) kept
    rw [kept, formed.app_eq stored present (id.symm.trans same)]
  rcases incident.next_sites sound with stays | ⟨target, deleted⟩ | ⟨_, _, _, act, _, _, _, admitted, moved⟩
  · rw [formed.app_eq (Sites.mem_apps stays member) present same]
  · rcases Act.app_from (Sites.mem_apps deleted member) with ⟨old, stored, kept⟩ | inserts
    · exact from_old stored kept
    · exact inserts.elim
  · rcases Act.app_from (Sites.mem_apps moved member) with ⟨old, stored, kept⟩ | inserts
    · exact from_old stored kept
    · exact absurd same.symm ((admitted.inserts inserts).1.fresh app present).1

/-- An app of `create_app` has no creator. -/
theorem ApiRequest.created_plain (sound : world.Sound) (endpoint : request.endpoint = .apps) {app : App}
    (member : app ∈ (request.run settings library world).2.hosting.db.apps)
    (fresh : ∀ old ∈ world.hosting.db.apps, old.id ≠ app.id) : app.createdById = none := by
  rcases Incident.next_sites (.request request) sound with stays | ⟨target, deleted⟩ |
    ⟨asked, principal, given, act, named, _, asks, admitted, moved⟩
  · exact absurd rfl (fresh app (Sites.mem_apps stays member))
  · rcases Act.app_from (Sites.mem_apps deleted member) with ⟨old, stored, kept⟩ | inserts
    · have same : app.id = old.id := congrArg (·.id) kept
      exact absurd same.symm (fresh old stored)
    · exact inserts.elim
  · obtain rfl := Incident.request.inj named
    rcases Act.app_from (Sites.mem_apps moved member) with ⟨old, stored, kept⟩ | inserts
    · have same : app.id = old.id := congrArg (·.id) kept
      exact absurd same.symm (fresh old stored)
    · rcases (admitted.inserts inserts).2 with ⟨_, _, _, plain⟩ | ⟨_, _, _, _, rfl, _⟩
      · exact plain
      · rw [endpoint] at asks
        generalize request.method = method at asks
        cases asks

/-- As long as the app is there, it has the creator that it had. -/
theorem runs_identity (sound : world.Sound) {app : App} (present : app ∈ world.hosting.db.apps)
    {incidents : List Incident} (stays : Meets (Incident.next settings library) (fun world _ =>
      world.hosting.db.apps.any (·.id = app.id) = true) world incidents) :
    ∀ later ∈ (world.runs settings library incidents).hosting.db.apps, later.id = app.id →
      later.createdById = app.createdById := by
  refine (stays.invariant (fun world : ApiWorld => world.Sound ∧
    ∀ later ∈ world.hosting.db.apps, later.id = app.id → later.createdById = app.createdById)
    (fun world incident there held => ?_) ⟨sound, fun later member same => ?_⟩).2
  · obtain ⟨sound, kept⟩ := held
    refine ⟨incident.next_sound sound, fun later member same => ?_⟩
    obtain ⟨old, stored, id⟩ := List.any_eq_true.mp there
    have known : old.id = app.id := of_decide_eq_true id
    have alike := Incident.next_identity sound stored member (same.trans known.symm)
    have creator : later.createdById = old.createdById := congrArg (·.createdById) alike
    exact creator.trans (kept old stored known)
  · rw [sound.sites.formed.app_eq member present same]

/-- A deploy token changes previews of its company alone, and records what it did; no safe
method shows it rows; and an app of `create_app` is never a preview. -/
theorem deploy_tokens_confined (settings : ApiSettings) (library : ApiLibrary) (companyId : Nat)
    (world : ApiWorld) (request : ApiRequest) (principal : HostingPrincipal)
    (reachable : world.Reachable settings library)
    (assertions : ∀ raw, tokenPrefix.isPrefixOf raw = true → library.verifyAssertion raw = none)
    (named : request.principal library world = some principal)
    (token : principal.deployTokenId.isSome = true) (own : principal.companyId = some companyId) :
    world.PreviewsOnly settings companyId (request.run settings library world).2 ∧
      (request.method.isSafe = true → ∀ content,
        (request.run settings library world).1 = .served content →
          content = .metadata ∨ request.endpoint = .health) ∧
      ∀ creation : ApiRequest, creation.endpoint = .apps →
        let created := (creation.run settings library world).2
        ∀ app ∈ created.hosting.db.apps, (∀ old ∈ world.hosting.db.apps, old.id ≠ app.id) →
          ∀ incidents, Meets (Incident.next settings library) (fun world _ =>
            world.hosting.db.apps.any (·.id = app.id) = true) created incidents →
              ∀ later ∈ (created.runs settings library incidents).hosting.db.apps,
                later.id = app.id → later.isPreview = false := by
  have sound := reachable.sound
  refine ⟨request.run_previewsOnly sound assertions named token own,
    fun safe content served => request.run_unread safe named token served, ?_⟩
  intro creation endpoint created app member fresh incidents stays later listed same
  have plain := creation.created_plain sound endpoint member fresh
  have started : created.Sound := creation.run_sound sound
  have kept := runs_identity started member stays later listed same
  rw [(ApiWorld.runs_sound started incidents).plain.isPreview listed, kept, plain]
  rfl

end

/-- An owner makes a deploy token. -/
def makesToken : List Incident := [.request (call "h.owner.s" .post .deployTokens)]

/-- A request with that token. -/
def callWithToken (method : Method) (endpoint : Endpoint) : ApiRequest :=
  { call "" method endpoint with authorization := .bearer true (tokenPrefix ++ demoSecret) }

def demoDeployer : HostingPrincipal where
  userId := 7
  companyId := some 3
  email := []
  isStaff := false
  isCompanyOwner := false
  accessGlobalMetrics := false
  deployTokenId := some ⟨4⟩
  patRo := false

theorem deploy_tokens_confined_preview :
    (emptyApi.runs apiSettings demoApi makesToken).PreviewsOnly apiSettings 3
      ((callWithToken .post .preview).run apiSettings demoApi
        (emptyApi.runs apiSettings demoApi makesToken)).2 :=
  (deploy_tokens_confined apiSettings demoApi 3 _ (callWithToken .post .preview) demoDeployer
    (reachable_of_empty makesToken) (fun _ _ => rfl) (by decide +kernel) rfl rfl).1

/-- A preview of a deploy token is recorded in the event log. -/
theorem deploy_token_records_event :
    ¬ ∀ (world : ApiWorld) (request : ApiRequest) (principal : HostingPrincipal),
      world.Reachable apiSettings demoApi → request.principal demoApi world = some principal →
        principal.deployTokenId.isSome = true → principal.companyId = some 3 →
          (request.run apiSettings demoApi world).2.hosting.db.events = world.hosting.db.events := by
  intro kept
  have same := kept (emptyApi.runs apiSettings demoApi makesToken) (callWithToken .post .preview)
    demoDeployer (reachable_of_empty makesToken) (by decide +kernel) rfl rfl
  have longer : ((callWithToken .post .preview).run apiSettings demoApi
      (emptyApi.runs apiSettings demoApi makesToken)).2.hosting.db.events.length ≠
        (emptyApi.runs apiSettings demoApi makesToken).hosting.db.events.length := by
    decide +kernel
  exact longer (congrArg List.length same)

end HostingService
