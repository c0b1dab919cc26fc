import HostingService.Api.Reach

/-! Who decided that the URL of a rule may be private: what requests do to the rules, and
what this leaves of their configuration. -/

namespace HostingService

open Program Text Storage

/-! ### The configuration that a request builds -/

section
variable {existing config : WebhookConfig} {fields : RuleFields} {isSuperuser isPatch : Bool}
  {generated : PyStr}

theorem buildWebhookConfig_filled
    (built : buildWebhookConfig existing fields isSuperuser isPatch generated = .ok config)
    (source : if isPatch then existing.secret ≠ [] else generated ≠ []) :
    config.url ≠ [] ∧ config.secret ≠ [] := by
  simp only [buildWebhookConfig] at built
  generalize (if (fields.url.isSome || !isPatch) = true then strip (fields.url.getD existing.url)
    else existing.url) = url at built
  split at built
  · contradiction
  · rename_i present
    obtain rfl := Except.ok.inj built
    refine ⟨present, ?_⟩
    have kept : (if existing.secret = [] && !isPatch then generated else existing.secret) ≠ [] := by
      cases isPatch with
      | true => simpa using source
      | false =>
        by_cases blank : existing.secret = []
        · simpa [blank] using source
        · simp [blank]
    rcases fields.secret with _ | secret
    · exact kept
    · by_cases blank : strip secret = []
      · simpa [blank] using kept
      · simp [blank]

/-- An owner sets no flag, and keeps one only beside its URL. -/
theorem buildWebhookConfig_private
    (built : buildWebhookConfig existing fields false isPatch generated = .ok config)
    (shown : config.allowPrivateUrls = true) :
    existing.allowPrivateUrls = true ∧ strip config.url = strip existing.url := by
  simp only [buildWebhookConfig] at built
  generalize chosen : (if (fields.url.isSome || !isPatch) = true then
    strip (fields.url.getD existing.url) else existing.url) = url at built
  split at built
  · contradiction
  · obtain rfl := Except.ok.inj built
    dsimp only at shown ⊢
    rw [if_neg (by simp)] at shown
    split at shown
    · contradiction
    · rename_i unchanged
      refine ⟨shown, ?_⟩
      rcases given : fields.url with _ | text
      · rw [given] at chosen
        cases isPatch with
        | true => exact congrArg strip chosen.symm
        | false =>
          rw [← chosen]
          exact strip_strip _
      · have same : url = strip existing.url := by simpa [given] using unchanged
        rw [same, strip_strip]

end

/-! ### What requests do to the rules -/

/-- The rules after a write of a request by the principal. -/
inductive RuleWrite (principal : HostingPrincipal) (request : ApiRequest) (rules : List ActionRule) :
    List ActionRule → Prop where
  | creates {id companyId : Nat} {fields : RuleFields} {name : PyStr} {eventType : EventType}
      {rule : ActionRule} (built : newRule id companyId fields name eventType principal.isStaff
        request.draws.webhookSecret = .ok rule) : RuleWrite principal request rules (rules ++ [rule])
  | patches {old rule : ActionRule} {fields : RuleFields} (present : old ∈ rules)
      (patched : old.patched fields principal.isStaff = .ok rule) :
      RuleWrite principal request rules
        (rules.map fun other => if other.id = rule.id then rule else other)
  | rotates {old : ActionRule} (present : old ∈ rules) :
      RuleWrite principal request rules (rules.map fun other =>
        if other.id = old.id then old.withSecret request.draws.webhookSecret else other)
  | deletes (id : Nat) : RuleWrite principal request rules (rules.filter (·.id ≠ id))

section
variable {settings : ApiSettings} {library : ApiLibrary} {principal : HostingPrincipal}
  {request : ApiRequest}

/-- The view leaves the rules, or writes them as the principal may. -/
def WritesRules (principal : HostingPrincipal) (request : ApiRequest) (view : View) : Prop :=
  ∀ world, (view world).2.actions.rules = world.actions.rules ∨
    RuleWrite principal request world.actions.rules (view world).2.actions.rules

theorem View.Reads.writesRules {view : View} (reads : view.Reads) :
    WritesRules principal request view := fun world => .inl (by rw [reads world])

theorem companyView_writesRules {view : Nat → View}
    (writes : ∀ companyId, WritesRules principal request (view companyId)) :
    WritesRules principal request (companyView principal request view) := by
  intro world
  rw [companyView]
  split
  · exact .inl rfl
  · exact writes _ world

theorem ruleView_writesRules {id : Nat} {view : ActionRule → View}
    (writes : ∀ rule world, rule ∈ world.actions.rules →
      (view rule world).2.actions.rules = world.actions.rules ∨
        RuleWrite principal request world.actions.rules (view rule world).2.actions.rules) :
    WritesRules principal request (ruleView principal request id view) := by
  refine companyView_writesRules fun companyId world => ?_
  split
  · exact .inl rfl
  · rename_i rule found
    exact writes rule world (List.mem_of_find?_eq_some found)

/-- A write that the tables refuse leaves them. -/
theorem write_cases (world : ApiWorld) (change : ActionsChange) (answer : Answer) :
    (world.write change answer).2 = world ∨ ∃ actions, change.apply world.actions = .ok actions ∧
      (world.write change answer).2.actions = actions := by
  rw [ApiWorld.write]
  rcases change.apply world.actions with error | actions
  · exact .inl rfl
  · exact .inr ⟨actions, rfl, rfl⟩

theorem write_writesRules {world : ApiWorld} {change : ActionsChange} {answer : Answer}
    (writes : ∀ actions, change.apply world.actions = .ok actions →
      actions.rules = world.actions.rules ∨
        RuleWrite principal request world.actions.rules actions.rules) :
    (world.write change answer).2.actions.rules = world.actions.rules ∨
      RuleWrite principal request world.actions.rules (world.write change answer).2.actions.rules := by
  rcases write_cases world change answer with same | ⟨actions, applied, same⟩
  · exact .inl (by rw [same])
  · rw [same]
    exact writes actions applied

theorem actionRuleListViewPost_writesRules :
    WritesRules principal request (actionRuleListViewPost principal request) := by
  refine companyView_writesRules fun companyId world => ?_
  split
  · exact .inl rfl
  · split
    · exact .inl rfl
    · rename_i built
      refine write_writesRules fun actions applied => ?_
      simp only [ActionsChange.apply] at applied
      split at applied
      · contradiction
      · obtain rfl := Except.ok.inj applied
        exact .inr (.creates built)

/-- Saving a rule writes the row with its key. -/
theorem saveRule_rules {db after : ActionsDb} {rule : ActionRule}
    (applied : (ActionsChange.saveRule rule).apply db = .ok after) :
    after.rules = db.rules.map fun old => if old.id = rule.id then rule else old := by
  simp only [ActionsChange.apply] at applied
  split at applied
  · obtain rfl := Except.ok.inj applied
    rfl
  · contradiction

theorem actionRuleDetailViewPatch_writesRules {id : Nat} :
    WritesRules principal request (actionRuleDetailViewPatch principal request id) := by
  refine ruleView_writesRules fun rule world present => ?_
  split
  · exact .inl rfl
  · split
    · exact .inl rfl
    · rename_i patched
      refine write_writesRules fun actions applied => .inr ?_
      rw [saveRule_rules applied]
      exact .patches present patched

theorem actionRuleRotateSecretViewPost_writesRules {id : Nat} :
    WritesRules principal request (actionRuleRotateSecretViewPost principal request id) := by
  refine ruleView_writesRules fun rule world present =>
    write_writesRules fun actions applied => .inr ?_
  have rotated : RuleWrite principal request world.actions.rules _ := .rotates present
  rw [saveRule_rules applied]
  exact rotated

theorem actionRuleDetailViewDelete_writesRules {id : Nat} :
    WritesRules principal request (actionRuleDetailViewDelete principal request id) := by
  refine ruleView_writesRules fun rule world present =>
    write_writesRules fun actions applied => .inr ?_
  obtain rfl := Except.ok.inj applied
  exact .deletes rule.id

/-- A requeue is about an outbox row. -/
theorem actionDeliveryRequeueViewPost_writesRules {id : Uuid} :
    WritesRules principal request (actionDeliveryRequeueViewPost principal request id) := by
  refine companyView_writesRules fun companyId world => .inl ?_
  have requeued : (requeueDelivery companyId id).Ensures DeliveryCall.handle
      (fun _ after => after.db = world.actions ∨ ∃ row ∈ world.actions.outbox,
        row.companyId = companyId ∧ after.db = world.actions.assign row.id .requeued)
      (world.outboxWorld request.network) := ensures_requeueDelivery
  have kept {after : OutboxWorld} (ends : after.db = world.actions ∨ ∃ row ∈ world.actions.outbox,
      row.companyId = companyId ∧ after.db = world.actions.assign row.id .requeued) :
      after.db.rules = world.actions.rules := by
    rcases ends with same | ⟨_, _, _, same⟩
    · rw [same]
    · rw [same]
      rfl
  split
  all_goals
    rename_i ran
    exact kept (requeued.of_run ran)

theorem ApiRequest.handler_writesRules {view : View} (family : request.endpoint.family = .actions)
    (handled : request.handler settings library principal = some view) :
    WritesRules principal request view := by
  rw [handler] at handled
  split at handled
  · exact (Endpoint.get_reads handled).writesRules
  · exact (Endpoint.get_reads handled).writesRules
  · obtain rfl := Option.some.inj handled
    exact fun world => .inl rfl
  · rcases endpoint : request.endpoint
    all_goals rw [endpoint] at family handled
    case rules =>
      obtain rfl := Option.some.inj handled
      exact actionRuleListViewPost_writesRules
    case sendTest id =>
      obtain rfl := Option.some.inj handled
      exact actionRuleSendTestViewPost_reads.writesRules
    case rotateSecret id =>
      obtain rfl := Option.some.inj handled
      exact actionRuleRotateSecretViewPost_writesRules
    case requeue id =>
      obtain rfl := Option.some.inj handled
      exact actionDeliveryRequeueViewPost_writesRules
    all_goals contradiction
  · rcases endpoint : request.endpoint
    all_goals rw [endpoint] at family handled
    all_goals contradiction
  · rcases endpoint : request.endpoint
    all_goals rw [endpoint] at family handled
    case rule id =>
      obtain rfl := Option.some.inj handled
      exact actionRuleDetailViewPatch_writesRules
    all_goals contradiction
  · rcases endpoint : request.endpoint
    all_goals rw [endpoint] at family handled
    case rule id =>
      obtain rfl := Option.some.inj handled
      exact actionRuleDetailViewDelete_writesRules
    all_goals contradiction
  · contradiction

/-- Outside the actions API nothing is written to the rules. -/
theorem Deed.rules {before after : ApiWorld} (deed : Deed settings library principal request before after)
    (family : request.endpoint.family ≠ .actions) : after.actions.rules = before.actions.rules := by
  cases deed with
  | @serves asked asks =>
    rcases ApiWorld.serve_cases settings library asked request.faults request.draws before with same | same
    · rw [same]
      obtain ⟨created, _, appended, _⟩ := createOutboxRows_appends _ before.actions
      rw [appended]
    · rw [same]
  | requestsAccess => rw [(before.setsAccess_requestAccess _ _).actions]
  | reviews => rw [(before.setsAccess_updateAccess _ _ _ _).actions]
  | writes actions => exact absurd actions family
  | _ => rfl

theorem ApiRequest.run_rules (settings : ApiSettings) (library : ApiLibrary) (request : ApiRequest)
    (world : ApiWorld) :
    (request.run settings library world).2.actions.rules = world.actions.rules ∨
      ∃ principal, request.principal library world = some principal ∧
        RuleWrite principal request world.actions.rules
          (request.run settings library world).2.actions.rules := by
  by_cases family : request.endpoint.family = .actions
  · have authenticates : request.endpoint.authenticates = true := by
      generalize request.endpoint = endpoint at family
      cases endpoint <;> first | rfl | contradiction
    rw [run, if_pos authenticates]
    split
    · exact .inl rfl
    · exact .inl rfl
    · rename_i principal tokens authenticated
      rw [handleChecked]
      split
      · exact .inl rfl
      · split
        · exact .inl rfl
        · rw [handle]
          split
          · exact .inl rfl
          · rename_i view handled
            exact (handler_writesRules family handled { world with tokens }).imp_right
              fun write => ⟨principal, principal_eq authenticated, write⟩
  · have effect := request.run_effect settings library world
    generalize (request.run settings library world).2 = after at effect
    cases effect with
    | nothing | touches | flags => exact .inl rfl
    | acts authenticated reaches deed => exact .inl (deed.rules family)

end

/-! ### What stays true of the rules -/

/-- A rule has somewhere to send to, and something to sign with. -/
def ActionRule.Configured (rule : ActionRule) : Prop :=
  rule.config.url ≠ [] ∧ rule.config.secret ≠ []

/-- The URL of a rule, and whether it may be private. -/
def ActionRule.policy (rule : ActionRule) : PyStr × Bool :=
  (strip rule.config.url, rule.config.allowPrivateUrls)

theorem webhookSecret_ne_nil (draws : Draws) : draws.webhookSecret ≠ [] := by
  rw [Draws.webhookSecret, generateWebhookSigningSecret]
  exact List.append_ne_nil_of_left_ne_nil (by decide) _

section
variable {settings : ApiSettings} {library : ApiLibrary} {principal : HostingPrincipal}
  {request : ApiRequest} {rules after : List ActionRule} {rule : ActionRule}

theorem newRule_config {id companyId : Nat} {fields : RuleFields} {name generated : PyStr}
    {eventType : EventType} {isSuperuser : Bool}
    (built : newRule id companyId fields name eventType isSuperuser generated = .ok rule) :
    buildWebhookConfig emptyConfig fields isSuperuser false generated = .ok rule.config := by
  rw [newRule] at built
  rcases configured : buildWebhookConfig emptyConfig fields isSuperuser false generated with
    error | config
  all_goals rw [configured] at built
  · cases built
  · cases built
    rfl

theorem ActionRule.patched_config {old : ActionRule} {fields : RuleFields} {isSuperuser : Bool}
    (patched : old.patched fields isSuperuser = .ok rule) :
    buildWebhookConfig old.config fields isSuperuser true [] = .ok rule.config := by
  rw [ActionRule.patched] at patched
  rcases configured : buildWebhookConfig old.config fields isSuperuser true [] with error | config
  all_goals rw [configured] at patched
  · cases patched
  · cases patched
    rfl

theorem RuleWrite.configured (write : RuleWrite principal request rules after)
    (kept : ∀ rule ∈ rules, rule.Configured) : ∀ rule ∈ after, rule.Configured := by
  intro rule member
  cases write with
  | creates built =>
    rcases List.mem_append.mp member with old | new
    · exact kept rule old
    · obtain rfl := List.mem_singleton.mp new
      exact buildWebhookConfig_filled (newRule_config built) (webhookSecret_ne_nil request.draws)
  | patches present patched =>
    obtain ⟨other, listed, rfl⟩ := List.mem_map.mp member
    split
    · exact buildWebhookConfig_filled (ActionRule.patched_config patched) (kept _ present).2
    · exact kept other listed
  | rotates present =>
    obtain ⟨other, listed, rfl⟩ := List.mem_map.mp member
    split
    · exact ⟨(kept _ present).1, webhookSecret_ne_nil request.draws⟩
    · exact kept other listed
  | deletes id => exact kept rule (List.mem_filter.mp member).1

/-- A rule that may be private after a write of an owner has the policy that it had. -/
theorem RuleWrite.policy (write : RuleWrite principal request rules after)
    (owner : principal.isStaff = false) (member : rule ∈ after)
    (shown : rule.config.allowPrivateUrls = true) :
    ∃ old ∈ rules, old.id = rule.id ∧ old.policy = rule.policy := by
  cases write with
  | creates built =>
    rcases List.mem_append.mp member with old | new
    · exact ⟨rule, old, rfl, rfl⟩
    · obtain rfl := List.mem_singleton.mp new
      have built := newRule_config built
      rw [owner] at built
      exact absurd (buildWebhookConfig_private built shown).1 (by simp [emptyConfig])
  | patches present patched =>
    obtain ⟨other, listed, rfl⟩ := List.mem_map.mp member
    split at shown
    · rename_i target
      rw [if_pos target]
      have built := ActionRule.patched_config patched
      rw [owner] at built
      obtain ⟨before, same⟩ := buildWebhookConfig_private built shown
      exact ⟨_, present, (ActionRule.patched_keys patched).1.symm,
        by rw [ActionRule.policy, ActionRule.policy, before, shown, same]⟩
    · rename_i target
      rw [if_neg target]
      exact ⟨other, listed, rfl, rfl⟩
  | rotates present =>
    obtain ⟨other, listed, rfl⟩ := List.mem_map.mp member
    split
    · exact ⟨_, present, rfl, rfl⟩
    · exact ⟨other, listed, rfl, rfl⟩
  | deletes id => exact ⟨rule, (List.mem_filter.mp member).1, rfl, rfl⟩

/-- Rules come from requests. -/
theorem Incident.next_rules (incident : Incident) (world : ApiWorld) :
    (∀ rule ∈ (incident.next settings library world).actions.rules, rule ∈ world.actions.rules) ∨
      ∃ asked principal, incident = .request asked ∧
        asked.principal library world = some principal ∧
        RuleWrite principal asked world.actions.rules
          (incident.next settings library world).actions.rules := by
  cases incident with
  | request asked =>
    rcases asked.run_rules settings library world with same | ⟨principal, named, write⟩
    · rw [next, same]
      exact .inl fun _ => id
    · exact .inr ⟨asked, principal, rfl, named, write⟩
  | delivers change =>
    refine .inl ?_
    simp only [next]
    split
    · rename_i sends applied
      cases change with
      | createAttempt | saveOutbox =>
        simp only [ActionsChange.apply] at applied
        split at applied
        · obtain rfl := Except.ok.inj applied
          exact fun _ => id
        · contradiction
      | updateOutbox =>
        obtain rfl := Except.ok.inj applied
        exact fun _ => id
      | _ => contradiction
    · exact fun _ => id
  | purgesRows companyId => exact .inl fun rule member => (List.mem_filter.mp member).1
  | _ => exact .inl fun _ => id

end

/-- The policy of the rule with the key. -/
def ApiWorld.policy (id : Nat) (world : ApiWorld) : Option (PyStr × Bool) :=
  (world.actions.rules.find? (·.id = id)).map (·.policy)

/-- The incident is a request of staff. -/
def ByStaff (library : ApiLibrary) (world : ApiWorld) (incident : Incident) : Prop :=
  ∃ asked principal, incident = .request asked ∧ asked.principal library world = some principal ∧
    principal.isStaff = true

section
variable {settings : ApiSettings} {library : ApiLibrary} {world : ApiWorld}

theorem ApiWorld.Sound.policy (sound : world.Sound) {rule : ActionRule}
    (member : rule ∈ world.actions.rules) : world.policy rule.id = some rule.policy := by
  rw [ApiWorld.policy, find?_of_unique sound.actions.ruleIds member, Option.map_some]

theorem ApiWorld.policy_some {id : Nat} {policy : PyStr × Bool} (shown : world.policy id = some policy) :
    ∃ rule ∈ world.actions.rules, rule.id = id ∧ rule.policy = policy := by
  obtain ⟨rule, found, same⟩ := Option.map_eq_some_iff.mp shown
  exact ⟨rule, List.mem_of_find?_eq_some found, by simpa using List.find?_some found, same⟩

/-- Only staff changes a policy and leaves it private. -/
theorem Incident.next_policy (incident : Incident) (sound : world.Sound) {id : Nat} {url : PyStr}
    (changed : (incident.next settings library world).policy id ≠ world.policy id)
    (shown : (incident.next settings library world).policy id = some (url, true)) :
    ByStaff library world incident := by
  obtain ⟨rule, member, rfl, policy⟩ := ApiWorld.policy_some shown
  have after := (incident.next_sound sound).policy member
  rcases incident.next_rules world with kept | ⟨asked, principal, rfl, named, write⟩
  · exact absurd (after.trans (sound.policy (kept rule member)).symm) changed
  · cases staff : principal.isStaff with
    | true => exact ⟨asked, principal, rfl, named, staff⟩
    | false =>
      have flag : rule.config.allowPrivateUrls = true := congrArg Prod.snd policy
      obtain ⟨old, present, id, same⟩ := write.policy staff member flag
      have before := sound.policy present
      rw [id, same] at before
      exact absurd (after.trans before.symm) changed

end

/-- Every rule has a URL and a secret, and one that may be private owes it to staff: the last
incident that changed its URL or the flag was a request of staff. -/
theorem rules_stay_configured {settings : ApiSettings} {library : ApiLibrary} {start : ApiWorld}
    (initial : start.Initial) (incidents : List Incident) :
    ∀ rule ∈ (start.runs settings library incidents).actions.rules,
      rule.config.url ≠ [] ∧ rule.config.secret ≠ [] ∧
        (rule.config.allowPrivateUrls = true →
          LastChange (Incident.next settings library) (ApiWorld.policy rule.id) (ByStaff library)
            start incidents) := by
  intro rule member
  have configured : ∀ rule ∈ (start.runs settings library incidents).actions.rules,
      rule.Configured := by
    refine Meets.always.invariant
      (fun world : ApiWorld => ∀ rule ∈ world.actions.rules, ActionRule.Configured rule)
      (fun world incident _ kept => ?_) ?_
    · rcases incident.next_rules world with same | ⟨_, _, _, _, write⟩
      · exact fun rule member => kept rule (same rule member)
      · exact write.configured kept
    · rw [initial.rules]
      exact fun _ none => by cases none
  obtain ⟨url, secret⟩ := configured rule member
  refine ⟨url, secret, fun shown => ?_⟩
  have flagged : (start.runs settings library incidents).policy rule.id =
      some (strip rule.config.url, true) := by
    rw [(ApiWorld.runs_sound initial.sound incidents).policy member, ActionRule.policy, shown]
  refine lastChange_of_step (fun policy => ∃ url, policy = some (url, true)) ApiWorld.Sound
    (fun world incident sound => ⟨incident.next_sound sound, fun changed => ?_⟩) initial.sound ?_
    ⟨_, flagged⟩
  · rintro ⟨url, shown⟩
    exact incident.next_policy sound changed shown
  · rintro ⟨url, shown⟩
    rw [ApiWorld.policy, initial.rules] at shown
    cases shown

/-! A rule of staff for a private URL, which the owner of the company renames. -/

def plainFields : RuleFields where
  name := none
  description := none
  eventType := none
  enabled := none
  url := none
  secret := none
  authorizationHeader := none
  allowPrivateUrls := none

def privateRule : RuleFields := { plainFields with
  name := some (lit "intranet")
  eventType := some .deploymentSucceeded
  url := some (lit " http://10.0.0.5/hook ")
  allowPrivateUrls := some true }

def ruleCall (raw : String) (method : Method) (endpoint : Endpoint) (fields : RuleFields) :
    ApiRequest :=
  { call raw method endpoint with body := { demoBody with rule := some fields } }

def ruleHistory : List Incident :=
  [.request (ruleCall "h.staff.s" .post .rules privateRule),
    .request (ruleCall "h.owner.s" .patch (.rule 5) { plainFields with name := some (lit "hook") })]

theorem rules_stay_configured_staff :
    (emptyApi.runs apiSettings demoApi ruleHistory).policy 5 =
        some (lit "http://10.0.0.5/hook", true) ∧
      ∀ rule ∈ (emptyApi.runs apiSettings demoApi ruleHistory).actions.rules,
        rule.config.url ≠ [] ∧ rule.config.secret ≠ [] ∧
          (rule.config.allowPrivateUrls = true →
            LastChange (Incident.next apiSettings demoApi) (ApiWorld.policy rule.id)
              (ByStaff demoApi) emptyApi ruleHistory) :=
  ⟨by decide +kernel, rules_stay_configured ⟨emptyWorld_initial, rfl, rfl, rfl, rfl⟩ ruleHistory⟩

end HostingService
