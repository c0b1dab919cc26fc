import HostingService.Api.Dispatch
import HostingService.Hosting.Scopes

/-! What a request may write, and for whom. The later results are case analyses of
`Effect` and do not look at the views again. -/

namespace HostingService

open Program Text Storage Transaction

/-! ### What the views ask of the services -/

/-- An app that a view looks up for the principal. -/
structure HostingPrincipal.Scoped (principal : HostingPrincipal) (db : Db) (app : App) : Prop where
  present : app ∈ db.apps
  company : principal.companyId = some app.companyId

/-- One that the principal may deploy to, as far as the view checks. -/
structure HostingPrincipal.Deploys (principal : HostingPrincipal) (db : Db) (app : App) : Prop
    extends principal.Scoped db app where
  preview : principal.deployTokenId.isSome = true → app.isPreview = true

/-- A deployment with its app. -/
structure HostingPrincipal.Redeploys (principal : HostingPrincipal) (db : Db) (app : App)
    (row : Deployment) : Prop extends principal.Deploys db app where
  stored : row ∈ db.deployments
  owner : row.app = app.id

inductive Asks (principal : HostingPrincipal) (db : Db) : Endpoint → Method → Request → Prop where
  | createApp {new : NewApp} (company : principal.companyId = some new.companyId) :
      Asks principal db .apps .post (.createApp new)
  | prepare {preview : NewPreview} {slug : Option PyStr} {new : NewDeployment}
      (company : principal.companyId = some preview.companyId)
      (user : preview.userId = principal.userId) :
      Asks principal db .preview .post
        (.preparePreviewDeploy preview slug principal.deployTokenId.isSome new)
  | createDeployment {ref : PyStr} {app : App} {new : NewDeployment}
      (deploys : principal.Deploys db app) :
      Asks principal db (.deployments ref) .post (.createDeployment app.id new)
  | upload {ref : PyStr} {app : App} {row : Deployment} {fileobj : Stream Error}
      {contentLength : Option Nat} (redeploys : principal.Redeploys db app row) :
      Asks principal db (.upload ref row.id) .put (.upload row.id fileobj contentLength)
  | finalize {ref : PyStr} {app : App} {row : Deployment} {userId : Option Nat} {actorEmail : PyStr}
      (redeploys : principal.Redeploys db app row) :
      Asks principal db (.finalize ref row.id) .post (.finalize row.id userId actorEmail)
  | rollback {ref : PyStr} {app : App} {row : Deployment}
      (redeploys : principal.Redeploys db app row) :
      Asks principal db (.rollback ref row.id) .post (.rollback row.id)
  | renew {ref : PyStr} {app : App} (listed : principal.Scoped db app) :
      Asks principal db (.renewExpiry ref) .post (.renew app.id)
  | delete {ref : PyStr} {app : App} {userId : Option Nat} {actorEmail : PyStr}
      (listed : principal.Scoped db app) :
      Asks principal db (.app ref) .delete (.delete app.id userId actorEmail)

/-! ### What a view writes -/

/-- `require_staff_or_company_owner` lets the principal act for the company. -/
structure HostingPrincipal.Governs (principal : HostingPrincipal) (companyId : Nat) : Prop where
  admin : principal.isStaff = true ∨ principal.isCompanyOwner = true
  scope : principal.isStaff = true ∨ principal.companyId = some companyId

/-- The writes of the actions views, with the rows that they are about. -/
inductive ActionsChange.Concerns (companyId : Nat) (db : ActionsDb) : ActionsChange → Prop where
  | createRule {rule : ActionRule} (company : rule.companyId = companyId) :
      Concerns companyId db (.createRule rule)
  | saveRule {old rule : ActionRule} (present : old ∈ db.rules) (company : old.companyId = companyId)
      (id : rule.id = old.id) (kept : rule.companyId = old.companyId) :
      Concerns companyId db (.saveRule rule)
  | deleteRule {rule : ActionRule} (present : rule ∈ db.rules)
      (company : rule.companyId = companyId) : Concerns companyId db (.deleteRule rule.id)
  | requeue {row : ActionOutbox} (present : row ∈ db.outbox) (company : row.companyId = companyId) :
      Concerns companyId db (.updateOutbox row.id .requeued)

section
variable (settings : ApiSettings) (library : ApiLibrary) (principal : HostingPrincipal)
  (request : ApiRequest)

inductive Deed (before : ApiWorld) : ApiWorld → Prop where
  | serves {asked : Request}
      (asks : Asks principal before.hosting.db request.endpoint request.method asked) :
      Deed before (before.serve settings library asked request.faults request.draws).2
  | requestsAccess {companyId : Nat} (endpoint : request.endpoint = .accessRequest)
      (own : principal.companyId = some companyId) :
      Deed before (before.requestAccess companyId principal.userId)
  | reviews {companyId : Nat} {status : AccessStatus} {notes : PyStr}
      (endpoint : request.endpoint = .access)
      (scope : principal.isStaff = true ∨ principal.companyId = some companyId)
      (member : principal.isStaff = false → status = .pending) :
      Deed before (before.updateAccess companyId status principal.userId notes)
  | createsToken {new : NewDeployToken} {token : DeployToken}
      (endpoint : request.endpoint = .deployTokens)
      (own : principal.companyId = some token.companyId)
      (created : createDeployToken library.sha256 new before.hosting.clock before.tokens =
        .ok token) :
      Deed before { before with tokens := before.tokens ++ [token] }
  | revokesToken {token : DeployToken} (endpoint : request.endpoint = .revokeToken token.id)
      (present : token ∈ before.tokens) (own : principal.companyId = some token.companyId) :
      Deed before { before with
        tokens := revokeDeployToken token.id before.hosting.clock before.tokens }
  | writes {companyId : Nat} {change : ActionsChange} {actions : ActionsDb}
      (family : request.endpoint.family = .actions) (governs : principal.Governs companyId)
      (concerns : change.Concerns companyId before.actions)
      (applied : change.apply before.actions = .ok actions) :
      Deed before { before with actions }

/-- A principal got through to a handler that may write. -/
structure ApiRequest.Reaches : Prop where
  permitted : request.endpoint.permits principal request.method = true
  unthrottled : (request.endpoint.throttles request.method && request.throttled) = false
  handled : (request.handler settings library principal).isSome = true
  writing : request.method.isSafe = false

/-- What a request does to the state. -/
inductive ApiRequest.Effect (world : ApiWorld) : ApiWorld → Prop where
  | nothing : Effect world world
  | touches {principal : HostingPrincipal} {tokens : List DeployToken}
      (authenticated : authenticate library request.authorization world.hosting.clock
        world.tokens = .ok (some principal, tokens)) : Effect world { world with tokens }
  | flags {companyId : Nat} {exactCase : Bool} {raw : PyStr}
      (endpoint : request.endpoint = .companyDeletions)
      (header : request.authorization = .bearer exactCase raw)
      (verified : library.verifyAssertion raw = some companyId) :
      Effect world { world with deletions := flagCompanyDeletion companyId world.deletions }
  | acts {principal : HostingPrincipal} {tokens : List DeployToken} {after : ApiWorld}
      (authenticated : authenticate library request.authorization world.hosting.clock
        world.tokens = .ok (some principal, tokens))
      (reaches : request.Reaches settings library principal)
      (deed : Deed settings library principal request { world with tokens } after) :
      Effect world after

/-- The view leaves the state as it is, or writes as `Deed` says. -/
def Does (view : View) : Prop :=
  ∀ world, (view world).2 = world ∨ Deed settings library principal request world (view world).2

end

/-- The view leaves the state as it is. -/
def View.Reads (view : View) : Prop := ∀ world, (view world).2 = world

/-! ### Look-ups -/

section
variable {settings : Settings} {principal : HostingPrincipal} {world : World} {ref : PyStr}

theorem Db.resolve_scoped {db : Db} {companyId : Nat} {app : App}
    (found : db.resolve (some companyId) ref = some app) :
    app ∈ db.apps ∧ app.companyId = companyId := by
  have inside (listed : app ∈ db.scope (some companyId)) :
      app ∈ db.apps ∧ app.companyId = companyId := by simpa [Db.scope] using listed
  rw [Db.resolve] at found
  split at found
  · exact inside (List.mem_of_find?_eq_some found)
  · rcases Option.or_eq_some_iff.mp found with named | ⟨_, slugged⟩
    · exact inside (List.mem_of_find?_eq_some named)
    · exact inside (List.mem_of_find?_eq_some slugged)

theorem requireCompanyId_ok {companyId : Nat} (required : requireCompanyId principal = .ok companyId) :
    principal.companyId = some companyId := by
  rw [requireCompanyId] at required
  rcases own : principal.companyId with _ | given
  all_goals rw [own] at required
  · cases required
  · cases required
    rfl

theorem ensures_companyApp : (companyApp principal ref).Ensures (Statement.handle settings)
    (Prog.Returned fun app after => after = world ∧ principal.Scoped world.db app) world := by
  refine Prog.ensures_ofExcept_bind.mpr ⟨fun _ _ => trivial, fun companyId required => ?_⟩
  have own := requireCompanyId_ok required
  refine Prog.ensures_check.mpr ⟨fun _ => trivial, fun _ => ensures_select.mpr ?_⟩
  rw [Prog.ensures_ofExcept]
  rcases found : world.db.resolve (some companyId) (strip ref) with _ | app
  · trivial
  · obtain ⟨present, company⟩ := Db.resolve_scoped found
    exact ⟨rfl, present, company ▸ own⟩

theorem ensures_scopedApp : (scopedApp principal ref).Ensures (Statement.handle settings)
    (Prog.Returned fun app after => after = world ∧ principal.Deploys world.db app) world := by
  refine ensures_companyApp.bind (fun _ _ _ => trivial) fun app after found => ?_
  obtain ⟨rfl, listed⟩ := found
  refine Prog.ensures_ofExcept_bind.mpr ⟨fun _ _ => trivial, fun _ allowed => ?_⟩
  refine ⟨rfl, listed, fun token => ?_⟩
  by_contra plain
  rw [assertDeployTokenPreview, if_pos (by simpa [token] using plain)] at allowed
  contradiction

theorem ensures_scopedDeployment {id : Uuid} :
    (scopedDeployment principal ref id).Ensures (Statement.handle settings)
      (Prog.Returned fun row after => after = world ∧ row.id = id ∧
        ∃ app, principal.Redeploys world.db app row) world := by
  refine ensures_scopedApp.bind (fun _ _ _ => trivial) fun app after found => ?_
  obtain ⟨rfl, deploys⟩ := found
  refine ensures_select.mpr ?_
  rw [Prog.ensures_ofExcept]
  generalize read : after.db.deployments.find? _ = found
  cases found with
  | none => trivial
  | some row =>
    have same := List.find?_some read
    simp only [Bool.and_eq_true, decide_eq_true_eq] at same
    exact ⟨rfl, same.1, app, deploys, List.mem_of_find?_eq_some read, same.2⟩

end

/-! ### Views that read -/

section
variable {settings : ApiSettings} {library : ApiLibrary} {principal : HostingPrincipal}
  {request : ApiRequest}

theorem readView_reads (asked : Transaction Content) : (readView settings asked).Reads := by
  intro world
  rw [readView]
  split <;> rfl

theorem withCompany_reads {view : Nat → View} (reads : ∀ companyId, (view companyId).Reads) :
    (withCompany principal view).Reads := by
  intro world
  rw [withCompany]
  split
  · rfl
  · exact reads _ world

theorem companyView_reads {view : Nat → View} (reads : ∀ companyId, (view companyId).Reads) :
    (companyView principal request view).Reads := by
  intro world
  rw [companyView]
  split
  · rfl
  · exact reads _ world

theorem ruleView_reads {id : Nat} {view : ActionRule → View} (reads : ∀ rule, (view rule).Reads) :
    (ruleView principal request id view).Reads := by
  refine companyView_reads fun companyId world => ?_
  split
  · rfl
  · exact reads _ world

theorem statsViewGet_reads : (statsViewGet principal).Reads := by
  intro world
  rw [statsViewGet]
  split
  · rfl
  · exact withCompany_reads (fun _ _ => rfl) world

theorem metricsViewGet_reads : (metricsViewGet principal request).Reads := by
  intro world
  rw [metricsViewGet]
  split
  · rfl
  · split
    · rfl
    · split <;> rfl

theorem Endpoint.get_reads {endpoint : Endpoint} {view : View}
    (handled : endpoint.get settings principal request = some view) : view.Reads := by
  cases endpoint with
  | access | deployTokens =>
    obtain rfl := Option.some.inj handled
    exact withCompany_reads fun _ _ => rfl
  | apps | app | deployments =>
    obtain rfl := Option.some.inj handled
    exact readView_reads _
  | stats =>
    obtain rfl := Option.some.inj handled
    exact statsViewGet_reads
  | metrics =>
    obtain rfl := Option.some.inj handled
    exact metricsViewGet_reads
  | health =>
    obtain rfl := Option.some.inj handled
    exact fun _ => rfl
  | metricsAll =>
    obtain rfl := Option.some.inj handled
    intro world
    rw [metricsAllViewGet]
    split <;> rfl
  | eventLog | eventLogTypes | eventLogRetention | actionEvents | rules | deliveries =>
    obtain rfl := Option.some.inj handled
    exact companyView_reads fun _ _ => rfl
  | eventLogEntry | delivery =>
    obtain rfl := Option.some.inj handled
    refine companyView_reads fun _ world => ?_
    split <;> rfl
  | rule =>
    obtain rfl := Option.some.inj handled
    exact ruleView_reads fun _ _ => rfl
  | scheduledJobs | scheduledJobRun | scheduledJobRuns =>
    obtain rfl := Option.some.inj handled
    intro world
    rw [scheduledJobsView]
    split <;> rfl
  | _ => contradiction

/-! ### Views that write -/

theorem View.Reads.does {view : View} (reads : view.Reads) :
    Does settings library principal request view := fun world => .inl (reads world)

/-- A service view writes what its service does. -/
theorem serviceView_does {asked : Transaction Request} {failed : Error → Answer}
    {shown : Db → Content}
    (asks : ∀ world, asked.Ensures (Statement.handle settings.hosting) (Prog.Returned fun request' _ =>
      Asks principal world.db request.endpoint request.method request') world) :
    Does settings library principal request
      (serviceView settings library request asked failed shown) := by
  intro world
  rw [serviceView, ApiWorld.ask]
  have may := asks world.hosting
  rw [Prog.Ensures] at may
  split
  · exact .inl rfl
  · rename_i given answered
    rw [answered] at may
    have deed : Deed settings library principal request world
        (world.serve settings library given request.faults request.draws).2 := .serves may
    refine .inr ?_
    split
    all_goals
      rename_i served
      rw [served] at deed
      exact deed

theorem withCompany_does {view : Nat → View} (does : ∀ companyId,
    principal.companyId = some companyId →
      Does settings library principal request (view companyId)) :
    Does settings library principal request (withCompany principal view) := by
  intro world
  rw [withCompany]
  split
  · exact .inl rfl
  · rename_i required
    exact does _ (requireCompanyId_ok required) world

theorem requestedCompany_ok {companyId : Nat}
    (requested : requestedCompany principal request = .ok companyId) :
    principal.isStaff = true ∨ principal.companyId = some companyId := by
  rw [requestedCompany] at requested
  split at requested
  · contradiction
  · split at requested
    · contradiction
    · rename_i allowed
      obtain rfl := Except.ok.inj requested
      by_cases staff : principal.isStaff = true
      · exact .inl staff
      · exact .inr (not_not.mp fun other => allowed ⟨fun same => other same.symm, staff⟩)
  · contradiction
  · rename_i own
    obtain rfl := Except.ok.inj requested
    exact .inr own

theorem requireStaffOrCompanyOwner_ok {companyId : Nat}
    (required : requireStaffOrCompanyOwner principal request = .ok companyId) :
    principal.Governs companyId := by
  rw [requireStaffOrCompanyOwner] at required
  split at required
  · contradiction
  · rename_i requested
    split at required
    · rename_i admin
      obtain rfl := Except.ok.inj required
      exact ⟨by simpa using admin, requestedCompany_ok requested⟩
    · contradiction

theorem companyView_does {view : Nat → View} (does : ∀ companyId, principal.Governs companyId →
      Does settings library principal request (view companyId)) :
    Does settings library principal request (companyView principal request view) := by
  intro world
  rw [companyView]
  split
  · exact .inl rfl
  · rename_i required
    exact does _ (requireStaffOrCompanyOwner_ok required) world

theorem write_does {companyId : Nat} {change : ActionsChange} {answer : Answer} {world : ApiWorld}
    (family : request.endpoint.family = .actions) (governs : principal.Governs companyId)
    (concerns : change.Concerns companyId world.actions) :
    (world.write change answer).2 = world ∨
      Deed settings library principal request world (world.write change answer).2 := by
  rw [ApiWorld.write]
  split
  · rename_i applied
    exact .inr (.writes family governs concerns applied)
  · exact .inl rfl

theorem ruleView_does {id : Nat} {view : ActionRule → View}
    (does : ∀ rule world, rule ∈ world.actions.rules → principal.Governs rule.companyId →
      (view rule world).2 = world ∨
        Deed settings library principal request world (view rule world).2) :
    Does settings library principal request (ruleView principal request id view) := by
  refine companyView_does fun companyId governs world => ?_
  split
  · exact .inl rfl
  · rename_i rule found
    have same := List.find?_some found
    simp only [Bool.and_eq_true, decide_eq_true_eq] at same
    obtain ⟨rfl, rfl⟩ := same
    exact does rule world (List.mem_of_find?_eq_some found) governs

theorem ensures_requeueDelivery {companyId : Nat} {id : Uuid} {world : OutboxWorld} :
    (requeueDelivery companyId id).Ensures DeliveryCall.handle
      (fun _ after => after.db = world.db ∨ ∃ row ∈ world.db.outbox, row.companyId = companyId ∧
        after.db = world.db.assign row.id .requeued) world := by
  rw [requeueDelivery, Prog.ensures_bind, Delivery.autocommit, Prog.ensures_perform]
  simp only [DeliveryCall.handle, OutboxStatement.handle, Prog.Continues]
  split
  · exact .inl rfl
  · rename_i row found
    have same := List.find?_some found
    simp only [Bool.and_eq_true, decide_eq_true_eq] at same
    have present := List.mem_of_find?_eq_some found
    rw [Prog.ensures_bind, Delivery.autocommit, Prog.ensures_perform]
    simp only [DeliveryCall.handle, OutboxStatement.handle, ActionsChange.apply, Prog.Continues]
    rw [Prog.ensures_bind, Delivery.autocommit, Prog.ensures_perform]
    simp only [DeliveryCall.handle, OutboxStatement.handle, Prog.Continues]
    refine Prog.ensures_ofExcept_bind.mpr ⟨fun _ _ => ?_, fun _ _ => ?_⟩
    all_goals exact .inr ⟨row, present, same.2, rfl⟩

theorem actionDeliveryRequeueViewPost_does {id : Uuid}
    (family : request.endpoint.family = .actions) :
    Does settings library principal request (actionDeliveryRequeueViewPost principal request id) := by
  refine companyView_does fun companyId governs world => ?_
  have requeued : (requeueDelivery companyId id).Ensures DeliveryCall.handle
      (fun _ after => after.db = world.actions ∨ ∃ row ∈ world.actions.outbox,
        row.companyId = companyId ∧ after.db = world.actions.assign row.id .requeued)
      (world.outboxWorld request.network) := ensures_requeueDelivery
  have ended {after : OutboxWorld} (ends : after.db = world.actions ∨ ∃ row ∈ world.actions.outbox,
      row.companyId = companyId ∧ after.db = world.actions.assign row.id .requeued) :
      ({ world with actions := after.db } : ApiWorld) = world ∨
        Deed settings library principal request world { world with actions := after.db } := by
    rcases ends with same | ⟨row, present, company, same⟩
    · exact .inl (by rw [same])
    · rw [same]
      exact .inr (.writes family governs (.requeue present company) rfl)
  split
  all_goals
    rename_i ran
    exact ended (requeued.of_run ran)

theorem actionRuleListViewPost_does (family : request.endpoint.family = .actions) :
    Does settings library principal request (actionRuleListViewPost principal request) := by
  refine companyView_does fun companyId governs world => ?_
  split
  · exact .inl rfl
  · split
    · exact .inl rfl
    · rename_i built
      exact write_does family governs (.createRule (newRule_companyId built))

theorem actionRuleDetailViewPatch_does {id : Nat} (family : request.endpoint.family = .actions) :
    Does settings library principal request (actionRuleDetailViewPatch principal request id) := by
  refine ruleView_does fun rule world present governs => ?_
  split
  · exact .inl rfl
  · split
    · exact .inl rfl
    · rename_i patched
      obtain ⟨id, company⟩ := ActionRule.patched_keys patched
      exact write_does family governs (.saveRule present rfl id company)

theorem actionRuleRotateSecretViewPost_does {id : Nat}
    (family : request.endpoint.family = .actions) :
    Does settings library principal request (actionRuleRotateSecretViewPost principal request id) :=
  ruleView_does fun _ _ present governs =>
    write_does family governs (.saveRule present rfl rfl rfl)

theorem actionRuleDetailViewDelete_does {id : Nat} (family : request.endpoint.family = .actions) :
    Does settings library principal request (actionRuleDetailViewDelete principal request id) :=
  ruleView_does fun _ _ present governs => write_does family governs (.deleteRule present rfl)

/-- A test event is sent and nothing is stored. -/
theorem actionRuleSendTestViewPost_reads {id : Nat} :
    (actionRuleSendTestViewPost settings library principal request id).Reads := by
  refine ruleView_reads fun rule world => ?_
  split
  · rfl
  · split <;> rfl

theorem reviewAccess_does {companyId : Nat} (endpoint : request.endpoint = .access)
    (scope : principal.isStaff = true ∨ principal.companyId = some companyId) :
    Does settings library principal request (reviewAccess library principal request companyId) := by
  intro world
  simp only [reviewAccess]
  split
  · exact .inl rfl
  · rename_i allowed
    split
    · exact .inl rfl
    · rename_i status parsed
      refine .inr (.reviews endpoint scope fun member => ?_)
      have undecided := not_and'.mp allowed (by simp [member])
      obtain ⟨approved, denied⟩ := not_or.mp undecided
      rw [parseAccessStatus, if_neg approved, if_neg denied] at parsed
      split at parsed
      · exact (Option.some.inj parsed).symm
      · contradiction

theorem accessViewPost_does (endpoint : request.endpoint = .access) :
    Does settings library principal request (accessViewPost library principal request) := by
  intro world
  rw [accessViewPost]
  split
  · rename_i named
    have staff : principal.isStaff = true := (Bool.and_eq_true_iff.mp named).1
    split
    · exact reviewAccess_does endpoint (.inl staff) world
    · exact .inl rfl
  · refine withCompany_does (fun companyId own world => ?_) world
    split
    · exact .inl rfl
    · exact reviewAccess_does endpoint (.inr own) world

theorem accessRequestViewPost_does (endpoint : request.endpoint = .accessRequest) :
    Does settings library principal request (accessRequestViewPost principal) :=
  withCompany_does fun _ own _ => .inr (.requestsAccess endpoint own)

theorem deployTokenListViewPost_does (endpoint : request.endpoint = .deployTokens) :
    Does settings library principal request
      (deployTokenListViewPost library principal request) := by
  refine withCompany_does fun companyId own world => ?_
  split
  · exact .inl rfl
  · simp only
    split
    · exact .inl rfl
    · rename_i created
      refine .inr (.createsToken endpoint ?_ created)
      rw [(createDeployToken_ok created).1]
      exact own

theorem deployTokenRevokeViewPost_does {id : Uuid} (endpoint : request.endpoint = .revokeToken id) :
    Does settings library principal request (deployTokenRevokeViewPost principal id) := by
  refine withCompany_does fun companyId own world => ?_
  split
  · exact .inl rfl
  · rename_i token found
    have same := List.find?_some found
    simp only [Bool.and_eq_true, decide_eq_true_eq] at same
    obtain ⟨rfl, rfl⟩ := same
    exact .inr (.revokesToken endpoint (List.mem_of_find?_eq_some found) own)

/-! ### The handlers -/

theorem uploadRequest_asks {ref : PyStr} {id : Uuid} {world : World} :
    (uploadRequest settings principal request ref id).Ensures (Statement.handle settings.hosting)
      (Prog.Returned fun asked _ => Asks principal world.db (.upload ref id) .put asked) world := by
  refine ensures_scopedDeployment.bind (fun _ _ _ => trivial) fun row after found => ?_
  obtain ⟨rfl, rfl, app, redeploys⟩ := found
  refine Prog.ensures_check.mpr ⟨fun _ => trivial, fun _ => ?_⟩
  refine Prog.ensures_ofExcept_bind.mpr ⟨fun _ _ => trivial, fun _ _ => ?_⟩
  exact .upload redeploys

theorem scopedDeployment_asks {ref : PyStr} {id : Uuid} {world : World} {asked : Deployment → Request}
    (asks : ∀ (app : App) (row : Deployment), principal.Redeploys world.db app row → row.id = id →
      Asks principal world.db request.endpoint request.method (asked row)) :
    (do return asked (← scopedDeployment principal ref id) : Transaction Request).Ensures
      (Statement.handle settings.hosting) (Prog.Returned fun asked _ =>
        Asks principal world.db request.endpoint request.method asked) world := by
  refine ensures_scopedDeployment.bind (fun _ _ _ => trivial) fun row after found => ?_
  obtain ⟨_, same, app, redeploys⟩ := found
  exact asks app row redeploys same

theorem companyApp_asks {ref : PyStr} {world : World} {asked : App → Request}
    (asks : ∀ app : App, principal.Scoped world.db app →
      Asks principal world.db request.endpoint request.method (asked app)) :
    (do return asked (← companyApp principal ref) : Transaction Request).Ensures
      (Statement.handle settings.hosting) (Prog.Returned fun asked _ =>
        Asks principal world.db request.endpoint request.method asked) world :=
  ensures_companyApp.bind (fun _ _ _ => trivial) fun app _ found => asks app found.2

theorem scopedApp_asks {ref : PyStr} {world : World} {asked : App → Request}
    (asks : ∀ app : App, principal.Deploys world.db app →
      Asks principal world.db request.endpoint request.method (asked app)) :
    (do return asked (← scopedApp principal ref) : Transaction Request).Ensures
      (Statement.handle settings.hosting) (Prog.Returned fun asked _ =>
        Asks principal world.db request.endpoint request.method asked) world :=
  ensures_scopedApp.bind (fun _ _ _ => trivial) fun app _ found => asks app found.2

theorem requireCompanyId_asks {world : World} {asked : Nat → Request}
    (asks : ∀ companyId, principal.companyId = some companyId →
      Asks principal world.db request.endpoint request.method (asked companyId)) :
    (do return asked (← .ofExcept (requireCompanyId principal)) : Transaction Request).Ensures
      (Statement.handle settings.hosting) (Prog.Returned fun asked _ =>
        Asks principal world.db request.endpoint request.method asked) world :=
  Prog.ensures_ofExcept_bind.mpr ⟨fun _ _ => trivial, fun companyId required =>
    asks companyId (requireCompanyId_ok required)⟩

theorem Endpoint.post_does {view : View} (authenticates : request.endpoint.authenticates = true)
    (method : request.method = .post)
    (handled : request.endpoint.post settings library principal request = some view) :
    Does settings library principal request view := by
  rcases endpoint : request.endpoint
  all_goals rw [endpoint] at handled
  case access =>
    obtain rfl := Option.some.inj handled
    exact accessViewPost_does endpoint
  case accessRequest =>
    obtain rfl := Option.some.inj handled
    exact accessRequestViewPost_does endpoint
  case preview =>
    obtain rfl := Option.some.inj handled
    refine serviceView_does fun world => requireCompanyId_asks fun companyId own => ?_
    rw [endpoint, method]
    exact .prepare own rfl
  case apps =>
    obtain rfl := Option.some.inj handled
    refine serviceView_does fun world => requireCompanyId_asks fun companyId own => ?_
    rw [endpoint, method]
    exact .createApp own
  case renewExpiry ref =>
    obtain rfl := Option.some.inj handled
    intro world
    refine serviceView_does (fun world => companyApp_asks fun app listed => ?_) world
    rw [endpoint, method]
    exact .renew listed
  case deployments ref =>
    obtain rfl := Option.some.inj handled
    refine serviceView_does fun world => scopedApp_asks fun app deploys => ?_
    rw [endpoint, method]
    exact .createDeployment deploys
  case finalize ref id =>
    obtain rfl := Option.some.inj handled
    refine serviceView_does fun world => scopedDeployment_asks fun app row redeploys same => ?_
    rw [endpoint, method, ← same]
    exact .finalize redeploys
  case rollback ref id =>
    obtain rfl := Option.some.inj handled
    refine serviceView_does fun world => scopedDeployment_asks fun app row redeploys same => ?_
    rw [endpoint, method, ← same]
    exact .rollback redeploys
  case deployTokens =>
    obtain rfl := Option.some.inj handled
    exact deployTokenListViewPost_does endpoint
  case revokeToken id =>
    obtain rfl := Option.some.inj handled
    exact deployTokenRevokeViewPost_does endpoint
  case rules =>
    obtain rfl := Option.some.inj handled
    exact actionRuleListViewPost_does (by rw [endpoint, family])
  case sendTest id =>
    obtain rfl := Option.some.inj handled
    exact actionRuleSendTestViewPost_reads.does
  case rotateSecret id =>
    obtain rfl := Option.some.inj handled
    exact actionRuleRotateSecretViewPost_does (by rw [endpoint, family])
  case requeue id =>
    obtain rfl := Option.some.inj handled
    exact actionDeliveryRequeueViewPost_does (by rw [endpoint, family])
  case companyDeletions =>
    rw [endpoint] at authenticates
    contradiction
  all_goals contradiction

theorem ApiRequest.handler_does {view : View} (authenticates : request.endpoint.authenticates = true)
    (handled : request.handler settings library principal = some view) :
    Does settings library principal request view := by
  rw [handler] at handled
  split at handled
  · exact (Endpoint.get_reads handled).does
  · exact (Endpoint.get_reads handled).does
  · obtain rfl := Option.some.inj handled
    exact fun world => .inl rfl
  · rename_i method
    exact Endpoint.post_does authenticates method handled
  · rename_i method
    rcases endpoint : request.endpoint
    all_goals rw [endpoint] at handled
    case upload ref id =>
      obtain rfl := Option.some.inj handled
      refine serviceView_does fun world => ?_
      rw [endpoint, method]
      exact uploadRequest_asks
    all_goals contradiction
  · rcases endpoint : request.endpoint
    all_goals rw [endpoint] at handled
    case rule id =>
      obtain rfl := Option.some.inj handled
      exact actionRuleDetailViewPatch_does (by rw [endpoint, Endpoint.family])
    all_goals contradiction
  · rename_i method
    rcases endpoint : request.endpoint
    all_goals rw [endpoint] at handled
    case app ref =>
      obtain rfl := Option.some.inj handled
      refine serviceView_does fun world => companyApp_asks fun app listed => ?_
      rw [endpoint, method]
      exact .delete listed
    case rule id =>
      obtain rfl := Option.some.inj handled
      exact actionRuleDetailViewDelete_does (by rw [endpoint, Endpoint.family])
    all_goals contradiction
  · contradiction

/-- A safe method only reads. -/
theorem ApiRequest.handler_reads {view : View} (safe : request.method.isSafe = true)
    (handled : request.handler settings library principal = some view) : view.Reads := by
  rw [handler] at handled
  rcases method : request.method
  all_goals rw [method] at handled safe
  case get => exact Endpoint.get_reads handled
  case head => exact Endpoint.get_reads handled
  case options =>
    obtain rfl := Option.some.inj handled
    exact fun _ => rfl
  all_goals contradiction

/-! ### Requests -/

theorem ApiRequest.principal_eq {world : ApiWorld} {tokens : List DeployToken}
    (authenticated : authenticate library request.authorization world.hosting.clock world.tokens =
      .ok (some principal, tokens)) : request.principal library world = some principal := by
  rw [ApiRequest.principal, authenticated]

theorem ApiRequest.handleChecked_effect (authenticates : request.endpoint.authenticates = true)
    (world : ApiWorld) :
    (request.handleChecked settings library principal world).2 = world ∨
      request.Reaches settings library principal ∧
        Deed settings library principal request world
          (request.handleChecked settings library principal world).2 := by
  rw [handleChecked]
  split
  · exact .inl rfl
  · rename_i permitted
    split
    · exact .inl rfl
    · rename_i unthrottled
      rw [handle]
      split
      · exact .inl rfl
      · rename_i view handled
        cases safe : request.method.isSafe with
        | true => exact .inl (handler_reads safe handled world)
        | false =>
          rcases handler_does authenticates handled world with same | deed
          · exact .inl same
          · refine .inr ⟨⟨?_, ?_, ?_, safe⟩, deed⟩
            · simpa using permitted
            · simpa using unthrottled
            · rw [handled]
              rfl

/-- The health view reads, and the view for the identity service flags a company. -/
theorem ApiRequest.anonymous_effect {world : ApiWorld}
    (anybody : request.endpoint.authenticates = false) :
    request.Effect settings library world (request.handle settings library anonymous world).2 := by
  rw [handle]
  split
  · exact .nothing
  · rename_i view handled
    rw [handler] at handled
    rcases endpoint : request.endpoint
    all_goals rw [endpoint] at anybody handled
    case health =>
      split at handled
      all_goals first | contradiction | skip
      all_goals
        obtain rfl := Option.some.inj handled
        exact .nothing
    case companyDeletions =>
      split at handled
      all_goals first | contradiction | skip
      all_goals obtain rfl := Option.some.inj handled
      · exact .nothing
      · rw [companyDeletionViewPost]
        split
        · rename_i header
          split
          · exact .nothing
          · rename_i verified
            exact .flags endpoint header verified
        · exact .nothing
    all_goals contradiction

/-- Every request, whoever sends it. -/
theorem ApiRequest.run_effect (settings : ApiSettings) (library : ApiLibrary) (request : ApiRequest)
    (world : ApiWorld) :
    request.Effect settings library world (request.run settings library world).2 := by
  rw [run]
  split
  · rename_i authenticates
    split
    · exact .nothing
    · exact .nothing
    · rename_i principal tokens authenticated
      rcases handleChecked_effect authenticates { world with tokens } with same | ⟨reaches, deed⟩
      · rw [same]
        exact .touches authenticated
      · exact .acts authenticated reaches deed
  · rename_i anybody
    exact anonymous_effect (by simpa using anybody)

end

end HostingService
