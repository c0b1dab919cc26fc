import HostingService.Actions.Exclusion
import HostingService.Api.RulePolicy

/-! Deliveries in flight beside the whole service, and whom the webhooks and the mails of a
company go to. -/

namespace HostingService

open Program Text Storage OutboxTransaction

/-! ### Deliveries over the state of the service -/

structure ServiceWorld where
  api : ApiWorld
  monotonic : Time
  network : Post → Exchange

namespace ServiceWorld

def outbox (world : ServiceWorld) : OutboxWorld :=
  ⟨world.api.actions, world.api.hosting.clock, world.monotonic, world.network⟩

def withActions (world : ServiceWorld) (actions : ActionsDb) : ServiceWorld :=
  { world with api := { world.api with actions } }

/-- A call of a delivery changes at most the tables of the actions. -/
def handle : Handler DeliveryCall ActionsError ServiceWorld := fun β call world =>
  ((DeliveryCall.handle β call world.outbox).1,
    world.withActions (DeliveryCall.handle β call world.outbox).2.db)

/-- What happens around the deliveries: whatever happens to the service, and to the network. -/
inductive Outside (settings : ApiSettings) (library : ApiLibrary) (world : ServiceWorld) :
    ServiceWorld → Prop where
  | occurs (incident : Incident) :
      Outside settings library world { world with api := incident.next settings library world.api }
  | ticks (span : Nat) :
      Outside settings library world { world with monotonic := world.monotonic + span }
  | reroutes (network : Post → Exchange) : Outside settings library world { world with network }

end ServiceWorld

abbrev ServiceEntry := Entry DeliveryCall ServiceWorld

abbrev ServiceThread :=
  Thread DeliveryCall ActionsError ServiceWorld (Uuid × Correlation) (Option ActionOutbox)

abbrev ServiceCrew :=
  Crew DeliveryCall ActionsError ServiceWorld (Uuid × Correlation) (Option ActionOutbox)

def ServiceCrew.Reaches (settings : ApiSettings) (library : ApiLibrary) :
    ServiceCrew → ServiceCrew → Prop :=
  Crew.Reaches ServiceWorld.handle (deliveryOf settings.actions library.actions)
    (ServiceWorld.Outside settings library)

/-! ### Envelopes and their companies -/

/-- Every row carries an event of its company. -/
structure ActionsDb.Tenanted (db : ActionsDb) : Prop extends db.Sound where
  envelopes : ∀ row ∈ db.outbox, row.envelope.event.companyId = row.companyId

namespace ActionsDb.Tenanted
variable {db after : ActionsDb}

theorem assign (tenanted : db.Tenanted) (id : Uuid) (columns : OutboxColumns) :
    (db.assign id columns).Tenanted where
  toSound := tenanted.toSound.assign id columns
  envelopes row member := by
    obtain ⟨old, present, rfl⟩ := List.mem_map.mp member
    split
    · cases columns <;> exact tenanted.envelopes old present
    · exact tenanted.envelopes old present

theorem record (tenanted : db.Tenanted) (attempt : DeliveryAttempt) (columns : OutboxColumns) :
    (db.record attempt columns).Tenanted := by
  have attempted : ({ db with attempts := db.attempts ++ [attempt] } : ActionsDb).Tenanted :=
    ⟨⟨tenanted.ruleIds, tenanted.outboxIds, tenanted.linked⟩, tenanted.envelopes⟩
  exact attempted.assign _ _

/-- No new envelopes. -/
theorem of_rows (tenanted : db.Tenanted) (sound : after.Sound)
    (rows : ∀ row ∈ after.outbox, ∃ old ∈ db.outbox, old.companyId = row.companyId ∧
      old.envelope = row.envelope) : after.Tenanted where
  toSound := sound
  envelopes row member := by
    obtain ⟨old, present, company, envelope⟩ := rows row member
    rw [← company, ← envelope]
    exact tenanted.envelopes old present

end ActionsDb.Tenanted

theorem outboxRows_envelope {settings : ActionsSettings} {rules : List ActionRule} {now : Time}
    {draws : Draws} {events : List Event} {row : ActionOutbox}
    (member : row ∈ outboxRows settings rules now draws events) :
    row.envelope.event.companyId = row.companyId := by
  obtain ⟨⟨draft, place⟩, drafted, rfl⟩ := List.mem_map.mp member
  obtain ⟨⟨event, index⟩, _, inside⟩ :=
    List.mem_flatMap.mp (List.fst_mem_of_mem_zipIdx drafted)
  rcases List.mem_append.mp inside with mail | hook
  · split at mail
    · obtain rfl := List.mem_singleton.mp mail
      rfl
    · contradiction
  · obtain ⟨rule, _, rfl⟩ := List.mem_map.mp hook
    rfl

section
variable {settings : ApiSettings} {library : ApiLibrary} {world after : ApiWorld}
  {principal : HostingPrincipal} {request : ApiRequest}

theorem createOutboxRows_envelopes {actions : ActionsDb} {rows : List ActionOutbox}
    (tenanted : actions.Tenanted) (sound : (createOutboxRows actions rows).2.Sound)
    (events : ∀ row ∈ rows, row.envelope.event.companyId = row.companyId) :
    (createOutboxRows actions rows).2.Tenanted where
  toSound := sound
  envelopes row member := by
    obtain ⟨created, listed, same, _⟩ := createOutboxRows_appends rows actions
    rw [same] at member
    rcases List.mem_append.mp member with old | new
    · exact tenanted.envelopes row old
    · exact events row (listed.subset new)

theorem ActionsChange.Concerns.envelopes {companyId : Nat} {db actions : ActionsDb}
    {change : ActionsChange} (concerns : change.Concerns companyId db) (tenanted : db.Tenanted)
    (applied : change.apply db = .ok actions) : actions.Tenanted := by
  have sound := ActionsChange.apply_sound tenanted.toSound (concerns.fits tenanted.toSound) applied
  cases concerns with
  | createRule company =>
    simp only [apply] at applied
    split at applied
    · contradiction
    · obtain rfl := Except.ok.inj applied
      exact ⟨sound, tenanted.envelopes⟩
  | saveRule present company id kept =>
    simp only [apply] at applied
    split at applied
    · obtain rfl := Except.ok.inj applied
      exact ⟨sound, tenanted.envelopes⟩
    · contradiction
  | deleteRule present company =>
    obtain rfl := Except.ok.inj applied
    exact ⟨sound, fun row member => tenanted.envelopes row (List.mem_filter.mp member).1⟩
  | requeue present company =>
    obtain rfl := Except.ok.inj applied
    exact tenanted.assign _ _

theorem Deed.envelopes (deed : Deed settings library principal request world after)
    (sound : after.Sound) (tenanted : world.actions.Tenanted) : after.actions.Tenanted := by
  cases deed with
  | @serves asked asks =>
    rcases ApiWorld.serve_cases settings library asked request.faults request.draws world with
      same | same
    · rw [same] at sound ⊢
      exact createOutboxRows_envelopes tenanted sound.actions fun row => outboxRows_envelope
    · rw [same]
      exact tenanted
  | @requestsAccess companyId =>
    rw [(ApiWorld.setsAccess_requestAccess world companyId principal.userId).actions]
    exact tenanted
  | @reviews companyId status notes =>
    rw [(ApiWorld.setsAccess_updateAccess world companyId status principal.userId notes).actions]
    exact tenanted
  | writes family governs concerns applied => exact concerns.envelopes tenanted applied
  | _ => exact tenanted

theorem ApiRequest.run_envelopes (request : ApiRequest) (sound : world.Sound)
    (tenanted : world.actions.Tenanted) : (request.run settings library world).2.actions.Tenanted := by
  have kept : (request.run settings library world).2.Sound := request.run_sound sound
  have effect := request.run_effect settings library world
  generalize (request.run settings library world).2 = after at kept effect
  cases effect with
  | acts authenticated reaches deed => exact deed.envelopes kept tenanted
  | _ => exact tenanted

/-- One incident brings no row with an event of another company. -/
theorem Incident.next_envelopes (incident : Incident) (sound : world.Sound)
    (tenanted : world.actions.Tenanted) : (incident.next settings library world).actions.Tenanted := by
  cases incident with
  | request asked => exact asked.run_envelopes sound tenanted
  | delivers change =>
    simp only [next]
    split
    · rename_i sends applied
      have sound := ActionsChange.apply_sound tenanted.toSound (ActionsChange.isDelivery_fits sends) applied
      cases change with
      | createAttempt attempt =>
        simp only [ActionsChange.apply] at applied
        split at applied
        · obtain rfl := Except.ok.inj applied
          exact ⟨sound, tenanted.envelopes⟩
        · contradiction
      | saveOutbox id columns =>
        simp only [ActionsChange.apply] at applied
        split at applied
        · obtain rfl := Except.ok.inj applied
          exact tenanted.assign id columns
        · contradiction
      | updateOutbox id columns =>
        obtain rfl := Except.ok.inj applied
        exact tenanted.assign id columns
      | _ => contradiction
    · exact tenanted
  | expires event row =>
    refine tenanted.of_rows (tenanted.toSound.keepOutbox _) fun row member => ?_
    exact ⟨row, (List.mem_filter.mp member).1, rfl, rfl⟩
  | purgesRows companyId =>
    refine tenanted.of_rows (tenanted.toSound.withoutCompany companyId) fun row member => ?_
    exact ⟨row, (List.mem_filter.mp member).1, rfl, rfl⟩
  | _ => exact tenanted

end

/-! ### What a delivery sends -/

/-- The message that a snapshot of the tables allows a delivery to send: the envelope of an open
row, to the rule of the row as it was then, or to the email service. -/
inductive SentFor (settings : ActionsSettings) (library : ActionsLibrary) (id : Uuid)
    (db : ActionsDb) : Post → Prop where
  | webhook (row : ActionOutbox) (rule : ActionRule) (key : Bytes) (stored : db.row id = some row)
      (unsettled : row.status.isFinal = false) (hook : row.deliveryKind = .webhook)
      (named : db.ruleOf row = some rule) (enabled : rule.enabled = true)
      (kind : rule.actionKind = .webhook) (filled : strip rule.config.url ≠ [])
      (signed : normalizeWebhookSigningSecret library (strip rule.config.secret) = .ok key) :
      SentFor settings library id db
        (webhookPost settings rule.config row.envelope (row.attemptCount + 1) key)
  | email (row : ActionOutbox) (stored : db.row id = some row)
      (unsettled : row.status.isFinal = false) (mail : row.deliveryKind = .email)
      (configured : emailServiceConfigured settings = true) :
      SentFor settings library id db (emailPost settings row.envelope)

/-- How far a delivery is, with the world of its snapshot. -/
inductive Sending where
  | begins
  | taken (seen : ServiceWorld)
  | sent (seen : ServiceWorld)

inductive Sends (settings : ActionsSettings) (library : ActionsLibrary) (id : Uuid) :
    ∀ β, DeliveryCall β → Sending → ServiceWorld → Sending → Prop where
  | takes {world} : Sends settings library id _ (.atomic (takeSnapshot id)) .begins world (.taken world)
  | posts {world seen} (request : Post) (own : SentFor settings library id seen.api.actions request) :
      Sends settings library id _ (.post request) (.taken seen) world (.sent seen)
  | works {world stage} {β : Type} {call : DeliveryCall β} (begun : stage ≠ .begins)
      (silent : Silent β call) : Sends settings library id β call stage world stage
  | records {world stage} (begun : stage ≠ .begins) (count : Nat) (terminalError : Option PyStr)
      (success : Bool) (found : AttemptMeta) (correlation : Correlation) :
      Sends settings library id _
        (.atomic (recordResult settings id count terminalError success found correlation)) stage world stage

def sendingStaging (settings : ActionsSettings) (library : ActionsLibrary) (id : Uuid) :
    Staging DeliveryCall ServiceWorld Sending where
  holds _ world := world.api.actions.Tenanted
  moves := Sends settings library id

/-- The delivery has begun. -/
def Begun {α : Type} (_ : Except ActionsError α) (stage : Sending) : Prop := stage ≠ .begins

section
variable {settings : ActionsSettings} {library : ActionsLibrary} {id : Uuid} {seen : ServiceWorld}
  {stage : Sending} {α : Type}

abbrev FollowsSending (settings : ActionsSettings) (library : ActionsLibrary) (id : Uuid) (stage : Sending)
    (body : Delivery α) : Prop :=
  body.Follows ServiceWorld.handle (sendingStaging settings library id) Begun stage

theorem silent_sending {body : Delivery α} (silent : body.All Silent) (begun : stage ≠ .begins) :
    FollowsSending settings library id stage body :=
  silent.follows (fun _ _ _ quiet _ => .works begun quiet) fun _ => begun

theorem postWebhookUrl_sending {request : Post}
    (own : SentFor settings library id seen.api.actions request) :
    FollowsSending settings library id (.taken seen) (postWebhookUrl library request) := by
  refine Prog.follows_perform_bind fun world _ => ⟨_, .posts request own, ?_, fun _ _ => Sending.noConfusion⟩
  intro exchange _
  cases exchange with
  | answered response =>
    refine silent_sending ?_ Sending.noConfusion
    exact Prog.all_ofExcept_bind.mpr fun _ _ =>
      (parseRetryAfterHeader_silent response.retryAfter).bind fun _ => trivial
  | _ => exact Sending.noConfusion

theorem deliverWebhookAction_sending {row : ActionOutbox} {rule : ActionRule}
    (stored : seen.api.actions.row id = some row) (unsettled : row.status.isFinal = false)
    (hook : row.deliveryKind = .webhook) (named : seen.api.actions.ruleOf row = some rule)
    (enabled : rule.enabled = true) (kind : rule.actionKind = .webhook) :
    FollowsSending settings library id (.taken seen)
      (deliverWebhookAction settings library rule.config row.envelope (row.attemptCount + 1)) := by
  unfold deliverWebhookAction
  by_cases filled : strip rule.config.url = []
  · rw [decide_eq_true filled]
    exact Sending.noConfusion
  refine Prog.follows_check Sending.noConfusion (Prog.follows_check Sending.noConfusion
    (Prog.follows_check Sending.noConfusion ?_))
  rcases signed : normalizeWebhookSigningSecret library (strip rule.config.secret) with error | key
  · exact Sending.noConfusion
  · have own : SentFor settings library id seen.api.actions _ :=
      .webhook row rule key stored unsettled hook named enabled kind filled signed
    refine (postWebhookUrl_sending own).bind (fun _ _ begun => begun) fun ended stage begun => ?_
    cases ended with
    | result result => exact silent_sending (Prog.All.when fun _ => trivial) begun
    | _ => exact begun

theorem postEmailEvent_sending {row : ActionOutbox} (stored : seen.api.actions.row id = some row)
    (unsettled : row.status.isFinal = false) (mail : row.deliveryKind = .email) :
    FollowsSending settings library id (.taken seen) (postEmailEvent settings library row.envelope) := by
  unfold postEmailEvent
  cases configured : emailServiceConfigured settings with
  | false => exact Sending.noConfusion
  | true =>
    refine Prog.follows_check Sending.noConfusion (Prog.follows_check Sending.noConfusion ?_)
    have own : SentFor settings library id seen.api.actions _ :=
      .email row stored unsettled mail configured
    refine (postWebhookUrl_sending own).bind (fun _ _ begun => begun) fun ended stage begun => ?_
    cases ended with
    | result result =>
      simp only
      split <;> exact begun
    | _ => exact begun

theorem timed_sending {perform : Delivery (Bool × AttemptMeta)}
    (follows : FollowsSending settings library id (.taken seen) perform) :
    FollowsSending settings library id (.taken seen) (timed perform) := by
  have silent : Silent Time .monotonic := ⟨fun _ => rfl, rfl⟩
  intro world _
  refine ⟨_, .works Sending.noConfusion silent, follows.bind (fun _ _ begun => begun) ?_⟩
  rintro ⟨success, found⟩ stage begun
  intro later _
  exact ⟨_, .works begun silent, begun⟩

theorem caught_sending {body : Delivery (Bool × AttemptMeta)}
    {handler : ActionsError → Delivery (Bool × AttemptMeta)}
    (follows : FollowsSending settings library id (.taken seen) body)
    (ends : ∀ error, ∃ outcome, handler error = .ret outcome) :
    FollowsSending settings library id (.taken seen) (body.tryCatch handler) := by
  refine Prog.Follows.tryCatch follows (fun _ _ begun => begun) fun error stage begun => ?_
  obtain ⟨outcome, same⟩ := ends error
  rw [same]
  exact begun

/-- What a snapshot loads for a row that can be delivered. -/
theorem loadRuleForDelivery_deliverable {row : ActionOutbox} {found rule : Option ActionRule}
    (loaded : loadRuleForDelivery row found = .ok (rule, none)) :
    row.deliveryKind = .email ∨ row.deliveryKind = .webhook ∧
      ∃ own, found = some own ∧ rule = some own ∧ own.enabled = true ∧ own.actionKind = .webhook := by
  unfold loadRuleForDelivery at loaded
  cases kind : row.deliveryKind with
  | email => exact .inl rfl
  | webhook =>
    rw [if_neg (by rw [kind]; exact DeliveryKind.noConfusion)] at loaded
    cases found with
    | none => cases loaded
    | some own =>
      simp only at loaded
      split at loaded
      · cases loaded
      · rename_i enabled
        split at loaded
        · cases loaded
        · rename_i webhook
          refine .inr ⟨rfl, own, rfl, ?_, Bool.not_eq_false _ |>.mp enabled, not_not.mp webhook⟩
          exact (Prod.mk.inj (Except.ok.inj loaded)).1.symm

theorem performDelivery_sending {row : ActionOutbox} {rule : Option ActionRule}
    (stored : seen.api.actions.row id = some row) (unsettled : row.status.isFinal = false)
    (loaded : loadRuleForDelivery row (seen.api.actions.ruleOf row) = .ok (rule, none)) :
    FollowsSending settings library id (.taken seen) (performDelivery settings library row rule) := by
  rcases loadRuleForDelivery_deliverable loaded with mail | ⟨hook, own, named, rfl, enabled, kind⟩
  · simp only [performDelivery, mail]
    refine timed_sending (caught_sending ?_ fun error => ?_)
    · exact (postEmailEvent_sending stored unsettled mail).bind (fun _ _ begun => begun)
        fun _ _ begun => begun
    · cases error <;> exact ⟨_, rfl⟩
  · simp only [performDelivery, hook]
    refine timed_sending (caught_sending ?_ fun error => ?_)
    · exact (deliverWebhookAction_sending stored unsettled hook named enabled kind).bind
        (fun _ _ begun => begun) fun _ _ begun => begun
    · cases error <;> exact ⟨_, rfl⟩

theorem recordResult_sending {count : Nat} {terminalError : Option PyStr} {success : Bool}
    {found : AttemptMeta} {correlation : Correlation} (begun : stage ≠ .begins) :
    FollowsSending settings library id stage
      (Delivery.atomic (recordResult settings id count terminalError success found correlation) >>=
        fun after => .ret (some after)) :=
  Prog.follows_perform_bind fun _ _ =>
    ⟨stage, .records begun .., fun _ _ => begun, fun _ _ => begun⟩

/-- A delivery takes its snapshot and then sends at most what the snapshot allows. -/
theorem deliverOutboxRow_sending (id : Uuid) (correlation : Correlation) :
    FollowsSending settings library id .begins (deliverOutboxRow settings library id correlation) := by
  refine Prog.follows_perform_bind fun world _ =>
    ⟨_, .takes, fun found answered => ?_, fun _ _ => Sending.noConfusion⟩
  cases found with
  | missing => exact Sending.noConfusion
  | final row => exact Sending.noConfusion
  | taken row rule terminalError =>
    obtain ⟨stored, unsettled, loaded⟩ := takeSnapshot_loaded answered
    cases terminalError with
    | some error => exact recordResult_sending Sending.noConfusion
    | none =>
      refine (performDelivery_sending stored unsettled loaded).bind (fun _ _ begun => begun) ?_
      rintro ⟨success, found⟩ stage begun
      exact recordResult_sending begun

end

/-! ### Every interleaving -/

/-- The messages that a delivery has sent. -/
def sentPosts (log : List ServiceEntry) : List Post :=
  log.filterMap fun
    | ⟨.post request, _⟩ => some request
    | _ => none

theorem sentPosts_append (log : List ServiceEntry) (entry : ServiceEntry) :
    sentPosts (log ++ [entry]) = sentPosts log ++ sentPosts [entry] := List.filterMap_append ..

theorem sentPosts_silent {β : Type} {call : DeliveryCall β} (unposted : call.isPost = false)
    (world : ServiceWorld) : sentPosts [⟨call, world⟩] = [] := by
  cases call with
  | post request => contradiction
  | _ => rfl

/-- The first call of a delivery, in the world that it met. -/
def beginsWith (id : Uuid) (seen : ServiceWorld) (log : List ServiceEntry) : Prop :=
  log.head? = some ⟨.atomic (takeSnapshot id), seen⟩

theorem beginsWith_append {id : Uuid} {seen : ServiceWorld} {log : List ServiceEntry}
    (begun : beginsWith id seen log) (more : List ServiceEntry) : beginsWith id seen (log ++ more) := by
  rw [beginsWith, List.head?_append, begun]
  rfl

section
variable {settings : ApiSettings} {library : ApiLibrary} {id : Uuid} {log : List ServiceEntry}

/-- What the log of a delivery shows in a stage. -/
def Sending.Tells (settings : ApiSettings) (library : ApiLibrary) (id : Uuid) (log : List ServiceEntry) :
    Sending → Prop
  | .begins => log = []
  | .taken seen => sentPosts log = [] ∧ beginsWith id seen log ∧ seen.api.actions.Tenanted
  | .sent seen => beginsWith id seen log ∧ seen.api.actions.Tenanted ∧
      ∃ request, sentPosts log = [request] ∧
        SentFor settings.actions library.actions id seen.api.actions request

theorem Sending.Tells.silent {stage : Sending} (tells : stage.Tells settings library id log)
    (begun : stage ≠ .begins) {β : Type} {call : DeliveryCall β} (unposted : call.isPost = false)
    (world : ServiceWorld) : stage.Tells settings library id (log ++ [⟨call, world⟩]) := by
  have same : sentPosts (log ++ [⟨call, world⟩]) = sentPosts log := by
    rw [sentPosts_append, sentPosts_silent unposted, List.append_nil]
  cases stage with
  | begins => exact absurd rfl begun
  | taken seen => exact ⟨same.trans tells.1, beginsWith_append tells.2.1 _, tells.2.2⟩
  | sent seen =>
    obtain ⟨first, tenanted, request, posted, own⟩ := tells
    exact ⟨beginsWith_append first _, tenanted, request, same.trans posted, own⟩

theorem Sending.Tells.move {world : ServiceWorld} {β : Type} {call : DeliveryCall β}
    {stage later : Sending} (tells : stage.Tells settings library id log)
    (tenanted : world.api.actions.Tenanted)
    (sends : Sends settings.actions library.actions id β call stage world later) :
    later.Tells settings library id (log ++ [⟨call, world⟩]) := by
  cases sends with
  | takes =>
    obtain rfl := tells
    exact ⟨rfl, rfl, tenanted⟩
  | posts request own =>
    obtain ⟨none, first, kept⟩ := tells
    refine ⟨beginsWith_append first _, kept, request, ?_, own⟩
    rw [sentPosts_append, none]
    rfl
  | works begun silent => exact tells.silent begun silent.2 world
  | records begun => exact tells.silent begun rfl world

/-- The last transaction of a delivery writes at most its result. -/
theorem recordResult_assigns (settings : ActionsSettings) (id : Uuid) (count : Nat)
    (terminalError : Option PyStr) (success : Bool) (found : AttemptMeta) (correlation : Correlation)
    (world : OutboxWorld) :
    let after := (DeliveryCall.handle _
      (.atomic (recordResult settings id count terminalError success found correlation)) world).2
    after = world ∨ ∃ attempt columns, after.db = world.db.record attempt columns := by
  rcases stored : world.db.row id with _ | row
  · exact .inl (recordResult_gone stored)
  · by_cases current : row.attemptCount = count
    · subst current
      obtain rfl := (ActionsDb.row_mem stored).2
      rw [DeliveryCall.handle, run_recordResult stored, run_applyDeliveryResult stored]
      exact .inr ⟨_, _, rfl⟩
    · exact .inl (recordResult_overtaken stored current)

theorem Sends.tenanted {world : ServiceWorld} {β : Type} {call : DeliveryCall β}
    {stage later : Sending} (sends : Sends settings.actions library.actions id β call stage world later)
    (tenanted : world.api.actions.Tenanted) : (ServiceWorld.handle β call world).2.api.actions.Tenanted := by
  have quietly {γ : Type} {call : DeliveryCall γ} (quiet : Quiet γ call) :
      (ServiceWorld.handle γ call world).2.api.actions.Tenanted := by
    show (DeliveryCall.handle γ call world.outbox).2.db.Tenanted
    rw [quiet]
    exact tenanted
  cases sends with
  | takes => exact quietly (quiet_atomic (takeSnapshot_reads id))
  | posts request => exact quietly fun _ => rfl
  | works begun silent => exact quietly silent.1
  | records begun count terminalError success found correlation =>
    rcases recordResult_assigns settings.actions id count terminalError success found correlation
      world.outbox with same | ⟨attempt, columns, saved⟩
    · show (DeliveryCall.handle _ _ world.outbox).2.db.Tenanted
      rw [same]
      exact tenanted
    · show (DeliveryCall.handle _ _ world.outbox).2.db.Tenanted
      rw [saved]
      exact tenanted.record attempt columns

theorem ApiWorld.Initial.tenanted {world : ApiWorld} (initial : world.Initial) :
    world.actions.Tenanted where
  toSound := initial.sound.actions
  envelopes row member := by
    rw [initial.outbox] at member
    cases member

/-- What a delivery sends goes by its own snapshot, and stays in one company. -/
structure Discreet (settings : ApiSettings) (library : ApiLibrary) (id : Uuid) (seen : ServiceWorld)
    (request : Post) : Prop where
  own : SentFor settings.actions library.actions id seen.api.actions request
  event : ∀ row, seen.api.actions.row id = some row → row.envelope.event.companyId = row.companyId
  rule : ∀ row, seen.api.actions.row id = some row → ∀ rule,
    seen.api.actions.ruleOf row = some rule → rule.companyId = row.companyId

theorem SentFor.discreet {seen : ServiceWorld} {request : Post} (tenanted : seen.api.actions.Tenanted)
    (own : SentFor settings.actions library.actions id seen.api.actions request) :
    Discreet settings library id seen request where
  own := own
  event row stored := tenanted.envelopes row (ActionsDb.row_mem stored).1
  rule row stored rule named := by
    obtain ⟨ruleId, known, found⟩ := Option.bind_eq_some_iff.mp named
    obtain ⟨other, listed, same, company⟩ :=
      tenanted.linked row (ActionsDb.row_mem stored).1 ruleId known
    have present := List.mem_of_find?_eq_some found
    have key : rule.id = ruleId := by simpa using List.find?_some found
    rw [tenanted.toSound.rule_eq present listed (key.trans same.symm)]
    exact company

/-- The tables are sound, and each delivery is in the stage that its log shows. -/
def ServiceWorld.Keeps (settings : ApiSettings) (library : ApiLibrary) (world : ServiceWorld)
    (posts : List (Program.Post DeliveryCall ActionsError ServiceWorld (Uuid × Correlation) Sending
      (Option ActionOutbox))) : Prop :=
  world.api.Sound ∧ world.api.actions.Tenanted ∧
    ∀ post ∈ posts, post.stage.Tells settings library post.thread.task.1 post.thread.log

theorem ServiceCrew.Reaches.keeps {start crew : ServiceCrew} (initial : start.shared.api.Initial)
    (idle : start.threads = []) (path : ServiceCrew.Reaches settings library start crew) :
    ∃ posts, posts.map (·.thread) = crew.threads ∧ crew.shared.Keeps settings library posts := by
  have follows (task : Uuid × Correlation) : (deliveryOf settings.actions library.actions task).Follows
      ServiceWorld.handle (sendingStaging settings.actions library.actions task.1) Begun .begins :=
    deliverOutboxRow_sending task.1 task.2
  have staged := Crew.Reaches.staged (ServiceWorld.Keeps settings library) follows
    ⟨initial.sound, initial.tenanted, fun _ member => by cases member⟩ idle
    (fun world posts task keeps => ?arrives) (fun before after posts changed keeps => ?changes)
    (fun world posts keeps post _ => keeps.2.1)
    (fun call next world left right task log stage later keeps sends => ?moves) path
  · exact staged.imp fun _ kept => ⟨kept.1, kept.2.1⟩
  case arrives =>
    refine ⟨keeps.1, keeps.2.1, fun post member => ?_⟩
    rcases List.mem_cons.mp member with rfl | old
    · rfl
    · exact keeps.2.2 post old
  case changes =>
    obtain ⟨sound, tenanted, tells⟩ := keeps
    cases changed with
    | occurs incident =>
      exact ⟨incident.next_sound sound, incident.next_envelopes sound tenanted, tells⟩
    | ticks | reroutes => exact ⟨sound, tenanted, tells⟩
  case moves =>
    obtain ⟨sound, tenanted, tells⟩ := keeps
    have after := sends.tenanted tenanted
    refine ⟨⟨sound.sites, sound.plain, sound.tokenIds, after.toSound⟩, after, fun post member => ?_⟩
    rcases mem_middle.mp member with rfl | other
    · exact (tells _ (mem_middle.mpr (.inl rfl))).move tenanted sends
    · exact tells post (mem_middle.mpr (.inr other))

/-- Beside any requests, purges, claims, requeues and edits of the rules, a delivery sends one
message at most. It goes to the rule that its snapshot showed, or to the email service, and it
is about an event of the company that the rule belongs to. -/
theorem messages_stay_in_company {start crew : ServiceCrew} (initial : start.shared.api.Initial)
    (idle : start.threads = []) (path : ServiceCrew.Reaches settings library start crew) :
    ∀ thread ∈ crew.threads, sentPosts thread.log = [] ∨ ∃ request seen,
      sentPosts thread.log = [request] ∧ beginsWith thread.task.1 seen thread.log ∧
        Discreet settings library thread.task.1 seen request := by
  obtain ⟨posts, staffed, _, _, tells⟩ := path.keeps initial idle
  intro thread member
  rw [← staffed] at member
  obtain ⟨⟨thread, stage⟩, listed, rfl⟩ := List.mem_map.mp member
  have told := tells _ listed
  cases stage with
  | begins =>
    have unread : thread.log = [] := told
    exact .inl (by rw [unread]; rfl)
  | taken seen => exact .inl told.1
  | sent seen =>
    obtain ⟨first, tenanted, request, posted, own⟩ := told
    exact .inr ⟨request, seen, posted, first, own.discreet tenanted⟩

end

/-- Any incidents may happen between two calls of the deliveries. -/
theorem ServiceCrew.Reaches.runs (settings : ApiSettings) (library : ApiLibrary) (incidents : List Incident)
    (world : ServiceWorld) (threads : List ServiceThread) :
    ServiceCrew.Reaches settings library ⟨world, threads⟩
      ⟨{ world with api := world.api.runs settings library incidents }, threads⟩ := by
  induction incidents generalizing world with
  | nil => exact .refl
  | cons incident incidents ih => exact .head (.change _ (.occurs incident)) (ih _)

/-! The owner deletes a rule while a delivery to it is under way. -/

def createdHookFields : RuleFields := { plainFields with
  name := some (lit "hook")
  eventType := some .appCreated
  url := some (lit "https://hooks.example/in")
  secret := some (lit "secret") }

def hookHistory : List Incident :=
  [.grants [⟨3, .approved⟩] [], .request (ruleCall "h.staff.s" .post .rules createdHookFields),
    .request (call "h.owner.s" .post .apps)]

def hookStarts : ServiceWorld := ⟨emptyApi, 0, fun _ => .osError []⟩

def hookService : ServiceWorld :=
  { hookStarts with api := emptyApi.runs apiSettings demoApi hookHistory }

def hookOf : Uuid × Correlation := (⟨200⟩, ⟨.dispatch, none⟩)

def hookDelivery : ServiceThread :=
  ⟨hookOf, deliveryOf apiSettings.actions demoApi.actions hookOf, []⟩

def hookTaken : ServiceThread × ServiceWorld := hookDelivery.after ServiceWorld.handle 2 hookService

def hookDeleted : ServiceWorld := { hookTaken.2 with
  api := Incident.next apiSettings demoApi hookTaken.2.api (.request (call "h.owner.s" .delete (.rule 5))) }

def hookSent : ServiceThread × ServiceWorld := hookTaken.1.after ServiceWorld.handle 9 hookDeleted

theorem hookSent_reached :
    ServiceCrew.Reaches apiSettings demoApi ⟨hookStarts, []⟩ ⟨hookSent.2, [hookSent.1]⟩ := by
  refine (ServiceCrew.Reaches.runs apiSettings demoApi hookHistory hookStarts []).trans ?_
  refine .head (.arrive hookOf) ((Crew.Reaches.after 2 hookDelivery hookService [] []).trans ?_)
  refine .head (.change hookDeleted (.occurs _)) ?_
  exact Crew.Reaches.after 9 hookTaken.1 hookDeleted [] []

theorem messages_stay_in_company_deletedRule :
    hookSent.2.api.actions.rules = [] ∧ (sentPosts hookSent.1.log).length = 1 ∧
      ∀ thread ∈ [hookSent.1], sentPosts thread.log = [] ∨ ∃ request seen,
        sentPosts thread.log = [request] ∧ beginsWith thread.task.1 seen thread.log ∧
          Discreet apiSettings demoApi thread.task.1 seen request :=
  ⟨by decide +kernel, by decide +kernel,
    messages_stay_in_company ⟨emptyWorld_initial, rfl, rfl, rfl, rfl⟩ rfl hookSent_reached⟩

end HostingService
