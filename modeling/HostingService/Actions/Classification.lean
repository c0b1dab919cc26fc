import HostingService.Actions.Delivery

/-! What one delivery makes of the answer of its endpoint. -/

namespace HostingService

open Program Text Storage OutboxTransaction

section
variable {settings : ActionsSettings} {library : ActionsLibrary} {world : OutboxWorld}
variable {response : HttpResponse}

/-! ### Reading the answer -/

/-- The body and the `Retry-After` header of the answer can be read without an exception. -/
def HttpResponse.legible (response : HttpResponse) : Bool :=
  let raw := strip (response.retryAfter.getD [])
  (readResponseExcerpt response).isOk && (!raw.all isLatinDigit || (intOfDigits raw).isOk)

/-- The delay that the header asks for at a time. -/
def retryAfterAt (library : ActionsLibrary) (clock : Time) (value : Option PyStr) :
    Except ActionsError (Option Int) :=
  let raw := strip (value.getD [])
  if raw = [] then .ok none
  else if raw.all isLatinDigit then
    (intOfDigits raw).map fun seconds => if seconds ≥ 0 then some (max 0 seconds) else none
  else .ok ((library.parseDate raw).map fun target => max 0 ((target - clock).tdiv 1000000))

/-- What the transport reads from the answer. -/
def readAnswer (library : ActionsLibrary) (clock : Time) (response : HttpResponse) :
    Except ActionsError WebhookPostResult := do
  let excerpt ← readResponseExcerpt response
  let retryAfter ← retryAfterAt library clock response.retryAfter
  return ⟨response.status, excerpt, retryAfter⟩

theorem run_parseRetryAfterHeader (value : Option PyStr) (world : OutboxWorld) :
    (parseRetryAfterHeader library value).run DeliveryCall.handle world =
      (retryAfterAt library world.clock value, world) := by
  simp only [parseRetryAfterHeader, retryAfterAt]
  by_cases blank : strip (value.getD []) = []
  · simp [blank]
  · by_cases numeric : (strip (value.getD [])).all isLatinDigit = true
    · rw [if_neg blank, if_pos numeric, if_neg blank, if_pos numeric, Prog.run_bind,
        Prog.run_ofExcept]
      rcases intOfDigits (strip (value.getD [])) with error | seconds <;> rfl
    · rw [if_neg blank, if_neg numeric, if_neg blank, if_neg numeric]
      rcases library.parseDate (strip (value.getD [])) with _ | target <;> rfl

theorem run_postWebhookUrl {request : Post} (answered : world.network request = .answered response) :
    (postWebhookUrl library request).run DeliveryCall.handle world =
      ((readAnswer library world.clock response).map .result, world) := by
  have asked : (Prog.perform (.post request) : Delivery Exchange).run DeliveryCall.handle world =
      (.ok (.answered response), world) := by
    rw [Prog.run_perform, ← answered]
    rfl
  unfold postWebhookUrl readAnswer
  rw [Prog.run_bind_ok _ asked]
  simp only [Prog.run_bind, Prog.run_ofExcept]
  rcases readResponseExcerpt response with error | excerpt
  · rfl
  · simp only [run_parseRetryAfterHeader]
    rcases retryAfterAt library world.clock response.retryAfter with error | retryAfter <;> rfl

theorem retryAfterAt_isOk (library : ActionsLibrary) (clock : Time) (value : Option PyStr) :
    (retryAfterAt library clock value).isOk =
      (!(strip (value.getD [])).all isLatinDigit || (intOfDigits (strip (value.getD []))).isOk) := by
  simp only [retryAfterAt]
  by_cases blank : strip (value.getD []) = []
  · rw [blank]
    rfl
  · by_cases numeric : (strip (value.getD [])).all isLatinDigit = true
    · rw [if_neg blank, if_pos numeric, numeric]
      rcases intOfDigits (strip (value.getD [])) with error | seconds <;> rfl
    · rw [if_neg blank, if_neg numeric, Bool.eq_false_iff.mpr numeric]
      rfl

theorem readAnswer_isOk (library : ActionsLibrary) (clock : Time) (response : HttpResponse) :
    (readAnswer library clock response).isOk = response.legible := by
  have parsed := retryAfterAt_isOk library clock response.retryAfter
  simp only [readAnswer, HttpResponse.legible, ← parsed]
  rcases readResponseExcerpt response with error | excerpt
  · rfl
  · rcases retryAfterAt library clock response.retryAfter with error | retryAfter <;> rfl

theorem readAnswer_status {clock : Time} {result : WebhookPostResult}
    (read : readAnswer library clock response = .ok result) : result.status = response.status := by
  unfold readAnswer at read
  generalize readResponseExcerpt response = excerpt at read
  generalize retryAfterAt library clock response.retryAfter = retryAfter at read
  rcases excerpt with error | excerpt
  · cases read
  · rcases retryAfter with error | retryAfter
    · cases read
    · cases read
      rfl

theorem readResponseExcerpt_error {error : ActionsError}
    (failed : readResponseExcerpt response = .error error) : ∃ message, error = .exception message := by
  unfold readResponseExcerpt at failed
  split at failed
  · cases failed
  · cases failed
    exact ⟨_, rfl⟩
  · split at failed <;> cases failed

theorem intOfDigits_error {raw : PyStr} {error : ActionsError}
    (failed : intOfDigits raw = .error error) : ∃ message, error = .exception message := by
  unfold intOfDigits at failed
  split at failed
  · split at failed
    · cases failed
    · cases failed
      exact ⟨_, rfl⟩
  · cases failed
    exact ⟨_, rfl⟩

theorem retryAfterAt_error {clock : Time} {value : Option PyStr} {error : ActionsError}
    (failed : retryAfterAt library clock value = .error error) :
    ∃ message, error = .exception message := by
  simp only [retryAfterAt] at failed
  split at failed
  · cases failed
  · split at failed
    · rcases read : intOfDigits (strip (value.getD [])) with other | seconds
      · rw [read] at failed
        cases failed
        exact intOfDigits_error read
      · rw [read] at failed
        cases failed
    · cases failed

/-- An answer that cannot be read raises an exception that no handler names. -/
theorem readAnswer_error {clock : Time} {error : ActionsError}
    (failed : readAnswer library clock response = .error error) :
    ∃ message, error = .exception message := by
  unfold readAnswer at failed
  rcases body : readResponseExcerpt response with other | excerpt
  · rw [body] at failed
    cases failed
    exact readResponseExcerpt_error body
  · rcases header : retryAfterAt library clock response.retryAfter with other | retryAfter
    · rw [body, header] at failed
      cases failed
      exact retryAfterAt_error header
    · rw [body, header] at failed
      cases failed

/-! ### The verdict of an attempt -/

/-- What the outbox row goes by: the flags, and what the retry delay looks at. -/
structure Verdict where
  success : Bool
  permanent : Bool
  httpStatus : Option Nat
  retryAfterSeconds : Option Int
  deriving DecidableEq

def AttemptMeta.verdict (found : AttemptMeta) (success : Bool) : Verdict where
  success := success
  permanent := found.permanent
  httpStatus := found.httpStatus
  retryAfterSeconds := found.retryAfterSeconds

/-- An attempt without an answer to go by. -/
def Verdict.unanswered : Verdict := ⟨false, false, none, none⟩

def webhookVerdict : Except ActionsError WebhookPostResult → Verdict
  | .error _ => .unanswered
  | .ok result =>
    if result.status ≥ 400 then (AttemptMeta.ofFailure (webhookStatusFailure result)).verdict false
    else AttemptMeta.empty.verdict true

def emailVerdict (settings : ActionsSettings) : Except ActionsError WebhookPostResult → Verdict
  | .error _ => .unanswered
  | .ok result =>
    if 200 ≤ result.status ∧ result.status < 300 then ⟨true, false, some result.status, none⟩
    else (AttemptMeta.ofFailure (emailStatusFailure settings result)).verdict false

/-- A webhook that can be signed and sent. -/
structure WebhookReady (library : ActionsLibrary) (config : WebhookConfig) (envelope : Envelope)
    (key : Bytes) : Prop where
  url : strip config.url ≠ []
  secret : strip config.secret ≠ []
  id : envelope.id.getD [] ≠ []
  signed : normalizeWebhookSigningSecret library (strip config.secret) = .ok key

/-- An email service that can be reached. -/
structure EmailReady (settings : ActionsSettings) : Prop where
  configured : emailServiceConfigured settings = true
  http : isHttpUrl (emailServiceEventsUrl settings) = true

theorem run_timed {perform : Delivery (Bool × AttemptMeta)} {success : Bool} {found : AttemptMeta}
    (ran : perform.run DeliveryCall.handle world = (.ok (success, found), world)) :
    (timed perform).run DeliveryCall.handle world =
      (.ok (success, { found with durationMs := some ((world.monotonic - world.monotonic) / 1000) }),
        world) := by
  rw [timed, Prog.run_bind_ok _ (Delivery.run_monotonic world), Prog.run_bind_ok _ ran]
  exact Prog.run_bind_ok _ (Delivery.run_monotonic world) _

theorem run_deliverWebhookAction {config : WebhookConfig} {envelope : Envelope} {attempt : Nat}
    {key : Bytes} (ready : WebhookReady library config envelope key)
    (answered : world.network (webhookPost settings config envelope attempt key) =
      .answered response) :
    (deliverWebhookAction settings library config envelope attempt).run DeliveryCall.handle world =
      match readAnswer library world.clock response with
      | .error error => (.error error, world)
      | .ok result =>
        if result.status ≥ 400 then
          (.error (.webhookDelivery (webhookStatusFailure result)), world)
        else (.ok (), world) := by
  obtain ⟨url, secret, id, signed⟩ := ready
  simp only [deliverWebhookAction, decide_eq_false url, decide_eq_false secret, decide_eq_false id,
    Prog.when_false, Prog.ret_bind, signed, Prog.ofExcept_ok]
  rw [Prog.run_bind, run_postWebhookUrl answered]
  rcases readAnswer library world.clock response with error | result
  · rfl
  · by_cases refused : result.status ≥ 400
    · simp [Except.map, refused]
    · simp [Except.map, refused]

theorem run_postEmailEvent {body : Envelope} (ready : EmailReady settings)
    (answered : world.network (emailPost settings body) = .answered response) :
    (postEmailEvent settings library body).run DeliveryCall.handle world =
      match readAnswer library world.clock response with
      | .error error => (.error error, world)
      | .ok result =>
        if 200 ≤ result.status ∧ result.status < 300 then (.ok result.status, world)
        else (.error (.emailDelivery (emailStatusFailure settings result)), world) := by
  simp only [postEmailEvent, ready.configured, ready.http, Bool.not_true, Prog.when_false,
    Prog.ret_bind]
  rw [Prog.run_bind, run_postWebhookUrl answered]
  rcases readAnswer library world.clock response with error | result
  · rfl
  · by_cases accepted : 200 ≤ result.status ∧ result.status < 300
    · simp [Except.map, accepted]
    · simp [Except.map, accepted]

theorem performHttpDelivery_verdict {rule : ActionRule} {envelope : Envelope} {attempt : Nat}
    {key : Bytes} (ready : WebhookReady library rule.config envelope key)
    (answered : world.network (webhookPost settings rule.config envelope attempt key) =
      .answered response) :
    ∃ success found, (performHttpDelivery settings library rule envelope attempt).run
        DeliveryCall.handle world = (.ok (success, found), world) ∧
      found.verdict success = webhookVerdict (readAnswer library world.clock response) := by
  have sent : (deliverWebhookAction settings library rule.config envelope attempt).run
      DeliveryCall.handle world = _ := run_deliverWebhookAction ready answered
  rcases read : readAnswer library world.clock response with error | result
  · obtain ⟨message, rfl⟩ := readAnswer_error read
    rw [read] at sent
    refine ⟨_, _, run_timed (Prog.run_tryCatch_error _ (Prog.run_bind_error _ sent _) _), rfl⟩
  · rw [read] at sent
    by_cases refused : result.status ≥ 400
    · simp only [refused, if_true] at sent
      refine ⟨_, _, run_timed (Prog.run_tryCatch_error _ (Prog.run_bind_error _ sent _) _), ?_⟩
      simp only [webhookVerdict, refused, if_true]
      rfl
    · simp only [refused, if_false] at sent
      refine ⟨_, _, run_timed (Prog.run_tryCatch_ok _ (Prog.run_bind_ok _ sent _) _), ?_⟩
      simp only [webhookVerdict, refused, if_false]
      rfl

theorem performEmailDelivery_verdict {envelope : Envelope} (ready : EmailReady settings)
    (answered : world.network (emailPost settings envelope) = .answered response) :
    ∃ success found, (performEmailDelivery settings library envelope).run
        DeliveryCall.handle world = (.ok (success, found), world) ∧
      found.verdict success = emailVerdict settings (readAnswer library world.clock response) := by
  have sent : (postEmailEvent settings library envelope).run DeliveryCall.handle world = _ :=
    run_postEmailEvent ready answered
  rcases read : readAnswer library world.clock response with error | result
  · obtain ⟨message, rfl⟩ := readAnswer_error read
    rw [read] at sent
    refine ⟨_, _, run_timed (Prog.run_tryCatch_error _ (Prog.run_bind_error _ sent _) _), rfl⟩
  · rw [read] at sent
    by_cases accepted : 200 ≤ result.status ∧ result.status < 300
    · simp only [accepted, and_self, if_true] at sent
      refine ⟨_, _, run_timed (Prog.run_tryCatch_ok _ (Prog.run_bind_ok _ sent _) _), ?_⟩
      simp only [emailVerdict, accepted, and_self, if_true]
      rfl
    · simp only [accepted, if_false] at sent
      refine ⟨_, _, run_timed (Prog.run_tryCatch_error _ (Prog.run_bind_error _ sent _) _), ?_⟩
      simp only [emailVerdict, accepted, if_false]
      rfl

/-! ### One delivery from its snapshot to its result -/

theorem run_takeSnapshot {id : Uuid} {row : ActionOutbox} {rule : Option ActionRule}
    {terminalError : Option PyStr} (stored : world.db.row id = some row)
    (unsettled : row.status.isFinal = false)
    (loaded : loadRuleForDelivery row (world.db.ruleOf row) = .ok (rule, terminalError)) :
    (takeSnapshot id).run OutboxStatement.handle world =
      (.ok (.taken row rule terminalError), world) := by
  rw [takeSnapshot, Prog.run_bind_ok _ (run_select _ world)]
  simp [stored, unsettled, loaded]

theorem run_applyDeliveryResult {row : ActionOutbox} {terminalError : Option PyStr} {success : Bool}
    {found : AttemptMeta} {correlation : Correlation} (stored : world.db.row row.id = some row) :
    (applyDeliveryResult settings row terminalError success found correlation).run
        OutboxStatement.handle world =
      let outcome := outcomeOf settings terminalError success found
      let columns := outcome.columns settings row found.retryAfterSeconds world.clock
      (.ok (row.assign columns),
        { world with db := world.db.record (outcome.attempt row correlation) columns }) := by
  have created : (ActionsChange.createAttempt
      ((outcomeOf settings terminalError success found).attempt row correlation)).apply world.db =
        .ok _ := ActionsChange.apply_createAttempt stored
  rw [applyDeliveryResult, Prog.run_bind_ok _ (run_execute created), Prog.run_bind_ok _ (run_now _)]
  simp only
  rw [Prog.run_bind_ok _ (run_execute (ActionsChange.apply_saveOutbox ?_))]
  · rfl
  · exact row
  · exact stored

theorem run_recordResult {row : ActionOutbox} {terminalError : Option PyStr} {success : Bool}
    {found : AttemptMeta} {correlation : Correlation} (stored : world.db.row row.id = some row) :
    (recordResult settings row.id row.attemptCount terminalError success found correlation).run
        OutboxStatement.handle world =
      (applyDeliveryResult settings row terminalError success found correlation).run
        OutboxStatement.handle world := by
  rw [recordResult, Prog.run_bind_ok _ (run_select _ world)]
  simp [stored]

/-- A delivery that nothing overtakes records its own result. -/
theorem deliverOutboxRow_records {row : ActionOutbox} {rule : Option ActionRule} {success : Bool}
    {found : AttemptMeta} {correlation : Correlation} (stored : world.db.row row.id = some row)
    (unsettled : row.status.isFinal = false)
    (loaded : loadRuleForDelivery row (world.db.ruleOf row) = .ok (rule, none))
    (performed : (performDelivery settings library row rule).run DeliveryCall.handle world =
      (.ok (success, found), world)) :
    ((deliverOutboxRow settings library row.id correlation).run DeliveryCall.handle world).2.db =
      world.db.record ((outcomeOf settings none success found).attempt row correlation)
        ((outcomeOf settings none success found).columns settings row found.retryAfterSeconds
          world.clock) := by
  have recorded : (recordResult settings row.id row.attemptCount none success found
      correlation).run OutboxStatement.handle world = _ :=
    (run_recordResult stored).trans (run_applyDeliveryResult stored)
  rw [deliverOutboxRow, Prog.run_bind_ok _ (Delivery.run_atomic
    (run_takeSnapshot stored unsettled loaded))]
  simp only
  rw [Prog.run_bind_ok _ performed]
  simp only
  rw [Prog.run_bind_ok _ (Delivery.run_atomic recorded)]
  rfl

/-- A delivery that nothing overtakes saves its own result. -/
theorem deliverOutboxRow_saves {row : ActionOutbox} {rule : Option ActionRule} {success : Bool}
    {found : AttemptMeta} {correlation : Correlation} (stored : world.db.row row.id = some row)
    (unsettled : row.status.isFinal = false)
    (loaded : loadRuleForDelivery row (world.db.ruleOf row) = .ok (rule, none))
    (performed : (performDelivery settings library row rule).run DeliveryCall.handle world =
      (.ok (success, found), world)) :
    ((deliverOutboxRow settings library row.id correlation).run DeliveryCall.handle world).2.db.row
        row.id = some (row.assign ((outcomeOf settings none success found).columns settings row
          found.retryAfterSeconds world.clock)) := by
  rw [deliverOutboxRow_records stored unsettled loaded performed, ActionsDb.row_record, stored]
  simp [Outcome.attempt]

/-! ### The decision about the row -/

/-- What an attempt decides for its row. -/
structure Decision where
  status : OutboxStatus
  attemptCount : Nat
  nextAttemptAt : Option Time
  deriving DecidableEq

def ActionOutbox.decision (row : ActionOutbox) : Decision :=
  ⟨row.status, row.attemptCount, row.nextAttemptAt⟩

/-- The decision that a verdict leads to. -/
def Verdict.decision (settings : ActionsSettings) (attempt : Nat) (clock : Time)
    (verdict : Verdict) : Decision :=
  if verdict.success then ⟨.delivered, attempt, none⟩
  else if verdict.permanent || (attempt : Int) ≥ settings.outboxMaxAttempts then ⟨.dead, attempt, none⟩
  else ⟨.failed, attempt, some (clock + computeRetryDelaySeconds verdict.httpStatus
    verdict.retryAfterSeconds (backoffSeconds attempt) * microsecondsPerSecond)⟩

theorem columns_decision (row : ActionOutbox) (success : Bool) (found : AttemptMeta) (clock : Time) :
    (row.assign ((outcomeOf settings none success found).columns settings row
        found.retryAfterSeconds clock)).decision =
      (found.verdict success).decision settings (row.attemptCount + 1) clock := by
  simp only [Outcome.columns, outcomeOf, Verdict.decision, AttemptMeta.verdict]
  by_cases accepted : success = true
  · simp only [accepted, if_true]
    rfl
  · by_cases last : (found.permanent ||
        decide (((row.attemptCount + 1 : Nat) : Int) ≥ settings.outboxMaxAttempts)) = true
    · simp only [accepted, last, if_true, Bool.false_eq_true, if_false]
      rfl
    · simp only [accepted, last, Bool.false_eq_true, if_false]
      rfl

/-- The retries table: a row is delivered on 2xx, dead on the listed statuses, and
otherwise retried until the last attempt. -/
def documentedStatus (settings : ActionsSettings) (status attempt : Nat) : OutboxStatus :=
  if 200 ≤ status ∧ status < 300 then .delivered
  else if status ∈ [400, 401, 403, 405, 410, 413, 422] then .dead
  else if (attempt : Int) ≥ settings.outboxMaxAttempts then .dead
  else .failed

theorem isPermanentHttpStatus_iff (status : Nat) :
    isPermanentHttpStatus (some status) = true ↔ status ∈ permanentHttpStatuses := by
  simp only [isPermanentHttpStatus]
  split
  · simp [*]
  · split
    · simp [*]
    · simp [*]

/-- When the retries table holds for the answer to an attempt. -/
def HttpResponse.Tabled (settings : ActionsSettings) (attempt : Nat) (response : HttpResponse) :
    Prop :=
  if response.legible then (200 ≤ response.status ∧ response.status < 300) ∨ 400 ≤ response.status
  else ¬ (200 ≤ response.status ∧ response.status < 300) ∧
    (response.status ∈ permanentHttpStatuses → settings.outboxMaxAttempts ≤ attempt)

/-- Without an answer the row is retried until the last attempt. -/
theorem unanswered_status (attempt : Nat) (clock : Time) :
    (Verdict.unanswered.decision settings attempt clock).status =
      if (attempt : Int) ≥ settings.outboxMaxAttempts then .dead else .failed := by
  by_cases last : (attempt : Int) ≥ settings.outboxMaxAttempts
  · simp [Verdict.decision, Verdict.unanswered, last]
  · simp [Verdict.decision, Verdict.unanswered, last]

theorem unanswered_documented_iff (attempt : Nat) (clock : Time) (status : Nat) :
    (Verdict.unanswered.decision settings attempt clock).status =
        documentedStatus settings status attempt ↔
      ¬ (200 ≤ status ∧ status < 300) ∧
        (status ∈ permanentHttpStatuses → settings.outboxMaxAttempts ≤ attempt) := by
  rw [unanswered_status, documentedStatus]
  by_cases accepted : 200 ≤ status ∧ status < 300
  · simp only [accepted, and_self, if_true, not_true, false_and, iff_false]
    split <;> simp
  · by_cases permanent : status ∈ permanentHttpStatuses
    · have listed : status ∈ [400, 401, 403, 405, 410, 413, 422] := permanent
      simp only [accepted, permanent, listed, if_true, if_false]
      simp
    · have unlisted : status ∉ [400, 401, 403, 405, 410, 413, 422] := permanent
      simp only [accepted, permanent, unlisted, if_false]
      simp

theorem permanent_refused {status : Nat} (permanent : status ∈ permanentHttpStatuses) :
    400 ≤ status := by
  simp only [permanentHttpStatuses, List.mem_cons, List.not_mem_nil, or_false] at permanent
  omega

theorem answered_status {result : WebhookPostResult} (attempt : Nat) (clock : Time)
    (refused : 400 ≤ result.status) :
    ((webhookVerdict (.ok result)).decision settings attempt clock).status =
      documentedStatus settings result.status attempt := by
  have failed : ¬ (200 ≤ result.status ∧ result.status < 300) := by omega
  have flag := isPermanentHttpStatus_iff result.status
  simp only [webhookVerdict, refused, if_true, documentedStatus, failed, if_false, Verdict.decision,
    AttemptMeta.verdict, AttemptMeta.ofFailure, webhookStatusFailure, Bool.false_eq_true]
  by_cases permanent : result.status ∈ permanentHttpStatuses
  · have listed : result.status ∈ [400, 401, 403, 405, 410, 413, 422] := permanent
    simp [flag.mpr permanent, listed]
  · have unlisted : result.status ∉ [400, 401, 403, 405, 410, 413, 422] := permanent
    have unflagged : isPermanentHttpStatus (some result.status) = false :=
      Bool.eq_false_iff.mpr fun found => permanent (flag.mp found)
    simp only [unflagged, unlisted, Bool.false_or, if_false]
    split <;> simp_all

theorem webhookVerdict_documented_iff (clock : Time) (attempt : Nat) :
    ((webhookVerdict (readAnswer library clock response)).decision settings attempt clock).status =
        documentedStatus settings response.status attempt ↔
      response.Tabled settings attempt := by
  have legible := readAnswer_isOk library clock response
  rcases read : readAnswer library clock response with error | result
  · rw [read] at legible
    rw [HttpResponse.Tabled, ← legible]
    exact unanswered_documented_iff attempt clock response.status
  · rw [read] at legible
    rw [HttpResponse.Tabled, ← legible, ← readAnswer_status read]
    show _ ↔ (200 ≤ result.status ∧ result.status < 300) ∨ 400 ≤ result.status
    by_cases refused : 400 ≤ result.status
    · exact ⟨fun _ => .inr refused, fun _ => answered_status attempt clock refused⟩
    · have delivered : ((webhookVerdict (.ok result)).decision settings attempt clock).status =
          .delivered := by
        simp [webhookVerdict, refused, Verdict.decision, AttemptMeta.verdict]
      rw [delivered, documentedStatus]
      by_cases accepted : 200 ≤ result.status ∧ result.status < 300
      · simp [accepted]
      · simp only [accepted, refused, if_false, or_self, iff_false]
        split
        · simp
        · split <;> simp

/-- `Retry-After` counts for two statuses only. -/
theorem computeRetryDelaySeconds_unasked {status : Nat} (asked : ¬ (status = 429 ∨ status = 503))
    (seconds : Option Int) (base : Int) :
    computeRetryDelaySeconds (some status) seconds base =
      computeRetryDelaySeconds (some status) none base := by
  have other : ¬ (some status = some 429 ∨ some status = some 503) := by simpa using asked
  cases seconds with
  | none => rfl
  | some seconds => simp only [computeRetryDelaySeconds, other, if_false]

theorem email_decides_alike (clock : Time) (attempt : Nat)
    (tabled : response.Tabled settings attempt) :
    (emailVerdict settings (readAnswer library clock response)).decision settings attempt clock =
      (webhookVerdict (readAnswer library clock response)).decision settings attempt clock := by
  have legible := readAnswer_isOk library clock response
  rcases read : readAnswer library clock response with error | result
  · rfl
  · rw [read] at legible
    rw [HttpResponse.Tabled, ← legible, ← readAnswer_status read] at tabled
    rcases show (200 ≤ result.status ∧ result.status < 300) ∨ 400 ≤ result.status from tabled
      with accepted | refused
    · have below : ¬ 400 ≤ result.status := by omega
      simp [emailVerdict, webhookVerdict, accepted, below, Verdict.decision, AttemptMeta.verdict]
    · have failed : ¬ (200 ≤ result.status ∧ result.status < 300) := by omega
      simp only [emailVerdict, webhookVerdict, failed, refused, if_true, if_false, Verdict.decision,
        AttemptMeta.verdict, AttemptMeta.ofFailure, emailStatusFailure, webhookStatusFailure,
        emailStatusIsPermanent]
      by_cases asked : result.status = 429 ∨ result.status = 503
      · simp only [asked, if_true]
      · rw [computeRetryDelaySeconds_unasked asked result.retryAfterSeconds]
        simp only [asked, if_false]

/-- The endpoint answers the next attempt for a webhook row. -/
structure WebhookAnswered (settings : ActionsSettings) (library : ActionsLibrary)
    (world : OutboxWorld) (row : ActionOutbox) (response : HttpResponse) : Prop where
  stored : world.db.row row.id = some row
  kind : row.deliveryKind = .webhook
  unsettled : row.status.isFinal = false
  answered : ∃ rule key, world.db.ruleOf row = some rule ∧ rule.enabled = true ∧
    rule.actionKind = .webhook ∧ WebhookReady library rule.config row.envelope key ∧
    world.network (webhookPost settings rule.config row.envelope (row.attemptCount + 1) key) =
      .answered response

/-- The email service answers the next attempt for an email row. -/
structure EmailAnswered (settings : ActionsSettings) (world : OutboxWorld) (row : ActionOutbox)
    (response : HttpResponse) : Prop where
  stored : world.db.row row.id = some row
  kind : row.deliveryKind = .email
  unsettled : row.status.isFinal = false
  ready : EmailReady settings
  answered : world.network (emailPost settings row.envelope) = .answered response

/-- The decision that one delivery of a row leaves in the table. -/
def decisionAfter (settings : ActionsSettings) (library : ActionsLibrary) (world : OutboxWorld)
    (correlation : Correlation) (id : Uuid) : Option Decision :=
  (((deliverOutboxRow settings library id correlation).run DeliveryCall.handle world).2.db.row id).map
    (·.decision)

theorem webhook_decides {row : ActionOutbox} (sent : WebhookAnswered settings library world row response)
    (correlation : Correlation) :
    decisionAfter settings library world correlation row.id =
      some ((webhookVerdict (readAnswer library world.clock response)).decision settings
        (row.attemptCount + 1) world.clock) := by
  obtain ⟨rule, key, found, enabled, kind, ready, answered⟩ := sent.answered
  obtain ⟨success, outcome, performed, verdict⟩ := performHttpDelivery_verdict ready answered
  have loaded : loadRuleForDelivery row (world.db.ruleOf row) = .ok (some rule, none) := by
    simp [loadRuleForDelivery, sent.kind, found, enabled, kind]
  have channel : performDelivery settings library row (some rule) =
      performHttpDelivery settings library rule row.envelope (row.attemptCount + 1) := by
    simp [performDelivery, sent.kind]
  rw [← channel] at performed
  rw [decisionAfter, deliverOutboxRow_saves sent.stored sent.unsettled loaded performed,
    Option.map_some, columns_decision, verdict]

theorem email_decides {row : ActionOutbox} (mailed : EmailAnswered settings world row response)
    (correlation : Correlation) :
    decisionAfter settings library world correlation row.id =
      some ((emailVerdict settings (readAnswer library world.clock response)).decision settings
        (row.attemptCount + 1) world.clock) := by
  obtain ⟨success, outcome, performed, verdict⟩ :=
    performEmailDelivery_verdict mailed.ready mailed.answered
  have loaded : loadRuleForDelivery row (world.db.ruleOf row) = .ok (none, none) := by
    simp [loadRuleForDelivery, mailed.kind]
  have channel : performDelivery settings library row none =
      performEmailDelivery settings library row.envelope := by
    simp [performDelivery, mailed.kind]
  rw [← channel] at performed
  rw [decisionAfter, deliverOutboxRow_saves mailed.stored mailed.unsettled loaded performed,
    Option.map_some, columns_decision, verdict]

/-- Both channels follow the retries table, and alike, exactly on the answers that are tabled. -/
theorem response_classified_iff {webhook email : ActionOutbox}
    (sent : WebhookAnswered settings library world webhook response)
    (mailed : EmailAnswered settings world email response)
    (same : email.attemptCount = webhook.attemptCount) (correlation : Correlation) :
    ((decisionAfter settings library world correlation webhook.id).map (·.status) =
        some (documentedStatus settings response.status (webhook.attemptCount + 1)) ∧
      decisionAfter settings library world correlation email.id =
        decisionAfter settings library world correlation webhook.id) ↔
      response.Tabled settings (webhook.attemptCount + 1) := by
  rw [webhook_decides sent, email_decides mailed, same, Option.map_some, Option.some_inj,
    Option.some_inj, webhookVerdict_documented_iff]
  exact ⟨And.left, fun tabled => ⟨tabled, email_decides_alike world.clock _ tabled⟩⟩

end

/-! Two rows of one event, and an endpoint that gives one answer to both. -/

def mailSettings : ActionsSettings := { defaultActionsSettings with emailServiceApiKey := lit "key" }

def plainLibrary : ActionsLibrary := ⟨fun _ => none, fun _ => none⟩

def hookRule : ActionRule where
  id := 1
  companyId := 3
  name := lit "hook"
  description := []
  eventType := .appDeleted
  enabled := true
  actionKind := .webhook
  config := ⟨lit "https://hooks.example/", lit "secret", [], false⟩

def deletedEvent : Event :=
  ⟨.appDeleted, 3, .app ⟨⟨1⟩, lit "demo", lit "demo", lit "demo", 3⟩, none⟩

def hookRow : ActionOutbox where
  id := ⟨10⟩
  companyId := 3
  actionRule := some 1
  deliveryKind := .webhook
  eventType := .appDeleted
  envelope := ⟨some (Uuid.text ⟨9⟩), deletedEvent⟩
  status := .pending
  attemptCount := 0
  nextAttemptAt := none
  lockedUntil := none
  lastError := []
  createdAt := 0
  deliveredAt := none

def mailRow : ActionOutbox :=
  { hookRow with
    id := ⟨11⟩, actionRule := none, deliveryKind := .email, envelope := ⟨none, deletedEvent⟩ }

def answeringWorld (response : HttpResponse) : OutboxWorld where
  db := ⟨[hookRule], [hookRow, mailRow], []⟩
  clock := 0
  monotonic := 0
  network := fun _ => .answered response

/-- An answer with this status, an empty body and no `Retry-After`. -/
def plainAnswer (status : Nat) : HttpResponse := ⟨status, .ok [], none⟩

theorem hookRow_answered (response : HttpResponse) :
    WebhookAnswered mailSettings plainLibrary (answeringWorld response) hookRow response where
  stored := rfl
  kind := rfl
  unsettled := rfl
  answered := ⟨hookRule, (strip (lit "secret")).flatMap encodeChar, rfl, rfl, rfl,
    ⟨by decide, by decide, by decide, rfl⟩, rfl⟩

theorem mailRow_answered (response : HttpResponse) :
    EmailAnswered mailSettings (answeringWorld response) mailRow response where
  stored := rfl
  kind := rfl
  unsettled := rfl
  ready := ⟨rfl, rfl⟩
  answered := rfl

theorem response_classified_unavailable :
    ((decisionAfter mailSettings plainLibrary (answeringWorld (plainAnswer 503)) ⟨.dispatch, none⟩
        hookRow.id).map (·.status) = some (documentedStatus mailSettings 503 1) ∧
      decisionAfter mailSettings plainLibrary (answeringWorld (plainAnswer 503)) ⟨.dispatch, none⟩
        mailRow.id =
        decisionAfter mailSettings plainLibrary (answeringWorld (plainAnswer 503)) ⟨.dispatch, none⟩
          hookRow.id) ↔
      (plainAnswer 503).Tabled mailSettings 1 :=
  response_classified_iff (hookRow_answered _) (mailRow_answered _) rfl _

/-- A redirect delivers the webhook and fails the mail. -/
theorem redirect_delivered :
    (decisionAfter mailSettings plainLibrary (answeringWorld (plainAnswer 302)) ⟨.dispatch, none⟩
        hookRow.id).map (·.status) = some .delivered ∧
      documentedStatus mailSettings 302 1 = .failed ∧
      (decisionAfter mailSettings plainLibrary (answeringWorld (plainAnswer 302)) ⟨.dispatch, none⟩
        mailRow.id).map (·.status) = some .failed := by
  decide +kernel

end HostingService
