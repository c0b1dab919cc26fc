import HostingService.Actions.Models
import HostingService.Text.Unquote
import HostingService.Hosting.Statements

/-! One POST of a delivery: the endpoint and its answer, the classification of HTTP
statuses, the webhook handler and the client of the email service. -/

namespace HostingService

open Program Text Storage

structure ActionsSettings where
  outboxMaxAttempts : Int
  webhookRetryLeaseSeconds : Int
  webhookAllowPrivate : Bool
  emailServiceUrl : PyStr
  emailServiceApiKey : PyStr
  emailServiceAllowPrivate : Bool

/-- The settings without any environment variable. -/
def defaultActionsSettings : ActionsSettings where
  outboxMaxAttempts := 8
  webhookRetryLeaseSeconds := 120
  webhookAllowPrivate := false
  emailServiceUrl := []
  emailServiceApiKey := []
  emailServiceAllowPrivate := false

/-- Library code outside the repository: `base64.b64decode(validate=True)`, where `none` is
its error, and `email.utils.parsedate_to_datetime` in UTC. -/
structure ActionsLibrary where
  b64decode : PyStr → Option Bytes
  parseDate : PyStr → Option Time

/-! ### The network -/

/-- What leaves the process; the headers that nothing reads back are left out. -/
inductive Post where
  | webhook (url : PyStr) (key : Bytes) (webhookId event : PyStr) (attempt : Nat)
      (authorization : PyStr) (envelope : Envelope) (allowPrivate : Bool)
  | email (url key : PyStr) (envelope : Envelope) (allowPrivate : Bool)
  deriving DecidableEq

/-- Why `response.read` failed: an `OSError`, or an exception of the HTTP client. -/
inductive ReadError where
  | osError
  | exception (message : PyStr)

structure HttpResponse where
  status : Nat
  /-- `response.read(513)` -/
  body : Except ReadError Bytes
  /-- `response.getheader('Retry-After')`, of Latin-1 characters. -/
  retryAfter : Option PyStr

inductive Exchange where
  /-- `resolve_webhook_endpoint` refuses the address. -/
  | blocked (message : PyStr)
  | osError (message : PyStr)
  | exception (message : PyStr)
  | answered (response : HttpResponse)

structure OutboxWorld where
  db : ActionsDb
  clock : Time
  monotonic : Time
  network : Post → Exchange

inductive OutboxStatement : Type → Type 1 where
  | select {α : Type} (query : ActionsDb → α) : OutboxStatement α
  | execute (change : ActionsChange) : OutboxStatement Unit
  | now : OutboxStatement Time

/-- One statement, a transaction, an exchange with an endpoint, or a look at a clock. -/
inductive DeliveryCall : Type → Type 1 where
  | autocommit {α : Type} (statement : OutboxStatement α) : DeliveryCall α
  | atomic {α : Type} (body : Prog OutboxStatement ActionsError α) : DeliveryCall α
  | post (request : Post) : DeliveryCall Exchange
  | monotonic : DeliveryCall Time

abbrev OutboxTransaction := Prog OutboxStatement ActionsError

abbrev Delivery := Prog DeliveryCall ActionsError

def OutboxStatement.handle : Handler OutboxStatement ActionsError OutboxWorld
  | _, .select query, world => (.ok (query world.db), world)
  | _, .execute change, world =>
    match change.apply world.db with
    | .ok db => (.ok (), { world with db })
    | .error error => (.error error, world)
  | _, .now, world => (.ok world.clock, world)

def DeliveryCall.handle : Handler DeliveryCall ActionsError OutboxWorld
  | _, .autocommit statement, world => statement.handle _ world
  | _, .atomic body, world =>
    match body.run OutboxStatement.handle world with
    | (.ok value, after) => (.ok value, after)
    | (.error error, after) => (.error error, { after with db := world.db })
  | _, .post request, world => (.ok (world.network request), world)
  | _, .monotonic, world => (.ok world.monotonic, world)

/-- A transaction answers what its body ends in. -/
theorem DeliveryCall.handle_atomic {α : Type} (body : OutboxTransaction α) (world : OutboxWorld) :
    (DeliveryCall.handle α (.atomic body) world).1 = (body.run OutboxStatement.handle world).1 := by
  rw [DeliveryCall.handle]
  rcases body.run OutboxStatement.handle world with ⟨error | value, after⟩ <;> rfl

/-- Calls take no time. -/
theorem DeliveryCall.handle_times {β : Type} (call : DeliveryCall β) (world : OutboxWorld) :
    (DeliveryCall.handle β call world).2.clock = world.clock ∧
      (DeliveryCall.handle β call world).2.monotonic = world.monotonic := by
  have statement (γ : Type) (statement : OutboxStatement γ) (state : OutboxWorld) :
      (OutboxStatement.handle γ statement state).2.clock = state.clock ∧
        (OutboxStatement.handle γ statement state).2.monotonic = state.monotonic := by
    cases statement with
    | execute change =>
      rw [OutboxStatement.handle]
      cases change.apply state.db <;> exact ⟨rfl, rfl⟩
    | _ => exact ⟨rfl, rfl⟩
  cases call with
  | autocommit body => exact statement _ body world
  | atomic body =>
    have ran : (body.run OutboxStatement.handle world).2.clock = world.clock ∧
        (body.run OutboxStatement.handle world).2.monotonic = world.monotonic := by
      refine Prog.All.run_related (fun before after => after.clock = before.clock ∧
        after.monotonic = before.monotonic) (fun _ => ⟨rfl, rfl⟩) ?_
          (fun γ op _ state => statement γ op state) (Prog.all_true body) world
      rintro _ _ _ ⟨clock, monotonic⟩ ⟨laterClock, laterMonotonic⟩
      exact ⟨laterClock.trans clock, laterMonotonic.trans monotonic⟩
    rw [DeliveryCall.handle]
    generalize body.run OutboxStatement.handle world = ended at ran
    rcases ended with ⟨error | value, after⟩
    · exact ran
    · exact ran
  | _ => exact ⟨rfl, rfl⟩

theorem DeliveryCall.handle_clock {β : Type} (call : DeliveryCall β) (world : OutboxWorld) :
    (DeliveryCall.handle β call world).2.clock = world.clock := (handle_times call world).1

namespace OutboxTransaction

def select {α : Type} (query : ActionsDb → α) : OutboxTransaction α := .perform (.select query)

def execute (change : ActionsChange) : OutboxTransaction Unit := .perform (.execute change)

def now : OutboxTransaction Time := .perform .now

theorem run_select {α : Type} (query : ActionsDb → α) (world : OutboxWorld) :
    (select query).run OutboxStatement.handle world = (.ok (query world.db), world) :=
  Prog.run_perform ..

theorem run_execute {change : ActionsChange} {world : OutboxWorld} {db : ActionsDb}
    (applied : change.apply world.db = .ok db) :
    (execute change).run OutboxStatement.handle world = (.ok (), { world with db }) := by
  rw [execute, Prog.run_perform, OutboxStatement.handle, applied]

theorem run_now (world : OutboxWorld) :
    now.run OutboxStatement.handle world = (.ok world.clock, world) := Prog.run_perform ..

end OutboxTransaction

namespace Delivery

def autocommit {α : Type} (statement : OutboxStatement α) : Delivery α :=
  .perform (.autocommit statement)

def atomic {α : Type} (body : OutboxTransaction α) : Delivery α := .perform (.atomic body)

def monotonic : Delivery Time := .perform .monotonic

theorem run_atomic {α : Type} {body : OutboxTransaction α} {world after : OutboxWorld} {value : α}
    (ran : body.run OutboxStatement.handle world = (.ok value, after)) :
    (atomic body).run DeliveryCall.handle world = (.ok value, after) := by
  rw [atomic, Prog.run_perform, DeliveryCall.handle, ran]

theorem run_monotonic (world : OutboxWorld) :
    monotonic.run DeliveryCall.handle world = (.ok world.monotonic, world) := Prog.run_perform ..

end Delivery

/-! ### Retry classification -/

/-- Permanent failures: do not retry (dead on first failure). -/
def permanentHttpStatuses : List Nat := [400, 401, 403, 405, 410, 413, 422]

/-- Explicitly retryable 4xx. -/
def retryableHttpStatuses : List Nat := [404, 408, 409, 425, 429]

def isPermanentHttpStatus : Option Nat → Bool
  | none => false
  | some status =>
    if status ∈ permanentHttpStatuses then true
    else if status ∈ retryableHttpStatuses then false
    else if 500 ≤ status ∧ status < 600 then false
    else if 400 ≤ status ∧ status < 500 then false
    else false

def maxBackoffSeconds : Int := 3600

/-- `str.isdigit` on one Latin-1 character: the superscripts are digits too. -/
def isLatinDigit (c : Nat) : Bool :=
  (0x30 ≤ c && c ≤ 0x39) || c == 0xB2 || c == 0xB3 || c == 0xB9

def isDecimal (c : Nat) : Bool := 0x30 ≤ c && c ≤ 0x39

/-- `int(raw)` on digits: superscripts are no decimals, and 4300 digits are the limit. -/
def intOfDigits (raw : PyStr) : Except ActionsError Int :=
  if raw.all isDecimal then
    if raw.length ≤ 4300 then .ok (raw.foldl (fun value c => value * 10 + (c - 0x30)) 0 : Nat)
    else .error (.exception (lit ("Exceeds the limit (4300 digits) for integer string " ++
      "conversion: value has ") ++ digits raw.length ++
      lit " digits; use sys.set_int_max_str_digits() to increase the limit"))
  else .error (.exception (lit "invalid literal for int() with base 10: '" ++ raw ++ lit "'"))

section
variable (settings : ActionsSettings) (library : ActionsLibrary)

/-- Parse `Retry-After` (delay seconds or HTTP date). -/
def parseRetryAfterHeader (value : Option PyStr) : Delivery (Option Int) :=
  let raw := strip (value.getD [])
  if raw = [] then .ret none
  else if raw.all isLatinDigit then do
    let seconds ← .ofExcept (intOfDigits raw)
    return if seconds ≥ 0 then some (max 0 seconds) else none
  else
    match library.parseDate raw with
    | none => .ret none
    | some target => do
      let now ← Delivery.autocommit .now
      return some (max 0 ((target - now).tdiv 1000000))

/-- Honor Retry-After on 429/503, else exponential backoff, within one hour. -/
def computeRetryDelaySeconds (httpStatus : Option Nat) (retryAfterSeconds : Option Int)
    (baseBackoffSeconds : Int) : Int :=
  let delay :=
    match retryAfterSeconds with
    | some seconds =>
      if httpStatus = some 429 ∨ httpStatus = some 503 then max baseBackoffSeconds seconds
      else baseBackoffSeconds
    | none => baseBackoffSeconds
  min maxBackoffSeconds (max 1 delay)

/-! ### The transport -/

structure WebhookPostResult where
  status : Nat
  excerpt : PyStr
  retryAfterSeconds : Option Int

def responseExcerptMax : Nat := 512

def readResponseExcerpt (response : HttpResponse) : Except ActionsError PyStr :=
  match response.body with
  | .error .osError => .ok []
  | .error (.exception message) => .error (.exception message)
  | .ok raw =>
    if raw = [] then .ok []
    else
      let text := decodeUtf8 ((raw.take responseExcerptMax).map UInt8.toNat)
      .ok (strip (if raw.length > responseExcerptMax then text ++ [0x2026] else text))

/-- How `post_webhook_url` ends: `WebhookHTTPError` is raised for a refused address alone. -/
inductive PostEnd where
  | result (result : WebhookPostResult)
  | webhookHttpError (failure : DeliveryFailure)
  | osError (message : PyStr)

def postWebhookUrl (request : Post) : Delivery PostEnd := do
  match ← .perform (.post request) with
  | .blocked message =>
    return .webhookHttpError
      { message, httpStatus := none, responseExcerpt := [], permanent := true,
        retryAfterSeconds := none }
  | .osError message => return .osError message
  | .exception message => throw (.exception message)
  | .answered response =>
    let excerpt ← .ofExcept (readResponseExcerpt response)
    let retryAfter ← parseRetryAfterHeader library response.retryAfter
    return .result ⟨response.status, excerpt, retryAfter⟩

/-! ### Webhooks -/

def whsecPrefix : PyStr := lit "whsec_"

/-- The UTF-8 bytes of one character; stored text has no lone surrogates. -/
def encodeChar (c : Nat) : Bytes :=
  if c < 0x80 then [.ofNat c]
  else if c < 0x800 then [.ofNat (0xC0 + c / 0x40), .ofNat (0x80 + c % 0x40)]
  else if c < 0x10000 then
    [.ofNat (0xE0 + c / 0x1000), .ofNat (0x80 + c / 0x40 % 0x40), .ofNat (0x80 + c % 0x40)]
  else
    [.ofNat (0xF0 + c / 0x40000), .ofNat (0x80 + c / 0x1000 % 0x40),
      .ofNat (0x80 + c / 0x40 % 0x40), .ofNat (0x80 + c % 0x40)]

/-- HMAC key bytes for signing. -/
def normalizeWebhookSigningSecret (secret : PyStr) : Except ActionsError Bytes :=
  let secret := strip secret
  if whsecPrefix.isPrefixOf secret then
    let payload := strip (secret.drop whsecPrefix.length)
    if payload = [] then
      .error (.exception (lit "Webhook signing secret is empty after whsec_ prefix."))
    else
      match library.b64decode payload with
      | none => .error (.exception (lit "Webhook whsec_ secret is not valid base64."))
      | some [] => .error (.exception (lit "Webhook whsec_ secret decoded to empty key."))
      | some key => .ok key
  else .ok (secret.flatMap encodeChar)

/-- The request of a webhook, signed with the key. -/
def webhookPost (config : WebhookConfig) (envelope : Envelope) (attemptNumber : Nat) (key : Bytes) :
    Post :=
  .webhook (strip config.url) key (envelope.id.getD []) envelope.event.eventType.text
    (max 1 attemptNumber) (strip config.authorizationHeader) envelope
    (settings.webhookAllowPrivate || config.allowPrivateUrls)

/-- `Webhook returned HTTP ...` -/
def webhookStatusFailure (result : WebhookPostResult) : DeliveryFailure where
  message := lit "Webhook returned HTTP " ++ digits result.status
  httpStatus := some result.status
  responseExcerpt := result.excerpt
  permanent := isPermanentHttpStatus (some result.status)
  retryAfterSeconds := result.retryAfterSeconds

def deliverWebhookAction (config : WebhookConfig) (envelope : Envelope) (attemptNumber : Nat) :
    Delivery Unit := do
  .when (strip config.url = [])
    (throw (.webhookDelivery (.permanently "Webhook URL is not configured.")))
  .when (strip config.secret = [])
    (throw (.webhookDelivery (.permanently "Webhook signing secret is not configured.")))
  .when (envelope.id.getD [] = []) (throw (.webhookDelivery
    (.permanently "Envelope id is required for webhook delivery.")))
  let key ← .ofExcept (normalizeWebhookSigningSecret library (strip config.secret))
  let ended ← postWebhookUrl library (webhookPost settings config envelope attemptNumber key)
  match ended with
  | .webhookHttpError failure =>
    throw (.webhookDelivery { failure with
      permanent := failure.permanent || isPermanentHttpStatus failure.httpStatus })
  | .osError message =>
    throw (.webhookDelivery
      { message, httpStatus := none, responseExcerpt := [], permanent := false,
        retryAfterSeconds := none })
  | .result result =>
    .when (result.status ≥ 400) (throw (.webhookDelivery (webhookStatusFailure result)))

/-! ### The email service -/

def emailServiceApiKey : PyStr := strip settings.emailServiceApiKey

def emailServiceConfigured : Bool := emailServiceApiKey settings ≠ []

def eventsPath : PyStr := lit "/api/v1/events"

def emailServiceEventsUrl : PyStr :=
  let base := rstripSlash (strip settings.emailServiceUrl)
  (if base = [] then lit "https://email.shellui.com" else base) ++ eventsPath

/-- `text.replace(old, new)`, leftmost occurrences first; `skip` characters are replaced. -/
def replaceSubstr (old new : PyStr) (text : PyStr) : PyStr := go text 0
where
  go : PyStr → Nat → PyStr
    | [], _ => []
    | _ :: rest, skip + 1 => go rest skip
    | c :: rest, 0 =>
      if old.isPrefixOf (c :: rest) then new ++ go rest (old.length - 1) else c :: go rest 0

/-- Remove the service key from text that might be logged or stored. -/
def redactApiKey (text : PyStr) : PyStr :=
  let key := emailServiceApiKey settings
  if key = [] then text else replaceSubstr key (lit "[redacted]") text

/-- Same HTTP classes as webhook delivery. -/
def emailStatusIsPermanent (status : Option Nat) : Bool := isPermanentHttpStatus status

/-- `Webhook URL ...` of the transport, worded for the email service. -/
def emailServiceMessage (message : PyStr) : PyStr :=
  let webhookUrl := lit "Webhook URL"
  if webhookUrl.isPrefixOf message then
    lit "Email service URL" ++ message.drop webhookUrl.length
  else message

/-- `url.startswith(('https://', 'http://'))` -/
def isHttpUrl (url : PyStr) : Bool :=
  (lit "https://").isPrefixOf url || (lit "http://").isPrefixOf url

def emailPost (body : Envelope) : Post :=
  .email (emailServiceEventsUrl settings) (emailServiceApiKey settings) body
    settings.emailServiceAllowPrivate

/-- `Email service returned HTTP ...` -/
def emailStatusFailure (result : WebhookPostResult) : DeliveryFailure where
  message := lit "Email service returned HTTP " ++ digits result.status
  httpStatus := some result.status
  responseExcerpt := redactApiKey settings (result.excerpt.take 512)
  permanent := emailStatusIsPermanent (some result.status)
  retryAfterSeconds :=
    if result.status = 429 ∨ result.status = 503 then result.retryAfterSeconds else none

/-- The HTTP status of an accepted event. -/
def postEmailEvent (body : Envelope) : Delivery Nat := do
  .when (!emailServiceConfigured settings)
    (throw (.emailDelivery (.permanently "Email service is not configured.")))
  .when (!isHttpUrl (emailServiceEventsUrl settings))
    (throw (.emailDelivery (.permanently "Email service URL is not http(s).")))
  let ended ← postWebhookUrl library (emailPost settings body)
  match ended with
  | .webhookHttpError failure =>
    throw (.emailDelivery { failure with
      message := emailServiceMessage (redactApiKey settings failure.message)
      responseExcerpt := redactApiKey settings failure.responseExcerpt
      permanent := failure.permanent || emailStatusIsPermanent failure.httpStatus })
  | .osError _ =>
    throw (.emailDelivery
      { message := lit "Email service request failed.", httpStatus := none,
        responseExcerpt := [], permanent := false, retryAfterSeconds := none })
  | .result result =>
    if 200 ≤ result.status ∧ result.status < 300 then return result.status
    else throw (.emailDelivery (emailStatusFailure settings result))

end

end HostingService
