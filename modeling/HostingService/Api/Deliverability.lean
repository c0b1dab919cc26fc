import HostingService.Actions.Pinning
import HostingService.Api.RulePolicy

/-! Whether a rule that the API accepts can be delivered: its attempts are signed, and the
request that they make can be written. -/

namespace HostingService

open Program Text Storage

/-! ### The rules that the API accepts -/

section
variable (acceptsUrl : PyStr → Bool)

/-- What the `URLField` of the serializers makes of the fields; a blank URL is let through. -/
def RuleFields.accepted (fields : RuleFields) : Bool :=
  fields.url.all fun url => url = [] || acceptsUrl url

/-- The configurations that accepted requests lead to. -/
inductive AcceptedConfig : WebhookConfig → Prop where
  | create {fields : RuleFields} {isStaff : Bool} {raw : { raw : Bytes // raw.length = 32 }}
      {config : WebhookConfig} (accepted : fields.accepted acceptsUrl = true)
      (built : buildWebhookConfig emptyConfig fields isStaff false
        (generateWebhookSigningSecret raw) = .ok config) : AcceptedConfig config
  | patch {existing config : WebhookConfig} {fields : RuleFields} {isStaff : Bool}
      (before : AcceptedConfig existing) (accepted : fields.accepted acceptsUrl = true)
      (built : buildWebhookConfig existing fields isStaff true [] = .ok config) :
      AcceptedConfig config
  | rotate {existing : WebhookConfig} (raw : { raw : Bytes // raw.length = 32 })
      (before : AcceptedConfig existing) :
      AcceptedConfig { existing with secret := generateWebhookSigningSecret raw }

end

/-! ### The request of an attempt -/

/-- `json.dumps` of an envelope, and HMAC-SHA256 of a key and a text. -/
structure SigningLibrary where
  dumps : Envelope → PyStr
  hmac : Bytes → Bytes → Bytes

def isHeaderChar (c : Nat) : Bool := c < 0x100 && c ≠ 0x0D && c ≠ newline

/-- Latin-1 text in one line. -/
def LegalHeader (value : PyStr) : Prop := ∀ c ∈ value, isHeaderChar c = true

/-- What the HTTP client writes into a request line. -/
def LegalTarget (path : PyStr) : Prop := ∀ c ∈ path, 0x20 < c ∧ c < 0x7F

instance (value : PyStr) : Decidable (LegalHeader value) :=
  inferInstanceAs (Decidable (∀ c ∈ value, _))

instance (path : PyStr) : Decidable (LegalTarget path) :=
  inferInstanceAs (Decidable (∀ c ∈ path, _))

/-- `request_id_var`: an `X-Request-ID` header that arrived, or a text of this process. -/
abbrev RequestId := { text : PyStr // LegalHeader text }

section
variable (settings : ActionsSettings) (library : ActionsLibrary) (signing : SigningLibrary)
  (addresses : AddressLibrary)

def encodeWebhookEnvelope (envelope : Envelope) : Bytes :=
  (signing.dumps envelope).flatMap encodeChar

/-- `webhook-id`, `webhook-timestamp` and `webhook-signature`. -/
def signWebhookBody (secret : PyStr) (body : Bytes) (webhookId : PyStr) (seconds : Nat) :
    Except ActionsError (List (PyStr × PyStr)) := do
  let key ← normalizeWebhookSigningSecret library secret
  let timestamp := digits seconds
  let signedContent := (webhookId ++ fullStop :: timestamp ++ [fullStop]).flatMap encodeChar ++ body
  return [(lit "webhook-id", webhookId), (lit "webhook-timestamp", timestamp),
    (lit "webhook-signature", lit "v1," ++ b64encode (signing.hmac key signedContent))]

/-- The headers that `deliver_webhook_action` builds. -/
def webhookHeaders (config : WebhookConfig) (envelope : Envelope) (attemptNumber : Nat)
    (seconds : Nat) (requestId : RequestId) : Except ActionsError (List (PyStr × PyStr)) := do
  let signed ← signWebhookBody library signing (strip config.secret)
    (encodeWebhookEnvelope signing envelope) (envelope.id.getD []) seconds
  let authorization := strip config.authorizationHeader
  return [(lit "Content-Type", lit "application/json; charset=utf-8"),
      (lit "User-Agent", lit "shellui-hosting-actions/1.0"),
      (lit "X-Shellui-Event", envelope.event.eventType.text),
      (lit "X-Shellui-Delivery-Attempt", digits (max 1 attemptNumber : Nat))] ++ signed ++
    (if authorization = [] then [] else [(lit "Authorization", authorization)]) ++
    (if requestId.1 = [] ∨ requestId.1 = lit "-" then [] else [(lit "X-Request-ID", requestId.1)])

/-- The endpoint of the URL is a matter of the policy and of the resolver alone, and asks for
this host and this path. -/
def ReachesResolution (url host path : PyStr) : Prop :=
  ∃ hostname scheme port, ∀ resolver allowPrivate,
    resolveWebhookEndpoint addresses resolver url allowPrivate =
      (blockedHostname allowPrivate hostname >>= fun _ =>
        (connectTarget addresses resolver allowPrivate hostname port).map fun target =>
          ⟨strip url, scheme, target.1, target.2, host, path⟩)

/-- The attempt is signed, goes on to the resolution of the address, and what it sends there
can be written. -/
structure Deliverable (config : WebhookConfig) (envelope : Envelope) (attemptNumber seconds : Nat)
    (requestId : RequestId) : Prop where
  headers : ∃ headers,
    webhookHeaders library signing config envelope attemptNumber seconds requestId = .ok headers ∧
      ∀ header ∈ headers, LegalHeader header.2
  posts : ∃ key next, deliverWebhookAction settings library config envelope attemptNumber =
    .call (.post (webhookPost settings config envelope attemptNumber key)) next
  resolves : ∃ host path, ReachesResolution addresses (strip config.url) host path ∧
    LegalHeader host ∧ LegalTarget path

/-- A secret that is plain text, or the encoding of a key. -/
def UsableSecret (secret : PyStr) : Prop :=
  whsecPrefix.isPrefixOf secret = true → strip (secret.drop whsecPrefix.length) ≠ [] ∧
    ∃ key, library.b64decode (strip (secret.drop whsecPrefix.length)) = some key ∧ key ≠ []

/-- An HTTP or HTTPS URL with a host and a port, if any, up to 65535, and nothing in its host or
path that is not sent. The `URLField` takes FTP URLs and five digits for a port. -/
structure UsableUrl (url : PyStr) (parsed : ParseResult) : Prop where
  parses : urlparse addresses.tables (strip url) = .ok parsed
  http : parsed.scheme ∈ [lit "http", lit "https"]
  present : addresses.tables.lower (parsed.hostname addresses.tables) ≠ []
  numbered : ∃ port, parsed.port = .ok port
  host : LegalHeader (addresses.tables.lower (parsed.hostname addresses.tables))
  target : LegalTarget (endpointPath parsed)

structure UsableConfig (config : WebhookConfig) : Prop where
  secret : UsableSecret library (strip config.secret)
  authorization : LegalHeader (strip config.authorizationHeader)
  url : ∃ parsed, UsableUrl addresses config.url parsed

end

/-! ### What accepted requests store -/

section
variable {existing config : WebhookConfig} {fields : RuleFields} {isStaff isPatch : Bool}
  {generated : PyStr}

/-- The URL is the one that is given or the one that is kept, stripped. -/
theorem buildWebhookConfig_url
    (built : buildWebhookConfig existing fields isStaff isPatch generated = .ok config)
    (stripped : strip existing.url = existing.url) :
    config.url ≠ [] ∧ config.url = strip (fields.url.getD existing.url) := by
  simp only [buildWebhookConfig] at built
  generalize chosen : (if (fields.url.isSome || !isPatch) = true then
    strip (fields.url.getD existing.url) else existing.url) = url at built
  split at built
  · contradiction
  · rename_i present
    obtain rfl := Except.ok.inj built
    refine ⟨present, ?_⟩
    rw [← chosen]
    rcases fields.url with _ | given
    · cases isPatch with
      | true => exact stripped.symm
      | false => rfl
    · rfl

/-- A secret that strips to something stays one. -/
theorem buildWebhookConfig_signed
    (built : buildWebhookConfig existing fields isStaff isPatch generated = .ok config)
    (source : strip (if existing.secret = [] && !isPatch then generated else existing.secret) ≠ []) :
    strip config.secret ≠ [] := by
  simp only [buildWebhookConfig] at built
  generalize (if (fields.url.isSome || !isPatch) = true then strip (fields.url.getD existing.url)
    else existing.url) = url at built
  split at built
  · contradiction
  · obtain rfl := Except.ok.inj built
    dsimp only
    rcases fields.secret with _ | given
    · exact source
    · by_cases blank : strip given = []
      · simpa [blank] using source
      · simp [blank, strip_strip]

theorem strip_generated (raw : { raw : Bytes // raw.length = 32 }) :
    strip (generateWebhookSigningSecret raw) ≠ [] := by
  rw [generateWebhookSigningSecret, strip, stripBy]
  change rstripBy isSpace (lstripBy isSpace (0x77 :: (lit "hsec_" ++ b64encode raw))) ≠ []
  rw [lstripBy_cons isSpace (by decide), rstripBy_cons isSpace (by decide)]
  exact List.cons_ne_nil _ _

end

section
variable {acceptsUrl : PyStr → Bool} {config : WebhookConfig}

/-- What an accepted configuration has. -/
structure StoredConfig (config : WebhookConfig) : Prop where
  stripped : strip config.url = config.url
  present : config.url ≠ []
  signed : strip config.secret ≠ []

theorem AcceptedConfig.stored (accepted : AcceptedConfig acceptsUrl config) :
    StoredConfig config := by
  induction accepted with
  | create _ built =>
    obtain ⟨present, url⟩ := buildWebhookConfig_url built rfl
    exact ⟨by rw [url, strip_strip], present, buildWebhookConfig_signed built (strip_generated _)⟩
  | patch _ _ built ih =>
    obtain ⟨present, url⟩ := buildWebhookConfig_url built ih.stripped
    refine ⟨by rw [url, strip_strip], present, buildWebhookConfig_signed built ?_⟩
    simpa using ih.signed
  | rotate raw _ ih => exact ⟨ih.stripped, ih.present, strip_generated raw⟩

end

/-! ### Legal headers -/

theorem legalHeader_append {left right : PyStr} :
    LegalHeader (left ++ right) ↔ LegalHeader left ∧ LegalHeader right := List.forall_mem_append

theorem legalHeader_ascii {value : PyStr} (ascii : ∀ c ∈ value, 0x20 ≤ c ∧ c < 0x80) :
    LegalHeader value := by
  intro c member
  obtain ⟨printed, small⟩ := ascii c member
  have notReturn : c ≠ 0x0D := by omega
  have notNewline : c ≠ newline := fun same => by rw [same] at printed; exact absurd printed (by decide)
  simp [isHeaderChar, notReturn, notNewline, show c < 0x100 by omega]

theorem legalHeader_digits (number : Nat) : LegalHeader (digits number) := by
  refine legalHeader_ascii fun c member => ?_
  have decimal := digits_decimal number member
  omega

theorem legalHeader_uuid (id : Uuid) : LegalHeader id.text := by
  refine legalHeader_ascii fun c member => ?_
  rcases Uuid.mem_text member with rfl | lower
  · decide
  · simp only [isLowerHex, Bool.or_eq_true, Bool.and_eq_true, decide_eq_true_eq] at lower
    omega

theorem base64Digit_legal (bits : Nat) : isHeaderChar (base64Digit bits) = true := by
  have letters : ∀ c ∈ base64Alphabet, isHeaderChar c = true := by decide
  rw [base64Digit, List.getD_eq_getElem?_getD]
  rcases found : base64Alphabet[bits]? with _ | c
  · decide
  · exact letters c (List.mem_of_getElem? found)

theorem legalHeader_b64encode (raw : Bytes) : LegalHeader (b64encode raw) := by
  have padding : isHeaderChar base64Padding = true := by decide
  fun_induction b64encode raw with
  | case1 => exact List.forall_mem_nil _
  | case2 first bits =>
    simp [LegalHeader, base64Digit_legal, padding]
  | case3 first second bits =>
    simp [LegalHeader, base64Digit_legal, padding]
  | case4 first second third rest bits ih =>
    simpa [LegalHeader, base64Digit_legal] using ih

theorem legalHeader_eventType (eventType : EventType) : LegalHeader eventType.text := by
  cases eventType <;> decide

theorem legalHeader_hostHeader {hostname : PyStr} {port : Option Nat} :
    LegalHeader (hostHeader hostname port) ↔ LegalHeader hostname := by
  unfold hostHeader
  split
  any_goals exact Iff.rfl
  rename_i port _ _ _
  rw [legalHeader_append]
  exact and_iff_left (List.forall_mem_cons.mpr ⟨by decide, legalHeader_digits port⟩)

/-! ### The signing key and the headers -/

section
variable {settings : ActionsSettings} {library : ActionsLibrary} {signing : SigningLibrary}
  {addresses : AddressLibrary} {config : WebhookConfig} {envelope : Envelope}
  {attempt seconds : Nat} {requestId : RequestId} {id : Uuid}

theorem usableSecret_iff {secret : PyStr} (stripped : strip secret = secret) :
    UsableSecret library secret ↔ ∃ key, normalizeWebhookSigningSecret library secret = .ok key := by
  simp only [UsableSecret, normalizeWebhookSigningSecret, stripped]
  split
  · rename_i marked
    simp only [marked, forall_const]
    split
    · rename_i blank
      simp [blank]
    · rename_i present
      rcases library.b64decode (strip (secret.drop whsecPrefix.length)) with _ | _ | ⟨first, rest⟩
      all_goals simp [present]
  · rename_i plain
    simp [plain]

theorem webhookHeaders_eq (named : envelope.id = some id.text) :
    webhookHeaders library signing config envelope attempt seconds requestId =
      (normalizeWebhookSigningSecret library (strip config.secret)).map fun key =>
        [(lit "Content-Type", lit "application/json; charset=utf-8"),
          (lit "User-Agent", lit "shellui-hosting-actions/1.0"),
          (lit "X-Shellui-Event", envelope.event.eventType.text),
          (lit "X-Shellui-Delivery-Attempt", digits (max 1 attempt : Nat))] ++
        [(lit "webhook-id", id.text), (lit "webhook-timestamp", digits seconds),
          (lit "webhook-signature", lit "v1," ++ b64encode (signing.hmac key
            ((id.text ++ fullStop :: digits seconds ++ [fullStop]).flatMap encodeChar ++
              encodeWebhookEnvelope signing envelope)))] ++
        (if strip config.authorizationHeader = [] then []
          else [(lit "Authorization", strip config.authorizationHeader)]) ++
        (if requestId.1 = [] ∨ requestId.1 = lit "-" then []
          else [(lit "X-Request-ID", requestId.1)]) := by
  rw [webhookHeaders, signWebhookBody, named]
  cases normalizeWebhookSigningSecret library (strip config.secret) <;> rfl

theorem webhookHeaders_legal (named : envelope.id = some id.text) :
    (∃ headers,
      webhookHeaders library signing config envelope attempt seconds requestId = .ok headers ∧
        ∀ header ∈ headers, LegalHeader header.2) ↔
    (∃ key, normalizeWebhookSigningSecret library (strip config.secret) = .ok key) ∧
      LegalHeader (strip config.authorizationHeader) := by
  rw [webhookHeaders_eq named]
  rcases normalizeWebhookSigningSecret library (strip config.secret) with error | key
  · simp [Except.map]
  · have signature (raw : Bytes) : LegalHeader (lit "v1," ++ b64encode raw) :=
      legalHeader_append.mpr ⟨by decide, legalHeader_b64encode raw⟩
    have request : LegalHeader requestId.1 := requestId.2
    simp only [Except.map, Except.ok.injEq, exists_eq_left', List.forall_mem_append,
      List.forall_mem_cons, legalHeader_eventType, legalHeader_digits, legalHeader_uuid, signature,
      exists_eq', true_and]
    constructor
    · rintro ⟨⟨_, sent⟩, _⟩
      by_cases blank : strip config.authorizationHeader = []
      · rw [blank]
        exact List.forall_mem_nil _
      · rw [if_neg blank] at sent
        exact sent _ (List.mem_singleton.mpr rfl)
    · intro legal
      refine ⟨⟨by decide, ?_⟩, ?_⟩
      · split
        · exact List.forall_mem_nil _
        · exact List.forall_mem_singleton.mpr legal
      · split
        · exact List.forall_mem_nil _
        · exact List.forall_mem_singleton.mpr request

/-- The attempt makes its POST once it has a key. -/
theorem deliverWebhookAction_posts (stored : StoredConfig config)
    (named : envelope.id = some id.text) :
    (∃ key next, deliverWebhookAction settings library config envelope attempt =
      .call (.post (webhookPost settings config envelope attempt key)) next) ↔
    ∃ key, normalizeWebhookSigningSecret library (strip config.secret) = .ok key := by
  rw [deliverWebhookAction, stored.stripped, named]
  simp only [stored.present, stored.signed, Uuid.text_ne_nil, Option.getD_some, decide_false,
    Prog.when_false, Prog.ret_bind]
  rcases normalizeWebhookSigningSecret library (strip config.secret) with error | key
  · constructor
    · rintro ⟨key, next, same⟩
      cases same
    · rintro ⟨key, same⟩
      cases same
  · exact ⟨fun _ => ⟨key, rfl⟩, fun _ => ⟨key, _, rfl⟩⟩

/-! ### The URL -/

/-- A well-formed URL goes on to the resolution of its host. -/
theorem resolveWebhookEndpoint_reaches {url : PyStr} {parsed : ParseResult} {port : Option Nat}
    (found : urlparse addresses.tables (strip url) = .ok parsed)
    (scheme : parsed.scheme ∈ [lit "http", lit "https"])
    (present : addresses.tables.lower (parsed.hostname addresses.tables) ≠ [])
    (numbered : parsed.port = .ok port) :
    ReachesResolution addresses url
      (hostHeader (addresses.tables.lower (parsed.hostname addresses.tables)) port)
      (endpointPath parsed) := by
  exact ⟨_, _, _, fun resolver allowPrivate =>
    resolveWebhookEndpoint_eq addresses resolver found scheme present numbered allowPrivate⟩

def publicResolver : Resolver := fun _ port => .ok [⟨lit "8.8.8.8", port⟩]

theorem connectTarget_public (addresses : AddressLibrary) (hostname : PyStr) (port : Nat) :
    ∃ target, connectTarget addresses publicResolver true hostname port = .ok target := by
  rw [connectTarget]
  split
  · exact ⟨_, rfl⟩
  · exact ⟨_, rfl⟩

theorem blockedHostname_private (host : PyStr) : blockedHostname true host = .ok () := by
  simp [blockedHostname]

/-- A URL asks for one host and one path. -/
theorem ReachesResolution.unique {url host path otherHost otherPath : PyStr}
    (reaches : ReachesResolution addresses url host path)
    (other : ReachesResolution addresses url otherHost otherPath) :
    otherHost = host ∧ otherPath = path := by
  obtain ⟨hostname, scheme, port, resolves⟩ := reaches
  obtain ⟨otherName, otherScheme, otherPort, agrees⟩ := other
  obtain ⟨target, connects⟩ := connectTarget_public addresses hostname port
  obtain ⟨otherTarget, otherConnects⟩ := connectTarget_public addresses otherName otherPort
  have same := (agrees publicResolver true).symm.trans (resolves publicResolver true)
  rw [connects, otherConnects, blockedHostname_private, blockedHostname_private] at same
  have ends := Except.ok.inj same
  exact ⟨congrArg (·.hostHeader) ends, congrArg (·.path) ends⟩

/-- What goes on to the resolution is a URL of the web with a host and a port. -/
theorem ReachesResolution.parsed {url host path : PyStr}
    (reaches : ReachesResolution addresses url host path) :
    ∃ parsed port, urlparse addresses.tables (strip url) = .ok parsed ∧
      parsed.scheme ∈ [lit "http", lit "https"] ∧
      addresses.tables.lower (parsed.hostname addresses.tables) ≠ [] ∧ parsed.port = .ok port := by
  obtain ⟨hostname, scheme, port, resolves⟩ := reaches
  obtain ⟨target, connects⟩ := connectTarget_public addresses hostname port
  have resolved := resolves publicResolver true
  rw [connects, blockedHostname_private] at resolved
  rcases found : urlparse addresses.tables (strip url) with error | parsed
  · rw [resolveWebhookEndpoint, found] at resolved
    contradiction
  · rw [resolveWebhookEndpoint_parsed addresses publicResolver found] at resolved
    by_cases http : parsed.scheme ∈ [lit "http", lit "https"]
    · by_cases bare : addresses.tables.lower (parsed.hostname addresses.tables) = []
      · rw [if_neg (not_not.mpr http), if_pos bare] at resolved
        contradiction
      · rcases numbered : parsed.port with error | port
        · rw [if_neg (not_not.mpr http), if_neg bare, blockedHostname_private, parsedPort,
            numbered] at resolved
          contradiction
        · exact ⟨parsed, port, rfl, http, bare, numbered⟩
    · rw [if_pos http] at resolved
      contradiction

theorem resolves_iff {url : PyStr} :
    (∃ host path, ReachesResolution addresses url host path ∧ LegalHeader host ∧ LegalTarget path) ↔
      ∃ parsed, UsableUrl addresses url parsed := by
  constructor
  · rintro ⟨host, path, reaches, legal⟩
    obtain ⟨parsed, port, found, http, present, numbered⟩ := reaches.parsed
    have again := resolveWebhookEndpoint_reaches found http present numbered
    obtain ⟨rfl, rfl⟩ := again.unique reaches
    exact ⟨parsed, found, http, present, ⟨port, numbered⟩, legalHeader_hostHeader.mp legal.1, legal.2⟩
  · rintro ⟨parsed, usable⟩
    obtain ⟨port, numbered⟩ := usable.numbered
    have reaches := resolveWebhookEndpoint_reaches usable.parses usable.http usable.present numbered
    exact ⟨_, _, reaches, legalHeader_hostHeader.mpr usable.host, usable.target⟩

end

/-! ### One URL, three rules -/

def hookUrl : PyStr := lit "https://hooks.example/"

def acceptsHookUrl (url : PyStr) : Bool := url = hookUrl

def hookFields (secret authorization : String) : RuleFields :=
  ⟨none, none, none, none, some hookUrl, some (lit secret), some (lit authorization), none⟩

def hookConfig (secret authorization : String) : WebhookConfig :=
  ⟨hookUrl, lit secret, lit authorization, false⟩

theorem hookConfig_accepted (secret authorization : String)
    (built : buildWebhookConfig emptyConfig (hookFields secret authorization) false false
      (generateWebhookSigningSecret ⟨List.replicate 32 0, rfl⟩) =
        .ok (hookConfig secret authorization)) :
    AcceptedConfig acceptsHookUrl (hookConfig secret authorization) :=
  .create rfl built

def plainSigning : SigningLibrary := ⟨fun _ => lit "{}", fun key content => key ++ content⟩

end HostingService
