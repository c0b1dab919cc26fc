import HostingService.Text.JsonParts
import HostingService.Text.Url

/-! Secrets are dropped before an event is stored or sent: the filter, and the
envelope, the email body and the log row that are built with it. -/

namespace HostingService

open Text

/-! ### What is secret -/

/-- A letter under `re.IGNORECASE`, as the small letter it is compared with. -/
def ignoreCase (c : Nat) : Nat :=
  if 0x41 ≤ c ∧ c ≤ 0x5A then c + 0x20
  -- Four letters outside ASCII match an ASCII one.
  else if c = 0x130 ∨ c = 0x131 then 0x69
  else if c = 0x17F then 0x73
  else if c = 0x212A then 0x6B
  else c

/-- Whether one of the words stands at the start. -/
def startsWithAny (words : List PyStr) (text : PyStr) : Bool := words.any (·.isPrefixOf text)

/-- `sub in text` -/
def contains (sub text : PyStr) : Bool := text.tails.any sub.isPrefixOf

/-- `(?:[/?#]|$)`; `$` also stands before a last newline. -/
def endsSignIn (text : PyStr) : Bool :=
  text = [] || text = [newline] || text.head?.any isNetlocEnd

/-- `/sign-?in(?:[/?#]|$)` -/
def signInPath (text : PyStr) : Bool :=
  [lit "/signin", lit "/sign-in"].any fun word =>
    word.isPrefixOf text && endsSignIn (text.drop word.length)

/-- `[a-z0-9_.-]` -/
def isParameterChar (c : Nat) : Bool :=
  isAsciiAlpha c || isAsciiDigit c || c == 0x5F || c == fullStop || c == hyphen

/-- `[a-z0-9_.-]*(?:token|secret|password|api[_-]?key)=` -/
def secretParameter : PyStr → Bool
  | [] => false
  | c :: rest =>
    startsWithAny [lit "token=", lit "secret=", lit "password=", lit "apikey=", lit "api_key=",
      lit "api-key="] (c :: rest) || (isParameterChar c && secretParameter rest)

/-- `_SIGN_IN_URL` at the start of a text of small letters. -/
def signInUrl (text : PyStr) : Bool :=
  startsWithAny [lit "magic-link", lit "magic_link"] text || signInPath text ||
    match text with
    | [] => false
    | c :: rest => (c == questionMark || c == 0x26 || c == hash) && secretParameter rest

/-- `_sensitive_string` -/
def sensitiveString (value : PyStr) : Bool :=
  if !contains (lit "://") value then false
  else (value.map ignoreCase).tails.any signInUrl

def sensitiveKeys : List PyStr :=
  [lit "magic_link", lit "magic_link_url", lit "token", lit "raw_token", lit "access_token",
    lit "refresh_token", lit "id_token", lit "setup_token", lit "sign_in_url", lit "sign_in_link",
    lit "signin_url", lit "signin_link", lit "password", lit "passwd", lit "pwd", lit "secret",
    lit "client_secret", lit "api_key", lit "apikey", lit "authorization",
    lit "authorization_header", lit "credential", lit "credentials", lit "private_key",
    lit "signing_secret"]

section Filter
variable (tables : Unicode)

/-- `_sensitive_key` -/
def sensitiveKey (key : PyStr) : Bool :=
  let name := replaceChar hyphen 0x5F (tables.lower (strip key))
  decide (name ∈ sensitiveKeys) ||
    [lit "_token", lit "_tokens", lit "_secret", lit "_password", lit "_api_key"].any
      (·.isSuffixOf name)

/-! ### The filter -/

mutual

/-- `_without_secrets`; `none` is the sentinel for a string that is dropped. -/
def withoutSecrets : Json → Option Json
  | .obj fields => some (.obj (withoutSecretFields fields))
  | .arr items => some (.arr (withoutSecretItems items))
  | .str text => if sensitiveString text then none else some (.str text)
  | value => some value

def withoutSecretItems : List Json → List Json
  | [] => []
  | item :: rest =>
    match withoutSecrets item with
    | none => withoutSecretItems rest
    | some kept => kept :: withoutSecretItems rest

def withoutSecretFields : List (PyStr × Json) → List (PyStr × Json)
  | [] => []
  | (key, item) :: rest =>
    if sensitiveKey tables key then withoutSecretFields rest
    else
      match withoutSecrets item with
      | none => withoutSecretFields rest
      | some kept => (key, kept) :: withoutSecretFields rest

end

/-- `redact_secrets` -/
def redactSecrets (value : Json) : Json :=
  match withoutSecrets tables value with
  | some cleaned => cleaned
  | none =>
    match value with
    | .obj _ => .obj []
    | .arr _ => .arr []
    | _ => .str []

/-! ### What is stored -/

/-- The JSON envelope of a webhook. -/
structure WebhookEnvelope where
  id : PyStr
  type : PyStr
  time : PyStr
  company : Int
  data : JsonObject
  actor : Option JsonObject

/-- `build_envelope`, at the id and the time of the event. -/
def buildEnvelope (eventType : PyStr) (companyId : Int) (data : JsonObject)
    (actor : Option JsonObject) (eventId occurredAt : PyStr) : WebhookEnvelope where
  id := eventId
  type := eventType
  time := occurredAt
  company := companyId
  data := (redactSecrets tables (.obj data)).asObject
  actor :=
    match actor with
    | none | some [] => none
    | some actor =>
      match redactSecrets tables (.obj actor) with
      | .obj (field :: rest) => some (field :: rest)
      | _ => none

/-- `email_event_payload` -/
def emailEventPayload (payload : Option JsonObject) : JsonObject :=
  (redactSecrets tables (.obj (payload.getD []))).asObject

/-- `value in _EMPTY` -/
def isEmptyValue : Json → Bool
  | .null | .str [] | .arr [] | .obj [] => true
  | _ => false

/-- The columns of the row, which `data` leaves out. -/
def skippedKeys : List PyStr := [lit "company_id", lit "user_id"]

def isFalse : Json → Bool
  | .bool false => true
  | _ => false

/-- `(actor or {}).get('email')` -/
def actorEmail (actor : Option JsonObject) : Option Json := (actor.getD []).get "email"

/-- `compact_event_data` -/
def compactEventData (payload : JsonObject) (actor : Option JsonObject) : JsonObject :=
  let raw := payload.filter fun (key, value) =>
    key ∉ skippedKeys && !isEmptyValue value && !isFalse value
  let data := (redactSecrets tables (.obj raw)).asObject
  match actorEmail actor with
  | some email => if email.truthy then data.set (lit "actor_email") email else data
  | none => data

/-! ### What the filter leaves -/

/-- A string that is dropped. -/
def isSecret : Json → Bool
  | .str text => sensitiveString text
  | _ => false

/-- No secret key and no secret string at any depth. -/
def NoSecret (value : Json) : Prop :=
  value.Free (fun key => sensitiveKey tables key = true) fun text => sensitiveString text = true

/-- Secret entries, elements and strings are left out, and nothing else. -/
structure LeavesOutSecrets (redact : Json → Json) : Prop where
  items : ∀ items, redact (.arr items) = .arr ((items.filter (!isSecret ·)).map redact)
  fields : ∀ fields : JsonObject, redact (.obj fields) =
    .obj ((fields.filter fun entry => !sensitiveKey tables entry.1 && !isSecret entry.2).map
      fun entry => (entry.1, redact entry.2))
  plain : ∀ value : Json, value.Plain → redact value = if isSecret value then .str [] else value

variable {tables}

theorem withoutSecrets_str (text : PyStr) : withoutSecrets tables (.str text) =
    if sensitiveString text then none else some (.str text) := by
  simp only [withoutSecrets]

theorem withoutSecrets_eq (value : Json) :
    withoutSecrets tables value =
      if isSecret value then none else some (redactSecrets tables value) := by
  cases value with
  | str text =>
    simp only [redactSecrets, withoutSecrets_str]
    cases secret : sensitiveString text <;> simp [isSecret, secret]
  | _ => simp [redactSecrets, withoutSecrets, isSecret]

theorem withoutSecretItems_eq (items : List Json) :
    withoutSecretItems tables items =
      (items.filter (!isSecret ·)).map (redactSecrets tables) := by
  induction items with
  | nil => rw [withoutSecretItems, List.filter_nil, List.map_nil]
  | cons item rest ih =>
    rw [withoutSecretItems, withoutSecrets_eq, ih]
    cases secret : isSecret item <;> simp [secret]

theorem withoutSecretFields_eq (fields : JsonObject) :
    withoutSecretFields tables fields =
      (fields.filter fun entry => !sensitiveKey tables entry.1 && !isSecret entry.2).map
        fun entry => (entry.1, redactSecrets tables entry.2) := by
  induction fields with
  | nil => rw [withoutSecretFields, List.filter_nil, List.map_nil]
  | cons entry rest ih =>
    obtain ⟨key, item⟩ := entry
    rw [withoutSecretFields, withoutSecrets_eq, ih]
    cases known : sensitiveKey tables key <;> cases secret : isSecret item <;> simp [known, secret]

theorem redactSecrets_leavesOut : LeavesOutSecrets tables (redactSecrets tables) := by
  constructor
  · intro items
    rw [redactSecrets, withoutSecrets, withoutSecretItems_eq]
  · intro fields
    rw [redactSecrets, withoutSecrets, withoutSecretFields_eq]
  · intro value plain
    cases value with
    | arr => exact absurd plain id
    | obj => exact absurd plain id
    | str text =>
      simp only [redactSecrets, withoutSecrets_str]
      cases secret : sensitiveString text <;> simp [isSecret, secret]
    | _ => simp [redactSecrets, withoutSecrets, isSecret]

theorem noSecret_plain {value : Json} (plain : value.Plain) :
    NoSecret tables value ↔ isSecret value = false := by
  cases value with
  | arr => exact absurd plain id
  | obj => exact absurd plain id
  | str text => exact Json.free_str.trans (Bool.eq_false_iff (b := sensitiveString text)).symm
  | _ =>
    constructor
    · intro _
      rfl
    · intro _
      constructor
      · intro _ inside
        cases inside
      · intro _ inside
        cases inside

theorem redactSecrets_noSecret (value : Json) : NoSecret tables (redactSecrets tables value) := by
  induction value using Json.induct with
  | plain value plain =>
    rw [redactSecrets_leavesOut.plain value plain]
    cases secret : isSecret value with
    | true => exact Json.free_str.mpr (by decide)
    | false => exact (noSecret_plain plain).mpr secret
  | arr items ih =>
    rw [redactSecrets_leavesOut.items]
    apply Json.free_arr.mpr
    intro kept member
    obtain ⟨item, stays, rfl⟩ := List.mem_map.mp member
    exact ih item (List.mem_of_mem_filter stays)
  | obj fields ih =>
    rw [redactSecrets_leavesOut.fields]
    apply Json.free_obj.mpr
    intro kept member
    obtain ⟨entry, stays, rfl⟩ := List.mem_map.mp member
    obtain ⟨present, allowed⟩ := List.mem_filter.mp stays
    rw [Bool.and_eq_true, Bool.not_eq_true'] at allowed
    exact ⟨Bool.eq_false_iff.mp allowed.1, ih entry present⟩

theorem NoSecret.isSecret {value : Json} (clean : NoSecret tables value) :
    isSecret value = false := by
  cases value with
  | str text =>
    have plain : (Json.str text).Plain := trivial
    exact (noSecret_plain plain).mp clean
  | _ => rfl

/-- A value without secrets stays as it is. -/
theorem NoSecret.redactSecrets {value : Json} (clean : NoSecret tables value) :
    redactSecrets tables value = value := by
  induction value using Json.induct with
  | plain value plain =>
    rw [redactSecrets_leavesOut.plain value plain, clean.isSecret]
    rfl
  | arr items ih =>
    have each := Json.free_arr.mp clean
    rw [redactSecrets_leavesOut.items, List.filter_eq_self.mpr]
    · congr 1
      exact (List.map_congr_left fun item member => ih item member (each item member)).trans
        (List.map_id _)
    · intro item member
      rw [NoSecret.isSecret (each item member)]
      rfl
  | obj fields ih =>
    have each := Json.free_obj.mp clean
    rw [redactSecrets_leavesOut.fields, List.filter_eq_self.mpr]
    · congr 1
      apply (List.map_congr_left fun entry member => ?_).trans (List.map_id _)
      rw [ih entry member (each entry member).2]
      rfl
    · intro entry member
      rw [NoSecret.isSecret (each entry member).2, Bool.eq_false_iff.mpr (each entry member).1]
      rfl

theorem redactSecrets_idempotent (value : Json) :
    redactSecrets tables (redactSecrets tables value) = redactSecrets tables value :=
  (redactSecrets_noSecret value).redactSecrets

/-! ### What is stored -/

theorem redactSecrets_obj (fields : JsonObject) :
    .obj (redactSecrets tables (.obj fields)).asObject = redactSecrets tables (.obj fields) := by
  rw [redactSecrets_leavesOut.fields, Json.asObject]

theorem redacted_noSecret (fields : JsonObject) :
    NoSecret tables (.obj (redactSecrets tables (.obj fields)).asObject) := by
  rw [redactSecrets_obj]
  exact redactSecrets_noSecret _

theorem buildEnvelope_actor {eventType eventId occurredAt : PyStr} {companyId : Int}
    {data kept : JsonObject} {actor : Option JsonObject}
    (stored : (buildEnvelope tables eventType companyId data actor eventId occurredAt).actor =
      some kept) : ∃ fields, redactSecrets tables (.obj fields) = .obj kept := by
  simp only [buildEnvelope] at stored
  split at stored
  · contradiction
  · contradiction
  · rename_i fields _
    split at stored
    · rename_i redacted
      exact ⟨fields, by rw [redacted, Option.some.inj stored]⟩
    · contradiction

/-- What is stored or sent of an event with this payload and actor. -/
structure StoresNoSecret (tables : Unicode) (payload : JsonObject) (actor : Option JsonObject) :
    Prop where
  data : ∀ eventType companyId eventId occurredAt, NoSecret tables
    (.obj (buildEnvelope tables eventType companyId payload actor eventId occurredAt).data)
  acting : ∀ eventType companyId eventId occurredAt kept,
    (buildEnvelope tables eventType companyId payload actor eventId occurredAt).actor = some kept →
      NoSecret tables (.obj kept)
  email : NoSecret tables (.obj (emailEventPayload tables (some payload)))
  log : NoSecret tables (.obj (compactEventData tables payload actor))

theorem actorEmailKey_allowed (lowers : tables.LowersAscii) :
    sensitiveKey tables (lit "actor_email") = false := by
  have ascii : tables.lower (strip (lit "actor_email")) = lit "actor_email" :=
    (lowers _ (by decide)).trans (by decide)
  rw [sensitiveKey, ascii]
  decide

theorem mem_compactEventData {payload : JsonObject} {actor : Option JsonObject} {email : Json}
    (found : actorEmail actor = some email) (given : email.truthy = true) :
    (lit "actor_email", email) ∈ compactEventData tables payload actor := by
  simp only [compactEventData, found, given, if_true]
  exact JsonObject.mem_set

theorem compactEventData_noSecret_iff (lowers : tables.LowersAscii) (payload : JsonObject)
    (actor : Option JsonObject) :
    NoSecret tables (.obj (compactEventData tables payload actor)) ↔
      ∀ email, actorEmail actor = some email → email.truthy = true → NoSecret tables email := by
  rw [compactEventData]
  cases found : actorEmail actor with
  | none => simp [redacted_noSecret]
  | some email =>
    cases given : email.truthy with
    | false => simp [given, redacted_noSecret]
    | true =>
      have base : NoSecret tables _ := redacted_noSecret (payload.filter
        fun (key, value) => key ∉ skippedKeys && !isEmptyValue value && !isFalse value)
      have added := @JsonObject.free_set _ (lit "actor_email") email _ _ base
      simpa [given, actorEmailKey_allowed lowers, NoSecret] using added

/-- The filter drops exactly the secrets, and the email of the actor is all that is
stored past it. -/
theorem stores_no_secret_iff (tables : Unicode) (lowers : tables.LowersAscii) :
    LeavesOutSecrets tables (redactSecrets tables) ∧
    (∀ value, NoSecret tables (redactSecrets tables value) ∧
      redactSecrets tables (redactSecrets tables value) = redactSecrets tables value) ∧
    ∀ payload actor, StoresNoSecret tables payload actor ↔
      ∀ email, actorEmail actor = some email → email.truthy = true → NoSecret tables email := by
  refine ⟨redactSecrets_leavesOut,
    fun value => ⟨redactSecrets_noSecret value, redactSecrets_idempotent value⟩,
    fun payload actor => ⟨fun stored => ?_, fun clean => ⟨?_, ?_, ?_, ?_⟩⟩⟩
  · exact (compactEventData_noSecret_iff lowers payload actor).mp stored.log
  · intro _ _ _ _
    exact redacted_noSecret payload
  · intro _ _ _ _ kept stored
    obtain ⟨fields, redacted⟩ := buildEnvelope_actor stored
    rw [← redacted]
    exact redactSecrets_noSecret _
  · exact redacted_noSecret payload
  · exact (compactEventData_noSecret_iff lowers payload actor).mpr clean

/-- The email of a signed-in user, as the identity service put it into the token. -/
def linkActor : JsonObject :=
  [(lit "user_id", .int 7), (lit "email", .str (lit "https://id.example/v?token=a"))]

theorem stores_no_secret_link :
    StoresNoSecret asciiTables [] (some linkActor) ↔
      ∀ email, actorEmail (some linkActor) = some email → email.truthy = true →
        NoSecret asciiTables email :=
  (stores_no_secret_iff asciiTables asciiTables_lowersAscii).2.2 [] (some linkActor)

/-- The link is left out of the envelope and kept in the log. -/
theorem logged_link_stored :
    ¬ ∀ payload actor, StoresNoSecret asciiTables payload actor := by
  intro every
  have logged := (every [] (some linkActor)).log
  exact (Json.free_obj.mp logged (lit "actor_email", .str (lit "https://id.example/v?token=a"))
    (mem_compactEventData rfl rfl)).2.texts _ .here (by decide)

end Filter

end HostingService
