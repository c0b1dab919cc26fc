import HostingService.Actions.Classification
import HostingService.Actions.Pinning

/-! Attempts that end without an HTTP answer: what stood in the way, and what becomes of the
row. -/

namespace HostingService

open Program Text Storage

/-! ### What can stand in the way -/

/-- How an exchange with an endpoint ends without an answer. -/
inductive NetworkFailure where
  /-- Refused or reset connections, TLS errors and timeouts. -/
  | osError (message : PyStr)
  /-- The HTTP client does not write such a URL. -/
  | unwritable (message : PyStr)
  /-- What came back is not HTTP. -/
  | badStatusLine (message : PyStr)

/-- The resolver and the network around the attempts, and the text of a `ValueError`. -/
structure NetworkAround where
  addresses : AddressLibrary
  resolver : Resolver
  network : ResolvedWebhookEndpoint → NetworkFailure
  valueError : PyStr

def Post.url : Post → PyStr
  | .webhook url .. => url
  | .email url .. => url

def Post.allowPrivate : Post → Bool
  | .webhook _ _ _ _ _ _ _ allowPrivate => allowPrivate
  | .email _ _ _ allowPrivate => allowPrivate

/-- Why the URL of an attempt, or its surroundings, gave no answer. -/
inductive Obstacle where
  | malformed
  | notHttp
  | noHost
  | refusedHost
  | nonPublic
  | unresolved
  | unreadable
  | network
  deriving DecidableEq

/-- The obstacles that stay for as long as the URL and the policy do. -/
def Obstacle.ofUrl : Obstacle → Bool
  | .malformed | .notHttp | .noHost | .refusedHost | .nonPublic => true
  | .unresolved | .unreadable | .network => false

/-- The obstacles that the transport reports as an `SSRFError`. -/
def Obstacle.blocks : Obstacle → Bool
  | .notHttp | .noHost | .refusedHost | .nonPublic | .unresolved => true
  | .malformed | .unreadable | .network => false

namespace NetworkAround
variable (around : NetworkAround) (url : PyStr) (allowPrivate : Bool)

def resolve : Except EndpointError ResolvedWebhookEndpoint :=
  resolveWebhookEndpoint around.addresses around.resolver url allowPrivate

/-- `post_webhook_url` without an HTTP answer. -/
def exchange (post : Post) : Exchange :=
  match around.resolve post.url post.allowPrivate with
  | .error (.ssrfError message) => .blocked message
  | .error .valueError => .exception around.valueError
  | .ok endpoint =>
    match around.network endpoint with
    | .osError message => .osError message
    | .unwritable message => .exception message
    | .badStatusLine message => .exception message

def namedHost (parsed : ParseResult) : PyStr :=
  around.addresses.tables.lower (parsed.hostname around.addresses.tables)

def lookup (parsed : ParseResult) (port : Option Nat) : Except LookupError (List AddressInfo) :=
  around.resolver (around.namedHost parsed)
    (orNumber (if parsed.scheme = lit "https" then 443 else 80) port)

def literal (parsed : ParseResult) : Bool :=
  literalAllowed around.addresses allowPrivate (around.namedHost parsed)

def refusesHost (parsed : ParseResult) : Prop :=
  around.namedHost parsed ∈ [lit "localhost", lit "metadata.google.internal"] ∧ allowPrivate = false

instance (parsed : ParseResult) : Decidable (around.refusesHost allowPrivate parsed) :=
  inferInstanceAs (Decidable (_ ∧ _))

/-- An address that the policy does not let through. -/
def nonPublic (info : AddressInfo) : Bool :=
  (ipAddress info.host).any fun ip => !(allowPrivate || around.addresses.isGlobal (judgedIp ip))

/-- The endpoint is not to be had, or did not answer. -/
def endpointObstacle : Obstacle :=
  match around.resolve url allowPrivate with
  | .error _ => .unreadable
  | .ok endpoint =>
    match around.network endpoint with
    | .unwritable _ => .malformed
    | .osError _ | .badStatusLine _ => .network

/-- What an attempt meets first. -/
def obstacle : Obstacle :=
  match urlparse around.addresses.tables (strip url) with
  | .error _ => .malformed
  | .ok parsed =>
    if parsed.scheme ∉ [lit "http", lit "https"] then .notHttp
    else if around.namedHost parsed = [] then .noHost
    else if around.refusesHost allowPrivate parsed then .refusedHost
    else
      match parsed.port with
      | .error _ => .malformed
      | .ok port =>
        if around.literal allowPrivate parsed then around.endpointObstacle url allowPrivate
        else
          match around.lookup parsed port with
          | .error .gaierror => .unresolved
          | .error .unicodeError => .malformed
          | .ok infos =>
            if infos.all (around.nonPublic allowPrivate) then .nonPublic
            else around.endpointObstacle url allowPrivate

/-- The URL names a host that is to be looked up. -/
structure LooksUp (parsed : ParseResult) (port : Option Nat) : Prop where
  found : urlparse around.addresses.tables (strip url) = .ok parsed
  http : parsed.scheme ∈ [lit "http", lit "https"]
  present : around.namedHost parsed ≠ []
  unrefused : ¬ around.refusesHost allowPrivate parsed
  numbered : parsed.port = .ok port
  named : around.literal allowPrivate parsed = false

/-- The URL can never be delivered under the policy. -/
inductive NeverDeliverable : Prop where
  | unparsable {error : ValueError}
      (unparsed : urlparse around.addresses.tables (strip url) = .error error)
  | badPort {parsed : ParseResult} {error : ValueError}
      (found : urlparse around.addresses.tables (strip url) = .ok parsed)
      (unnumbered : parsed.port = .error error)
  | notHttp {parsed : ParseResult}
      (found : urlparse around.addresses.tables (strip url) = .ok parsed)
      (other : parsed.scheme ∉ [lit "http", lit "https"])
  | noHost {parsed : ParseResult}
      (found : urlparse around.addresses.tables (strip url) = .ok parsed)
      (absent : around.namedHost parsed = [])
  | refusedHost {parsed : ParseResult}
      (found : urlparse around.addresses.tables (strip url) = .ok parsed)
      (refused : around.refusesHost allowPrivate parsed)
  | unencodable {parsed : ParseResult} {port : Option Nat}
      (looks : around.LooksUp url allowPrivate parsed port)
      (refused : around.lookup parsed port = .error .unicodeError)
  | nonPublic {parsed : ParseResult} {port : Option Nat} {infos : List AddressInfo}
      (looks : around.LooksUp url allowPrivate parsed port)
      (answered : around.lookup parsed port = .ok infos)
      (every : ∀ info ∈ infos, around.nonPublic allowPrivate info = true)
  | unwritable {endpoint : ResolvedWebhookEndpoint} {message : PyStr}
      (resolved : around.resolve url allowPrivate = .ok endpoint)
      (refused : around.network endpoint = .unwritable message)

variable {around url allowPrivate}

/-! ### What the resolution makes of the obstacles -/

theorem firstAllowed_blocked_iff {port : Nat} {infos : List AddressInfo} :
    (∃ message, firstAllowed around.addresses allowPrivate port infos = .error (.ssrfError message)) ↔
      infos.all (around.nonPublic allowPrivate) = true := by
  induction infos with
  | nil => exact ⟨fun _ => rfl, fun _ => ⟨_, rfl⟩⟩
  | cons info infos ih =>
    rw [firstAllowed, List.all_cons, nonPublic]
    rcases ipAddress info.host with _ | ip
    · simp
    · rcases allowed : (allowPrivate || around.addresses.isGlobal (judgedIp ip)) with _ | _
      · simp only [validateIp, allowed, Bool.false_eq_true, if_false, Option.any_some, Bool.not_false,
          Bool.true_and]
        exact ih
      · simp only [validateIp, allowed, if_true, Option.any_some, Bool.not_true, Bool.false_and,
          Bool.false_eq_true, iff_false]
        rintro ⟨message, same⟩
        cases same

theorem endpointObstacle_unblocked (around : NetworkAround) (url : PyStr) (allowPrivate : Bool) :
    (around.endpointObstacle url allowPrivate).blocks = false := by
  unfold endpointObstacle
  split
  · rfl
  · split <;> rfl

theorem blockedHostname_unrefused {parsed : ParseResult}
    (unrefused : ¬ around.refusesHost allowPrivate parsed) :
    blockedHostname allowPrivate (around.namedHost parsed) = .ok () := by
  rw [refusesHost, ← Bool.not_eq_true'] at unrefused
  exact if_neg unrefused

theorem blockedHostname_refused {parsed : ParseResult}
    (refused : around.refusesHost allowPrivate parsed) :
    ∃ message, blockedHostname allowPrivate (around.namedHost parsed) = .error (.ssrfError message) := by
  rw [refusesHost, ← Bool.not_eq_true'] at refused
  exact ⟨_, if_pos refused⟩

theorem map_ssrfError_iff {α β : Type} {result : Except EndpointError α} {finish : α → β} :
    (∃ message, result.map finish = .error (.ssrfError message)) ↔
      ∃ message, result = .error (.ssrfError message) := by
  refine exists_congr fun message => ?_
  cases result with
  | ok value => simp [Except.map]
  | error error => simp [Except.map]

theorem resolveHostname_blocked_iff {parsed : ParseResult} {port : Option Nat} :
    (∃ message, resolveHostname around.addresses around.resolver allowPrivate
        (around.namedHost parsed) (orNumber (if parsed.scheme = lit "https" then 443 else 80) port) =
          .error (.ssrfError message)) ↔
      match around.lookup parsed port with
      | .error .gaierror => True
      | .error .unicodeError => False
      | .ok infos => infos.all (around.nonPublic allowPrivate) = true := by
  rw [resolveHostname, lookup]
  rcases around.resolver (around.namedHost parsed)
    (orNumber (if parsed.scheme = lit "https" then 443 else 80) port) with (_ | _) | (_ | ⟨info, infos⟩)
  · exact iff_of_true ⟨_, rfl⟩ trivial
  · exact iff_of_false (by rintro ⟨_, same⟩; cases same) id
  · exact iff_of_true ⟨_, rfl⟩ rfl
  · exact firstAllowed_blocked_iff

theorem connectTarget_blocked_iff {parsed : ParseResult} {port : Option Nat} :
    (∃ message, connectTarget around.addresses around.resolver allowPrivate (around.namedHost parsed)
        (orNumber (if parsed.scheme = lit "https" then 443 else 80) port) =
          .error (.ssrfError message)) ↔
      (if around.literal allowPrivate parsed then around.endpointObstacle url allowPrivate
        else
          match around.lookup parsed port with
          | .error .gaierror => .unresolved
          | .error .unicodeError => .malformed
          | .ok infos =>
            if infos.all (around.nonPublic allowPrivate) then .nonPublic
            else around.endpointObstacle url allowPrivate).blocks = true := by
  have unblocked := endpointObstacle_unblocked around url allowPrivate
  rw [connectTarget, literal]
  split
  · rw [unblocked]
    simp
  · rw [resolveHostname_blocked_iff]
    rcases around.lookup parsed port with (_ | _) | infos
    · simp [Obstacle.blocks]
    · simp [Obstacle.blocks]
    · by_cases every : infos.all (around.nonPublic allowPrivate) = true
      · simp only [every, if_true, Obstacle.blocks]
      · simp only [every, if_false, unblocked, Bool.false_eq_true]

/-- The transport reports an `SSRFError` exactly for the obstacles that block. -/
theorem resolve_blocked_iff (around : NetworkAround) (url : PyStr) (allowPrivate : Bool) :
    (∃ message, around.resolve url allowPrivate = .error (.ssrfError message)) ↔
      (around.obstacle url allowPrivate).blocks = true := by
  rw [obstacle]
  rcases found : urlparse around.addresses.tables (strip url) with error | parsed
  · have failed : around.resolve url allowPrivate = .error .valueError := by
      rw [resolve, resolveWebhookEndpoint, found]
      rfl
    simp [failed, Obstacle.blocks]
  · rw [resolve, resolveWebhookEndpoint_parsed _ _ found, ← namedHost]
    dsimp only
    split
    · simp [Obstacle.blocks]
    · split
      · simp [Obstacle.blocks]
      · by_cases refused : around.refusesHost allowPrivate parsed
        · obtain ⟨message, blocked⟩ := blockedHostname_refused refused
          rw [blocked, if_pos refused]
          exact iff_of_true ⟨message, rfl⟩ rfl
        · rw [blockedHostname_unrefused refused, if_neg refused]
          rcases numbered : parsed.port with error | port
          · simp [parsedPort, numbered, Except.mapError, bind, Except.bind, Obstacle.blocks]
          · rw [parsedPort, numbered]
            exact map_ssrfError_iff.trans connectTarget_blocked_iff

/-! ### The obstacles of the URL -/

theorem endpointObstacle_ofUrl : (around.endpointObstacle url allowPrivate).ofUrl = true ↔
    ∃ endpoint message, around.resolve url allowPrivate = .ok endpoint ∧
      around.network endpoint = .unwritable message := by
  unfold endpointObstacle
  rcases around.resolve url allowPrivate with error | endpoint
  · simp [Obstacle.ofUrl]
  · rcases ended : around.network endpoint with message | message | message
    · simp [Obstacle.ofUrl, ended]
    · simp [Obstacle.ofUrl, ended]
    · simp [Obstacle.ofUrl, ended]

theorem resolve_unresolved {parsed : ParseResult} {port : Option Nat}
    (looks : around.LooksUp url allowPrivate parsed port)
    (failed : around.lookup parsed port = .error .gaierror) :
    ∃ error, around.resolve url allowPrivate = .error error := by
  obtain ⟨found, http, present, unrefused, numbered, named⟩ := looks
  rw [namedHost] at present
  rw [literal] at named
  rw [lookup] at failed
  rw [resolve, resolveWebhookEndpoint_eq _ _ found http present numbered, ← namedHost,
    blockedHostname_unrefused unrefused, connectTarget, named, resolveHostname, failed]
  exact ⟨_, rfl⟩

/-- Once the URL is read, the answer of the resolver and the HTTP client decide. -/
theorem neverDeliverable_iff {parsed : ParseResult} {port : Option Nat}
    (found : urlparse around.addresses.tables (strip url) = .ok parsed)
    (http : parsed.scheme ∈ [lit "http", lit "https"]) (present : around.namedHost parsed ≠ [])
    (unrefused : ¬ around.refusesHost allowPrivate parsed) (numbered : parsed.port = .ok port) :
    around.NeverDeliverable url allowPrivate ↔
      (around.literal allowPrivate parsed = false ∧ (around.lookup parsed port = .error .unicodeError ∨
        ∃ infos, around.lookup parsed port = .ok infos ∧
          infos.all (around.nonPublic allowPrivate) = true)) ∨
      (around.endpointObstacle url allowPrivate).ofUrl = true := by
  have same {other : ParseResult}
      (again : urlparse around.addresses.tables (strip url) = .ok other) : other = parsed :=
    Except.ok.inj (again.symm.trans found)
  rw [endpointObstacle_ofUrl]
  constructor
  · intro never
    cases never with
    | unparsable unparsed => cases found.symm.trans unparsed
    | badPort again unnumbered =>
      obtain rfl := same again
      cases numbered.symm.trans unnumbered
    | notHttp again other =>
      obtain rfl := same again
      exact absurd http other
    | noHost again absent =>
      obtain rfl := same again
      exact absurd absent present
    | refusedHost again refused =>
      obtain rfl := same again
      exact absurd refused unrefused
    | unencodable looks refused =>
      obtain rfl := same looks.found
      obtain rfl := Except.ok.inj (looks.numbered.symm.trans numbered)
      exact .inl ⟨looks.named, .inl refused⟩
    | nonPublic looks answered every =>
      obtain rfl := same looks.found
      obtain rfl := Except.ok.inj (looks.numbered.symm.trans numbered)
      exact .inl ⟨looks.named, .inr ⟨_, answered, List.all_eq_true.mpr every⟩⟩
    | unwritable resolved refused => exact .inr ⟨_, _, resolved, refused⟩
  · rintro (⟨named, refused | ⟨infos, answered, every⟩⟩ | ⟨endpoint, message, resolved, refused⟩)
    · exact .unencodable ⟨found, http, present, unrefused, numbered, named⟩ refused
    · exact .nonPublic ⟨found, http, present, unrefused, numbered, named⟩ answered
        (List.all_eq_true.mp every)
    · exact .unwritable resolved refused

/-- The obstacle is one of the URL exactly when the URL can never be delivered. -/
theorem obstacle_ofUrl_iff :
    (around.obstacle url allowPrivate).ofUrl = true ↔ around.NeverDeliverable url allowPrivate := by
  rw [obstacle]
  rcases found : urlparse around.addresses.tables (strip url) with error | parsed
  · exact iff_of_true rfl (.unparsable found)
  · dsimp only
    by_cases http : parsed.scheme ∈ [lit "http", lit "https"]
    swap
    · rw [if_pos http]
      exact iff_of_true rfl (.notHttp found http)
    rw [if_neg (not_not.mpr http)]
    by_cases absent : around.namedHost parsed = []
    · rw [if_pos absent]
      exact iff_of_true rfl (.noHost found absent)
    rw [if_neg absent]
    by_cases refused : around.refusesHost allowPrivate parsed
    · rw [if_pos refused]
      exact iff_of_true rfl (.refusedHost found refused)
    rw [if_neg refused]
    rcases numbered : parsed.port with error | port
    · exact iff_of_true rfl (.badPort found numbered)
    rw [neverDeliverable_iff found http absent refused numbered]
    dsimp only
    rcases named : around.literal allowPrivate parsed with _ | _
    swap
    · simp
    rw [if_neg Bool.false_ne_true]
    rcases looked : around.lookup parsed port with (_ | _) | infos
    · obtain ⟨error, failed⟩ :=
        resolve_unresolved ⟨found, http, absent, refused, numbered, named⟩ looked
      simp [endpointObstacle, failed, Obstacle.ofUrl]
    · simp [Obstacle.ofUrl]
    · dsimp only
      by_cases every : infos.all (around.nonPublic allowPrivate) = true
      · rw [if_pos every]
        exact iff_of_true rfl (.inl ⟨rfl, .inr ⟨infos, rfl, every⟩⟩)
      · rw [if_neg every]
        refine ⟨.inr, fun way => way.resolve_left ?_⟩
        rintro ⟨_, failed | ⟨others, same, all⟩⟩
        · cases failed
        · cases same
          exact every all

end NetworkAround

/-! ### What becomes of the row -/

section
variable {settings : ActionsSettings} {library : ActionsLibrary} {world : OutboxWorld}
  {around : NetworkAround}

/-- What an attempt without an answer decides by. -/
def refusedVerdict (permanent : Bool) : Verdict := { Verdict.unanswered with permanent }

/-- No attempt gets an HTTP answer. -/
def OutboxWorld.Unanswered (world : OutboxWorld) (around : NetworkAround) : Prop :=
  ∀ post, world.network post = around.exchange post

/-- How `post_webhook_url` ends without an answer. -/
theorem run_postWebhookUrl_unanswered (library : ActionsLibrary)
    (unanswered : world.Unanswered around) (post : Post) :
    ∃ ended, (postWebhookUrl library post).run DeliveryCall.handle world = (ended, world) ∧
      (((around.obstacle post.url post.allowPrivate).blocks = true ∧
          ∃ message, ended = .ok (.webhookHttpError ⟨message, none, [], true, none⟩)) ∨
        ((around.obstacle post.url post.allowPrivate).blocks = false ∧
          ((∃ message, ended = .ok (.osError message)) ∨
            ∃ message, ended = .error (.exception message)))) := by
  have asked : (Prog.perform (.post post) : Delivery Exchange).run DeliveryCall.handle world =
      (.ok (around.exchange post), world) := by
    rw [Prog.run_perform, ← unanswered post]
    rfl
  have blocked := around.resolve_blocked_iff post.url post.allowPrivate
  rw [postWebhookUrl, Prog.run_bind_ok _ asked, NetworkAround.exchange]
  rcases resolved : around.resolve post.url post.allowPrivate with (message | _) | endpoint
  · exact ⟨_, rfl, .inl ⟨blocked.mp ⟨message, resolved⟩, message, rfl⟩⟩
  · refine ⟨_, rfl, .inr ⟨?_, .inr ⟨_, rfl⟩⟩⟩
    rw [resolved] at blocked
    simpa using blocked
  · rw [resolved] at blocked
    have free : (around.obstacle post.url post.allowPrivate).blocks = false := by simpa using blocked
    dsimp only
    rcases around.network endpoint with message | message | message
    · exact ⟨_, rfl, .inr ⟨free, .inl ⟨_, rfl⟩⟩⟩
    · exact ⟨_, rfl, .inr ⟨free, .inr ⟨_, rfl⟩⟩⟩
    · exact ⟨_, rfl, .inr ⟨free, .inr ⟨_, rfl⟩⟩⟩

theorem deliverWebhookAction_unanswered (settings : ActionsSettings) {config : WebhookConfig}
    {envelope : Envelope} (attempt : Nat) {key : Bytes}
    (ready : WebhookReady library config envelope key) (unanswered : world.Unanswered around) :
    ∃ error, (deliverWebhookAction settings library config envelope attempt).run DeliveryCall.handle
        world = (.error error, world) ∧
      if (around.obstacle (strip config.url)
          (settings.webhookAllowPrivate || config.allowPrivateUrls)).blocks then
        ∃ message, error = .webhookDelivery ⟨message, none, [], true, none⟩
      else (∃ message, error = .webhookDelivery ⟨message, none, [], false, none⟩) ∨
        ∃ message, error = .exception message := by
  obtain ⟨ended, posted, ends⟩ := run_postWebhookUrl_unanswered library unanswered
    (webhookPost settings config envelope attempt key)
  obtain ⟨url, secret, id, signed⟩ := ready
  simp only [deliverWebhookAction, decide_eq_false url, decide_eq_false secret,
    decide_eq_false id, Prog.when_false, Prog.ret_bind, signed, Prog.ofExcept_ok]
  rw [Prog.run_bind, posted]
  simp only [webhookPost, Post.url, Post.allowPrivate] at ends
  rcases ends with ⟨blocks, message, rfl⟩ | ⟨free, ⟨message, rfl⟩ | ⟨message, rfl⟩⟩
  · refine ⟨_, rfl, ?_⟩
    rw [if_pos blocks]
    exact ⟨message, rfl⟩
  · refine ⟨_, rfl, ?_⟩
    rw [if_neg (Bool.eq_false_iff.mp free)]
    exact .inl ⟨message, rfl⟩
  · refine ⟨_, rfl, ?_⟩
    rw [if_neg (Bool.eq_false_iff.mp free)]
    exact .inr ⟨message, rfl⟩

theorem performHttpDelivery_unanswered (settings : ActionsSettings) {rule : ActionRule}
    {envelope : Envelope} (attempt : Nat) {key : Bytes}
    (ready : WebhookReady library rule.config envelope key) (unanswered : world.Unanswered around) :
    ∃ found, (performHttpDelivery settings library rule envelope attempt).run DeliveryCall.handle
        world = (.ok (false, found), world) ∧
      found.verdict false = refusedVerdict (around.obstacle (strip rule.config.url)
        (settings.webhookAllowPrivate || rule.config.allowPrivateUrls)).blocks := by
  obtain ⟨error, sent, cause⟩ := deliverWebhookAction_unanswered settings attempt ready unanswered
  have caught := fun handler => Prog.run_tryCatch_error DeliveryCall.handle
    (Prog.run_bind_error DeliveryCall.handle sent fun _ => .ret (true, AttemptMeta.empty)) handler
  split at cause
  · rename_i blocks
    obtain ⟨message, rfl⟩ := cause
    rw [blocks]
    exact ⟨_, run_timed (caught _), rfl⟩
  · rename_i free
    rw [Bool.eq_false_iff.mpr free]
    rcases cause with ⟨message, rfl⟩ | ⟨message, rfl⟩
    · exact ⟨_, run_timed (caught _), rfl⟩
    · exact ⟨_, run_timed (caught _), rfl⟩

/-- A URL that is not spelled as an HTTP URL is refused before the transport. -/
theorem postEmailEvent_unanswered (library : ActionsLibrary) (envelope : Envelope)
    (configured : emailServiceConfigured settings = true) (unanswered : world.Unanswered around) :
    ∃ error, (postEmailEvent settings library envelope).run DeliveryCall.handle world =
        (.error error, world) ∧
      if (!isHttpUrl (emailServiceEventsUrl settings) ||
          (around.obstacle (emailServiceEventsUrl settings)
            settings.emailServiceAllowPrivate).blocks) then
        ∃ message excerpt, error = .emailDelivery ⟨message, none, excerpt, true, none⟩
      else (∃ message, error = .emailDelivery ⟨message, none, [], false, none⟩) ∨
        ∃ message, error = .exception message := by
  rcases spelled : isHttpUrl (emailServiceEventsUrl settings) with _ | _
  · simp only [postEmailEvent, configured, spelled, Bool.not_true, Bool.not_false,
      Prog.when_false, Prog.when_true, Prog.ret_bind]
    exact ⟨_, rfl, _, _, rfl⟩
  · obtain ⟨ended, posted, ends⟩ := run_postWebhookUrl_unanswered library unanswered
      (emailPost settings envelope)
    simp only [postEmailEvent, configured, spelled, Bool.not_true, Prog.when_false, Prog.ret_bind,
      Bool.false_or]
    rw [Prog.run_bind, posted]
    simp only [emailPost, Post.url, Post.allowPrivate] at ends
    rcases ends with ⟨blocks, message, rfl⟩ | ⟨free, ⟨message, rfl⟩ | ⟨message, rfl⟩⟩
    · refine ⟨_, rfl, ?_⟩
      rw [if_pos blocks]
      exact ⟨_, _, rfl⟩
    · refine ⟨_, rfl, ?_⟩
      rw [if_neg (Bool.eq_false_iff.mp free)]
      exact .inl ⟨_, rfl⟩
    · refine ⟨_, rfl, ?_⟩
      rw [if_neg (Bool.eq_false_iff.mp free)]
      exact .inr ⟨message, rfl⟩

theorem performEmailDelivery_unanswered (library : ActionsLibrary) (envelope : Envelope)
    (configured : emailServiceConfigured settings = true) (unanswered : world.Unanswered around) :
    ∃ found, (performEmailDelivery settings library envelope).run DeliveryCall.handle world =
        (.ok (false, found), world) ∧
      found.verdict false = refusedVerdict (!isHttpUrl (emailServiceEventsUrl settings) ||
        (around.obstacle (emailServiceEventsUrl settings)
          settings.emailServiceAllowPrivate).blocks) := by
  obtain ⟨error, sent, cause⟩ := postEmailEvent_unanswered library envelope configured unanswered
  have caught := fun handler => Prog.run_tryCatch_error DeliveryCall.handle
    (Prog.run_bind_error DeliveryCall.handle sent fun status =>
      .ret (true, { AttemptMeta.empty with httpStatus := some status })) handler
  split at cause
  · rename_i blocks
    obtain ⟨message, excerpt, rfl⟩ := cause
    rw [blocks]
    exact ⟨_, run_timed (caught _), rfl⟩
  · rename_i free
    rw [Bool.eq_false_iff.mpr free]
    rcases cause with ⟨message, rfl⟩ | ⟨message, rfl⟩
    · exact ⟨_, run_timed (caught _), rfl⟩
    · exact ⟨_, run_timed (caught _), rfl⟩

/-- A webhook row whose next attempt gets as far as the endpoint. -/
structure WebhookAttempted (library : ActionsLibrary) (world : OutboxWorld) (row : ActionOutbox)
    (rule : ActionRule) : Prop where
  stored : world.db.row row.id = some row
  kind : row.deliveryKind = .webhook
  unsettled : row.status.isFinal = false
  found : world.db.ruleOf row = some rule
  enabled : rule.enabled = true
  webhook : rule.actionKind = .webhook
  ready : ∃ key, WebhookReady library rule.config row.envelope key

structure EmailAttempted (settings : ActionsSettings) (world : OutboxWorld) (row : ActionOutbox) :
    Prop where
  stored : world.db.row row.id = some row
  kind : row.deliveryKind = .email
  unsettled : row.status.isFinal = false
  configured : emailServiceConfigured settings = true

theorem webhook_decides_unanswered {row : ActionOutbox} {rule : ActionRule}
    (attempted : WebhookAttempted library world row rule) (unanswered : world.Unanswered around)
    (correlation : Correlation) :
    decisionAfter settings library world correlation row.id =
      some ((refusedVerdict (around.obstacle (strip rule.config.url)
        (settings.webhookAllowPrivate || rule.config.allowPrivateUrls)).blocks).decision settings
          (row.attemptCount + 1) world.clock) := by
  obtain ⟨key, ready⟩ := attempted.ready
  obtain ⟨found, performed, verdict⟩ :=
    performHttpDelivery_unanswered settings (row.attemptCount + 1) ready unanswered
  have loaded : loadRuleForDelivery row (world.db.ruleOf row) = .ok (some rule, none) := by
    simp [loadRuleForDelivery, attempted.kind, attempted.found, attempted.enabled, attempted.webhook]
  have channel : performDelivery settings library row (some rule) =
      performHttpDelivery settings library rule row.envelope (row.attemptCount + 1) := by
    simp [performDelivery, attempted.kind]
  rw [← channel] at performed
  rw [decisionAfter, deliverOutboxRow_saves attempted.stored attempted.unsettled loaded performed,
    Option.map_some, columns_decision, verdict]

theorem email_decides_unanswered {row : ActionOutbox} (attempted : EmailAttempted settings world row)
    (unanswered : world.Unanswered around) (correlation : Correlation) :
    decisionAfter settings library world correlation row.id =
      some ((refusedVerdict (!isHttpUrl (emailServiceEventsUrl settings) ||
        (around.obstacle (emailServiceEventsUrl settings)
          settings.emailServiceAllowPrivate).blocks)).decision settings
          (row.attemptCount + 1) world.clock) := by
  obtain ⟨found, performed, verdict⟩ :=
    performEmailDelivery_unanswered library row.envelope attempted.configured unanswered
  have loaded : loadRuleForDelivery row (world.db.ruleOf row) = .ok (none, none) := by
    simp [loadRuleForDelivery, attempted.kind]
  have channel : performDelivery settings library row none =
      performEmailDelivery settings library row.envelope := by
    simp [performDelivery, attempted.kind]
  rw [← channel] at performed
  rw [decisionAfter, deliverOutboxRow_saves attempted.stored attempted.unsettled loaded performed,
    Option.map_some, columns_decision, verdict]

/-- The row is dead at once if its URL can never be delivered, and else retried until the last
attempt. -/
structure ClassifiedAs (settings : ActionsSettings) (attempt : Nat) (clock : Time) (never : Prop)
    (decision : Option Decision) : Prop where
  dead : never → decision = some ⟨.dead, attempt, none⟩
  retried : ¬ never → decision = some (Verdict.unanswered.decision settings attempt clock)

theorem refusedVerdict_decision (permanent : Bool) (attempt : Nat) (clock : Time) :
    (refusedVerdict permanent).decision settings attempt clock =
      if permanent || (attempt : Int) ≥ settings.outboxMaxAttempts then ⟨.dead, attempt, none⟩
      else Verdict.unanswered.decision settings attempt clock := by
  by_cases last : (permanent || decide ((attempt : Int) ≥ settings.outboxMaxAttempts)) = true
  · rw [if_pos last]
    simp only [Verdict.decision, refusedVerdict, Verdict.unanswered, last, if_true,
      Bool.false_eq_true, if_false]
  · rw [if_neg last]
    have flags := Bool.or_eq_false_iff.mp (Bool.eq_false_iff.mpr last)
    rw [flags.1]
    rfl

theorem classifiedAs_iff (permanent : Bool) (never : Prop) (attempt : Nat) (clock : Time) :
    ClassifiedAs settings attempt clock never
        (some ((refusedVerdict permanent).decision settings attempt clock)) ↔
      settings.outboxMaxAttempts ≤ attempt ∨ (permanent = true ↔ never) := by
  rw [refusedVerdict_decision]
  by_cases last : settings.outboxMaxAttempts ≤ attempt
  · have dead : Verdict.unanswered.decision settings attempt clock = ⟨.dead, attempt, none⟩ := by
      simp [Verdict.decision, Verdict.unanswered, last]
    refine iff_of_true ⟨fun _ => ?_, fun _ => ?_⟩ (.inl last)
    · simp [last]
    · simp [last, dead]
  · have living : Verdict.unanswered.decision settings attempt clock ≠ ⟨.dead, attempt, none⟩ := by
      intro same
      simpa [unanswered_status, last] using congrArg Decision.status same
    constructor
    · rintro ⟨dies, retries⟩
      refine .inr ⟨fun permanent => ?_, fun never => ?_⟩
      · by_contra ever
        have := retries ever
        rw [permanent] at this
        exact living (Option.some.inj this).symm
      · by_contra free
        have := dies never
        rw [Bool.eq_false_iff.mpr free] at this
        simp only [Bool.false_or, ge_iff_le, last, decide_false, Bool.false_eq_true, if_false] at this
        exact living (Option.some.inj this)
    · rintro (late | same)
      · exact absurd late last
      · refine ⟨fun never => ?_, fun ever => ?_⟩
        · simp [same.mpr never]
        · have free : permanent = false := Bool.eq_false_iff.mpr fun found => ever (same.mp found)
          simp [free, last]

/-- The transport and the URL agree except where the URL is malformed or its host does not
resolve. -/
theorem Obstacle.agrees_iff (obstacle : Obstacle) :
    (obstacle.blocks = true ↔ obstacle.ofUrl = true) ↔
      obstacle ≠ .malformed ∧ obstacle ≠ .unresolved := by
  cases obstacle <;> decide

end

/-! ### A resolver that is down, and a port that is none -/

def failingResolver : Resolver := fun _ _ => .error .gaierror

def resolverDown : NetworkAround :=
  ⟨plainAddresses, failingResolver, fun _ => .osError (lit "timed out"), lit "ValueError"⟩

/-- The first attempts for the rule at this URL. -/
def attemptingWorld (around : NetworkAround) (url : String) : OutboxWorld where
  db := ⟨[{ hookRule with config := { hookRule.config with url := lit url } }], [hookRow, mailRow], []⟩
  clock := 0
  monotonic := 0
  network := around.exchange

theorem attemptingWorld_unanswered (around : NetworkAround) (url : String) :
    (attemptingWorld around url).Unanswered around := by
  intro post
  rw [attemptingWorld]

theorem hookRow_attempted : WebhookAttempted plainLibrary
    (attemptingWorld resolverDown "https://hooks.example/") hookRow hookRule where
  stored := rfl
  kind := rfl
  unsettled := rfl
  found := rfl
  enabled := rfl
  webhook := rfl
  ready := ⟨(strip (lit "secret")).flatMap encodeChar, by decide, by decide, by decide, rfl⟩

theorem mailRow_attempted : EmailAttempted mailSettings
    (attemptingWorld resolverDown "https://hooks.example/") mailRow :=
  ⟨rfl, rfl, rfl, rfl⟩

end HostingService
