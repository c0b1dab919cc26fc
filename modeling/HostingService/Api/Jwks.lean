import HostingService.Hosting.Settings
import HostingService.Text.Json

/-! Signed tokens: what is relied on of PyJWT, and the client that holds the keys of the
identity service. -/

namespace HostingService

open Text

/-- What the handlers tell apart: an `ExpiredSignatureError`, another `InvalidTokenError`, or
any other exception. -/
inductive TokenExceptionKind where
  | expiredSignature
  | invalidToken
  | other
  deriving DecidableEq

structure TokenException where
  kind : TokenExceptionKind
  name : PyStr
  message : PyStr

/-! ### PyJWT -/

structure JwtHeader where
  kid : Option PyStr
  /-- `repr(kid)` -/
  kidRepr : PyStr

/-- The arguments of `jwt.decode`; an audience or an issuer is verified where one is given. -/
structure DecodeOptions where
  algorithms : List PyStr
  require : List String
  audience : Option PyStr
  issuer : Option PyStr

/-- `aud` is the audience or has it as a member. -/
def namesAudience (claims : JsonObject) (audience : PyStr) : Bool :=
  match claims.get "aud" with
  | some (.str text) => text = audience
  | some (.arr items) => items.any (·.isText audience)
  | _ => false

/-- `exp`, when it is there, is a number in the future. -/
def unexpired (claims : JsonObject) (now : Rat) : Bool :=
  (claims.get "exp").all fun exp => exp.toInt.toOption.any fun expires => now < expires

def DecodeOptions.accepts (options : DecodeOptions) (claims : JsonObject) (now : Rat) : Bool :=
  (options.require.all fun key => (claims.get key).any (!·.isNull)) &&
    unexpired claims now &&
    (options.issuer.all fun issuer => (claims.get "iss").any (·.isText issuer)) &&
    options.audience.all (namesAudience claims)

/-- `jwt`, and which signatures are good: of a token, under a key and an algorithm. -/
structure PyJwt (Key : Type) where
  getUnverifiedHeader : PyStr → Except TokenException JwtHeader
  payload : PyStr → Option JsonObject
  verifies : PyStr → Key → PyStr → Bool
  decode : PyStr → Key → DecodeOptions → Rat → Except TokenException JsonObject

/-- `jwt.decode` returns the claims exactly when all checks pass, and otherwise raises an
`InvalidTokenError`, which is an `ExpiredSignatureError` for none but expired tokens. -/
structure PyJwt.Documented {Key : Type} (jwt : PyJwt Key) : Prop where
  header_error : ∀ raw error, jwt.getUnverifiedHeader raw = .error error →
    error.kind = .invalidToken
  decode_ok : ∀ raw key options now claims, jwt.decode raw key options now = .ok claims ↔
    jwt.payload raw = some claims ∧
      (∃ algorithm ∈ options.algorithms, jwt.verifies raw key algorithm = true) ∧
      options.accepts claims now = true
  decode_error : ∀ raw key options now error, jwt.decode raw key options now = .error error →
    error.kind ≠ .other
  decode_expired : ∀ raw key options now error, jwt.decode raw key options now = .error error →
    error.kind = .expiredSignature → ∀ claims, jwt.payload raw = some claims →
      unexpired claims now = false

/-! ### `JWKSClient` -/

/-- An entry of a JWKS document: its `kid` as text, and its key where it is a valid one. -/
structure JwkEntry (Key : Type) where
  kid : Option PyStr
  jwk : Option Key

structure JwksClient (Key : Type) where
  ttl : Rat
  staticDocument : Option (List (JwkEntry Key))
  fetchedAt : Rat
  keys : List (PyStr × Key)
  /-- The document that was loaded last, if nothing was cleared since. -/
  raw : List (JwkEntry Key)

/-- A `requests.RequestException`, or an exception about the document. -/
inductive FetchError where
  | requestException (error : TokenException)
  | other (error : TokenException)

def FetchError.exception : FetchError → TokenException
  | .requestException error => { error with kind := .other }
  | .other error => { error with kind := .other }

/-- `keys[name] = key` -/
def assignKey {Key : Type} (keys : List (PyStr × Key)) (name : PyStr) (key : Key) :
    List (PyStr × Key) :=
  if keys.any (·.1 = name) then keys.map fun entry => if entry.1 = name then (name, key) else entry
  else keys ++ [(name, key)]

namespace JwksClient
variable {Key : Type} (client : JwksClient Key)

def applyDocument (document : List (JwkEntry Key)) (now : Rat) : JwksClient Key :=
  { client with
    raw := document
    fetchedAt := now
    keys := document.foldl (fun keys entry =>
      match entry.jwk with
      | none => keys
      | some jwk =>
        match entry.kid.filter (· ≠ []) with
        | some kid => assignKey keys kid jwk
        | none => assignKey keys (lit "_anon_" ++ digits keys.length) jwk) [] }

/-- `JWKSClient.clear` -/
def clear (now : Rat) : JwksClient Key :=
  match client.staticDocument with
  | some document => client.applyDocument document now
  | none => { client with fetchedAt := 0, keys := [], raw := [] }

/-- `_refresh`; `fetched` is what the identity service answers. -/
def refresh (force : Bool) (now : Rat) (fetched : Except FetchError (List (JwkEntry Key))) :
    Except TokenException (JwksClient Key) :=
  match client.staticDocument with
  | some document => .ok (if client.keys.isEmpty then client.applyDocument document now else client)
  | none =>
    if !force && !client.keys.isEmpty && now - client.fetchedAt < client.ttl then .ok client
    else
      match fetched with
      | .ok document => .ok (client.applyDocument document now)
      | .error (.requestException error) =>
        if client.keys.isEmpty then .error (FetchError.requestException error).exception
        else .ok client
      | .error (.other error) => .error (FetchError.other error).exception

def key (kid : PyStr) : Option Key := (client.keys.find? (·.1 = kid)).map (·.2)

/-- The end of `get_signing_key`: no key matches. -/
def unmatched (header : JwtHeader) : Except TokenException (Option Key) :=
  if client.keys.isEmpty then .ok none
  else .error
    { kind := .invalidToken
      name := lit "InvalidTokenError"
      message := lit "Unable to find a signing key that matches kid=" ++ header.kidRepr }

/-- `get_signing_key`, and the client after it; the service may be asked twice. -/
def getSigningKey (jwt : PyJwt Key) (raw : PyStr) (now : Rat)
    (fetched : Bool → Except FetchError (List (JwkEntry Key))) :
    Except TokenException (Option Key) × JwksClient Key :=
  match jwt.getUnverifiedHeader raw with
  | .error error => (.error error, client)
  | .ok header =>
    match client.refresh false now (fetched false) with
    | .error error => (.error error, client)
    | .ok refreshed =>
      match header.kid.filter (· ≠ []) with
      | none => (refreshed.unmatched header, refreshed)
      | some kid =>
        match refreshed.key kid with
        | some found => (.ok (some found), refreshed)
        | none =>
          -- a new kid during rotation is fetched once
          match refreshed.refresh true now (fetched true) with
          | .error error => (.error error, refreshed)
          | .ok rotated =>
            match rotated.key kid with
            | some found => (.ok (some found), rotated)
            | none => (rotated.unmatched header, rotated)

/-- The client after the lookup has the key that the token names. -/
def Names (jwt : PyJwt Key) (raw : PyStr) (key : Key) : Prop :=
  ∃ header kid, jwt.getUnverifiedHeader raw = .ok header ∧ header.kid = some kid ∧ kid ≠ [] ∧
    client.key kid = some key

variable {client} {jwt : PyJwt Key} {raw : PyStr} {now : Rat}
  {fetched : Bool → Except FetchError (List (JwkEntry Key))} {found : Key}

theorem unmatched_ne_some (header : JwtHeader) (found : Key) :
    client.unmatched header ≠ .ok (some found) := by
  intro same
  rw [unmatched] at same
  split at same <;> cases same

/-- A key that is found is the one that the token names. -/
theorem getSigningKey_names
    (ran : (client.getSigningKey jwt raw now fetched).1 = .ok (some found)) :
    (client.getSigningKey jwt raw now fetched).2.Names jwt raw found := by
  rw [getSigningKey] at ran ⊢
  rcases read : jwt.getUnverifiedHeader raw with error | header
  · simp [read] at ran
  simp only [read] at ran ⊢
  rcases first : client.refresh false now (fetched false) with error | refreshed
  · simp [first] at ran
  simp only [first] at ran ⊢
  rcases named : header.kid.filter (· ≠ []) with _ | kid
  · simp only [named] at ran
    exact absurd ran (unmatched_ne_some header found)
  simp only [named] at ran ⊢
  obtain ⟨given, present⟩ := Option.filter_eq_some_iff.mp named
  have names {after : JwksClient Key} (has : after.key kid = some found) :
      after.Names jwt raw found :=
    ⟨header, kid, read, given, of_decide_eq_true present, has⟩
  rcases cached : refreshed.key kid with _ | key
  · simp only [cached] at ran ⊢
    rcases second : refreshed.refresh true now (fetched true) with error | rotated
    · simp [second] at ran
    simp only [second] at ran ⊢
    rcases fresh : rotated.key kid with _ | key
    · simp only [fresh] at ran
      exact absurd ran (unmatched_ne_some header found)
    · simp only [fresh, Except.ok.injEq, Option.some.injEq] at ran ⊢
      exact names (ran ▸ fresh)
  · simp only [cached, Except.ok.injEq, Option.some.injEq] at ran ⊢
    exact names (ran ▸ cached)

theorem refresh_error {force : Bool} {answer : Except FetchError (List (JwkEntry Key))}
    {error : TokenException} (failed : client.refresh force now answer = .error error) :
    error.kind = .other := by
  unfold refresh at failed
  split at failed
  · cases failed
  · split at failed
    · cases failed
    · split at failed
      · cases failed
      · split at failed
        · obtain rfl := Except.error.inj failed
          rfl
        · cases failed
      · obtain rfl := Except.error.inj failed
        rfl

theorem unmatched_error {header : JwtHeader} {error : TokenException}
    (failed : client.unmatched header = .error error) : error.kind = .invalidToken := by
  rw [unmatched] at failed
  split at failed
  · cases failed
  · obtain rfl := Except.error.inj failed
    rfl

/-- The lookup of a key does not look at `exp`. -/
theorem getSigningKey_error (documented : jwt.Documented) {error : TokenException}
    (failed : (client.getSigningKey jwt raw now fetched).1 = .error error) :
    error.kind ≠ .expiredSignature := by
  have apart {kind : TokenExceptionKind} (same : error.kind = kind) (other : kind ≠ .expiredSignature) :
      error.kind ≠ .expiredSignature := same ▸ other
  rw [getSigningKey] at failed
  split at failed
  · rename_i read
    obtain rfl := Except.error.inj failed
    exact apart (documented.header_error _ _ read) (by decide)
  · split at failed
    · rename_i first
      obtain rfl := Except.error.inj failed
      exact apart (refresh_error first) (by decide)
    · split at failed
      · exact apart (unmatched_error failed) (by decide)
      · split at failed
        · cases failed
        · split at failed
          · rename_i second
            obtain rfl := Except.error.inj failed
            exact apart (refresh_error second) (by decide)
          · split at failed
            · cases failed
            · exact apart (unmatched_error failed) (by decide)

end JwksClient

/-! ### Tokens with one signature -/

/-- A token, and the key and the algorithm that it is signed with. -/
structure SignedToken where
  header : JwtHeader
  claims : JsonObject
  key : PyStr
  algorithm : PyStr

/-- `jwt` on the texts that are read as tokens. -/
def signedJwt (read : PyStr → Option SignedToken) : PyJwt PyStr where
  getUnverifiedHeader raw :=
    match read raw with
    | some token => .ok token.header
    | none => .error ⟨.invalidToken, lit "DecodeError", lit "Not enough segments"⟩
  payload raw := (read raw).map (·.claims)
  verifies raw key algorithm :=
    (read raw).any fun token => token.key = key && token.algorithm = algorithm
  decode raw key options now :=
    match read raw with
    | none => .error ⟨.invalidToken, lit "DecodeError", lit "Not enough segments"⟩
    | some token =>
      if (options.algorithms.any fun algorithm => token.key = key && token.algorithm = algorithm) &&
          options.accepts token.claims now then .ok token.claims
      else if unexpired token.claims now then
        .error ⟨.invalidToken, lit "InvalidTokenError", lit "Signature verification failed"⟩
      else .error ⟨.expiredSignature, lit "ExpiredSignatureError", lit "Signature has expired"⟩

theorem signedJwt_documented (read : PyStr → Option SignedToken) : (signedJwt read).Documented where
  header_error raw error failed := by
    rcases found : read raw with _ | token
    · simp only [signedJwt, found] at failed
      obtain rfl := Except.error.inj failed
      rfl
    · simp [signedJwt, found] at failed
  decode_ok raw key options now claims := by
    rcases found : read raw with _ | token
    · simp [signedJwt, found]
    · simp only [signedJwt, found, Option.map_some, Option.some.injEq, Option.any_some]
      split
      · rename_i good
        rw [Bool.and_eq_true, List.any_eq_true] at good
        constructor
        · intro same
          obtain rfl := Except.ok.inj same
          exact ⟨rfl, good.1, good.2⟩
        · rintro ⟨rfl, _⟩
          rfl
      · rename_i bad
        rw [Bool.and_eq_true, List.any_eq_true] at bad
        refine iff_of_false ?_ ?_
        · split <;> exact fun same => nomatch same
        · rintro ⟨rfl, signed, accepted⟩
          exact bad ⟨signed, accepted⟩
  decode_error raw key options now error failed := by
    rcases found : read raw with _ | token
    · simp only [signedJwt, found] at failed
      obtain rfl := Except.error.inj failed
      decide
    · simp only [signedJwt, found] at failed
      split at failed
      · cases failed
      · split at failed
        all_goals
          obtain rfl := Except.error.inj failed
          decide
  decode_expired raw key options now error failed expired claims payload := by
    rcases found : read raw with _ | token
    · simp [signedJwt, found] at payload
    · simp only [signedJwt, found, Option.map_some, Option.some.injEq] at failed payload
      subst payload
      split at failed
      · cases failed
      · split at failed
        · obtain rfl := Except.error.inj failed
          cases expired
        · rename_i late
          exact Bool.eq_false_iff.mpr late

end HostingService
