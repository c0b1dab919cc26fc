import HostingService.Api.Jwks

/-! `IdentityJWKSAuthentication._decode_token`: a JWT is verified with a key of the identity
service, or with the fallback secret. -/

namespace HostingService

open Text

/-- The settings of tokens; an empty text is an unset one. -/
structure TokenSettings where
  jwtAlgorithms : List PyStr
  identityIssuer : PyStr
  identityAudience : PyStr
  jwtHs256FallbackSecret : PyStr
  debug : Bool
  allowJwtHs256Fallback : Bool

def whenSet (text : PyStr) : Option PyStr := if text = [] then none else some text

def hs256 : PyStr := lit "HS256"

def rs256 : PyStr := lit "RS256"

def TokenSettings.fallbackEnabled (settings : TokenSettings) : Bool :=
  settings.jwtHs256FallbackSecret ≠ [] && (settings.debug || settings.allowJwtHs256Fallback)

/-- What `_decode_token` raises: an `AuthenticationFailed`, or an exception that it does not
catch. -/
inductive DecodeError where
  | authenticationFailed (detail : PyStr)
  | uncaught (error : TokenException)

def tokenExpired : DecodeError := .authenticationFailed (lit "Token has expired.")

/-- `_client_detail` -/
def clientDetail (settings : TokenSettings) (errors : List TokenException) : PyStr :=
  let generic := lit "Token is invalid or could not be verified against identity JWKS."
  match errors.getLast? with
  | some last =>
    if settings.debug then generic ++ lit " (" ++ last.name ++ lit ": " ++ last.message ++ lit ")"
    else generic
  | none => generic

section
variable {Key : Type} (settings : TokenSettings) (jwt : PyJwt Key) (ofSecret : PyStr → Key)
  (client : JwksClient Key) (raw : PyStr) (now : Rat)
  (fetched : Bool → Except FetchError (List (JwkEntry Key)))

def tokenOptions (algorithms : List PyStr) : DecodeOptions where
  algorithms := algorithms
  require := ["exp"]
  audience := whenSet settings.identityAudience
  issuer := whenSet settings.identityIssuer

/-- `client.get_signing_key`, and `jwt.decode` with the key that it finds. -/
def decodeWithJwks (options : DecodeOptions) : Except TokenException (Option JsonObject) :=
  match (client.getSigningKey jwt raw now fetched).1 with
  | .error error => .error error
  | .ok none => .ok none
  | .ok (some key) => (jwt.decode raw key options now).map some

/-- The HS256 fallback, after what the keys raised. -/
def decodeFallback (errors : List TokenException) : Except DecodeError JsonObject :=
  if settings.fallbackEnabled then
    match jwt.decode raw (ofSecret settings.jwtHs256FallbackSecret)
      (tokenOptions settings [hs256]) now with
    | .ok claims => .ok claims
    | .error error =>
      match error.kind with
      | .expiredSignature => .error tokenExpired
      | .invalidToken => .error (.authenticationFailed (clientDetail settings (errors ++ [error])))
      | .other => .error (.uncaught error)
  else .error (.authenticationFailed (clientDetail settings errors))

/-- `_decode_token` -/
def decodeToken : Except DecodeError JsonObject :=
  match decodeWithJwks jwt client raw now fetched
    (tokenOptions settings settings.jwtAlgorithms) with
  | .ok (some claims) => .ok claims
  | .ok none => decodeFallback settings jwt ofSecret raw now []
  | .error error =>
    if error.kind = .expiredSignature then .error tokenExpired
    else decodeFallback settings jwt ofSecret raw now [error]

/-! ### What a token was verified with -/

/-- The keys of the client after the lookup. -/
def keysAfter : List (PyStr × Key) := (client.getSigningKey jwt raw now fetched).2.keys

/-- The signature is good under the key that the token names, and so are `exp`, and the issuer
and the audience where they are set. -/
def VerifiedByJwks (claims : JsonObject) : Prop :=
  jwt.payload raw = some claims ∧
    (∃ key, (client.getSigningKey jwt raw now fetched).2.Names jwt raw key ∧
      ∃ algorithm ∈ settings.jwtAlgorithms, jwt.verifies raw key algorithm = true) ∧
    (tokenOptions settings settings.jwtAlgorithms).accepts claims now = true

/-- The same under the fallback secret. -/
def VerifiedBySecret (claims : JsonObject) : Prop :=
  jwt.payload raw = some claims ∧
    jwt.verifies raw (ofSecret settings.jwtHs256FallbackSecret) hs256 = true ∧
    (tokenOptions settings [hs256]).accepts claims now = true

/-- Claims come from a verified token, by the secret only where it is enabled and there are no
keys, and otherwise the authentication fails. -/
structure SoundDecode : Prop where
  returned : ∀ claims, decodeToken settings jwt ofSecret client raw now fetched = .ok claims →
    VerifiedByJwks settings jwt client raw now fetched claims ∨
      (settings.fallbackEnabled = true ∧ keysAfter jwt client raw now fetched = [] ∧
        VerifiedBySecret settings jwt ofSecret raw now claims)
  raised : ∀ error, decodeToken settings jwt ofSecret client raw now fetched = .error error →
    ∃ detail, error = .authenticationFailed detail

end

section
variable {Key : Type} {settings : TokenSettings} {jwt : PyJwt Key} {ofSecret : PyStr → Key}
  {client : JwksClient Key} {raw : PyStr} {now : Rat}
  {fetched : Bool → Except FetchError (List (JwkEntry Key))} {claims : JsonObject}

theorem decodeWithJwks_ok_iff (documented : jwt.Documented) (options : DecodeOptions) :
    decodeWithJwks jwt client raw now fetched options = .ok (some claims) ↔
      jwt.payload raw = some claims ∧
        (∃ key, (client.getSigningKey jwt raw now fetched).1 = .ok (some key) ∧
          ∃ algorithm ∈ options.algorithms, jwt.verifies raw key algorithm = true) ∧
        options.accepts claims now = true := by
  rw [decodeWithJwks]
  rcases (client.getSigningKey jwt raw now fetched).1 with error | _ | key
  · simp
  · simp
  · simp only [Except.ok.injEq, Option.some.injEq, exists_eq_left']
    rw [← documented.decode_ok]
    rcases jwt.decode raw key options now with error | found
    · simp [Except.map]
    · simp [Except.map]

theorem decodeWithJwks_verified (documented : jwt.Documented)
    (decoded : decodeWithJwks jwt client raw now fetched
      (tokenOptions settings settings.jwtAlgorithms) = .ok (some claims)) :
    VerifiedByJwks settings jwt client raw now fetched claims := by
  obtain ⟨payload, ⟨key, looked, signed⟩, accepted⟩ :=
    (decodeWithJwks_ok_iff documented _).mp decoded
  exact ⟨payload, ⟨key, JwksClient.getSigningKey_names looked, signed⟩, accepted⟩

theorem decodeSecret_ok_iff (documented : jwt.Documented) :
    jwt.decode raw (ofSecret settings.jwtHs256FallbackSecret) (tokenOptions settings [hs256]) now =
      .ok claims ↔ VerifiedBySecret settings jwt ofSecret raw now claims := by
  rw [documented.decode_ok, VerifiedBySecret]
  simp [tokenOptions]

/-- The fallback returns what the secret verifies, and raises no exception of its own. -/
theorem decodeFallback_ok_iff (documented : jwt.Documented) (errors : List TokenException) :
    decodeFallback settings jwt ofSecret raw now errors = .ok claims ↔
      settings.fallbackEnabled = true ∧ VerifiedBySecret settings jwt ofSecret raw now claims := by
  rw [decodeFallback, ← decodeSecret_ok_iff documented]
  cases settings.fallbackEnabled with
  | false => simp
  | true =>
    rcases jwt.decode raw (ofSecret settings.jwtHs256FallbackSecret) (tokenOptions settings [hs256])
      now with error | found
    · rcases kind : error.kind with _ | _ | _
      all_goals simp [kind]
    · simp

theorem decodeFallback_error (documented : jwt.Documented) {errors : List TokenException}
    {error : DecodeError} (failed : decodeFallback settings jwt ofSecret raw now errors = .error error) :
    ∃ detail, error = .authenticationFailed detail := by
  rw [decodeFallback] at failed
  split at failed
  · rcases result : jwt.decode raw (ofSecret settings.jwtHs256FallbackSecret)
      (tokenOptions settings [hs256]) now with cause | found
    · have named := documented.decode_error _ _ _ _ _ result
      rcases kind : cause.kind with _ | _ | _
      · simp only [result, kind] at failed
        exact ⟨_, (Except.error.inj failed).symm⟩
      · simp only [result, kind] at failed
        exact ⟨_, (Except.error.inj failed).symm⟩
      · exact absurd kind named
    · simp [result] at failed
  · exact ⟨_, (Except.error.inj failed).symm⟩

/-- A good `exp` is in the future. -/
theorem accepts_unexpired {options : DecodeOptions} (accepted : options.accepts claims now = true) :
    unexpired claims now = true := by
  simp only [DecodeOptions.accepts, Bool.and_eq_true] at accepted
  exact accepted.1.1.2

/-- The keys report no token as expired that the secret still verifies. -/
theorem decodeWithJwks_error (documented : jwt.Documented) {options : DecodeOptions}
    {error : TokenException}
    (failed : decodeWithJwks jwt client raw now fetched options = .error error)
    (expired : error.kind = .expiredSignature) (payload : jwt.payload raw = some claims) :
    unexpired claims now = false := by
  rw [decodeWithJwks] at failed
  rcases looked : (client.getSigningKey jwt raw now fetched).1 with cause | _ | key
  · simp only [looked] at failed
    obtain rfl := Except.error.inj failed
    exact absurd expired (JwksClient.getSigningKey_error documented looked)
  · simp [looked] at failed
  · simp only [looked] at failed
    rcases result : jwt.decode raw key options now with cause | found
    · rw [result] at failed
      obtain rfl := Except.error.inj failed
      exact documented.decode_expired _ _ _ _ _ result expired claims payload
    · simp [result, Except.map] at failed

/-- Decoding is sound exactly when the secret verifies nothing, besides what the keys verify,
while there are keys. -/
theorem decodeToken_sound_iff (documented : jwt.Documented) :
    SoundDecode settings jwt ofSecret client raw now fetched ↔
      (settings.fallbackEnabled = true → keysAfter jwt client raw now fetched ≠ [] →
        ∀ claims, VerifiedBySecret settings jwt ofSecret raw now claims →
          VerifiedByJwks settings jwt client raw now fetched claims) := by
  constructor
  · intro sound enabled keys claims bySecret
    have fallback (errors : List TokenException) :
        decodeFallback settings jwt ofSecret raw now errors = .ok claims :=
      (decodeFallback_ok_iff documented errors).mpr ⟨enabled, bySecret⟩
    have byJwks (decoded : decodeToken settings jwt ofSecret client raw now fetched = .ok claims) :
        VerifiedByJwks settings jwt client raw now fetched claims :=
      (sound.returned claims decoded).resolve_right fun other => keys other.2.1
    rcases first : decodeWithJwks jwt client raw now fetched
      (tokenOptions settings settings.jwtAlgorithms) with error | _ | found
    · by_cases expired : error.kind = .expiredSignature
      · have beyond := decodeWithJwks_error documented first expired bySecret.1
        rw [accepts_unexpired bySecret.2.2] at beyond
        cases beyond
      · exact byJwks (by simp only [decodeToken, first, if_neg expired, fallback])
    · exact byJwks (by simp only [decodeToken, first, fallback])
    · have verified := decodeWithJwks_verified documented first
      obtain rfl := Option.some.inj (verified.1.symm.trans bySecret.1)
      exact verified
  · intro covered
    have fallback {errors : List TokenException} {claims : JsonObject}
        (decoded : decodeFallback settings jwt ofSecret raw now errors = .ok claims) :
        VerifiedByJwks settings jwt client raw now fetched claims ∨
          (settings.fallbackEnabled = true ∧ keysAfter jwt client raw now fetched = [] ∧
            VerifiedBySecret settings jwt ofSecret raw now claims) := by
      obtain ⟨enabled, bySecret⟩ := (decodeFallback_ok_iff documented errors).mp decoded
      by_cases keys : keysAfter jwt client raw now fetched = []
      · exact .inr ⟨enabled, keys, bySecret⟩
      · exact .inl (covered enabled keys claims bySecret)
    rcases first : decodeWithJwks jwt client raw now fetched
      (tokenOptions settings settings.jwtAlgorithms) with error | _ | found
    · by_cases expired : error.kind = .expiredSignature
      · have ended : decodeToken settings jwt ofSecret client raw now fetched = .error tokenExpired := by
          simp only [decodeToken, first, if_pos expired]
        refine ⟨fun claims decoded => ?_, fun failure failed => ?_⟩
        · cases ended.symm.trans decoded
        · obtain rfl := Except.error.inj (ended.symm.trans failed)
          exact ⟨_, rfl⟩
      · have ended : decodeToken settings jwt ofSecret client raw now fetched =
            decodeFallback settings jwt ofSecret raw now [error] := by
          simp only [decodeToken, first, if_neg expired]
        exact ⟨fun claims decoded => fallback (ended.symm.trans decoded),
          fun failure failed => decodeFallback_error documented (ended.symm.trans failed)⟩
    · have ended : decodeToken settings jwt ofSecret client raw now fetched =
          decodeFallback settings jwt ofSecret raw now [] := by
        simp only [decodeToken, first]
      exact ⟨fun claims decoded => fallback (ended.symm.trans decoded),
        fun failure failed => decodeFallback_error documented (ended.symm.trans failed)⟩
    · have ended : decodeToken settings jwt ofSecret client raw now fetched = .ok found := by
        simp only [decodeToken, first]
      refine ⟨fun claims decoded => .inl ?_, fun failure failed => ?_⟩
      · obtain rfl := Except.ok.inj (ended.symm.trans decoded)
        exact decodeWithJwks_verified documented first
      · cases ended.symm.trans failed

end

/-! ### A key and a secret -/

/-- The identity service has one key, and the fallback is on. -/
def fallbackSettings : TokenSettings where
  jwtAlgorithms := [rs256]
  identityIssuer := []
  identityAudience := []
  jwtHs256FallbackSecret := lit "secret"
  debug := true
  allowJwtHs256Fallback := false

def oneKey : JwksClient PyStr where
  ttl := 900
  staticDocument := some [⟨some (lit "kid-1"), some (lit "key")⟩]
  fetchedAt := 0
  keys := [(lit "kid-1", lit "key")]
  raw := [⟨some (lit "kid-1"), some (lit "key")⟩]

def noAnswer : Bool → Except FetchError (List (JwkEntry PyStr)) := fun _ =>
  .error (.requestException ⟨.other, lit "ConnectionError", []⟩)

/-- A token that the key has signed, and one that the secret has signed. -/
def keyToken : SignedToken where
  header := ⟨some (lit "kid-1"), lit "'kid-1'"⟩
  claims := [(lit "exp", .int 4000000000), (lit "user_id", .int 1)]
  key := lit "key"
  algorithm := rs256

def secretToken : SignedToken where
  header := ⟨none, lit "None"⟩
  claims := [(lit "exp", .int 4000000000), (lit "user_id", .int 1)]
  key := lit "secret"
  algorithm := hs256

def readToken (raw : PyStr) : Option SignedToken :=
  if raw = lit "key.token.text" then some keyToken
  else if raw = lit "secret.token.text" then some secretToken
  else none

theorem keyToken_sound_iff :
    SoundDecode fallbackSettings (signedJwt readToken) id oneKey (lit "key.token.text") 0 noAnswer ↔
      (fallbackSettings.fallbackEnabled = true →
        keysAfter (signedJwt readToken) oneKey (lit "key.token.text") 0 noAnswer ≠ [] →
        ∀ claims, VerifiedBySecret fallbackSettings (signedJwt readToken) id (lit "key.token.text") 0
            claims →
          VerifiedByJwks fallbackSettings (signedJwt readToken) oneKey (lit "key.token.text") 0
            noAnswer claims) :=
  decodeToken_sound_iff (signedJwt_documented readToken)

/-- A token of the secret is accepted although there is a key. -/
theorem secretToken_accepted :
    decodeToken fallbackSettings (signedJwt readToken) id oneKey (lit "secret.token.text") 0 noAnswer =
      .ok secretToken.claims ∧
    ¬ SoundDecode fallbackSettings (signedJwt readToken) id oneKey (lit "secret.token.text") 0
      noAnswer := by
  have accepted : decodeToken fallbackSettings (signedJwt readToken) id oneKey
      (lit "secret.token.text") 0 noAnswer = .ok secretToken.claims := by rfl
  refine ⟨accepted, fun sound => ?_⟩
  rcases sound.returned _ accepted with ⟨_, ⟨key, ⟨header, kid, read, named, _⟩, _⟩, _⟩ | ⟨_, keys, _⟩
  · cases read
    cases named
  · cases keys

end HostingService
