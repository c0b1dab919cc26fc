import HostingService.Api.Tokens

/-! User tokens and company deletion assertions: two verifiers over the same keys. -/

namespace HostingService

open Text

/-! ### User tokens -/

/-- The principal of a JWT; its email and its username are left out. -/
structure JwtPrincipal where
  userId : Int
  companyId : Option Int
  isStaff : Bool
  isCompanyOwner : Bool
  accessGlobalMetrics : Bool

inductive ClaimsError where
  | valueError (message : PyStr)
  | overflow

def truthyAt (claims : JsonObject) (key : String) : Bool := (claims.get key).any Json.truthy

/-- `int(value)` of a claim, or the `ValueError` that takes its place. -/
def claimInt (value : Json) (message : String) : Except ClaimsError Int :=
  match value.toInt with
  | .ok number => .ok number
  | .error .typeOrValue => .error (.valueError (lit message))
  | .error .overflow => .error .overflow

def principalOfClaims (claims : JsonObject) : Except ClaimsError JwtPrincipal := do
  let userMetadata := ((claims.get "user_metadata").getD .null).asObject
  let rawUid := ((claims.get "user_id").orElse fun _ => claims.get "sub").getD .null
  let userId ← claimInt rawUid "JWT is missing a numeric user id / sub claim."
  let rawCompany := (claims.get "company_id").getD .null
  let companyId ←
    if rawCompany.isNull || rawCompany.isText [] then pure none
    else (claimInt rawCompany "JWT company_id must be an integer.").map some
  return {
    userId := userId
    companyId := companyId
    isStaff := truthyAt userMetadata "is_staff"
    isCompanyOwner := truthyAt userMetadata "is_company_owner"
    accessGlobalMetrics := truthyAt claims "pat_agm" }

/-! ### Deletion assertions -/

def deletionAudience : PyStr := lit "shellui-company-deletion"

def deletionScope : PyStr := lit "company.delete"

def maxLifetime : Int := 120

/-- A `DeletionAssertionError`, or an exception that is not caught. -/
inductive AssertionError where
  | deletionAssertion (message : PyStr)
  | uncaught

def rejectedAssertion : AssertionError := .deletionAssertion (lit "Assertion was rejected.")

/-- The whole seconds of a claim. -/
def claimSeconds (claims : JsonObject) (key : String) : Option Int :=
  (claims.get key).bind fun value => value.toInt.toOption

/-- What `verify_deletion_assertion` asks of verified claims. -/
def checkAssertion (claims : JsonObject) : Except AssertionError Int :=
  if !(claims.get "scope").any (·.isText deletionScope) then
    .error (.deletionAssertion (lit "Assertion scope must be company.delete."))
  else
    match claimSeconds claims "exp", claimSeconds claims "iat" with
    | some exp, some iat =>
      if exp - iat > maxLifetime then
        .error (.deletionAssertion (lit "Assertion lifetime is too long."))
      else
        match claims.get "company_id" with
        | some (.int companyId) =>
          if companyId ≤ 0 then
            .error (.deletionAssertion (lit "Assertion has no valid company_id."))
          else .ok companyId
        | _ => .error (.deletionAssertion (lit "Assertion has no valid company_id."))
    | _, _ => .error .uncaught

section
variable {Key : Type} (settings : TokenSettings) (jwt : PyJwt Key) (ofSecret : PyStr → Key)
  (client : JwksClient Key) (raw : PyStr) (now : Rat)
  (fetched : Bool → Except FetchError (List (JwkEntry Key)))

/-- `authenticate_credentials` -/
def authenticateCredentials : Except DecodeError JwtPrincipal :=
  match decodeToken settings jwt ofSecret client raw now fetched with
  | .error error => .error error
  | .ok claims =>
    match principalOfClaims claims with
    | .ok principal => .ok principal
    | .error (.valueError message) => .error (.authenticationFailed message)
    | .error .overflow => .error (.uncaught ⟨.other, lit "OverflowError", []⟩)

def assertionOptions (algorithms : List PyStr) : DecodeOptions where
  algorithms := algorithms
  require := ["exp", "iat", "aud", "company_id"]
  audience := some deletionAudience
  issuer := whenSet settings.identityIssuer

def verifyDeletionAssertion : Except AssertionError Int :=
  match decodeWithJwks jwt client raw now fetched (assertionOptions settings [rs256]) with
  | .ok (some claims) => checkAssertion claims
  | .ok none => .error rejectedAssertion
  | .error _ =>
    if settings.fallbackEnabled then
      match jwt.decode raw (ofSecret settings.jwtHs256FallbackSecret)
        (assertionOptions settings [hs256]) now with
      | .ok claims => checkAssertion claims
      | .error error => .error (if error.kind = .other then .uncaught else rejectedAssertion)
    else .error rejectedAssertion

/-! ### Separation -/

/-- The two verifiers, each with a state of the keys and what the identity service answers. -/
structure Verifiers (Key : Type) where
  assertions : JwksClient Key
  assertionsFetched : Bool → Except FetchError (List (JwkEntry Key))
  users : JwksClient Key
  usersFetched : Bool → Except FetchError (List (JwkEntry Key))

/-- The token passes the checks of both verifiers but those of the audience. -/
structure PassesBoth (keys : Verifiers Key) (claims : JsonObject) : Prop where
  payload : jwt.payload raw = some claims
  assertionKey : ∃ key,
    (keys.assertions.getSigningKey jwt raw now keys.assertionsFetched).1 = .ok (some key) ∧
      jwt.verifies raw key rs256 = true
  userKey : ∃ key, (keys.users.getSigningKey jwt raw now keys.usersFetched).1 = .ok (some key) ∧
    ∃ algorithm ∈ settings.jwtAlgorithms, jwt.verifies raw key algorithm = true
  required : ∀ key ∈ ["exp", "iat", "aud", "company_id"],
    (claims.get key).any (!·.isNull) = true
  unexpired : unexpired claims now = true
  issuer : (claims.get "iss").any (·.isText settings.identityIssuer) = true
  assertion : ∃ company, checkAssertion claims = .ok company
  person : ∃ principal, principalOfClaims claims = .ok principal

/-- `aud` is a list of both audiences, and perhaps others. -/
def NamesBoth (claims : JsonObject) : Prop :=
  ∃ items, claims.get "aud" = some (.arr items) ∧ .str deletionAudience ∈ items ∧
    .str settings.identityAudience ∈ items

/-- The verifiers do not both accept the token, and an assertion that is accepted is short and
names a company. -/
structure Separate (keys : Verifiers Key) : Prop where
  apart : ¬ ∃ company principal,
    verifyDeletionAssertion settings jwt ofSecret keys.assertions raw now keys.assertionsFetched =
      .ok company ∧
    authenticateCredentials settings jwt ofSecret keys.users raw now keys.usersFetched = .ok principal
  short : ∀ company,
    verifyDeletionAssertion settings jwt ofSecret keys.assertions raw now keys.assertionsFetched =
      .ok company → 0 < company ∧ ∃ claims exp iat, jwt.payload raw = some claims ∧
        claimSeconds claims "exp" = some exp ∧ claimSeconds claims "iat" = some iat ∧
        exp - iat ≤ 120 ∧ claims.get "company_id" = some (.int company)

end

section
variable {Key : Type} {settings : TokenSettings} {jwt : PyJwt Key} {ofSecret : PyStr → Key}
  {client : JwksClient Key} {raw : PyStr} {now : Rat} {claims : JsonObject}
  {fetched : Bool → Except FetchError (List (JwkEntry Key))} {keys : Verifiers Key}

theorem checkAssertion_ok {company : Int} (checked : checkAssertion claims = .ok company) :
    0 < company ∧ claims.get "company_id" = some (.int company) ∧
      ∃ exp iat, claimSeconds claims "exp" = some exp ∧ claimSeconds claims "iat" = some iat ∧
        exp - iat ≤ 120 := by
  rw [checkAssertion] at checked
  split at checked
  · cases checked
  split at checked
  · rename_i exp iat expires issued
    split at checked
    · cases checked
    rename_i short
    split at checked
    · rename_i named
      split at checked
      · cases checked
      · rename_i positive
        obtain rfl := Except.ok.inj checked
        exact ⟨by omega, named, exp, iat, expires, issued, by simpa [maxLifetime] using short⟩
    · cases checked
  · cases checked

theorem verifyDeletionAssertion_ok_iff (alone : settings.fallbackEnabled = false) {company : Int} :
    verifyDeletionAssertion settings jwt ofSecret client raw now fetched = .ok company ↔
      ∃ claims, decodeWithJwks jwt client raw now fetched (assertionOptions settings [rs256]) =
        .ok (some claims) ∧ checkAssertion claims = .ok company := by
  rw [verifyDeletionAssertion]
  rcases decodeWithJwks jwt client raw now fetched (assertionOptions settings [rs256]) with
    error | _ | claims
  · simp [alone]
  · simp
  · simp

theorem authenticateCredentials_ok_iff (alone : settings.fallbackEnabled = false)
    {principal : JwtPrincipal} :
    authenticateCredentials settings jwt ofSecret client raw now fetched = .ok principal ↔
      ∃ claims, decodeWithJwks jwt client raw now fetched
          (tokenOptions settings settings.jwtAlgorithms) = .ok (some claims) ∧
        principalOfClaims claims = .ok principal := by
  rw [authenticateCredentials, decodeToken]
  rcases decodeWithJwks jwt client raw now fetched (tokenOptions settings settings.jwtAlgorithms)
    with error | _ | claims
  · by_cases expired : error.kind = .expiredSignature
    · simp [expired]
    · simp [expired, decodeFallback, alone]
  · simp [decodeFallback, alone]
  · simp only [Except.ok.injEq, Option.some.injEq, exists_eq_left']
    rcases principalOfClaims claims with (message | _) | person
    · simp
    · simp
    · simp

/-- Two audiences are both named by a list alone. -/
theorem namesBoth_iff (apart : settings.identityAudience ≠ deletionAudience) :
    namesAudience claims deletionAudience = true ∧
        namesAudience claims settings.identityAudience = true ↔ NamesBoth settings claims := by
  rw [namesAudience, namesAudience, NamesBoth]
  rcases claims.get "aud" with _ | aud
  · simp
  cases aud with
  | str text =>
    simp only [decide_eq_true_eq]
    refine iff_of_false ?_ ?_
    · rintro ⟨rfl, same⟩
      exact apart same.symm
    · rintro ⟨items, same, _⟩
      cases same
  | arr items =>
    simp only [List.any_eq_true, Json.isText_iff, Option.some.injEq, Json.arr.injEq,
      exists_eq_left', exists_eq_right]
  | _ => simp

theorem assertionOptions_accepts (issuer : settings.identityIssuer ≠ []) (algorithms : List PyStr) :
    (assertionOptions settings algorithms).accepts claims now = true ↔
      (∀ key ∈ ["exp", "iat", "aud", "company_id"], (claims.get key).any (!·.isNull) = true) ∧
        unexpired claims now = true ∧
        (claims.get "iss").any (·.isText settings.identityIssuer) = true ∧
        namesAudience claims deletionAudience = true := by
  simp only [DecodeOptions.accepts, assertionOptions, whenSet, issuer, if_false, Option.all_some,
    Bool.and_eq_true, List.all_eq_true, and_assoc]

theorem tokenOptions_accepts (issuer : settings.identityIssuer ≠ [])
    (audience : settings.identityAudience ≠ []) (algorithms : List PyStr) :
    (tokenOptions settings algorithms).accepts claims now = true ↔
      (∀ key ∈ ["exp"], (claims.get key).any (!·.isNull) = true) ∧ unexpired claims now = true ∧
        (claims.get "iss").any (·.isText settings.identityIssuer) = true ∧
        namesAudience claims settings.identityAudience = true := by
  simp only [DecodeOptions.accepts, tokenOptions, whenSet, issuer, audience, if_false,
    Option.all_some, Bool.and_eq_true, List.all_eq_true, and_assoc]

/-- The verifiers are separate exactly on the tokens that do not name both audiences, or fail
another check of one of them. -/
theorem separate_iff (documented : jwt.Documented) (alone : settings.fallbackEnabled = false)
    (issuer : settings.identityIssuer ≠ []) (audience : settings.identityAudience ≠ [])
    (apart : settings.identityAudience ≠ deletionAudience) :
    Separate settings jwt ofSecret raw now keys ↔
      ∀ claims, PassesBoth settings jwt raw now keys claims → ¬ NamesBoth settings claims := by
  constructor
  · intro separate claims passes both
    obtain ⟨forAssertion, forUser⟩ := (namesBoth_iff apart).mpr both
    obtain ⟨company, checked⟩ := passes.assertion
    obtain ⟨principal, person⟩ := passes.person
    refine separate.apart ⟨company, principal,
      (verifyDeletionAssertion_ok_iff alone).mpr ⟨claims, ?_, checked⟩,
      (authenticateCredentials_ok_iff alone).mpr ⟨claims, ?_, person⟩⟩
    · refine (decodeWithJwks_ok_iff documented _).mpr ⟨passes.payload, ?_, ?_⟩
      · obtain ⟨key, looked, signed⟩ := passes.assertionKey
        exact ⟨key, looked, rs256, List.mem_singleton.mpr rfl, signed⟩
      · exact (assertionOptions_accepts issuer _).mpr
          ⟨passes.required, passes.unexpired, passes.issuer, forAssertion⟩
    · refine (decodeWithJwks_ok_iff documented _).mpr ⟨passes.payload, passes.userKey, ?_⟩
      refine (tokenOptions_accepts issuer audience _).mpr
        ⟨?_, passes.unexpired, passes.issuer, forUser⟩
      exact List.forall_mem_singleton.mpr (passes.required "exp" List.mem_cons_self)
  · intro covered
    constructor
    · rintro ⟨company, principal, asserted, authenticated⟩
      obtain ⟨claims, decoded, checked⟩ := (verifyDeletionAssertion_ok_iff alone).mp asserted
      obtain ⟨others, verified, person⟩ := (authenticateCredentials_ok_iff alone).mp authenticated
      obtain ⟨payload, ⟨key, looked, algorithm, member, signed⟩, accepted⟩ :=
        (decodeWithJwks_ok_iff documented _).mp decoded
      obtain ⟨samePayload, userKey, userAccepted⟩ := (decodeWithJwks_ok_iff documented _).mp verified
      obtain rfl := Option.some.inj (payload.symm.trans samePayload)
      obtain rfl := List.mem_singleton.mp member
      obtain ⟨required, unexpired, issued, forAssertion⟩ :=
        (assertionOptions_accepts issuer _).mp accepted
      obtain ⟨_, _, _, forUser⟩ := (tokenOptions_accepts issuer audience _).mp userAccepted
      exact covered claims ⟨payload, ⟨key, looked, signed⟩, userKey, required, unexpired, issued,
        ⟨company, checked⟩, ⟨principal, person⟩⟩ ((namesBoth_iff apart).mp ⟨forAssertion, forUser⟩)
    · intro company asserted
      obtain ⟨claims, decoded, checked⟩ := (verifyDeletionAssertion_ok_iff alone).mp asserted
      obtain ⟨payload, _⟩ := (decodeWithJwks_ok_iff documented _).mp decoded
      obtain ⟨positive, named, exp, iat, expires, issued, short⟩ := checkAssertion_ok checked
      exact ⟨positive, claims, exp, iat, payload, expires, issued, short, named⟩

end

/-! ### A token for both -/

def separateSettings : TokenSettings where
  jwtAlgorithms := [rs256]
  identityIssuer := lit "identity"
  identityAudience := lit "hosting"
  jwtHs256FallbackSecret := []
  debug := false
  allowJwtHs256Fallback := false

/-- A token of the identity service for a company and a person, for these audiences. -/
def audienceToken (audience : Json) : SignedToken where
  header := ⟨some (lit "kid-1"), lit "'kid-1'"⟩
  claims := [(lit "iss", .str (lit "identity")), (lit "aud", audience), (lit "iat", .int 1000),
    (lit "exp", .int 1100), (lit "scope", .str deletionScope), (lit "company_id", .int 7),
    (lit "user_id", .int 1)]
  key := lit "key"
  algorithm := rs256

def oneAudience : PyJwt PyStr := signedJwt fun _ => some (audienceToken (.str (lit "hosting")))

def bothAudiences : PyJwt PyStr :=
  signedJwt fun _ => some (audienceToken (.arr [.str (lit "hosting"), .str deletionAudience]))

def bothKeys : Verifiers PyStr := ⟨oneKey, noAnswer, oneKey, noAnswer⟩

theorem separate_oneAudience :
    Separate separateSettings oneAudience id (lit "a.b.c") 1050 bothKeys ↔
      ∀ claims, PassesBoth separateSettings oneAudience (lit "a.b.c") 1050 bothKeys claims →
        ¬ NamesBoth separateSettings claims :=
  separate_iff (signedJwt_documented _) (by decide) (by decide) (by decide) (by decide)

/-- A token that lists both audiences is an assertion and a user token at once. -/
theorem bothAudiences_accepted :
    ∃ company principal,
      verifyDeletionAssertion separateSettings bothAudiences id oneKey (lit "a.b.c") 1050 noAnswer =
        .ok company ∧
      authenticateCredentials separateSettings bothAudiences id oneKey (lit "a.b.c") 1050 noAnswer =
        .ok principal :=
  ⟨7, ⟨1, some 7, false, false, false⟩, rfl, rfl⟩

end HostingService
