import HostingService.Actions.Transport
import HostingService.Program.Tables

/-! Company deploy tokens for preview deploys: `shellui_dt_...` in the `Authorization`
header, of which the database has a lookup prefix and a hash. -/

namespace HostingService

open Program Text Storage

structure DeployToken where
  id : Uuid
  companyId : Nat
  name : PyStr
  lookup : PyStr
  tokenHash : PyStr
  createdById : Option Nat
  createdAt : Time
  lastUsedAt : Option Time
  expiresAt : Option Time
  revokedAt : Option Time
  deriving DecidableEq

def tokenPrefix : PyStr := lit "shellui_dt_"

def lookupLength : Nat := tokenPrefix.length + 8

def touchEvery : Time := 60 * 1000000

def isSurrogate (c : Nat) : Bool := 0xD800 ≤ c && c ≤ 0xDFFF

/-- `raw.encode('utf-8')`; a lone surrogate has no encoding. -/
def encodeUtf8 (text : PyStr) : Option Bytes :=
  if text.any isSurrogate then none else some (text.flatMap encodeChar)

section
variable (sha256 : Bytes → PyStr)

/-- `sha256` is `hashlib.sha256(...).hexdigest()`. -/
def hashToken (raw : PyStr) : Option PyStr := (encodeUtf8 raw).map sha256

/-- `UnicodeEncodeError` is a `ValueError`. -/
def surrogatesNotAllowed : Error := .valueError (lit "'utf-8' codec can't encode: surrogates not allowed")

structure NewDeployToken where
  companyId : Nat
  name : PyStr
  createdById : Option Nat
  expiresInDays : Option Int
  tokenId : Uuid
  /-- `secrets.token_urlsafe(32)` -/
  secret : PyStr

def NewDeployToken.raw (new : NewDeployToken) : PyStr := tokenPrefix ++ new.secret

def createDeployToken (new : NewDeployToken) (now : Time) (tokens : List DeployToken) :
    Except Error DeployToken :=
  let label := (strip new.name).take 100
  if label = [] then .error (.valueError (lit "Token name is required."))
  else if new.expiresInDays.any fun days => days < 1 || 366 < days then
    .error (.valueError (lit "expires_in_days must be between 1 and 366."))
  else
    match hashToken sha256 new.raw with
    | none => .error surrogatesNotAllowed
    | some tokenHash =>
      if tokens.any fun other => other.id = new.tokenId ∨ other.tokenHash = tokenHash then
        .error .integrityError
      else
        .ok
          { id := new.tokenId
            companyId := new.companyId
            name := label
            lookup := new.raw.take lookupLength
            tokenHash := tokenHash
            createdById := new.createdById
            createdAt := now
            lastUsedAt := none
            expiresAt := new.expiresInDays.map fun days => now + days * microsecondsPerDay
            revokedAt := none }

/-- `revoke_deploy_token`, on the row with the primary key. -/
def revokeDeployToken (id : Uuid) (now : Time) (tokens : List DeployToken) : List DeployToken :=
  update (fun row => row.id = id ∧ row.revokedAt = none)
    (fun row => { row with revokedAt := some now }) tokens

/-! ### Resolving -/

inductive TokenError where
  | invalid
  | revoked
  | expired
  | notEncodable
  deriving DecidableEq

/-- The token of a raw text that may be used now. -/
def resolveDeployToken (raw : PyStr) (now : Time) (tokens : List DeployToken) :
    Except TokenError DeployToken :=
  match hashToken sha256 raw with
  | none => .error .notEncodable
  | some digest =>
    match (tokens.filter (·.lookup = raw.take lookupLength)).find? (·.tokenHash = digest) with
    | none => .error .invalid
    | some token =>
      if token.revokedAt.isSome then .error .revoked
      else if token.expiresAt.any (· ≤ now) then .error .expired
      else .ok token

/-- The update of `last_used_at`, at most once in a minute. -/
def touchToken (token : DeployToken) (now : Time) (tokens : List DeployToken) : List DeployToken :=
  if token.lastUsedAt.all fun used => touchEvery < now - used then
    update (·.id = token.id) (fun row => { row with lastUsedAt := some now }) tokens
  else tokens

end

theorem resolveDeployToken_mem {sha256 : Bytes → PyStr} {raw : PyStr} {now : Time}
    {tokens : List DeployToken} {token : DeployToken}
    (resolved : resolveDeployToken sha256 raw now tokens = .ok token) : token ∈ tokens := by
  rw [resolveDeployToken] at resolved
  split at resolved
  · contradiction
  · split at resolved
    · contradiction
    · rename_i found
      split at resolved
      · contradiction
      · split at resolved
        · contradiction
        · obtain rfl := Except.ok.inj resolved
          exact List.mem_of_mem_filter (List.mem_of_find?_eq_some found)

/-- A new token is of the company and has a key of its own. -/
theorem createDeployToken_ok {sha256 : Bytes → PyStr} {new : NewDeployToken} {now : Time}
    {tokens : List DeployToken} {token : DeployToken}
    (created : createDeployToken sha256 new now tokens = .ok token) :
    token.companyId = new.companyId ∧ ∀ other ∈ tokens, other.id ≠ token.id := by
  simp only [createDeployToken] at created
  split at created
  · contradiction
  · split at created
    · contradiction
    · split at created
      · contradiction
      · split at created
        · contradiction
        · rename_i free
          obtain rfl := Except.ok.inj created
          refine ⟨rfl, fun other member same => free (List.any_eq_true.mpr ⟨other, member, ?_⟩)⟩
          exact decide_eq_true (.inl same)

theorem revokeDeployToken_ids (id : Uuid) (now : Time) (tokens : List DeployToken) :
    (revokeDeployToken id now tokens).map (·.id) = tokens.map (·.id) := update_map fun _ _ _ => rfl

theorem touchToken_ids (token : DeployToken) (now : Time) (tokens : List DeployToken) :
    (touchToken token now tokens).map (·.id) = tokens.map (·.id) := by
  rw [touchToken]
  split
  · exact update_map fun row _ _ => rfl
  · rfl

/-- The row without `last_used_at`. -/
def DeployToken.untouched (token : DeployToken) : DeployToken := { token with lastUsedAt := none }

theorem touchToken_untouched (token : DeployToken) (now : Time) (tokens : List DeployToken) :
    (touchToken token now tokens).map (·.untouched) = tokens.map (·.untouched) := by
  rw [touchToken]
  split
  · exact update_map fun row _ _ => rfl
  · rfl

end HostingService
