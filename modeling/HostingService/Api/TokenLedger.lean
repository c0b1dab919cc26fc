import HostingService.Api.Principals
import Mathlib.Data.List.Forall2

/-! The life of deploy tokens: what creates have returned, and which of it still resolves. -/

namespace HostingService

open Program Text Storage

/-- What a create has returned: the row and the raw text, and whether it was revoked. -/
structure IssuedToken where
  new : NewDeployToken
  token : DeployToken
  revoked : Bool

structure TokenState where
  clock : Time
  tokens : List DeployToken
  issued : List IssuedToken

inductive TokenEvent where
  | create (new : NewDeployToken)
  | revoke (id : Uuid)
  | resolve (raw : PyStr)
  | pass (elapsed : Nat)

namespace TokenState
variable (sha256 : Bytes → PyStr)

def next (state : TokenState) : TokenEvent → TokenState
  | .create new =>
    match createDeployToken sha256 new state.clock state.tokens with
    | .ok token =>
      { state with
        tokens := state.tokens ++ [token]
        issued := state.issued ++ [⟨new, token, false⟩] }
    | .error _ => state
  | .revoke id =>
    { state with
      tokens := revokeDeployToken id state.clock state.tokens
      issued := state.issued.map fun issue =>
        if issue.token.id = id then { issue with revoked := true } else issue }
  | .resolve raw =>
    match resolveDeployToken sha256 raw state.clock state.tokens with
    | .ok token => { state with tokens := touchToken token state.clock state.tokens }
    | .error _ => state
  | .pass elapsed => { state with clock := state.clock + elapsed }

/-- A history, from a database without tokens. -/
def run (start : Time) (events : List TokenEvent) : TokenState :=
  events.foldl (next sha256) ⟨start, [], []⟩

end TokenState

/-- The row as it was created. -/
def DeployToken.asIssued (token : DeployToken) : DeployToken :=
  { token with lastUsedAt := none, revokedAt := none }

/-- `expires_at` is empty or later. -/
def DeployToken.lasts (token : DeployToken) (now : Time) : Prop :=
  ∀ expires, token.expiresAt = some expires → now < expires

/-- A row and what was returned for it. -/
structure IssuedToken.Matches (sha256 : Bytes → PyStr) (issue : IssuedToken) (row : DeployToken) :
    Prop where
  kept : row.asIssued = issue.token
  revoked : row.revokedAt.isSome = issue.revoked
  hash : hashToken sha256 issue.new.raw = some row.tokenHash
  lookup : row.lookup = issue.new.raw.take lookupLength
  company : row.companyId = issue.new.companyId

/-- Invariant: the rows are what was issued, each with a hash of its own. -/
structure TokenState.Accounted (sha256 : Bytes → PyStr) (state : TokenState) : Prop where
  rows : List.Forall₂ (IssuedToken.Matches sha256) state.issued state.tokens
  hashes : (state.tokens.map (·.tokenHash)).Nodup

/-- No issued text has the hash of the other text. -/
def NoCollision (sha256 : Bytes → PyStr) (raw : PyStr) (issued : List IssuedToken) : Prop :=
  ∀ issue ∈ issued, hashToken sha256 issue.new.raw = hashToken sha256 raw → issue.new.raw = raw

section
variable {sha256 : Bytes → PyStr} {state : TokenState}

theorem createDeployToken_issued {new : NewDeployToken} {now : Time} {tokens : List DeployToken}
    {token : DeployToken} (created : createDeployToken sha256 new now tokens = .ok token) :
    IssuedToken.Matches sha256 ⟨new, token, false⟩ token ∧
      token.tokenHash ∉ tokens.map (·.tokenHash) := by
  simp only [createDeployToken] at created
  split at created
  · contradiction
  · split at created
    · contradiction
    · split at created
      · contradiction
      · rename_i tokenHash hashed
        split at created
        · contradiction
        · rename_i free
          obtain rfl := Except.ok.inj created
          refine ⟨⟨rfl, rfl, hashed, rfl, rfl⟩, fun member => free ?_⟩
          obtain ⟨other, present, same⟩ := List.mem_map.mp member
          exact List.any_eq_true.mpr ⟨other, present, decide_eq_true (.inr same)⟩

/-- The rows that resolving reads. -/
theorem resolveDeployToken_ok {raw : PyStr} {now : Time} {tokens : List DeployToken}
    {token : DeployToken} (resolved : resolveDeployToken sha256 raw now tokens = .ok token) :
    token ∈ tokens ∧ hashToken sha256 raw = some token.tokenHash ∧ token.revokedAt = none ∧
      token.lasts now := by
  have member := resolveDeployToken_mem resolved
  rw [resolveDeployToken] at resolved
  split at resolved
  · contradiction
  · rename_i digest hashed
    split at resolved
    · contradiction
    · rename_i found
      have same := List.find?_some found
      split at resolved
      · contradiction
      · rename_i live
        split at resolved
        · contradiction
        · rename_i lasting
          obtain rfl := Except.ok.inj resolved
          refine ⟨member, ?_, by simpa using live, fun expires given => ?_⟩
          · rw [hashed, of_decide_eq_true same]
          · simpa [given] using lasting

/-- A row with the hash and the prefix of the text resolves while it is live. -/
theorem resolveDeployToken_live {raw : PyStr} {now : Time} {tokens : List DeployToken}
    {token : DeployToken} (hashes : (tokens.map (·.tokenHash)).Nodup) (member : token ∈ tokens)
    (hashed : hashToken sha256 raw = some token.tokenHash)
    (lookup : token.lookup = raw.take lookupLength) (live : token.revokedAt = none)
    (lasting : token.lasts now) : resolveDeployToken sha256 raw now tokens = .ok token := by
  have found : (tokens.filter (·.lookup = raw.take lookupLength)).find?
      (·.tokenHash = token.tokenHash) = some token := by
    have present : token ∈ tokens.filter (·.lookup = raw.take lookupLength) :=
      List.mem_filter.mpr ⟨member, decide_eq_true lookup⟩
    rcases result : (tokens.filter (·.lookup = raw.take lookupLength)).find?
      (·.tokenHash = token.tokenHash) with _ | row
    · exact absurd (decide_eq_true rfl) (List.find?_eq_none.mp result token present)
    · have same : row.tokenHash = token.tokenHash := by simpa using List.find?_some result
      have inside := List.mem_of_mem_filter (List.mem_of_find?_eq_some result)
      rw [result, List.inj_on_of_nodup_map hashes inside member same]
  rw [resolveDeployToken, hashed]
  dsimp only
  rw [found]
  dsimp only
  rw [live, if_neg (by simp), if_neg]
  rw [Option.any_eq_true]
  rintro ⟨expires, given, past⟩
  exact absurd (lasting expires given) (not_lt.mpr (of_decide_eq_true past))

/-! ### The ledger accounts for the rows -/

theorem IssuedToken.Matches.revoke {issue : IssuedToken} {row : DeployToken}
    (matched : issue.Matches sha256 row) (id : Uuid) (now : Time) :
    (if issue.token.id = id then { issue with revoked := true } else issue).Matches sha256
      (if row.id = id ∧ row.revokedAt = none then { row with revokedAt := some now } else row) := by
  have ids : issue.token.id = row.id := by rw [← matched.kept, DeployToken.asIssued]
  have before := matched.revoked
  by_cases named : row.id = id
  · rw [if_pos (ids.trans named)]
    by_cases live : row.revokedAt = none
    · rw [if_pos ⟨named, live⟩]
      exact ⟨matched.kept, rfl, matched.hash, matched.lookup, matched.company⟩
    · rw [if_neg (fun both => live both.2)]
      exact ⟨matched.kept, Option.isSome_iff_ne_none.mpr live, matched.hash, matched.lookup,
        matched.company⟩
  · rw [if_neg (fun same => named (ids.symm.trans same)), if_neg (fun both => named both.1)]
    exact matched

theorem IssuedToken.Matches.touch {issue : IssuedToken} {row : DeployToken}
    (matched : issue.Matches sha256 row) (id : Uuid) (now : Time) :
    issue.Matches sha256 (if row.id = id then { row with lastUsedAt := some now } else row) := by
  split
  · exact ⟨matched.kept, matched.revoked, matched.hash, matched.lookup, matched.company⟩
  · exact matched

theorem forall₂_map_both {α β : Type} {R : α → β → Prop} {f : α → α} {g : β → β}
    {left : List α} {right : List β} (related : List.Forall₂ R left right)
    (step : ∀ a b, R a b → R (f a) (g b)) : List.Forall₂ R (left.map f) (right.map g) := by
  rw [List.forall₂_map_left_iff, List.forall₂_map_right_iff]
  exact related.imp step

theorem TokenState.Accounted.next (accounted : state.Accounted sha256) (event : TokenEvent) :
    (state.next sha256 event).Accounted sha256 := by
  cases event with
  | create new =>
    rw [TokenState.next]
    split
    · rename_i token created
      obtain ⟨matched, fresh⟩ := createDeployToken_issued created
      constructor
      · exact List.rel_append accounted.rows (.cons matched .nil)
      · rw [List.map_append, List.map_singleton]
        exact List.Nodup.append accounted.hashes (List.nodup_singleton _)
          (List.disjoint_singleton.mpr fresh)
    · exact accounted
  | revoke id =>
    constructor
    · exact forall₂_map_both accounted.rows fun issue row matched => matched.revoke id state.clock
    · have same : (revokeDeployToken id state.clock state.tokens).map (·.tokenHash) =
          state.tokens.map (·.tokenHash) := update_map fun _ _ _ => rfl
      rw [TokenState.next, same]
      exact accounted.hashes
  | resolve raw =>
    rw [TokenState.next]
    split
    · rename_i token _
      have same : (touchToken token state.clock state.tokens).map (·.tokenHash) =
          state.tokens.map (·.tokenHash) := by
        rw [touchToken]
        split
        · exact update_map fun _ _ _ => rfl
        · rfl
      constructor
      · rw [touchToken]
        split
        · exact List.forall₂_map_right_iff.mpr
            (accounted.rows.imp fun issue row matched => matched.touch token.id state.clock)
        · exact accounted.rows
      · rw [same]
        exact accounted.hashes
    · exact accounted
  | pass elapsed => exact ⟨accounted.rows, accounted.hashes⟩

theorem TokenState.run_accounted (sha256 : Bytes → PyStr) (start : Time)
    (events : List TokenEvent) : (TokenState.run sha256 start events).Accounted sha256 := by
  induction events using List.reverseRecOn with
  | nil => exact ⟨.nil, .nil⟩
  | append_singleton earlier event ih =>
    rw [TokenState.run, List.foldl_append]
    exact ih.next event

theorem forall₂_left {α β : Type} {R : α → β → Prop} {left : List α} {right : List β}
    (related : List.Forall₂ R left right) {a : α} (member : a ∈ left) : ∃ b ∈ right, R a b := by
  induction related with
  | nil => exact absurd member List.not_mem_nil
  | cons first _ ih =>
    rcases List.mem_cons.mp member with rfl | later
    · exact ⟨_, List.mem_cons_self, first⟩
    · obtain ⟨b, present, holds⟩ := ih later
      exact ⟨b, List.mem_cons_of_mem _ present, holds⟩

theorem forall₂_right {α β : Type} {R : α → β → Prop} {left : List α} {right : List β}
    (related : List.Forall₂ R left right) {b : β} (member : b ∈ right) : ∃ a ∈ left, R a b :=
  forall₂_left related.flip member

/-! ### What was issued stays issued -/

/-- The same return of a create, at most revoked since. -/
def IssuedToken.Becomes (issue later : IssuedToken) : Prop :=
  later.new = issue.new ∧ later.token = issue.token ∧ (issue.revoked = true → later.revoked = true)

theorem TokenState.next_issued {issue : IssuedToken} (member : issue ∈ state.issued)
    (event : TokenEvent) : state.clock ≤ (state.next sha256 event).clock ∧
      ∃ later ∈ (state.next sha256 event).issued, issue.Becomes later := by
  cases event with
  | create new =>
    rw [TokenState.next]
    split
    · exact ⟨le_rfl, issue, List.mem_append_left _ member, rfl, rfl, id⟩
    · exact ⟨le_rfl, issue, member, rfl, rfl, id⟩
  | revoke tokenId =>
    refine ⟨le_rfl, _, List.mem_map_of_mem member, ?_⟩
    split
    · exact ⟨rfl, rfl, fun _ => rfl⟩
    · exact ⟨rfl, rfl, id⟩
  | resolve raw =>
    rw [TokenState.next]
    split
    · exact ⟨le_rfl, issue, member, rfl, rfl, id⟩
    · exact ⟨le_rfl, issue, member, rfl, rfl, id⟩
  | pass elapsed =>
    exact ⟨Int.le_add_of_nonneg_right (Int.natCast_nonneg _), issue, member, rfl, rfl, id⟩

theorem TokenState.foldl_issued {issue : IssuedToken} (member : issue ∈ state.issued)
    (events : List TokenEvent) : state.clock ≤ (events.foldl (next sha256) state).clock ∧
      ∃ later ∈ (events.foldl (next sha256) state).issued, issue.Becomes later := by
  induction events generalizing state issue with
  | nil => exact ⟨le_rfl, issue, member, rfl, rfl, id⟩
  | cons event rest ih =>
    obtain ⟨forward, next, present, becomes⟩ := state.next_issued member event
    obtain ⟨further, later, found, becomes'⟩ := ih present
    exact ⟨forward.trans further, later, found, becomes'.1.trans becomes.1,
      becomes'.2.1.trans becomes.2.1, fun revoked => becomes'.2.2 (becomes.2.2 revoked)⟩

/-- The row that an issued text resolves to is the one that was issued with it. -/
theorem TokenState.Accounted.resolved (accounted : state.Accounted sha256) {issue : IssuedToken}
    (member : issue ∈ state.issued) {token : DeployToken}
    (resolved : resolveDeployToken sha256 issue.new.raw state.clock state.tokens = .ok token) :
    issue.Matches sha256 token ∧ token.revokedAt = none ∧ token.lasts state.clock := by
  obtain ⟨present, hashed, live, lasting⟩ := resolveDeployToken_ok resolved
  obtain ⟨row, inside, matched⟩ := forall₂_left accounted.rows member
  have same : row.tokenHash = token.tokenHash := Option.some.inj (matched.hash.symm.trans hashed)
  obtain rfl := List.inj_on_of_nodup_map accounted.hashes inside present same
  exact ⟨matched, live, lasting⟩

/-- A raw text resolves exactly when a create returned it with a token that is neither revoked
nor expired, and to this token; what is revoked or expired never resolves again. -/
theorem deploy_tokens_resolve (sha256 : Bytes → PyStr) (start : Time) (events : List TokenEvent) :
    let state := TokenState.run sha256 start events
    (∀ raw, NoCollision sha256 raw state.issued → ∀ token,
      resolveDeployToken sha256 raw state.clock state.tokens = .ok token ↔
        ∃ issue ∈ state.issued, issue.new.raw = raw ∧ issue.revoked = false ∧
          issue.token.lasts state.clock ∧ token ∈ state.tokens ∧ token.asIssued = issue.token ∧
            token.principal.companyId = some issue.new.companyId) ∧
    ∀ issue ∈ state.issued, issue.revoked = true ∨ ¬ issue.token.lasts state.clock →
      ∀ (later : List TokenEvent) (token : DeployToken),
        resolveDeployToken sha256 issue.new.raw (TokenState.run sha256 start (events ++ later)).clock
          (TokenState.run sha256 start (events ++ later)).tokens ≠ .ok token := by
  intro state
  have accounted : state.Accounted sha256 := TokenState.run_accounted sha256 start events
  refine ⟨fun raw apart token => ⟨fun resolved => ?_, ?_⟩, ?_⟩
  · obtain ⟨present, hashed, live, lasting⟩ := resolveDeployToken_ok resolved
    obtain ⟨issue, member, matched⟩ := forall₂_right accounted.rows present
    have same := apart issue member (matched.hash.trans hashed.symm)
    have expires : issue.token.expiresAt = token.expiresAt := by
      rw [← matched.kept, DeployToken.asIssued]
    refine ⟨issue, member, same, ?_, ?_, present, matched.kept, congrArg some matched.company⟩
    · rw [← matched.revoked, live]
      rfl
    · intro expiry given
      exact lasting expiry (expires ▸ given)
  · rintro ⟨issue, member, rfl, live, lasting, present, kept, _⟩
    obtain ⟨row, inside, matched⟩ := forall₂_left accounted.rows member
    have same : row.tokenHash = token.tokenHash := by
      have issued (row : DeployToken) : row.asIssued.tokenHash = row.tokenHash := rfl
      rw [← issued row, matched.kept, ← kept, issued]
    obtain rfl := List.inj_on_of_nodup_map accounted.hashes inside present same
    refine resolveDeployToken_live accounted.hashes inside matched.hash matched.lookup ?_ ?_
    · have revoked := matched.revoked
      rw [live, Option.isSome_eq_false_iff, Option.isNone_iff_eq_none] at revoked
      exact revoked
    · intro expires given
      apply lasting expires
      rw [← kept, DeployToken.asIssued]
      exact given
  · intro issue member ended later token resolved
    have run : TokenState.run sha256 start (events ++ later) = later.foldl (.next sha256) state :=
      List.foldl_append
    rw [run] at resolved
    obtain ⟨forward, now, present, new, kept, revoked⟩ :=
      @TokenState.foldl_issued sha256 state issue member later
    have counts : (later.foldl (TokenState.next sha256) state).Accounted sha256 :=
      run ▸ TokenState.run_accounted sha256 start (events ++ later)
    rw [← new] at resolved
    obtain ⟨matched, live, lasting⟩ := counts.resolved present resolved
    rcases ended with gone | past
    · have marked := matched.revoked
      rw [revoked gone, live] at marked
      cases marked
    · apply past
      intro expires given
      apply lt_of_le_of_lt forward
      apply lasting
      rw [← given, ← kept, ← matched.kept, DeployToken.asIssued]

end

/-- SHA-256 on one text. -/
def demoSha256 (bytes : Bytes) : PyStr :=
  if bytes = (lit "shellui_dt_Qm9hcmQ").flatMap encodeChar then
    lit "1568615723aed6ec60a45a00af0b5e2688c307e67739ba37b66ee32c8d943d08"
  else []

def demoNewToken : NewDeployToken where
  companyId := 7
  name := lit "GitHub"
  createdById := some 1
  expiresInDays := some 30
  tokenId := ⟨1⟩
  secret := lit "Qm9hcmQ"

def demoRow : DeployToken where
  id := ⟨1⟩
  companyId := 7
  name := lit "GitHub"
  lookup := lit "shellui_dt_Qm9hcmQ"
  tokenHash := lit "1568615723aed6ec60a45a00af0b5e2688c307e67739ba37b66ee32c8d943d08"
  createdById := some 1
  createdAt := 0
  lastUsedAt := none
  expiresAt := some (30 * microsecondsPerDay)
  revokedAt := none

theorem deploy_tokens_resolve_demo :
    resolveDeployToken demoSha256 (lit "shellui_dt_Qm9hcmQ") 5 [demoRow] = .ok demoRow :=
  ((deploy_tokens_resolve demoSha256 0 [.create demoNewToken, .pass 5]).1 (lit "shellui_dt_Qm9hcmQ")
    (fun issue member _ => by
      obtain rfl := List.mem_singleton.mp
        (show issue ∈ [(⟨demoNewToken, demoRow, false⟩ : IssuedToken)] from member)
      rfl) demoRow).mpr
    ⟨⟨demoNewToken, demoRow, false⟩, List.mem_singleton_self _, rfl, rfl,
      fun expires given => Option.some.inj given ▸ by decide, List.mem_singleton_self _, rfl, rfl⟩

end HostingService
