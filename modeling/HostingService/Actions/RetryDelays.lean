import HostingService.Actions.Classification
import Mathlib.Algebra.Order.Ring.Int

/-! What a `Retry-After` header may do to a delivery: move its next attempt, but not its outcome. -/

namespace HostingService

open Program Text Storage OutboxTransaction

/-- The header is no number for `str.isdigit`, or one that `int` reads: decimal digits without
superscripts, and at most 4300 of them. -/
def NumberReadable (value : Option PyStr) : Prop :=
  (strip (value.getD [])).all isLatinDigit = true →
    (strip (value.getD [])).all isDecimal = true ∧ (strip (value.getD [])).length ≤ 4300

instance : DecidablePred NumberReadable := fun _ => inferInstanceAs (Decidable (_ → _))

def HttpResponse.withoutRetryAfter (response : HttpResponse) : HttpResponse :=
  { response with retryAfter := none }

/-- Reading the header never raises and gives no negative delay, and what becomes of a row does
not depend on the header that came with the HTTP status. -/
structure HeaderHarmless (library : ActionsLibrary) (value : Option PyStr) : Prop where
  parsed : ∀ world, ∃ seconds, (parseRetryAfterHeader library value).run DeliveryCall.handle world =
    (.ok seconds, world) ∧ ∀ delay ∈ seconds, 0 ≤ delay
  webhook : ∀ settings world bare row response correlation, response.retryAfter = value →
    WebhookAnswered settings library world row response →
    WebhookAnswered settings library bare row response.withoutRetryAfter →
    (decisionAfter settings library world correlation row.id).map (·.status) =
      (decisionAfter settings library bare correlation row.id).map (·.status)
  email : ∀ settings world bare row response correlation, response.retryAfter = value →
    EmailAnswered settings world row response →
    EmailAnswered settings bare row response.withoutRetryAfter →
    (decisionAfter settings library world correlation row.id).map (·.status) =
      (decisionAfter settings library bare correlation row.id).map (·.status)

/-- The documented delay before the attempt after this one. -/
def documentedDelay (status : Option Nat) (retryAfter : Option Int) (attempt : Nat) : Int :=
  match retryAfter with
  | some seconds =>
    if status = some 429 ∨ status = some 503 then min 3600 (max (backoffSeconds attempt) seconds)
    else backoffSeconds attempt
  | none => backoffSeconds attempt

/-- The law of the delays, for every attempt, status and delay that a header may ask for. -/
structure DelayLaw : Prop where
  documented : ∀ status retryAfter attempt, 1 ≤ attempt →
    computeRetryDelaySeconds status retryAfter (backoffSeconds attempt) =
      documentedDelay status retryAfter attempt
  backoff : ∀ attempt, 1 ≤ attempt → backoffSeconds attempt = min 3600 (30 * 2 ^ (attempt - 1))
  bounded : ∀ status retryAfter attempt, 1 ≤ attempt →
    1 ≤ computeRetryDelaySeconds status retryAfter (backoffSeconds attempt) ∧
      computeRetryDelaySeconds status retryAfter (backoffSeconds attempt) ≤ 3600
  attempts : ∀ status retryAfter first later, 1 ≤ first → first ≤ later →
    computeRetryDelaySeconds status retryAfter (backoffSeconds first) ≤
      computeRetryDelaySeconds status retryAfter (backoffSeconds later)
  headers : ∀ status attempt shorter longer, 1 ≤ attempt → shorter ≤ longer →
    computeRetryDelaySeconds status (some shorter) (backoffSeconds attempt) ≤
      computeRetryDelaySeconds status (some longer) (backoffSeconds attempt)

/-! ### The delays -/

theorem backoffSeconds_pos (attempt : Nat) : 30 ≤ backoffSeconds attempt := by
  have power : (1 : Int) ≤ 2 ^ (attempt - 1) := one_le_pow₀ (by decide)
  rw [backoffSeconds]
  omega

theorem backoffSeconds_le (attempt : Nat) : backoffSeconds attempt ≤ 3600 := min_le_left _ _

theorem backoffSeconds_mono {first later : Nat} (order : first ≤ later) :
    backoffSeconds first ≤ backoffSeconds later := by
  have powers : (2 : Int) ^ (first - 1) ≤ 2 ^ (later - 1) :=
    pow_le_pow_right₀ (by decide) (Nat.sub_le_sub_right order 1)
  rw [backoffSeconds, backoffSeconds]
  omega

/-- The lower bound of the code is never reached. -/
theorem computeRetryDelaySeconds_documented (status : Option Nat) (retryAfter : Option Int)
    (attempt : Nat) : computeRetryDelaySeconds status retryAfter (backoffSeconds attempt) =
      documentedDelay status retryAfter attempt := by
  have low := backoffSeconds_pos attempt
  have high := backoffSeconds_le attempt
  unfold computeRetryDelaySeconds documentedDelay maxBackoffSeconds
  cases retryAfter with
  | none =>
    simp only
    omega
  | some seconds =>
    by_cases asked : status = some 429 ∨ status = some 503
    · simp only [asked, if_true]
      omega
    · simp only [asked, if_false]
      omega

theorem delayLaw : DelayLaw where
  documented status retryAfter attempt _ :=
    computeRetryDelaySeconds_documented status retryAfter attempt
  backoff _ _ := rfl
  bounded status retryAfter attempt _ :=
    ⟨le_min (by decide) (le_max_left _ _), min_le_left _ _⟩
  attempts status retryAfter first later _ order := by
    have mono := backoffSeconds_mono order
    rw [computeRetryDelaySeconds_documented, computeRetryDelaySeconds_documented]
    unfold documentedDelay
    cases retryAfter with
    | none => exact mono
    | some seconds =>
      by_cases asked : status = some 429 ∨ status = some 503
      · simp only [asked, if_true]
        omega
      · simp only [asked, if_false]
        exact mono
  headers status attempt shorter longer _ order := by
    rw [computeRetryDelaySeconds_documented, computeRetryDelaySeconds_documented]
    unfold documentedDelay
    by_cases asked : status = some 429 ∨ status = some 503
    · simp only [asked, if_true]
      omega
    · simp only [asked, if_false]
      exact le_rfl

/-! ### The header -/

section
variable {settings : ActionsSettings} {library : ActionsLibrary} {world bare : OutboxWorld}
  {response : HttpResponse} {value : Option PyStr}

theorem intOfDigits_isOk (raw : PyStr) :
    (intOfDigits raw).isOk = true ↔ raw.all isDecimal = true ∧ raw.length ≤ 4300 := by
  rw [intOfDigits]
  by_cases decimal : raw.all isDecimal = true
  · by_cases short : raw.length ≤ 4300
    · simp [decimal, short, Except.isOk, Except.toBool]
    · simp [decimal, short, Except.isOk, Except.toBool]
  · simp [decimal, Except.isOk, Except.toBool]

theorem retryAfterAt_isOk_iff (clock : Time) :
    (retryAfterAt library clock value).isOk = true ↔ NumberReadable value := by
  rw [retryAfterAt_isOk, Bool.or_eq_true, intOfDigits_isOk, NumberReadable]
  cases (strip (value.getD [])).all isLatinDigit <;> simp

/-- What is read is a delay, never a debt. -/
theorem retryAfterAt_nonneg {clock : Time} {seconds : Option Int}
    (read : retryAfterAt library clock value = .ok seconds) : ∀ delay ∈ seconds, 0 ≤ delay := by
  intro delay member
  rw [Option.mem_def] at member
  subst member
  simp only [retryAfterAt] at read
  split at read
  · exact absurd (Except.ok.inj read) (by simp)
  · split at read
    · rcases number : intOfDigits (strip (value.getD [])) with error | amount
      · rw [number] at read
        cases read
      · rw [number] at read
        have same := Except.ok.inj read
        simp only at same
        split at same
        · obtain rfl := Option.some.inj same
          exact le_max_left _ _
        · cases same
    · obtain ⟨target, _, rfl⟩ := Option.map_eq_some_iff.mp (Except.ok.inj read)
      exact le_max_left _ _

/-- The answer read with the header, and without it: the same but for the delay. -/
theorem readAnswer_header {clock : Time} (readable : NumberReadable response.retryAfter) :
    (∃ error, readAnswer library clock response = .error error ∧
        ∀ later, readAnswer library later response.withoutRetryAfter = .error error) ∨
      ∃ result, readAnswer library clock response = .ok result ∧ ∀ later,
        readAnswer library later response.withoutRetryAfter =
          .ok { result with retryAfterSeconds := none } := by
  have header := (@retryAfterAt_isOk_iff library _ clock).mpr readable
  have body : readResponseExcerpt response.withoutRetryAfter = readResponseExcerpt response := rfl
  have none (later : Time) : retryAfterAt library later response.withoutRetryAfter.retryAfter =
      .ok none := rfl
  rcases excerpt : readResponseExcerpt response with error | text
  · left
    refine ⟨error, ?_, fun later => ?_⟩
    · rw [readAnswer, excerpt]
      rfl
    · rw [readAnswer, body, excerpt]
      rfl
  · right
    rcases parsed : retryAfterAt library clock response.retryAfter with error | seconds
    · rw [parsed] at header
      contradiction
    · refine ⟨⟨response.status, text, seconds⟩, ?_, fun later => ?_⟩
      · rw [readAnswer, excerpt, parsed]
        rfl
      · rw [readAnswer, body, excerpt, none]
        rfl

/-- The status that a verdict leads to does not look at the delay or the clock. -/
theorem Verdict.decision_status (attempt : Nat) (first second : Time) {left right : Verdict}
    (success : left.success = right.success) (permanent : left.permanent = right.permanent) :
    (left.decision settings attempt first).status =
      (right.decision settings attempt second).status := by
  simp only [Verdict.decision, success, permanent]
  split
  · rfl
  · split <;> rfl

theorem webhookVerdict_header {clock later : Time} (attempt : Nat)
    (readable : NumberReadable response.retryAfter) :
    ((webhookVerdict (readAnswer library clock response)).decision settings attempt clock).status =
      ((webhookVerdict (readAnswer library later response.withoutRetryAfter)).decision settings
        attempt later).status := by
  rcases @readAnswer_header library _ clock readable with
    ⟨error, failed, bare⟩ | ⟨result, read, bare⟩
  · rw [failed, bare]
    exact Verdict.decision_status attempt clock later rfl rfl
  · rw [read, bare]
    apply Verdict.decision_status
    · simp only [webhookVerdict]
      split <;> rfl
    · simp only [webhookVerdict]
      split <;> rfl

theorem emailVerdict_header {clock later : Time} (attempt : Nat)
    (readable : NumberReadable response.retryAfter) :
    ((emailVerdict settings (readAnswer library clock response)).decision settings attempt
        clock).status =
      ((emailVerdict settings (readAnswer library later response.withoutRetryAfter)).decision settings
        attempt later).status := by
  rcases @readAnswer_header library _ clock readable with
    ⟨error, failed, bare⟩ | ⟨result, read, bare⟩
  · rw [failed, bare]
    exact Verdict.decision_status attempt clock later rfl rfl
  · rw [read, bare]
    apply Verdict.decision_status
    · simp only [emailVerdict]
      split <;> rfl
    · simp only [emailVerdict]
      split <;> rfl

theorem headerHarmless_of_readable (readable : NumberReadable value) :
    HeaderHarmless library value where
  parsed world := by
    have header := (@retryAfterAt_isOk_iff library _ world.clock).mpr readable
    rcases read : retryAfterAt library world.clock value with error | seconds
    · rw [read] at header
      contradiction
    · exact ⟨seconds, by rw [run_parseRetryAfterHeader, read], retryAfterAt_nonneg read⟩
  webhook settings world bare row response correlation same sent without := by
    subst same
    rw [webhook_decides sent, webhook_decides without, Option.map_some, Option.map_some,
      webhookVerdict_header _ readable]
  email settings world bare row response correlation same mailed without := by
    subst same
    rw [email_decides mailed, email_decides without, Option.map_some, Option.map_some,
      emailVerdict_header _ readable]

theorem readable_of_parsed {seconds : Option Int} {world : OutboxWorld}
    (parsed : (parseRetryAfterHeader library value).run DeliveryCall.handle world =
      (.ok seconds, world)) : NumberReadable value := by
  rw [run_parseRetryAfterHeader] at parsed
  have read : retryAfterAt library world.clock value = .ok seconds := congrArg Prod.fst parsed
  rw [← @retryAfterAt_isOk_iff library _ world.clock, read]
  rfl

end

/-- A header does nothing but move the next attempt, by the documented law, exactly when it is
not a number that `int` refuses. -/
theorem retryAfter_harmless_iff (library : ActionsLibrary) (value : Option PyStr) :
    HeaderHarmless library value ∧ DelayLaw ↔ NumberReadable value := by
  constructor
  · rintro ⟨harmless, _⟩
    obtain ⟨seconds, parsed, _⟩ := harmless.parsed (answeringWorld (plainAnswer 200))
    exact readable_of_parsed parsed
  · intro readable
    exact ⟨headerHarmless_of_readable readable, delayLaw⟩

/-- The header `²` is a number for `isdigit` that `int` does not read. -/
theorem superscript_harmful : ¬ (HeaderHarmless plainLibrary (some [0xB2]) ∧ DelayLaw) := by
  rintro ⟨harmless, _⟩
  obtain ⟨seconds, parsed, _⟩ := harmless.parsed (answeringWorld (plainAnswer 200))
  exact absurd (readable_of_parsed parsed) (by decide)

end HostingService
