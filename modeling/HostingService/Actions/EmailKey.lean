import HostingService.Actions.Classification
import HostingService.Actions.KeyRedaction

/-! What an email delivery stores of the key of the email service: the key is redacted after
the excerpt of the answer was cut. -/

namespace HostingService

open Program Text Storage OutboxTransaction

/-! ### What is asked of a stored text -/

/-- The key is not in the text, and no piece of it that the full text does not have. -/
structure KeepsOut (key full text : PyStr) : Prop where
  whole : ¬key <:+: text
  pieces : ∀ piece, piece <:+: key → 8 ≤ piece.length → piece <:+: text → piece <:+: full

/-- The text of a body, of which the code reads 513 bytes. -/
def bodyText (raw : Bytes) : PyStr := decodeUtf8 (raw.map UInt8.toNat)

/-- The characters that the excerpt is made of. -/
def readText (raw : Bytes) : PyStr := decodeUtf8 ((raw.take responseExcerptMax).map UInt8.toNat)

def HttpResponse.text (response : HttpResponse) : PyStr :=
  match response.body with
  | .ok raw => bodyText raw
  | .error _ => []

section
variable (settings : ActionsSettings)

/-- The parts of an attempt error before the body. -/
def attemptFront (errorMessage : PyStr) (httpStatus : Option Nat) : PyStr :=
  orElse errorMessage (lit "Delivery failed.") ++
    match httpStatus with
    | some status => lit " | HTTP " ++ digits status
    | none => []

/-- The attempt error with the whole body in place of an excerpt. -/
def fullAttemptError (found : AttemptMeta) (body : PyStr) : PyStr :=
  redactApiKey settings (attemptFront found.errorMessage found.httpStatus ++
    if found.responseExcerpt = [] then [] else lit " | body: " ++ body)

/-- The message of a refused event, without the text of the answer. -/
def emailStatusWords (status : Nat) : PyStr :=
  redactApiKey settings (attemptFront (redactApiKey settings
    (lit "Email service returned HTTP " ++ digits status)) (some status) ++
      lit " | body: " ++ redactedMark)

/-- The bytes that are read end in an occurrence of the key, after 8 or more characters of it
that are not in the message anyway. -/
def HttpResponse.CutsKey (response : HttpResponse) : Prop :=
  ∃ raw before kept lost after, response.body = .ok raw ∧
    kept ++ lost = emailServiceApiKey settings ∧ lost ≠ [] ∧ 8 ≤ kept.length ∧
    bodyText raw = before ++ emailServiceApiKey settings ++ after ∧ readText raw = before ++ kept ∧
    ¬kept <:+: emailStatusWords settings response.status

end

/-! ### The excerpt -/

theorem formatAttemptError_eq (errorMessage : PyStr) (httpStatus : Option Nat) (excerpt : PyStr) :
    formatAttemptError errorMessage httpStatus excerpt = attemptFront errorMessage httpStatus ++
      if excerpt = [] then [] else lit " | body: " ++ excerpt.take 512 := rfl

theorem not_key_of_space {c : Nat} (space : isSpace c = true) : isKeyChar c = false := by
  rw [← Bool.not_eq_true]
  intro char
  have small : c < 0x7B := by
    simp only [isKeyChar, Bool.or_eq_true, Bool.and_eq_true, decide_eq_true_eq, beq_iff_eq] at char
    omega
  have table : ∀ c < 0x7B, isSpace c = true → isKeyChar c = false := by decide
  rw [table c small space] at char
  cases char

section
variable {key : PyStr}

theorem not_key_of_spaces {part : PyStr} (spaces : ∀ c ∈ part, isSpace c = true) :
    ∀ c ∈ part, isKeyChar c = false := fun c member => not_key_of_space (spaces c member)

/-- White space around a text has nothing to do with the words in it. -/
theorem infix_scrub_strip (valid : IsWord key) {word : PyStr} (isWord : IsWord word) (text : PyStr) :
    word <:+: scrub key (strip text) ↔ word <:+: scrub key text := by
  obtain ⟨left, right, split, before, after⟩ := strip_split text
  conv_rhs => rw [split, scrub_outer valid _ (not_key_of_spaces before) (not_key_of_spaces after),
    infix_outer isWord (not_key_of_spaces before) (not_key_of_spaces after)]

theorem readText_length (raw : Bytes) : (readText raw).length ≤ 512 := by
  have bound := decodeUtf8_go_length ((raw.take responseExcerptMax).map UInt8.toNat) 0
  rw [List.length_map, List.length_take] at bound
  exact bound.trans (Nat.min_le_left _ _)

/-- The second cut takes nothing but the mark of the first one. -/
theorem excerpt_split {text ellipsis : PyStr} (short : text.length ≤ 512)
    (mark : ellipsis = [] ∨ ellipsis = [0x2026]) :
    ∃ left right, text ++ ellipsis = left ++ (strip (text ++ ellipsis)).take 512 ++ right ∧
      (∀ c ∈ left, isKeyChar c = false) ∧ ∀ c ∈ right, isKeyChar c = false := by
  obtain ⟨left, right, split, before, after⟩ := strip_split (text ++ ellipsis)
  generalize strip (text ++ ellipsis) = excerpt at split
  have marked : ∀ c ∈ ellipsis, isKeyChar c = false := by
    rcases mark with rfl | rfl
    · intro c member
      contradiction
    · intro c member
      rw [List.mem_singleton.mp member]
      rfl
  by_cases fits : excerpt.length ≤ 512
  · rw [List.take_of_length_le fits]
    exact ⟨left, right, split, not_key_of_spaces before, not_key_of_spaces after⟩
  · have size := congrArg List.length split
    have one : ellipsis.length ≤ 1 := by
      rcases mark with rfl | rfl <;> decide
    simp only [List.length_append] at size
    obtain rfl : left = [] := List.length_eq_zero_iff.mp (by omega)
    obtain rfl : right = [] := List.length_eq_zero_iff.mp (by omega)
    rw [List.nil_append, List.append_nil] at split
    refine ⟨[], ellipsis, ?_, by simp, marked⟩
    rw [← split, List.take_append_of_le_length (by simp at size; omega),
      List.take_of_length_le (by simp at size; omega)]
    rfl

/-- The excerpt has the words of what was read. -/
theorem infix_scrub_excerpt (valid : IsWord key) {word : PyStr} (isWord : IsWord word)
    {raw : Bytes} {excerpt : PyStr} {response : HttpResponse} (body : response.body = .ok raw)
    (read : readResponseExcerpt response = .ok excerpt) :
    word <:+: scrub key (excerpt.take 512) ↔ word <:+: scrub key (readText raw) := by
  rw [readResponseExcerpt, body] at read
  dsimp only at read
  by_cases empty : raw = []
  · rw [if_pos empty] at read
    cases read
    rw [empty]
    rfl
  · rw [if_neg empty] at read
    obtain ⟨ellipsis, mark, rfl⟩ : ∃ ellipsis : PyStr, (ellipsis = [] ∨ ellipsis = [0x2026]) ∧
        excerpt = strip (readText raw ++ ellipsis) := by
      by_cases long : raw.length > responseExcerptMax
      · rw [if_pos long] at read
        cases read
        exact ⟨[0x2026], .inr rfl, rfl⟩
      · rw [if_neg long] at read
        cases read
        exact ⟨[], .inl rfl, by rw [List.append_nil]; rfl⟩
    obtain ⟨left, right, split, before, after⟩ := excerpt_split (readText_length raw) mark
    have outer := scrub_outer valid ((strip (readText raw ++ ellipsis)).take 512) before after
    rw [← split] at outer
    have marked : ∀ c ∈ ellipsis, isKeyChar c = false := by
      rcases mark with rfl | rfl
      · simp
      · simp [isKeyChar]
    have nothing : ∀ c ∈ ([] : PyStr), isKeyChar c = false := by simp
    have inner := scrub_outer valid (readText raw) nothing marked
    rw [List.nil_append, outer] at inner
    rw [← infix_outer isWord before after, inner, infix_outer isWord nothing marked]

/-- The bytes that were read have the words of the front of the body. -/
theorem readText_split (raw : Bytes) : ∃ front rest last, readText raw = front ++ last ∧
    bodyText raw = front ++ rest ∧ (∀ c ∈ last, isKeyChar c = false) ∧
      ((∃ c ∈ rest.head?, isKeyChar c = true) → last = []) := by
  obtain ⟨front, rest, last, read, body, ends⟩ := decodeUtf8_take (raw.map UInt8.toNat) responseExcerptMax
  rw [← List.map_take] at read
  refine ⟨front, rest, last, read, body, ?_, ?_⟩
  · rcases ends with rfl | ⟨rfl, _⟩
    · simp
    · intro c member
      rw [List.mem_singleton.mp member]
      rfl
  · rintro ⟨c, first, char⟩
    rcases ends with rfl | ⟨rfl, high⟩
    · rfl
    · have large := high c first
      simp only [isKeyChar, Bool.or_eq_true, Bool.and_eq_true, decide_eq_true_eq, beq_iff_eq] at char
      omega

theorem infix_scrub_joined (valid : IsWord key) {word : PyStr} (isWord : IsWord word)
    (front rest : PyStr) :
    word <:+: scrub key (front ++ 0x20 :: rest) ↔
      word <:+: scrub key front ∨ word <:+: scrub key rest := by
  rw [scrub_separated valid rfl]
  constructor
  · exact infix_separated (isWord.not_mem rfl)
  · rintro (first | second)
    · exact List.infix_append_of_infix_left first
    · exact List.infix_append_of_infix_right (List.infix_cons_iff.mpr (.inr second))

/-- What the redacted excerpt has of the key, and the redacted body has not, is of the
occurrence that the cut is in. -/
theorem cut_pieces_iff (valid : IsServiceKey key) {raw : Bytes}
    (whole : MentionsWhole key (bodyText raw)) (front : PyStr) :
    (∀ piece, piece <:+: key → 8 ≤ piece.length →
        piece <:+: scrub key front ∨ piece <:+: scrub key (readText raw) →
        piece <:+: scrub key front ∨ piece <:+: scrub key (bodyText raw)) ↔
      ¬∃ before kept lost after, kept ++ lost = key ∧ lost ≠ [] ∧ 8 ≤ kept.length ∧
        bodyText raw = before ++ key ++ after ∧ readText raw = before ++ kept ∧
        ¬(kept <:+: scrub key front ∨ kept <:+: redactedMark) := by
  constructor
  · rintro kept_out ⟨before, kept, lost, after, own, more, long, body, read, revealed⟩
    have inside : kept <:+: key := own ▸ List.infix_append_left
    rw [body] at whole kept_out
    have present : kept <:+: scrub key (readText raw) := read ▸ whole.kept_front valid own more
    rcases kept_out kept inside long (.inr present) with worded | left
    · exact revealed (.inl worded)
    · exact revealed (.inr (whole.infix_mark valid inside long left))
  · intro uncut piece inside long present
    rcases present with worded | present
    · exact .inl worded
    · have full : piece ≠ [] := List.ne_nil_of_length_pos (by omega)
      have isWord := valid.word.piece inside full
      obtain ⟨start, rest, last, read, body, others, clean⟩ := readText_split raw
      have shown : piece <:+: scrub key start := by
        have nothing : ∀ c ∈ ([] : PyStr), isKeyChar c = false := by simp
        have outer := scrub_outer valid.word start nothing others
        rw [List.nil_append] at outer
        rw [read, outer] at present
        exact (infix_outer isWord nothing others).mp present
      rw [body] at whole ⊢
      rcases whole.infix_front valid inside long shown with
        kept | ⟨before, after, kept, lost, own, more, rfl, rfl, part, marked⟩
      · exact .inr kept
      · have ended : last = [] := by
          obtain ⟨c, more', rfl⟩ := List.exists_cons_of_ne_nil more
          exact clean ⟨c, rfl, valid.chars c (own ▸ by simp)⟩
        subst ended
        by_cases revealed : kept <:+: scrub key front ∨ kept <:+: redactedMark
        · rcases revealed with worded | mark
          · exact .inl (part.trans worded)
          · exact .inr ((part.trans mark).trans marked)
        · refine absurd ⟨before, kept, lost, after, own, more, long.trans part.length_le, ?_, ?_, revealed⟩ uncut
          · rw [body, ← own]
            simp only [List.append_assoc]
          · rw [read, List.append_nil]

end

/-! ### The attempt error of a refused event -/

section
variable {settings : ActionsSettings} {library : ActionsLibrary} {world : OutboxWorld}
  {response : HttpResponse}

theorem redactApiKey_eq (valid : IsServiceKey (emailServiceApiKey settings)) (text : PyStr) :
    redactApiKey settings text = scrub (emailServiceApiKey settings) text := by
  have full := valid.word.1
  show (if emailServiceApiKey settings = [] then text else _) = _
  rw [if_neg full]
  rfl

/-- What an attempt makes of a refused event. -/
def refusedMeta (settings : ActionsSettings) (result : WebhookPostResult) (duration : Option Int) :
    AttemptMeta where
  httpStatus := some result.status
  responseExcerpt := redactApiKey settings (redactApiKey settings (result.excerpt.take 512))
  errorMessage := redactApiKey settings (lit "Email service returned HTTP " ++ digits result.status)
  permanent := emailStatusIsPermanent (some result.status)
  retryAfterSeconds := (emailStatusFailure settings result).retryAfterSeconds
  durationMs := duration

theorem keepsOut_self (valid : IsServiceKey (emailServiceApiKey settings)) (text : PyStr) :
    KeepsOut (emailServiceApiKey settings) (redactApiKey settings text) (redactApiKey settings text) := by
  refine ⟨?_, fun _ _ _ present => present⟩
  rw [redactApiKey_eq valid]
  exact not_infix_scrub valid text

theorem keepsOut_nil (valid : IsServiceKey (emailServiceApiKey settings)) (full : PyStr) :
    KeepsOut (emailServiceApiKey settings) full [] := by
  constructor
  · intro inside
    exact valid.word.1 (List.eq_nil_of_infix_nil inside)
  · intro piece _ long nothing
    rw [List.eq_nil_of_infix_nil nothing] at long
    exact absurd long (by decide)

/-- Nothing is left out of an attempt error without an excerpt. -/
theorem keepsOut_of_no_excerpt (valid : IsServiceKey (emailServiceApiKey settings))
    {found : AttemptMeta} (none : found.responseExcerpt = []) (body : PyStr) :
    KeepsOut (emailServiceApiKey settings) (fullAttemptError settings found body)
      (outcomeOf settings .none false found).attemptError := by
  have same : (outcomeOf settings .none false found).attemptError =
      fullAttemptError settings found body := by
    rw [outcomeOf, fullAttemptError, if_pos none]
    dsimp only
    rw [formatAttemptError_eq, if_pos none]
  rw [same]
  exact keepsOut_self valid _

/-- The parts of the attempt error of a refused event that come before the text of the answer. -/
def refusedFront (settings : ActionsSettings) (status : Nat) : PyStr :=
  attemptFront (redactApiKey settings (lit "Email service returned HTTP " ++ digits status))
    (some status) ++ lit " | body:"

theorem refusedFront_body (status : Nat) (text : PyStr) :
    attemptFront (redactApiKey settings (lit "Email service returned HTTP " ++ digits status))
        (some status) ++ (lit " | body: " ++ text) = refusedFront settings status ++ 0x20 :: text := by
  rw [refusedFront, List.append_assoc]
  rfl

section
variable (valid : IsServiceKey (emailServiceApiKey settings)) {word : PyStr} (isWord : IsWord word)
include valid isWord

theorem infix_emailStatusWords {status : Nat} : word <:+: emailStatusWords settings status ↔
    word <:+: scrub (emailServiceApiKey settings) (refusedFront settings status) ∨
      word <:+: redactedMark := by
  have absent : ¬emailServiceApiKey settings <:+: redactedMark := by
    intro inside
    have short := redactedMark_short valid.word inside
    have long := valid.long
    omega
  rw [emailStatusWords, List.append_assoc, refusedFront_body, redactApiKey_eq valid,
    infix_scrub_joined valid.word isWord, scrub_of_not_infix absent]

theorem infix_fullAttemptError {result : WebhookPostResult} {duration : Option Int}
    (some : (refusedMeta settings result duration).responseExcerpt ≠ []) (text : PyStr) :
    word <:+: fullAttemptError settings (refusedMeta settings result duration) (strip text) ↔
      word <:+: scrub (emailServiceApiKey settings) (refusedFront settings result.status) ∨
        word <:+: scrub (emailServiceApiKey settings) text := by
  rw [fullAttemptError, if_neg some, redactApiKey_eq valid, refusedMeta, refusedFront_body,
    infix_scrub_joined valid.word isWord, infix_scrub_strip valid.word isWord]

omit isWord in
theorem refused_excerpt (result : WebhookPostResult) (duration : Option Int) :
    (refusedMeta settings result duration).responseExcerpt =
      scrub (emailServiceApiKey settings) (result.excerpt.take 512) := by
  rw [refusedMeta, redactApiKey_eq valid, redactApiKey_eq valid, scrub_scrub valid]

theorem infix_attemptError {result : WebhookPostResult} {duration : Option Int}
    (some : (refusedMeta settings result duration).responseExcerpt ≠ []) :
    word <:+: (outcomeOf settings none false (refusedMeta settings result duration)).attemptError ↔
      word <:+: scrub (emailServiceApiKey settings) (refusedFront settings result.status) ∨
        word <:+: scrub (emailServiceApiKey settings) (result.excerpt.take 512) := by
  have short : (scrub (emailServiceApiKey settings) (result.excerpt.take 512)).length ≤ 512 :=
    (scrub_length valid _).trans (List.length_take_le _ _)
  rw [outcomeOf]
  dsimp only
  rw [formatAttemptError_eq, if_neg some, refused_excerpt valid, List.take_of_length_le short, refusedMeta,
    refusedFront_body, redactApiKey_eq valid, infix_scrub_joined valid.word isWord, scrub_scrub valid]

end

theorem refused_keepsOut_iff (valid : IsServiceKey (emailServiceApiKey settings))
    (whole : MentionsWhole (emailServiceApiKey settings) response.text)
    {result : WebhookPostResult} (read : readResponseExcerpt response = .ok result.excerpt)
    (status : result.status = response.status) (duration : Option Int) :
    KeepsOut (emailServiceApiKey settings)
        (fullAttemptError settings (refusedMeta settings result duration) (strip response.text))
        (outcomeOf settings none false (refusedMeta settings result duration)).attemptError ↔
      ¬response.CutsKey settings := by
  have uncut (none : (refusedMeta settings result duration).responseExcerpt = []) :
      KeepsOut (emailServiceApiKey settings)
        (fullAttemptError settings (refusedMeta settings result duration) (strip response.text))
        (outcomeOf settings .none false (refusedMeta settings result duration)).attemptError :=
    keepsOut_of_no_excerpt valid none _
  cases body : response.body with
  | error error =>
    have blank : result.excerpt = [] := by
      rw [readResponseExcerpt, body] at read
      cases error with
      | osError => exact (Except.ok.inj read).symm
      | exception message => cases read
    have none : (refusedMeta settings result duration).responseExcerpt = [] := by
      rw [refused_excerpt valid, blank]
      rfl
    refine iff_of_true (uncut none) ?_
    rintro ⟨raw, _, _, _, _, other, _⟩
    rw [body] at other
    cases other
  | ok raw =>
    have text : response.text = bodyText raw := by rw [HttpResponse.text, body]
    have cuts : response.CutsKey settings ↔ ∃ before kept lost after,
        kept ++ lost = emailServiceApiKey settings ∧ lost ≠ [] ∧ 8 ≤ kept.length ∧
        bodyText raw = before ++ emailServiceApiKey settings ++ after ∧ readText raw = before ++ kept ∧
        ¬(kept <:+: scrub (emailServiceApiKey settings) (refusedFront settings result.status) ∨
          kept <:+: redactedMark) := by
      constructor
      · rintro ⟨other, before, kept, lost, after, same, own, more, long, inBody, inRead, revealed⟩
        rw [body] at same
        cases same
        have isWord := valid.word.piece (own ▸ List.infix_append_left) (List.ne_nil_of_length_pos (by omega))
        rw [← status, infix_emailStatusWords valid isWord] at revealed
        exact ⟨before, kept, lost, after, own, more, long, inBody, inRead, revealed⟩
      · rintro ⟨before, kept, lost, after, own, more, long, inBody, inRead, revealed⟩
        have isWord := valid.word.piece (own ▸ List.infix_append_left) (List.ne_nil_of_length_pos (by omega))
        rw [← infix_emailStatusWords valid isWord, status] at revealed
        exact ⟨raw, before, kept, lost, after, body, own, more, long, inBody, inRead, revealed⟩
    rw [text] at whole uncut ⊢
    rw [cuts, ← cut_pieces_iff valid whole]
    have pieceWord {piece : PyStr} (inside : piece <:+: emailServiceApiKey settings)
        (long : 8 ≤ piece.length) : IsWord piece :=
      valid.word.piece inside (List.ne_nil_of_length_pos (by omega))
    by_cases none : (refusedMeta settings result duration).responseExcerpt = []
    · refine iff_of_true (uncut none) fun piece inside long present => ?_
      have isWord := pieceWord inside long
      rw [← infix_scrub_excerpt valid.word isWord body read, ← refused_excerpt valid result duration,
        none] at present
      rcases present with worded | nothing
      · exact .inl worded
      · exact absurd (List.eq_nil_of_infix_nil nothing) isWord.1
    · constructor
      · intro kept_out piece inside long present
        have isWord := pieceWord inside long
        rw [← infix_scrub_excerpt valid.word isWord body read] at present
        have shown := kept_out.pieces piece inside long
        rw [infix_attemptError valid isWord none, infix_fullAttemptError valid isWord none] at shown
        exact shown present
      · intro pieces
        constructor
        · rw [outcomeOf, redactApiKey_eq valid]
          exact not_infix_scrub valid _
        · intro piece inside long present
          have isWord := pieceWord inside long
          rw [infix_attemptError valid isWord none, infix_scrub_excerpt valid.word isWord body read] at present
          rw [infix_fullAttemptError valid isWord none]
          exact pieces piece inside long present

/-! ### The delivery -/

/-- The service answers the event, and refuses it. -/
structure EmailRefused (settings : ActionsSettings) (world : OutboxWorld) (envelope : Envelope)
    (response : HttpResponse) : Prop where
  http : isHttpUrl (emailServiceEventsUrl settings) = true
  answered : world.network (emailPost settings envelope) = .answered response
  legible : response.legible = true
  status : ¬(200 ≤ response.status ∧ response.status < 300)

theorem emailReady (valid : IsServiceKey (emailServiceApiKey settings))
    (http : isHttpUrl (emailServiceEventsUrl settings) = true) : EmailReady settings where
  configured := decide_eq_true valid.word.1
  http := http

theorem readAnswer_excerpt {clock : Time} {result : WebhookPostResult}
    (read : readAnswer library clock response = .ok result) :
    readResponseExcerpt response = .ok result.excerpt := by
  unfold readAnswer at read
  generalize retryAfterAt library clock response.retryAfter = retryAfter at read
  rcases taken : readResponseExcerpt response with error | excerpt
  · rw [taken] at read
    cases read
  · rw [taken] at read
    rcases retryAfter with error | retryAfter
    · cases read
    · cases read
      rfl

theorem EmailRefused.performed (valid : IsServiceKey (emailServiceApiKey settings))
    {envelope : Envelope} (refused : EmailRefused settings world envelope response) :
    ∃ found result duration,
      (performEmailDelivery settings library envelope).run DeliveryCall.handle world =
        (.ok (false, found), world) ∧ found = refusedMeta settings result duration ∧
      readResponseExcerpt response = .ok result.excerpt ∧ result.status = response.status := by
  have sent : (postEmailEvent settings library envelope).run DeliveryCall.handle world = _ :=
    run_postEmailEvent (emailReady valid refused.http) refused.answered
  have legible := refused.legible
  rw [← readAnswer_isOk library world.clock] at legible
  rcases read : readAnswer library world.clock response with error | result
  · rw [read] at legible
    cases legible
  · have status := readAnswer_status read
    rw [read] at sent
    simp only [status, refused.status, if_false] at sent
    refine ⟨_, result, some ((world.monotonic - world.monotonic) / 1000),
      run_timed (Prog.run_tryCatch_error _ (Prog.run_bind_error _ sent _) _), ?_,
      readAnswer_excerpt read, status⟩
    rfl

/-- Without a refusal there is no excerpt. -/
theorem postEmailEvent_no_excerpt (valid : IsServiceKey (emailServiceApiKey settings))
    {envelope : Envelope} (unrefused : ∀ response, ¬EmailRefused settings world envelope response) :
    ∃ answer, (postEmailEvent settings library envelope).run DeliveryCall.handle world = (answer, world) ∧
      ∀ failure, answer = .error (.emailDelivery failure) →
        redactApiKey settings failure.responseExcerpt = [] := by
  have nothing : redactApiKey settings [] = [] := by
    rw [redactApiKey_eq valid]
    rfl
  have configured : emailServiceConfigured settings = true := decide_eq_true valid.word.1
  by_cases http : isHttpUrl (emailServiceEventsUrl settings) = true
  · have asked : (Prog.perform (.post (emailPost settings envelope)) : Delivery Exchange).run
        DeliveryCall.handle world = (.ok (world.network (emailPost settings envelope)), world) := by
      rw [Prog.run_perform]
      rfl
    simp only [postEmailEvent, configured, http, Bool.not_true, Prog.when_false, Prog.ret_bind]
    cases exchange : world.network (emailPost settings envelope) with
    | blocked message =>
      rw [exchange] at asked
      rw [postWebhookUrl, Prog.run_bind, Prog.run_bind_ok _ asked]
      refine ⟨_, rfl, fun failure same => ?_⟩
      cases same
      rw [nothing, nothing]
    | osError message =>
      rw [exchange] at asked
      rw [postWebhookUrl, Prog.run_bind, Prog.run_bind_ok _ asked]
      refine ⟨_, rfl, fun failure same => ?_⟩
      cases same
      exact nothing
    | exception message =>
      rw [exchange] at asked
      rw [postWebhookUrl, Prog.run_bind, Prog.run_bind_ok _ asked]
      refine ⟨_, rfl, fun failure same => ?_⟩
      cases same
    | answered response =>
      have posted : (postWebhookUrl library (emailPost settings envelope)).run DeliveryCall.handle world =
          _ := run_postWebhookUrl exchange
      rw [Prog.run_bind, posted]
      rcases read : readAnswer library world.clock response with error | result
      · obtain ⟨message, rfl⟩ := readAnswer_error read
        refine ⟨_, rfl, fun failure same => ?_⟩
        cases same
      · have status := readAnswer_status read
        by_cases accepted : 200 ≤ result.status ∧ result.status < 300
        · refine ⟨.ok result.status, ?_, fun failure same => ?_⟩
          · simp only [Except.map, if_pos accepted]
            rfl
          · cases same
        · refine absurd ⟨http, exchange, ?_, status ▸ accepted⟩ (unrefused response)
          rw [← readAnswer_isOk library world.clock, read]
          rfl
  · refine ⟨.error (.emailDelivery (.permanently "Email service URL is not http(s).")), ?_, ?_⟩
    · simp only [postEmailEvent, configured, http, Bool.not_true, Bool.not_false, Prog.when_false,
        Prog.ret_bind]
      rfl
    · intro failure same
      cases same
      exact nothing

/-- Without a refusal the attempt has succeeded, or has no excerpt. -/
theorem performed_no_excerpt (valid : IsServiceKey (emailServiceApiKey settings)) {envelope : Envelope}
    (unrefused : ∀ response, ¬EmailRefused settings world envelope response) :
    ∃ success found, (performEmailDelivery settings library envelope).run DeliveryCall.handle world =
        (.ok (success, found), world) ∧ (success = true ∨ found.responseExcerpt = []) := by
  obtain ⟨answer, sent, blank⟩ := @postEmailEvent_no_excerpt _ library _ valid envelope unrefused
  cases answer with
  | ok status => exact ⟨_, _, run_timed (Prog.run_tryCatch_ok _ (Prog.run_bind_ok _ sent _) _), .inl rfl⟩
  | error error =>
    cases error with
    | emailDelivery failure =>
      exact ⟨_, _, run_timed (Prog.run_tryCatch_error _ (Prog.run_bind_error _ sent _) _),
        .inr (blank failure rfl)⟩
    | _ => exact ⟨_, _, run_timed (Prog.run_tryCatch_error _ (Prog.run_bind_error _ sent _) _), .inr rfl⟩

/-- The errors that a delivery stores: of the attempts that it adds, and of its row. -/
def storedErrors (before after : ActionsDb) (id : Uuid) : List PyStr :=
  (after.attempts.drop before.attempts.length).map (·.errorMessage) ++
    ((after.row id).map (·.lastError)).toList

def Exchange.text : Exchange → PyStr
  | .answered response => response.text
  | _ => []

/-- The redacted text of the attempt with the whole body. -/
def fullEmailError (settings : ActionsSettings) (library : ActionsLibrary) (world : OutboxWorld)
    (envelope : Envelope) : PyStr :=
  match (performEmailDelivery settings library envelope).run DeliveryCall.handle world with
  | (.ok (_, found), _) =>
    fullAttemptError settings found (strip (world.network (emailPost settings envelope)).text)
  | _ => []

theorem Outcome.assign_lastError (outcome : Outcome) (row : ActionOutbox) (retry : Option Int)
    (clock : Time) : (row.assign (outcome.columns settings row retry clock)).lastError =
      if outcome.success then [] else outcome.attemptError := by
  simp only [columns]
  by_cases success : outcome.success = true
  · rw [if_pos success, if_pos success]
    rfl
  · rw [if_neg success, if_neg success]
    by_cases last : (outcome.permanent ||
        decide (((row.attemptCount + 1 : Nat) : Int) ≥ settings.outboxMaxAttempts)) = true
    · rw [if_pos last]
      rfl
    · rw [if_neg last]
      rfl

/-- A delivery stores one error twice. -/
theorem storedErrors_record {row : ActionOutbox} (stored : world.db.row row.id = some row)
    (success : Bool) (found : AttemptMeta) (correlation : Correlation) :
    storedErrors world.db (world.db.record
        ((outcomeOf settings none success found).attempt row correlation)
        ((outcomeOf settings none success found).columns settings row found.retryAfterSeconds world.clock))
        row.id =
      List.replicate 2 (if success then [] else (outcomeOf settings none false found).attemptError) := by
  have rowed := ActionsDb.row_record world.db
    ((outcomeOf settings none success found).attempt row correlation)
    ((outcomeOf settings none success found).columns settings row found.retryAfterSeconds world.clock)
    row.id
  have own : row.id = ((outcomeOf settings none success found).attempt row correlation).outbox := rfl
  rw [stored, Option.map_some, if_pos own] at rowed
  rw [storedErrors, rowed, Option.map_some, Outcome.assign_lastError]
  have added : (world.db.record ((outcomeOf settings none success found).attempt row correlation)
      ((outcomeOf settings none success found).columns settings row found.retryAfterSeconds
        world.clock)).attempts.drop world.db.attempts.length =
      [(outcomeOf settings none success found).attempt row correlation] := List.drop_left
  rw [added]
  cases success with
  | true => rfl
  | false => rfl

/-- The stored errors keep the key out if and only if, where the service has refused the
event, the excerpt of its answer does not end in an occurrence of the key. -/
theorem email_key_kept_out_iff (valid : IsServiceKey (emailServiceApiKey settings))
    {row : ActionOutbox} (stored : world.db.row row.id = some row) (kind : row.deliveryKind = .email)
    (unsettled : row.status.isFinal = false) (correlation : Correlation)
    (whole : MentionsWhole (emailServiceApiKey settings)
      (world.network (emailPost settings row.envelope)).text) :
    (∀ text ∈ storedErrors world.db
        ((deliverOutboxRow settings library row.id correlation).run DeliveryCall.handle world).2.db row.id,
      KeepsOut (emailServiceApiKey settings) (fullEmailError settings library world row.envelope) text) ↔
      ∀ response, EmailRefused settings world row.envelope response → ¬response.CutsKey settings := by
  have loaded : loadRuleForDelivery row (world.db.ruleOf row) = .ok (none, none) := by
    simp [loadRuleForDelivery, kind]
  have channel : performDelivery settings library row none =
      performEmailDelivery settings library row.envelope := by
    simp [performDelivery, kind]
  have recorded {success : Bool} {found : AttemptMeta}
      (performed : (performEmailDelivery settings library row.envelope).run DeliveryCall.handle world =
        (.ok (success, found), world)) :
      (∀ text ∈ storedErrors world.db
          ((deliverOutboxRow settings library row.id correlation).run DeliveryCall.handle world).2.db row.id,
        KeepsOut (emailServiceApiKey settings) (fullEmailError settings library world row.envelope)
          text) ↔
        KeepsOut (emailServiceApiKey settings)
          (fullAttemptError settings found (strip (world.network (emailPost settings row.envelope)).text))
          (if success then [] else (outcomeOf settings none false found).attemptError) := by
    have full : fullEmailError settings library world row.envelope =
        fullAttemptError settings found
          (strip (world.network (emailPost settings row.envelope)).text) := by
      rw [fullEmailError, performed]
    rw [← channel] at performed
    rw [deliverOutboxRow_records stored unsettled loaded performed, storedErrors_record stored, full]
    simp
  by_cases refused : ∃ response, EmailRefused settings world row.envelope response
  · obtain ⟨response, refused⟩ := refused
    obtain ⟨found, result, duration, performed, rfl, read, status⟩ :=
      @EmailRefused.performed _ library _ _ valid _ refused
    have text : (world.network (emailPost settings row.envelope)).text = response.text := by
      rw [refused.answered]
      rfl
    have once : ∀ other, EmailRefused settings world row.envelope other → other = response := by
      intro other again
      exact Exchange.answered.inj (again.answered.symm.trans refused.answered)
    rw [text] at whole
    rw [recorded performed, text]
    refine (refused_keepsOut_iff valid whole read status duration).trans ⟨?_, fun every => every _ refused⟩
    intro uncut other again
    rw [once other again]
    exact uncut
  · have unrefused := not_exists.mp refused
    obtain ⟨success, found, performed, ended⟩ := @performed_no_excerpt _ library _ valid _ unrefused
    rw [recorded performed]
    refine iff_of_true ?_ fun response again => absurd again (unrefused response)
    cases success with
    | true => exact keepsOut_nil valid _
    | false =>
      rcases ended with other | none
      · cases other
      · exact keepsOut_of_no_excerpt valid none _

end

/-! ### An answer that ends in the key -/

def keySettings : ActionsSettings :=
  { defaultActionsSettings with emailServiceApiKey := lit "sk-live-0123456789" }

/-- A body of this many dots, and the key behind them. -/
def quotingAnswer (dots : Nat) : HttpResponse :=
  ⟨500, .ok (List.replicate dots 0x2E ++
    (emailServiceApiKey keySettings).map fun c => UInt8.ofNat c), none⟩

theorem keySettings_key : IsServiceKey (emailServiceApiKey keySettings) := ⟨by decide, by decide⟩

/-- 100 dots leave the key in the excerpt. -/
theorem quotingAnswer_whole : MentionsWhole (emailServiceApiKey keySettings)
    (quotingAnswer 100).text := by
  have text : (quotingAnswer 100).text = List.replicate 100 0x2E ++ emailServiceApiKey keySettings := by
    decide +kernel
  rw [text]
  exact .behind keySettings_key (by decide)

/-- 504 dots leave 8 of its characters. -/
theorem quotingAnswer_cut : MentionsWhole (emailServiceApiKey keySettings)
    (quotingAnswer 504).text := by
  have text : (quotingAnswer 504).text = List.replicate 504 0x2E ++ emailServiceApiKey keySettings := by
    decide +kernel
  rw [text]
  refine .behind keySettings_key fun c member => ?_
  rw [List.eq_of_mem_replicate member]
  rfl

theorem email_key_kept_out_quoted :
    (∀ text ∈ storedErrors (answeringWorld (quotingAnswer 100)).db
        ((deliverOutboxRow keySettings plainLibrary mailRow.id ⟨.dispatch, none⟩).run
          DeliveryCall.handle (answeringWorld (quotingAnswer 100))).2.db mailRow.id,
      KeepsOut (emailServiceApiKey keySettings) (fullEmailError keySettings plainLibrary
        (answeringWorld (quotingAnswer 100)) mailRow.envelope) text) ↔
      ∀ response, EmailRefused keySettings (answeringWorld (quotingAnswer 100)) mailRow.envelope response →
        ¬response.CutsKey keySettings :=
  email_key_kept_out_iff keySettings_key rfl rfl rfl ⟨.dispatch, none⟩ quotingAnswer_whole

/-- The error is stored with the first 8 characters of the key. -/
theorem cut_key_stored :
    MentionsWhole (emailServiceApiKey keySettings)
      (((answeringWorld (quotingAnswer 504)).network (emailPost keySettings mailRow.envelope)).text) ∧
    ¬∀ text ∈ storedErrors (answeringWorld (quotingAnswer 504)).db
        ((deliverOutboxRow keySettings plainLibrary mailRow.id ⟨.dispatch, none⟩).run
          DeliveryCall.handle (answeringWorld (quotingAnswer 504))).2.db mailRow.id,
      KeepsOut (emailServiceApiKey keySettings) (fullEmailError keySettings plainLibrary
        (answeringWorld (quotingAnswer 504)) mailRow.envelope) text := by
  obtain ⟨⟨text, member, present⟩, missing⟩ :
      (∃ text ∈ storedErrors (answeringWorld (quotingAnswer 504)).db
        ((deliverOutboxRow keySettings plainLibrary mailRow.id ⟨.dispatch, none⟩).run
          DeliveryCall.handle (answeringWorld (quotingAnswer 504))).2.db mailRow.id,
        lit "sk-live-" <:+: text) ∧
      ¬lit "sk-live-" <:+: fullEmailError keySettings plainLibrary
        (answeringWorld (quotingAnswer 504)) mailRow.envelope := by decide +kernel
  exact ⟨quotingAnswer_cut, fun every =>
    missing ((every text member).pieces _ (by decide) (by decide) present)⟩

end HostingService
