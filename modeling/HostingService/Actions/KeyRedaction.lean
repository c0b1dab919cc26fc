import HostingService.Actions.Delivery

/-! What is left of a text in which every occurrence of a key is replaced, and of a text
that was cut before. -/

namespace HostingService

open Text

/-- `[A-Za-z0-9_-]` -/
def isKeyChar (c : Nat) : Bool :=
  (0x30 ≤ c && c ≤ 0x39) || (0x41 ≤ c && c ≤ 0x5A) || (0x61 ≤ c && c ≤ 0x7A) ||
    c == 0x5F || c == 0x2D

structure IsServiceKey (key : PyStr) : Prop where
  long : 16 ≤ key.length
  chars : ∀ c ∈ key, isKeyChar c = true

/-- A text of characters that a key may have. -/
def IsWord (word : PyStr) : Prop := word ≠ [] ∧ ∀ c ∈ word, isKeyChar c = true

def redactedMark : PyStr := lit "[redacted]"

/-- The redaction of one key. -/
def scrub (key text : PyStr) : PyStr := replaceSubstr key redactedMark text

section
variable {key : PyStr}

/-! ### One occurrence after the other -/

theorem replaceSubstr_go_skip (old new text : PyStr) (skip : Nat) :
    replaceSubstr.go old new text skip = replaceSubstr.go old new (text.drop skip) 0 := by
  induction text generalizing skip with
  | nil => simp [replaceSubstr.go]
  | cons c rest ih =>
    cases skip with
    | zero => rfl
    | succ skip => exact ih skip

@[simp] theorem scrub_nil : scrub key [] = [] := rfl

theorem scrub_hit (full : key ≠ []) (rest : PyStr) :
    scrub key (key ++ rest) = redactedMark ++ scrub key rest := by
  obtain ⟨c, tail, rfl⟩ := List.exists_cons_of_ne_nil full
  have found : (c :: tail).isPrefixOf (c :: (tail ++ rest)) = true :=
    List.isPrefixOf_iff_prefix.mpr (List.prefix_append (c :: tail) rest)
  rw [scrub, replaceSubstr, List.cons_append, replaceSubstr.go, if_pos found, replaceSubstr_go_skip]
  simp [scrub, replaceSubstr]

theorem scrub_miss {c : Nat} {rest : PyStr} (missed : ¬key <+: c :: rest) :
    scrub key (c :: rest) = c :: scrub key rest := by
  have absent : ¬key.isPrefixOf (c :: rest) = true := fun found =>
    missed (List.isPrefixOf_iff_prefix.mp found)
  rw [scrub, replaceSubstr, replaceSubstr.go, if_neg absent]
  rfl

/-- The scan of a text, from one occurrence to the next. -/
theorem scrub_induction (full : key ≠ []) {motive : PyStr → Prop} (nil : motive [])
    (hit : ∀ rest, motive rest → motive (key ++ rest))
    (miss : ∀ c rest, ¬key <+: c :: rest → motive rest → motive (c :: rest)) (text : PyStr) :
    motive text := by
  induction size : text.length using Nat.strong_induction_on generalizing text with
  | _ n ih =>
    subst size
    by_cases found : key <+: text
    · obtain ⟨rest, rfl⟩ := found
      have shorter : rest.length < (key ++ rest).length := by
        have positive := List.length_pos_of_ne_nil full
        rw [List.length_append]
        omega
      exact hit rest (ih _ shorter rest rfl)
    · cases text with
      | nil => exact nil
      | cons c rest => exact miss c rest found (ih _ (Nat.lt_succ_self _) rest rfl)

/-! ### Words beside characters that no word has -/

theorem prefix_separated {word front rest : PyStr} {c : Nat} (absent : c ∉ word)
    (starts : word <+: front ++ c :: rest) : word <+: front := by
  rcases List.prefix_or_prefix_of_prefix starts (List.prefix_append front (c :: rest)) with
    inside | ⟨more, rfl⟩
  · exact inside
  · rw [List.prefix_append_right_inj] at starts
    cases more with
    | nil => rw [List.append_nil]
    | cons d more =>
      obtain ⟨rfl, _⟩ := List.cons_prefix_cons.mp starts
      exact absurd (List.mem_append_right front List.mem_cons_self) absent

theorem infix_separated {word front rest : PyStr} {c : Nat} (absent : c ∉ word)
    (inside : word <:+: front ++ c :: rest) : word <:+: front ∨ word <:+: rest := by
  induction front with
  | nil =>
    rcases List.infix_cons_iff.mp inside with starts | later
    · have nothing : word <+: [] := prefix_separated absent starts
      exact .inl nothing.isInfix
    · exact .inr later
  | cons d front ih =>
    rcases List.infix_cons_iff.mp inside with starts | later
    · have first : word <+: d :: front := prefix_separated absent starts
      exact .inl first.isInfix
    · rcases ih later with first | second
      · exact .inl (List.infix_cons_iff.mpr (.inr first))
      · exact .inr second

theorem IsWord.not_mem {word : PyStr} (valid : IsWord word) {c : Nat} (other : isKeyChar c = false) :
    c ∉ word := by
  intro member
  rw [valid.2 c member] at other
  cases other

theorem IsServiceKey.word (valid : IsServiceKey key) : IsWord key := by
  refine ⟨?_, valid.chars⟩
  rintro rfl
  exact absurd valid.long (by decide)

theorem IsWord.piece {word whole : PyStr} (valid : IsWord whole) (piece : word <:+: whole)
    (full : word ≠ []) : IsWord word :=
  ⟨full, fun c member => valid.2 c (piece.subset member)⟩

/-- The mark ends where no word goes on. -/
theorem infix_mark {word rest : PyStr} (valid : IsWord word)
    (inside : word <:+: redactedMark ++ rest) : word <:+: redactedMark ∨ word <:+: rest := by
  have shape : redactedMark ++ rest = lit "[redacted" ++ 0x5D :: rest := rfl
  rw [shape] at inside
  rcases infix_separated (valid.not_mem rfl) inside with first | second
  · exact .inl (first.trans (List.prefix_append (lit "[redacted") [0x5D]).isInfix)
  · exact .inr second

/-- A word at the front of a redacted text was at the front of the text. -/
theorem prefix_scrub (full : key ≠ []) {word : PyStr} (text : PyStr)
    (chars : ∀ c ∈ word, isKeyChar c = true) (starts : word <+: scrub key text) : word <+: text := by
  induction text using scrub_induction full generalizing word with
  | nil => exact starts
  | hit rest ih =>
    rw [scrub_hit full] at starts
    cases word with
    | nil => exact List.nil_prefix
    | cons c word =>
      have shape : redactedMark ++ scrub key rest = 0x5B :: (lit "redacted]" ++ scrub key rest) := rfl
      rw [shape] at starts
      obtain ⟨rfl, _⟩ := List.cons_prefix_cons.mp starts
      exact absurd (chars _ List.mem_cons_self) (by decide)
  | miss c rest missed ih =>
    rw [scrub_miss missed] at starts
    cases word with
    | nil => exact List.nil_prefix
    | cons d word =>
      obtain ⟨rfl, further⟩ := List.cons_prefix_cons.mp starts
      have behind := ih (fun e member => chars e (List.mem_cons_of_mem _ member)) further
      exact List.cons_prefix_cons.mpr ⟨rfl, behind⟩

/-- A word in a redacted text is in the mark, or stands where the scan has passed it by. -/
theorem infix_scrub (full : key ≠ []) {good : PyStr → Prop}
    (hit : ∀ rest, good (key ++ rest) → good rest)
    (miss : ∀ c rest, ¬key <+: c :: rest → good (c :: rest) → good rest) {word : PyStr}
    (valid : IsWord word) {text : PyStr} (now : good text) (inside : word <:+: scrub key text) :
    word <:+: redactedMark ∨ ∃ rest, good rest ∧ ¬key <+: rest ∧ word <+: rest := by
  induction text using scrub_induction full with
  | nil => exact absurd (List.eq_nil_of_infix_nil inside) valid.1
  | hit rest ih =>
    rw [scrub_hit full] at inside
    rcases infix_mark valid inside with marked | later
    · exact .inl marked
    · exact ih (hit rest now) later
  | miss c rest missed ih =>
    rw [scrub_miss missed] at inside
    rcases List.infix_cons_iff.mp inside with starts | later
    · have kept : word <+: scrub key (c :: rest) := by rwa [scrub_miss missed]
      exact .inr ⟨c :: rest, now, missed, prefix_scrub full _ valid.2 kept⟩
    · exact ih (miss c rest missed now) later

theorem redactedMark_short {word : PyStr} (valid : IsWord word) (marked : word <:+: redactedMark) :
    word.length ≤ 8 := by
  have shape : redactedMark = [] ++ 0x5B :: lit "redacted]" := rfl
  have ending : lit "redacted]" = lit "redacted" ++ 0x5D :: [] := rfl
  rw [shape] at marked
  rcases infix_separated (valid.not_mem rfl) marked with none | marked
  · exact absurd (List.eq_nil_of_infix_nil none) valid.1
  · rw [ending] at marked
    rcases infix_separated (valid.not_mem rfl) marked with marked | none
    · exact marked.length_le
    · exact absurd (List.eq_nil_of_infix_nil none) valid.1

/-- The key is in no redacted text. -/
theorem not_infix_scrub (valid : IsServiceKey key) (text : PyStr) : ¬key <:+: scrub key text := by
  intro inside
  have anywhere := @infix_scrub key valid.word.1 (fun _ => True) (fun _ _ => trivial)
    (fun _ _ _ _ => trivial)
  rcases anywhere valid.word trivial inside with marked | ⟨rest, _, missed, starts⟩
  · have short := redactedMark_short valid.word marked
    have long := valid.long
    omega
  · exact missed starts

theorem scrub_of_not_infix {text : PyStr} (absent : ¬key <:+: text) : scrub key text = text := by
  induction text with
  | nil => rfl
  | cons c rest ih =>
    rw [List.infix_cons_iff, not_or] at absent
    rw [scrub_miss absent.1, ih absent.2]

theorem scrub_scrub (valid : IsServiceKey key) (text : PyStr) :
    scrub key (scrub key text) = scrub key text := scrub_of_not_infix (not_infix_scrub valid text)

/-- A character that no key has ends every occurrence. -/
theorem scrub_separated (valid : IsWord key) {c : Nat} (other : isKeyChar c = false)
    (front rest : PyStr) :
    scrub key (front ++ c :: rest) = scrub key front ++ c :: scrub key rest := by
  induction front using scrub_induction valid.1 with
  | nil =>
    have missed : ¬key <+: c :: rest := by
      intro starts
      have nothing : key <+: [] := prefix_separated (valid.not_mem other) starts
      exact valid.1 (List.prefix_nil.mp nothing)
    exact scrub_miss missed
  | hit front ih =>
    rw [List.append_assoc, scrub_hit valid.1, scrub_hit valid.1, ih, List.append_assoc]
  | miss d front missed ih =>
    have still : ¬key <+: d :: front ++ c :: rest := fun starts =>
      missed (prefix_separated (valid.not_mem other) starts)
    rw [List.cons_append] at still ⊢
    rw [scrub_miss still, scrub_miss missed, ih, List.cons_append]

/-! ### A text that was cut -/

/-- A text is redacted part by part, or the cut is in an occurrence that is replaced. -/
theorem scrub_append (full : key ≠ []) (front rest : PyStr) :
    scrub key (front ++ rest) = scrub key front ++ scrub key rest ∨
      ∃ before after kept lost, kept ++ lost = key ∧ kept ≠ [] ∧ lost ≠ [] ∧
        front = before ++ kept ∧ rest = lost ++ after ∧
        scrub key front = scrub key before ++ kept ∧
        scrub key (front ++ rest) = scrub key before ++ redactedMark ++ scrub key after := by
  generalize whole : front ++ rest = text
  induction text using scrub_induction full generalizing front with
  | nil =>
    obtain ⟨rfl, rfl⟩ := List.append_eq_nil_iff.mp whole
    exact .inl rfl
  | hit text ih =>
    rcases List.append_eq_append_iff.mp whole with ⟨lost, cut, rfl⟩ | ⟨further, rfl, same⟩
    · rcases eq_or_ne front [] with rfl | some
      · left
        rw [cut, List.nil_append]
        rfl
      · rcases eq_or_ne lost [] with rfl | more
        · left
          have alone := scrub_hit full []
          rw [List.append_nil] at cut alone
          rw [scrub_hit full, ← cut, alone, scrub_nil, List.append_nil, List.nil_append]
        · right
          have short : ¬key <:+: front := by
            intro inside
            have bound := inside.length_le
            have positive := List.length_pos_of_ne_nil more
            rw [cut, List.length_append] at bound
            omega
          exact ⟨[], text, front, lost, cut.symm, some, more, rfl, rfl, scrub_of_not_infix short,
            scrub_hit full text⟩
    · rw [scrub_hit full, scrub_hit full]
      rcases ih further same.symm with parts | ⟨before, after, kept, lost, own, some, more, rfl, rfl, first, both⟩
      · left
        rw [parts, List.append_assoc]
      · refine .inr ⟨key ++ before, after, kept, lost, own, some, more, ?_, rfl, ?_, ?_⟩
        · rw [List.append_assoc]
        · rw [first, scrub_hit full, List.append_assoc]
        · rw [both, scrub_hit full]
          simp only [List.append_assoc]
  | miss c text missed ih =>
    cases front with
    | nil =>
      rw [List.nil_append] at whole
      subst whole
      exact .inl rfl
    | cons d front =>
      obtain ⟨rfl, same⟩ := List.cons.inj whole
      have missedFront : ¬key <+: d :: front := fun starts =>
        missed (same ▸ starts.trans (List.prefix_append (d :: front) rest))
      rw [scrub_miss missed, scrub_miss missedFront]
      rcases ih front same with parts | ⟨before, after, kept, lost, own, some, more, rfl, rfl, first, both⟩
      · rw [parts]
        exact .inl rfl
      · have missedBefore : ¬key <+: d :: before := fun starts =>
          missedFront (starts.trans (List.prefix_append (d :: before) kept))
        refine .inr ⟨d :: before, after, kept, lost, own, some, more, rfl, rfl, ?_, ?_⟩
        · rw [first, scrub_miss missedBefore]
          rfl
        · rw [both, scrub_miss missedBefore]
          rfl

theorem scrub_eq_of_chars (full : key ≠ []) (text : PyStr)
    (chars : ∀ c ∈ scrub key text, isKeyChar c = true) : scrub key text = text := by
  induction text using scrub_induction full with
  | nil => rfl
  | hit rest ih =>
    rw [scrub_hit full] at chars
    exact absurd (chars 0x5B (List.mem_append_left _ List.mem_cons_self)) (by decide)
  | miss c rest missed ih =>
    rw [scrub_miss missed] at chars ⊢
    rw [ih fun d member => chars d (List.mem_cons_of_mem _ member)]

/-- A word at the end of a redacted text was at the end of the text. -/
theorem suffix_scrub (full : key ≠ []) {word : PyStr} (text : PyStr)
    (chars : ∀ c ∈ word, isKeyChar c = true) (ends : word <:+ scrub key text) : word <:+ text := by
  induction text using scrub_induction full with
  | nil => exact ends
  | hit rest ih =>
    rw [scrub_hit full] at ends
    rcases List.suffix_or_suffix_of_suffix ends (List.suffix_append redactedMark _) with inside | ⟨more, rfl⟩
    · exact (ih inside).trans (List.suffix_append key rest)
    · rcases List.eq_nil_or_concat more with rfl | ⟨first, last, rfl⟩
      · exact (ih List.suffix_rfl).trans (List.suffix_append key rest)
      · obtain ⟨front, same⟩ := ends
        rw [← List.append_assoc] at same
        have ending := congrArg List.getLast? (List.append_cancel_right same)
        have marked : redactedMark.getLast? = some 0x5D := rfl
        rw [marked, List.concat_eq_append, ← List.append_assoc, List.getLast?_concat] at ending
        obtain rfl := Option.some.inj ending
        exact absurd (chars 0x5D (by simp)) (by decide)
  | miss c rest missed ih =>
    rw [scrub_miss missed] at ends
    rcases List.suffix_cons_iff.mp ends with rfl | inside
    · rw [scrub_eq_of_chars full rest fun d member => chars d (List.mem_cons_of_mem _ member)]
    · exact (ih inside).trans (List.suffix_cons c rest)

/-! ### Texts that mention the key in whole occurrences -/

/-- Every piece of 8 or more characters stands in an occurrence, and these do not overlap. -/
structure MentionsWhole (key text : PyStr) : Prop where
  covered : ∀ before piece after, text = before ++ piece ++ after → piece <:+: key →
    8 ≤ piece.length → ∃ front back, front ++ piece ++ back = key ∧ front <:+ before ∧ back <+: after
  apart : ∀ before after later further, text = before ++ key ++ after →
    text = later ++ key ++ further → before.length < later.length →
      before.length + key.length ≤ later.length

/-- A key behind other characters. -/
theorem MentionsWhole.behind (valid : IsServiceKey key) {front : PyStr}
    (others : ∀ c ∈ front, isKeyChar c = false) : MentionsWhole key (front ++ key) where
  covered before piece after same inside long := by
    rw [List.append_assoc] at same
    rcases List.append_eq_append_iff.mp same with ⟨more, rfl, own⟩ | ⟨more, rfl, split⟩
    · exact ⟨more, after, by rw [own, List.append_assoc], List.suffix_append front more,
        List.prefix_rfl⟩
    · cases more with
      | nil =>
        exact ⟨[], after, by rw [List.nil_append]; exact split, List.nil_suffix, List.prefix_rfl⟩
      | cons c more =>
        obtain ⟨d, piece, rfl⟩ := List.exists_cons_of_length_pos (Nat.lt_of_lt_of_le (by decide) long)
        obtain ⟨rfl, _⟩ := List.cons.inj split
        have other := others d (List.mem_append_right before List.mem_cons_self)
        rw [valid.chars d (inside.subset List.mem_cons_self)] at other
        cases other
  apart before after later further first second less := by
    have stands : ∀ left right : PyStr, front ++ key = left ++ key ++ right →
        front.length ≤ left.length := by
      intro left right same
      rw [List.append_assoc] at same
      rcases List.append_eq_append_iff.mp same with ⟨more, rfl, _⟩ | ⟨more, rfl, split⟩
      · simp
      · cases more with
        | nil => simp
        | cons c more =>
          obtain ⟨d, rest, own⟩ := List.exists_cons_of_ne_nil valid.word.1
          have char := valid.chars d (own ▸ List.mem_cons_self)
          rw [own] at split
          obtain ⟨rfl, _⟩ := List.cons.inj split
          have other := others d (List.mem_append_right left List.mem_cons_self)
          rw [char] at other
          cases other
    have one := stands before after first
    have size := congrArg List.length second
    simp only [List.length_append] at size
    omega

theorem MentionsWhole.hit {rest : PyStr} (whole : MentionsWhole key (key ++ rest)) :
    MentionsWhole key rest where
  covered before piece after same inside long := by
    have text : key ++ rest = (key ++ before) ++ piece ++ after := by
      rw [same]
      simp only [List.append_assoc]
    obtain ⟨front, back, own, ends, starts⟩ := whole.covered _ piece after text inside long
    rcases List.suffix_or_suffix_of_suffix ends (List.suffix_append key before) with fits | ⟨more, rfl⟩
    · exact ⟨front, back, own, fits, starts⟩
    · obtain ⟨first, split⟩ := ends
      obtain ⟨last, rfl⟩ := starts
      have second : key ++ rest = first ++ key ++ last := by
        calc key ++ rest = (key ++ before) ++ piece ++ (back ++ last) := text
          _ = (first ++ (more ++ before)) ++ piece ++ (back ++ last) := by rw [split]
          _ = first ++ ((more ++ before) ++ piece ++ back) ++ last := by simp only [List.append_assoc]
          _ = first ++ key ++ last := by rw [own]
      rw [← List.append_assoc] at split
      have lengths := congrArg List.length (List.append_cancel_right split)
      have sizes := congrArg List.length own
      simp only [List.length_append] at lengths sizes
      -- another occurrence that begins in the first one does not go beyond it
      have bound := whole.apart [] rest first last rfl second
      simp only [List.length_nil, Nat.zero_add] at bound
      have nothing : more = [] := List.length_eq_zero_iff.mp (by omega)
      subst nothing
      exact ⟨before, back, own, List.suffix_rfl, List.prefix_append back last⟩
  apart before after later further first second less := by
    have one : key ++ rest = (key ++ before) ++ key ++ after := by
      rw [first]
      simp only [List.append_assoc]
    have two : key ++ rest = (key ++ later) ++ key ++ further := by
      rw [second]
      simp only [List.append_assoc]
    have bound := whole.apart _ _ _ _ one two (by simpa using less)
    simp only [List.length_append] at bound
    omega

theorem MentionsWhole.miss {c : Nat} {rest : PyStr} (missed : ¬key <+: c :: rest)
    (whole : MentionsWhole key (c :: rest)) : MentionsWhole key rest where
  covered before piece after same inside long := by
    have text : c :: rest = (c :: before) ++ piece ++ after := congrArg (c :: ·) same
    obtain ⟨front, back, own, ends, starts⟩ := whole.covered _ piece after text inside long
    rcases List.suffix_cons_iff.mp ends with rfl | fits
    · obtain ⟨last, rfl⟩ := starts
      refine absurd ⟨last, ?_⟩ missed
      rw [text, ← own]
      simp only [List.append_assoc]
    · exact ⟨front, back, own, fits, starts⟩
  apart before after later further first second less := by
    have one : c :: rest = (c :: before) ++ key ++ after := congrArg (c :: ·) first
    have two : c :: rest = (c :: later) ++ key ++ further := congrArg (c :: ·) second
    have bound := whole.apart _ _ _ _ one two (Nat.succ_lt_succ less)
    simp only [List.length_cons] at bound
    omega

/-- In the redacted text no piece is left but in the mark. -/
theorem MentionsWhole.infix_mark {text : PyStr} (valid : IsServiceKey key)
    (whole : MentionsWhole key text) {piece : PyStr} (inside : piece <:+: key)
    (long : 8 ≤ piece.length) (present : piece <:+: scrub key text) : piece <:+: redactedMark := by
  have full : piece ≠ [] := List.ne_nil_of_length_pos (by omega)
  have stands := @infix_scrub key valid.word.1 (MentionsWhole key) (fun _ => .hit) (fun _ _ => .miss)
  rcases stands (valid.word.piece inside full) whole present with marked | ⟨rest, whole, missed, starts⟩
  · exact marked
  · obtain ⟨after, rfl⟩ := starts
    obtain ⟨front, back, own, ends, fits⟩ := whole.covered [] piece after rfl inside long
    obtain rfl := List.suffix_nil.mp ends
    obtain ⟨last, rfl⟩ := fits
    refine absurd ⟨last, ?_⟩ missed
    rw [← own]
    simp only [List.nil_append, List.append_assoc]

theorem infix_append_cases {word left right : PyStr} (inside : word <:+: left ++ right) :
    word <:+: left ∨ word <:+: right ∨
      ∃ front back, word = front ++ back ∧ front ≠ [] ∧ back ≠ [] ∧ front <:+ left ∧ back <+: right := by
  obtain ⟨before, after, same⟩ := inside
  rcases List.append_eq_append_iff.mp same with ⟨more, rfl, _⟩ | ⟨back, split, rfl⟩
  · exact .inl ⟨before, more, rfl⟩
  · rcases List.append_eq_append_iff.mp split with ⟨front, rfl, rfl⟩ | ⟨more, rfl, rfl⟩
    · rcases eq_or_ne front [] with rfl | some
      · exact .inr (.inl ⟨[], after, rfl⟩)
      · rcases eq_or_ne back [] with rfl | more
        · exact .inl ⟨before, [], by simp⟩
        · exact .inr (.inr ⟨front, back, rfl, some, more, List.suffix_append before front,
            List.prefix_append back after⟩)
    · exact .inr (.inl ⟨more, after, rfl⟩)

/-- What is in the redacted front of a text: it is in the redacted text, or the front ends in
an occurrence, and it is in what is there of the key. -/
theorem MentionsWhole.infix_front {front rest : PyStr} (valid : IsServiceKey key)
    (whole : MentionsWhole key (front ++ rest)) {piece : PyStr} (inside : piece <:+: key)
    (long : 8 ≤ piece.length) (present : piece <:+: scrub key front) :
    piece <:+: scrub key (front ++ rest) ∨
      ∃ before after kept lost, kept ++ lost = key ∧ lost ≠ [] ∧ front = before ++ kept ∧
        rest = lost ++ after ∧ piece <:+: kept ∧ redactedMark <:+: scrub key (front ++ rest) := by
  rcases scrub_append valid.word.1 front rest with
    parts | ⟨before, after, kept, lost, own, some, more, rfl, rfl, first, both⟩
  · rw [parts]
    exact .inl (List.infix_append_of_infix_left present)
  · rw [first] at present
    rcases infix_append_cases present with earlier | last | ⟨head, tail, rfl, full, some', ends, starts⟩
    · rw [both, List.append_assoc]
      exact .inl (List.infix_append_of_infix_left earlier)
    · refine .inr ⟨before, after, kept, lost, own, more, rfl, rfl, last, ?_⟩
      rw [both]
      exact List.infix_append ..
    · -- a piece that goes into the occurrence would be in another one
      have chars (c : Nat) (member : c ∈ head) : isKeyChar c = true :=
        valid.chars c (inside.subset (List.mem_append_left _ member))
      obtain ⟨front, rfl⟩ := suffix_scrub valid.word.1 before chars ends
      obtain ⟨open', rfl⟩ := starts
      have text : (front ++ head ++ (tail ++ open')) ++ (lost ++ after) =
          front ++ (head ++ tail) ++ (open' ++ lost ++ after) := by simp only [List.append_assoc]
      obtain ⟨left, right, same, fits, further⟩ := whole.covered _ _ _ text inside long
      obtain ⟨start, rfl⟩ := fits
      obtain ⟨finish, split⟩ := further
      have other : (start ++ left ++ head ++ (tail ++ open')) ++ (lost ++ after) =
          start ++ key ++ finish := by
        calc (start ++ left ++ head ++ (tail ++ open')) ++ (lost ++ after)
            = start ++ left ++ (head ++ tail) ++ (open' ++ lost ++ after) := text
          _ = start ++ (left ++ (head ++ tail) ++ right) ++ finish := by
            rw [← split]
            simp only [List.append_assoc]
          _ = start ++ key ++ finish := by rw [same]
      have cut : (start ++ left ++ head ++ (tail ++ open')) ++ (lost ++ after) =
          (start ++ left ++ head) ++ key ++ after := by
        rw [← own]
        simp only [List.append_assoc]
      have bound := whole.apart _ _ _ _ other cut
      have size := congrArg List.length same
      have headed := List.length_pos_of_ne_nil full
      have tailed := List.length_pos_of_ne_nil some'
      simp only [List.length_append] at bound size
      omega

/-- What the cut leaves of an occurrence stays in the redacted front. -/
theorem MentionsWhole.kept_front {before kept lost after : PyStr} (valid : IsServiceKey key)
    (own : kept ++ lost = key) (more : lost ≠ [])
    (whole : MentionsWhole key (before ++ key ++ after)) :
    kept <:+: scrub key (before ++ kept) := by
  have short : ¬key <:+: kept := by
    intro inside
    have bound := inside.length_le
    have size := congrArg List.length own
    have positive := List.length_pos_of_ne_nil more
    rw [List.length_append] at size
    omega
  rcases scrub_append valid.word.1 before kept with
    parts | ⟨start, rest, front, back, same, some, left, rfl, rfl, _, _⟩
  · rw [parts, scrub_of_not_infix short]
    exact List.infix_append_right
  · have first : start ++ front ++ key ++ after = start ++ key ++ (rest ++ lost ++ after) := by
      calc start ++ front ++ key ++ after = start ++ front ++ (back ++ rest ++ lost) ++ after := by
            rw [own]
        _ = start ++ (front ++ back) ++ (rest ++ lost ++ after) := by simp only [List.append_assoc]
        _ = start ++ key ++ (rest ++ lost ++ after) := by rw [same]
    have bound := whole.apart _ _ _ _ first rfl
    have size := congrArg List.length same
    have fronted := List.length_pos_of_ne_nil some
    have backed := List.length_pos_of_ne_nil left
    simp only [List.length_append] at bound size
    omega

/-! ### Characters around a text -/

theorem IsWord.not_infix {word text : PyStr} (valid : IsWord word)
    (others : ∀ c ∈ text, isKeyChar c = false) : ¬word <:+: text := by
  intro inside
  obtain ⟨c, member⟩ := List.exists_mem_of_ne_nil word valid.1
  have other := others c (inside.subset member)
  rw [valid.2 c member] at other
  cases other

theorem infix_outer {word left inner right : PyStr} (valid : IsWord word)
    (before : ∀ c ∈ left, isKeyChar c = false) (after : ∀ c ∈ right, isKeyChar c = false) :
    word <:+: left ++ inner ++ right ↔ word <:+: inner := by
  constructor
  · intro inside
    have first : word <:+: left ++ inner := by
      cases right with
      | nil => rwa [List.append_nil] at inside
      | cons c right =>
        rw [List.forall_mem_cons] at after
        rcases infix_separated (valid.not_mem after.1) inside with first | last
        · exact first
        · exact absurd last (valid.not_infix after.2)
    rcases List.eq_nil_or_concat left with rfl | ⟨front, c, rfl⟩
    · exact first
    · rw [List.concat_eq_append] at before first
      rw [List.append_assoc] at first
      rcases infix_separated (valid.not_mem (before c (by simp))) first with outside | inside
      · exact absurd outside (valid.not_infix fun d member => before d (List.mem_append_left _ member))
      · exact inside
  · intro inside
    rw [List.append_assoc]
    exact List.infix_append_of_infix_right (List.infix_append_of_infix_left inside)

theorem scrub_outer (valid : IsWord key) {left right : PyStr} (inner : PyStr)
    (before : ∀ c ∈ left, isKeyChar c = false) (after : ∀ c ∈ right, isKeyChar c = false) :
    scrub key (left ++ inner ++ right) = left ++ scrub key inner ++ right := by
  have last : ∀ text, scrub key (text ++ right) = scrub key text ++ right := by
    intro text
    cases right with
    | nil => rw [List.append_nil, List.append_nil]
    | cons c right =>
      rw [List.forall_mem_cons] at after
      rw [scrub_separated valid after.1, scrub_of_not_infix (valid.not_infix after.2)]
  rw [last]
  rcases List.eq_nil_or_concat left with rfl | ⟨front, c, rfl⟩
  · rfl
  · rw [List.concat_eq_append] at before ⊢
    have plain := scrub_of_not_infix (valid.not_infix fun d member =>
      before d (List.mem_append_left _ member))
    rw [List.append_assoc, List.singleton_append, scrub_separated valid (before c (by simp)), plain]
    simp only [List.append_assoc, List.singleton_append]

theorem scrub_length (valid : IsServiceKey key) (text : PyStr) :
    (scrub key text).length ≤ text.length := by
  induction text using scrub_induction valid.word.1 with
  | nil => exact Nat.le_refl _
  | hit rest ih =>
    have mark : redactedMark.length = 10 := rfl
    have long := valid.long
    rw [scrub_hit valid.word.1, List.length_append, List.length_append]
    omega
  | miss c rest missed ih =>
    rw [scrub_miss missed]
    exact Nat.succ_le_succ ih

end

end HostingService
