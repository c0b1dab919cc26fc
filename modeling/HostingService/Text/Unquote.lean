import HostingService.Text.Str

/-! `urllib.parse.unquote`: percent escapes in each run of ASCII characters are
turned into bytes, which are decoded as UTF-8 with replacement characters. -/

namespace HostingService.Text

def percent : Nat := 0x25

/-- The value of one hexadecimal digit of either case. -/
def hexValue (c : Nat) : Option Nat :=
  if 0x30 ≤ c ∧ c ≤ 0x39 then some (c - 0x30)
  else if 0x41 ≤ c ∧ c ≤ 0x46 then some (c - 0x41 + 10)
  else if 0x61 ≤ c ∧ c ≤ 0x66 then some (c - 0x61 + 10)
  else none

def isHex (c : Nat) : Bool := (hexValue c).isSome

/-- The byte of a percent escape at the start of the text. -/
def escapeAt : PyStr → Option Nat
  | c :: high :: low :: _ =>
    if c = percent then
      match hexValue high, hexValue low with
      | some first, some second => some (first * 16 + second)
      | _, _ => none
    else none
  | _ => none

/-- `unquote_to_bytes` on ASCII; `skip` characters belong to the last escape. -/
def unquoteToBytes (run : PyStr) : List Nat := go run 0
where
  go : PyStr → Nat → List Nat
    | [], _ => []
    | _ :: rest, skip + 1 => go rest skip
    | c :: rest, 0 =>
      match escapeAt (c :: rest) with
      | some byte => byte :: go rest 2
      | none => c :: go rest 0

/-! ### Decoding UTF-8 -/

/-- How many continuation bytes a lead byte asks for, the range of the first one
and the bits the lead byte itself gives. -/
def utf8Lead (byte : Nat) : Option (Nat × Nat × Nat × Nat) :=
  if 0xC2 ≤ byte ∧ byte ≤ 0xDF then some (1, 0x80, 0xBF, byte - 0xC0)
  else if byte = 0xE0 then some (2, 0xA0, 0xBF, 0)
  else if byte = 0xED then some (2, 0x80, 0x9F, 0xD)
  else if 0xE1 ≤ byte ∧ byte ≤ 0xEF then some (2, 0x80, 0xBF, byte - 0xE0)
  else if byte = 0xF0 then some (3, 0x90, 0xBF, 0)
  else if 0xF1 ≤ byte ∧ byte ≤ 0xF3 then some (3, 0x80, 0xBF, byte - 0xF0)
  else if byte = 0xF4 then some (3, 0x80, 0x8F, 4)
  else none

def replacement : Nat := 0xFFFD

/-- Read continuation bytes; the code point and how many bytes were used. A byte
out of range or the end of the data leaves one replacement character. -/
def utf8Continue : Nat → Nat → Nat → Nat → Nat → List Nat → Nat × Nat
  | 0, _, _, value, used, _ => (value, used)
  | _ + 1, _, _, _, used, [] => (replacement, used)
  | owed + 1, low, high, value, used, byte :: rest =>
    if low ≤ byte ∧ byte ≤ high then
      utf8Continue owed 0x80 0xBF (value * 64 + (byte - 0x80)) (used + 1) rest
    else (replacement, used)

def utf8One (byte : Nat) (rest : List Nat) : Nat × Nat :=
  if byte < 0x80 then (byte, 0)
  else
    match utf8Lead byte with
    | none => (replacement, 0)
    | some (owed, low, high, bits) => utf8Continue owed low high bits 0 rest

/-- `bytes.decode('utf-8', 'replace')`; `skip` bytes belong to the last character. -/
def decodeUtf8 (bytes : List Nat) : PyStr := go bytes 0
where
  go : List Nat → Nat → PyStr
    | [], _ => []
    | _ :: rest, skip + 1 => go rest skip
    | byte :: rest, 0 => (utf8One byte rest).1 :: go rest (utf8One byte rest).2

/-- The characters of the current ASCII run, then the text still to be read. -/
def unquoteRuns : PyStr → PyStr → PyStr
  | run, [] => decodeUtf8 (unquoteToBytes run)
  | run, c :: rest =>
    if c < 0x80 then unquoteRuns (run ++ [c]) rest
    else decodeUtf8 (unquoteToBytes run) ++ c :: unquoteRuns [] rest

def unquote (text : PyStr) : PyStr :=
  if percent ∈ text then unquoteRuns [] text else text

/-! ### Texts that unquoting leaves alone -/

/-- Some percent sign is followed by two hexadecimal digits. -/
def hasEscape : PyStr → Bool
  | [] => false
  | c :: rest => (escapeAt (c :: rest)).isSome || hasEscape rest

theorem unquoteToBytes_go_length (run : PyStr) (skip : Nat) :
    (unquoteToBytes.go run skip).length ≤ run.length - skip := by
  induction run generalizing skip with
  | nil => simp [unquoteToBytes.go]
  | cons c rest ih =>
    cases skip with
    | succ skip => simpa [unquoteToBytes.go] using ih skip
    | zero =>
      simp only [unquoteToBytes.go]
      split
      · have bound := ih 2
        simp only [List.length_cons]; omega
      · simpa using ih 0

theorem escapeAt_length {text : PyStr} (found : (escapeAt text).isSome) : 3 ≤ text.length := by
  unfold escapeAt at found
  split at found
  · simp
  · simp at found

theorem unquoteToBytes_go_escape {run : PyStr} (escaped : hasEscape run = true) :
    (unquoteToBytes.go run 0).length < run.length := by
  induction run with
  | nil => simp [hasEscape] at escaped
  | cons c rest ih =>
    simp only [unquoteToBytes.go]
    split
    · rename_i byte found
      have long : 3 ≤ (c :: rest).length := escapeAt_length (by simp [found])
      have bound := unquoteToBytes_go_length rest 2
      simp only [List.length_cons] at *; omega
    · rename_i plain
      simpa using ih (by simpa [hasEscape, plain] using escaped)

theorem unquoteToBytes_go_plain {run : PyStr} (plain : hasEscape run = false) :
    unquoteToBytes.go run 0 = run := by
  induction run with
  | nil => rfl
  | cons c rest ih =>
    simp only [hasEscape, Bool.or_eq_false_iff, Option.isSome_eq_false_iff,
      Option.isNone_iff_eq_none] at plain
    simp [unquoteToBytes.go, plain.1, ih plain.2]

theorem decodeUtf8_go_length (bytes : List Nat) (skip : Nat) :
    (decodeUtf8.go bytes skip).length ≤ bytes.length := by
  induction bytes generalizing skip with
  | nil => simp [decodeUtf8.go]
  | cons byte rest ih =>
    cases skip with
    | succ skip => exact Nat.le_succ_of_le (ih skip)
    | zero => simpa [decodeUtf8.go] using ih _

theorem decodeUtf8_ascii {bytes : List Nat} (ascii : ∀ byte ∈ bytes, byte < 0x80) :
    decodeUtf8 bytes = bytes := by
  unfold decodeUtf8
  induction bytes with
  | nil => rfl
  | cons byte rest ih =>
    have first : utf8One byte rest = (byte, 0) := if_pos (ascii byte (by simp))
    rw [decodeUtf8.go, first, ih fun other member => ascii other (by simp [member])]

theorem escapeAt_append_high (run : PyStr) {c : Nat} (high : ¬ c < 0x80) (rest : PyStr) :
    (escapeAt (run ++ c :: rest)).isSome = (escapeAt run).isSome := by
  have notPercent : c ≠ percent := by simp only [percent]; omega
  have notHex : hexValue c = none := by
    unfold hexValue
    rw [if_neg (by omega), if_neg (by omega), if_neg (by omega)]
  rcases run with _ | ⟨a, _ | ⟨b, _ | ⟨d, run⟩⟩⟩
  · rcases rest with _ | ⟨_, _ | _⟩ <;> simp [escapeAt, notPercent]
  · rcases rest with _ | ⟨_, _⟩ <;> simp [escapeAt, notHex]
  · cases hexValue b <;> simp [escapeAt, notHex]
  · simp [escapeAt]

theorem hasEscape_append_high (run : PyStr) {c : Nat} (high : ¬ c < 0x80) (rest : PyStr) :
    hasEscape (run ++ c :: rest) = (hasEscape run || hasEscape rest) := by
  induction run with
  | nil =>
    have first : (escapeAt (c :: rest)).isSome = false := escapeAt_append_high [] high rest
    simp only [List.nil_append, hasEscape, first, Bool.false_or]
  | cons a run ih =>
    have first := escapeAt_append_high (a :: run) high rest
    rw [List.cons_append] at *
    rw [hasEscape, hasEscape, first, ih, Bool.or_assoc]

theorem unquoteRuns_plain {run text : PyStr} (ascii : ∀ c ∈ run, c < 0x80)
    (plain : hasEscape (run ++ text) = false) : unquoteRuns run text = run ++ text := by
  induction text generalizing run with
  | nil =>
    rw [List.append_nil] at *
    rw [unquoteRuns, unquoteToBytes, unquoteToBytes_go_plain plain, decodeUtf8_ascii ascii]
  | cons c rest ih =>
    by_cases low : c < 0x80
    · rw [unquoteRuns, if_pos low, ih _ (by simpa using plain)]
      · simp
      · simp only [List.mem_append, List.mem_singleton]
        rintro d (old | rfl)
        · exact ascii d old
        · exact low
    · rw [hasEscape_append_high _ low, Bool.or_eq_false_iff] at plain
      rw [unquoteRuns, if_neg low, unquoteToBytes, unquoteToBytes_go_plain plain.1,
        decodeUtf8_ascii ascii, ih (by simp) (by simpa using plain.2), List.nil_append]

theorem unquoteRuns_length (run text : PyStr) :
    (unquoteRuns run text).length ≤ run.length + text.length ∧
      (hasEscape (run ++ text) = true →
        (unquoteRuns run text).length < run.length + text.length) := by
  have decoded (run : PyStr) := decodeUtf8_go_length (unquoteToBytes.go run 0) 0
  have bytes (run : PyStr) := unquoteToBytes_go_length run 0
  induction text generalizing run with
  | nil =>
    have := decoded run
    have := bytes run
    rw [List.append_nil, unquoteRuns]
    refine ⟨?_, fun escaped => ?_⟩
    · simp only [decodeUtf8, unquoteToBytes, List.length_nil]; omega
    · have := unquoteToBytes_go_escape escaped
      simp only [decodeUtf8, unquoteToBytes, List.length_nil]; omega
  | cons c rest ih =>
    by_cases low : c < 0x80
    · obtain ⟨bound, strict⟩ := ih (run ++ [c])
      rw [unquoteRuns, if_pos low]
      simp only [List.length_append, List.length_cons, List.length_nil, List.append_assoc,
        List.singleton_append] at *
      exact ⟨by omega, fun escaped => by have := strict escaped; omega⟩
    · obtain ⟨bound, strict⟩ := ih []
      have := decoded run
      have := bytes run
      rw [unquoteRuns, if_neg low, hasEscape_append_high _ low]
      simp only [decodeUtf8, unquoteToBytes, List.length_append, List.length_cons,
        List.length_nil, List.nil_append, Nat.zero_add, Bool.or_eq_true] at *
      refine ⟨by omega, ?_⟩
      rintro (inRun | inRest)
      · have := unquoteToBytes_go_escape inRun
        omega
      · have := strict inRest
        omega

theorem hasEscape_of_not_mem {text : PyStr} (absent : percent ∉ text) : hasEscape text = false := by
  induction text with
  | nil => rfl
  | cons c rest ih =>
    have different : c ≠ percent := fun same => absent (by simp [same])
    have first : escapeAt (c :: rest) = none := by
      rcases rest with _ | ⟨_, _ | _⟩ <;> simp [escapeAt, different]
    rw [hasEscape, first, ih fun member => absent (List.mem_cons_of_mem c member)]
    rfl

theorem escapeAt_append {text : PyStr} (found : (escapeAt text).isSome) (rest : PyStr) :
    (escapeAt (text ++ rest)).isSome := by
  rcases text with _ | ⟨a, _ | ⟨b, _ | ⟨d, text⟩⟩⟩
  · simp [escapeAt] at found
  · simp [escapeAt] at found
  · simp [escapeAt] at found
  · simpa [escapeAt] using found

theorem hasEscape_append_right {text : PyStr} (escaped : hasEscape text = true) (rest : PyStr) :
    hasEscape (text ++ rest) = true := by
  induction text with
  | nil => simp [hasEscape] at escaped
  | cons c text ih =>
    rw [hasEscape, Bool.or_eq_true] at escaped
    rw [List.cons_append, hasEscape, Bool.or_eq_true]
    exact escaped.imp (fun found => escapeAt_append found rest) ih

theorem hasEscape_append_left {text : PyStr} (escaped : hasEscape text = true) (front : PyStr) :
    hasEscape (front ++ text) = true := by
  induction front with
  | nil => exact escaped
  | cons c front ih => rw [List.cons_append, hasEscape, ih, Bool.or_true]

theorem hasEscape_within {part whole : PyStr} (inside : part <:+: whole)
    (plain : hasEscape whole = false) : hasEscape part = false := by
  obtain ⟨front, rest, rfl⟩ := inside
  apply Bool.eq_false_iff.mpr
  intro escaped
  rw [hasEscape_append_right (hasEscape_append_left escaped front) rest] at plain
  contradiction

/-- Unquoting changes exactly the texts with an escape, and makes them shorter. -/
theorem unquote_of_plain {text : PyStr} (plain : hasEscape text = false) : unquote text = text := by
  unfold unquote
  split
  · exact unquoteRuns_plain (fun _ none => absurd none List.not_mem_nil) plain
  · rfl

theorem unquote_length_lt {text : PyStr} (escaped : hasEscape text = true) :
    (unquote text).length < text.length := by
  have present : percent ∈ text := by
    by_contra absent
    simp [hasEscape_of_not_mem absent] at escaped
  rw [unquote, if_pos present]
  simpa using (unquoteRuns_length [] text).2 escaped

example : unquote (lit "a%2Fb%zz%c3%A9%ff") = lit "a/b%zz" ++ [0xE9, replacement] := by decide

/-! ### Bytes that were cut -/

theorem utf8Continue_take (owed low high value used : Nat) (rest : List Nat) (n : Nat) :
    utf8Continue owed low high value used (rest.take n) = utf8Continue owed low high value used rest ∨
      utf8Continue owed low high value used (rest.take n) =
        (replacement, used + (rest.take n).length) := by
  induction owed generalizing low high value used rest n with
  | zero => exact .inl rfl
  | succ owed ih =>
    cases rest with
    | nil => simp
    | cons byte rest =>
      cases n with
      | zero => exact .inr rfl
      | succ n =>
        rw [List.take_succ_cons, utf8Continue, utf8Continue]
        by_cases valid : low ≤ byte ∧ byte ≤ high
        · rw [if_pos valid, if_pos valid]
          rcases ih 0x80 0xBF (value * 64 + (byte - 0x80)) (used + 1) rest n with same | cut
          · exact .inl same
          · right
            rw [cut, List.length_cons, Nat.add_assoc, Nat.add_comm 1]
        · rw [if_neg valid, if_neg valid]
          exact .inl rfl

theorem utf8Continue_high {owed low high value used : Nat} {rest : List Nat} (some : 0 < owed)
    (large : 2 ≤ value) : 0x80 ≤ (utf8Continue owed low high value used rest).1 := by
  induction owed generalizing low high value used rest with
  | zero => exact absurd some (Nat.lt_irrefl 0)
  | succ owed ih =>
    cases rest with
    | nil => exact Nat.le_of_ble_eq_true rfl
    | cons byte rest =>
      rw [utf8Continue]
      by_cases valid : low ≤ byte ∧ byte ≤ high
      · rw [if_pos valid]
        rcases Nat.eq_zero_or_pos owed with rfl | more
        · show 0x80 ≤ value * 64 + (byte - 0x80)
          omega
        · exact ih more (by omega)
      · rw [if_neg valid]
        exact Nat.le_of_ble_eq_true rfl

/-- The first continuation byte makes the value of a longer sequence large enough. -/
theorem utf8Continue_high_of_low {owed low high value used : Nat} {rest : List Nat} (more : 0 < owed)
    (large : 1 ≤ value ∨ 0x82 ≤ low) :
    0x80 ≤ (utf8Continue (owed + 1) low high value used rest).1 := by
  cases rest with
  | nil => exact Nat.le_of_ble_eq_true rfl
  | cons byte rest =>
    rw [utf8Continue]
    by_cases valid : low ≤ byte ∧ byte ≤ high
    · rw [if_pos valid]
      exact utf8Continue_high more (by omega)
    · rw [if_neg valid]
      exact Nat.le_of_ble_eq_true rfl

/-- No byte beyond ASCII is decoded to an ASCII character. -/
theorem utf8One_high {byte : Nat} (high : 0x80 ≤ byte) (rest : List Nat) :
    0x80 ≤ (utf8One byte rest).1 := by
  rw [utf8One, if_neg (by omega)]
  cases lead : utf8Lead byte with
  | none => exact Nat.le_of_ble_eq_true rfl
  | some shape =>
    obtain ⟨owed, low, top, bits⟩ := shape
    unfold utf8Lead at lead
    split at lead
    · cases lead
      exact utf8Continue_high Nat.one_pos (by omega)
    repeat'
      split at lead
      · cases lead
        exact utf8Continue_high_of_low (by decide) (by omega)
    cases lead

theorem utf8One_take (byte : Nat) (rest : List Nat) (n : Nat) :
    utf8One byte (rest.take n) = utf8One byte rest ∨
      0x80 ≤ byte ∧ utf8One byte (rest.take n) = (replacement, (rest.take n).length) := by
  unfold utf8One
  by_cases ascii : byte < 0x80
  · rw [if_pos ascii, if_pos ascii]
    exact .inl rfl
  · rw [if_neg ascii, if_neg ascii]
    cases utf8Lead byte with
    | none => exact .inl rfl
    | some shape =>
      obtain ⟨owed, low, high, bits⟩ := shape
      rcases utf8Continue_take owed low high bits 0 rest n with same | cut
      · exact .inl same
      · refine .inr ⟨by omega, ?_⟩
        dsimp only
        rw [cut, Nat.zero_add]

theorem decodeUtf8_go_length_self (bytes : List Nat) : decodeUtf8.go bytes bytes.length = [] := by
  induction bytes with
  | nil => rfl
  | cons byte rest ih => exact ih

/-- Bytes that were cut are decoded to the front of the text, but for a character that the
cut is in. -/
theorem decodeUtf8_take (bytes : List Nat) (n : Nat) :
    ∃ front rest last, decodeUtf8 (bytes.take n) = front ++ last ∧ decodeUtf8 bytes = front ++ rest ∧
      (last = [] ∨ last = [replacement] ∧ ∀ c ∈ rest.head?, 0x80 ≤ c) := by
  suffices every : ∀ skip, ∃ front rest last, decodeUtf8.go (bytes.take n) skip = front ++ last ∧
      decodeUtf8.go bytes skip = front ++ rest ∧
      (last = [] ∨ last = [replacement] ∧ ∀ c ∈ rest.head?, 0x80 ≤ c) from every 0
  induction bytes generalizing n with
  | nil => exact fun skip => ⟨[], [], [], by simp [decodeUtf8.go], rfl, .inl rfl⟩
  | cons byte bytes ih =>
    intro skip
    cases n with
    | zero => exact ⟨[], _, [], by simp [decodeUtf8.go], rfl, .inl rfl⟩
    | succ n =>
      cases skip with
      | succ skip => exact ih n skip
      | zero =>
        rw [List.take_succ_cons, decodeUtf8.go, decodeUtf8.go]
        rcases utf8One_take byte bytes n with same | ⟨high, cut⟩
        · rw [same]
          obtain ⟨front, rest, last, one, two, ends⟩ := ih n (utf8One byte bytes).2
          exact ⟨_ :: front, rest, last, congrArg (_ :: ·) one, congrArg (_ :: ·) two, ends⟩
        · rw [cut, decodeUtf8_go_length_self]
          refine ⟨[], _, [replacement], rfl, rfl, .inr ⟨rfl, ?_⟩⟩
          intro c first
          cases first
          exact utf8One_high high bytes

end HostingService.Text
