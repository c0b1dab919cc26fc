import HostingService.Text.Unquote

/-! `uuid.UUID`: the canonical text of a UUID and the texts the constructor
accepts, which are many more. -/

namespace HostingService.Text

/-- The zeros of the Unicode decimal digit ranges (category Nd). -/
def decimalZeros : List Nat :=
  [0x30, 0x660, 0x6F0, 0x7C0, 0x966, 0x9E6, 0xA66, 0xAE6, 0xB66, 0xBE6, 0xC66, 0xCE6, 0xD66, 0xDE6,
    0xE50, 0xED0, 0xF20, 0x1040, 0x1090, 0x17E0, 0x1810, 0x1946, 0x19D0, 0x1A80, 0x1A90, 0x1B50,
    0x1BB0, 0x1C40, 0x1C50, 0xA620, 0xA8D0, 0xA900, 0xA9D0, 0xA9F0, 0xAA50, 0xABF0, 0xFF10,
    0x104A0, 0x10D30, 0x10D40, 0x11066, 0x110F0, 0x11136, 0x111D0, 0x112F0, 0x11450, 0x114D0,
    0x11650, 0x116C0, 0x116D0, 0x116DA, 0x11730, 0x118E0, 0x11950, 0x11BF0, 0x11C50, 0x11D50,
    0x11DA0, 0x11F50, 0x16130, 0x16A60, 0x16AC0, 0x16B50, 0x16D70, 0x1CCF0, 0x1D7CE, 0x1D7D8,
    0x1D7E2, 0x1D7EC, 0x1D7F6, 0x1E140, 0x1E2F0, 0x1E4F0, 0x1E5F1, 0x1E950, 0x1FBF0]

/-- `unicodedata.decimal`. -/
def decimalValue (c : Nat) : Option Nat :=
  decimalZeros.findSome? fun first => if first ≤ c ∧ c ≤ first + 9 then some (c - first) else none

/-! ### `int(text, 16)` -/

/-- Decimal digits and spaces outside ASCII become ASCII ones. -/
def toAsciiDigits (text : PyStr) : PyStr :=
  if text.all (· < 0x80) then text
  else text.map fun c =>
    if c < 0x7F then c
    else if isSpace c then 0x20
    else match decimalValue c with
      | some value => 0x30 + value
      | none => 0x3F

def isAsciiSpace (c : Nat) : Bool := c == 0x20 || (0x09 ≤ c && c ≤ 0x0D)

def hexNumber (digits : PyStr) : Nat :=
  digits.foldl (fun value digit => value * 16 + (hexValue digit).getD 0) 0

/-- Hexadecimal digits with single underscores between them. -/
def hexBody (body : PyStr) : Option Nat :=
  if (body.splitOn 0x5F).all fun part => !part.isEmpty && part.all isHex then
    some (hexNumber (body.filter (· ≠ 0x5F)))
  else none

def dropHexPrefix : PyStr → PyStr
  | 0x30 :: x :: rest =>
    if x = 0x78 ∨ x = 0x58 then
      match rest with
      | 0x5F :: rest => rest
      | rest => rest
    else 0x30 :: x :: rest
  | text => text

def intBase16 (text : PyStr) : Option Int :=
  match stripBy isAsciiSpace (toAsciiDigits text) with
  | 0x2D :: rest => (hexBody (dropHexPrefix rest)).map fun value => -value
  | 0x2B :: rest => (hexBody (dropHexPrefix rest)).map Int.ofNat
  | rest => (hexBody (dropHexPrefix rest)).map Int.ofNat

/-! ### UUIDs -/

instance neZero_uuids : NeZero (2 ^ 128) := ⟨by decide⟩

structure Uuid where
  int : Fin (2 ^ 128)
  deriving DecidableEq

def hexDigit (value : Nat) : Nat := if value < 10 then 0x30 + value else 0x57 + value

/-- `'%0{width}x' % value` -/
def hexText : Nat → Nat → PyStr
  | 0, _ => []
  | width + 1, value => hexText width (value / 16) ++ [hexDigit (value % 16)]

def hyphen : Nat := 0x2D

/-- Groups of 8, 4, 4, 4 and 12 digits. -/
def hyphenate (hex : PyStr) : PyStr :=
  hex.take 8 ++ hyphen :: ((hex.drop 8).take 4 ++ hyphen :: ((hex.drop 12).take 4 ++
    hyphen :: ((hex.drop 16).take 4 ++ hyphen :: hex.drop 20)))

/-- `str(uuid)` -/
def Uuid.text (uuid : Uuid) : PyStr := hyphenate (hexText 32 uuid.int)

def isBrace (c : Nat) : Bool := c == 0x7B || c == 0x7D

/-- `uuid.UUID(text)`; `none` is the `ValueError`. -/
def Uuid.parse (text : PyStr) : Option Uuid :=
  let hex := removeSubstr (lit "uuid:") (removeSubstr (lit "urn:") text)
  let hex := (stripBy isBrace hex).filter (· ≠ hyphen)
  if hex.length ≠ 32 then none
  else
    match intBase16 hex with
    | none => none
    | some value => if h : value.toNat < 2 ^ 128 ∧ 0 ≤ value then some ⟨⟨value.toNat, h.1⟩⟩ else none

theorem hexText_length (width value : Nat) : (hexText width value).length = width := by
  induction width generalizing value with
  | zero => rfl
  | succ width ih => simp [hexText, ih]

/-- The characters of the canonical text: lower case digits, and hyphens. -/
def isLowerHex (c : Nat) : Bool := (0x30 ≤ c && c ≤ 0x39) || (0x61 ≤ c && c ≤ 0x66)

theorem hexDigit_lower {value : Nat} (small : value < 16) :
    isLowerHex (hexDigit value) = true ∧ hexValue (hexDigit value) = some value := by
  unfold hexDigit
  split
  · have last : 0x30 + value - 0x30 = value := by omega
    simp only [isLowerHex, hexValue, Bool.or_eq_true, Bool.and_eq_true, decide_eq_true_eq, last]
    exact ⟨by omega, by rw [if_pos (by omega)]⟩
  · have last : 0x57 + value - 0x61 + 10 = value := by omega
    simp only [isLowerHex, hexValue, Bool.or_eq_true, Bool.and_eq_true, decide_eq_true_eq, last]
    exact ⟨by omega, by rw [if_neg (by omega), if_neg (by omega), if_pos (by omega)]⟩

theorem hexText_lower {width value c : Nat} (member : c ∈ hexText width value) :
    isLowerHex c = true := by
  induction width generalizing value with
  | zero => simp [hexText] at member
  | succ width ih =>
    rcases List.mem_append.mp member with front | last
    · exact ih front
    · rw [List.mem_singleton.mp last]
      exact (hexDigit_lower (Nat.mod_lt _ (by decide))).1

theorem hexNumber_hexText (width value : Nat) :
    hexNumber (hexText width value) = value % 16 ^ width := by
  induction width generalizing value with
  | zero => simp [hexText, hexNumber, Nat.mod_one]
  | succ width ih =>
    have front : hexNumber (hexText width (value / 16)) = value / 16 % 16 ^ width := ih _
    have digit := (hexDigit_lower (Nat.mod_lt value (by decide : 0 < 16))).2
    unfold hexNumber at *
    rw [hexText, List.foldl_append, front]
    simp only [List.foldl_cons, List.foldl_nil, digit, Option.getD_some]
    rw [Nat.pow_succ, Nat.mul_comm (16 ^ width) 16, Nat.mod_mul]
    omega

/-- What a lower case hexadecimal digit is not. -/
theorem lowerHex_facts {c : Nat} (lower : isLowerHex c = true) :
    c < 0x80 ∧ isHex c = true ∧ isSpace c = false ∧ isAsciiSpace c = false ∧ isBrace c = false ∧
      c ≠ slash ∧ c ≠ hyphen ∧ c ≠ 0x2B ∧ c ≠ 0x3A ∧ c ≠ 0x5F ∧ c ≠ 0x78 ∧ c ≠ 0x58 := by
  have small : c < 0x67 := by
    simp only [isLowerHex, Bool.or_eq_true, Bool.and_eq_true, decide_eq_true_eq] at lower
    omega
  have table : ∀ c < 0x67, isLowerHex c = true →
      c < 0x80 ∧ isHex c = true ∧ isSpace c = false ∧ isAsciiSpace c = false ∧ isBrace c = false ∧
        c ≠ slash ∧ c ≠ hyphen ∧ c ≠ 0x2B ∧ c ≠ 0x3A ∧ c ≠ 0x5F ∧ c ≠ 0x78 ∧ c ≠ 0x58 := by
    decide
  exact table c small lower

theorem hexBody_lower {digits : PyStr} (full : digits ≠ [])
    (lower : ∀ c ∈ digits, isLowerHex c = true) : hexBody digits = some (hexNumber digits) := by
  have noUnderscore : 0x5F ∉ digits := fun member =>
    (lowerHex_facts (lower _ member)).2.2.2.2.2.2.2.2.2.1 rfl
  have kept : digits.filter (· ≠ 0x5F) = digits :=
    List.filter_eq_self.mpr fun c member => by
      simpa using fun same : c = 0x5F => noUnderscore (same ▸ member)
  rw [hexBody, List.splitOn_eq_singleton noUnderscore, kept]
  have hexes : digits.all isHex = true :=
    List.all_eq_true.mpr fun c member => (lowerHex_facts (lower c member)).2.1
  simp [full, hexes]

theorem intBase16_lower {digits : PyStr} (full : digits ≠ [])
    (lower : ∀ c ∈ digits, isLowerHex c = true) : intBase16 digits = some (hexNumber digits) := by
  have ascii : toAsciiDigits digits = digits :=
    if_pos (List.all_eq_true.mpr fun c member => by simpa using (lowerHex_facts (lower c member)).1)
  have stripped : stripBy isAsciiSpace digits = digits :=
    stripBy_of_not_mem _ fun c member => (lowerHex_facts (lower c member)).2.2.2.1
  have noPrefix : dropHexPrefix digits = digits := by
    unfold dropHexPrefix
    split
    · rename_i x rest
      have facts := lowerHex_facts (lower x (by simp))
      rw [if_neg (by simp [facts.2.2.2.2.2.2.2.2.2.2])]
    · rfl
  unfold intBase16
  rw [ascii, stripped]
  split
  · exact absurd rfl (lowerHex_facts (lower 0x2D (by simp))).2.2.2.2.2.2.1
  · exact absurd rfl (lowerHex_facts (lower 0x2B (by simp))).2.2.2.2.2.2.2.1
  · rw [noPrefix, hexBody_lower full lower]
    rfl

theorem mem_hyphenate {hex : PyStr} {c : Nat} (member : c ∈ hyphenate hex) :
    c = hyphen ∨ c ∈ hex := by
  simp only [hyphenate, List.mem_append, List.mem_cons] at member
  rcases member with first | same | second | same | third | same | fourth | same | last
  · exact .inr (List.mem_of_mem_take first)
  · exact .inl same
  · exact .inr (List.mem_of_mem_drop (List.mem_of_mem_take second))
  · exact .inl same
  · exact .inr (List.mem_of_mem_drop (List.mem_of_mem_take third))
  · exact .inl same
  · exact .inr (List.mem_of_mem_drop (List.mem_of_mem_take fourth))
  · exact .inl same
  · exact .inr (List.mem_of_mem_drop last)

theorem hyphenate_length {hex : PyStr} (length : hex.length = 32) :
    (hyphenate hex).length = 36 := by
  simp [hyphenate, length]

theorem hyphenate_filter {hex : PyStr} (plain : hyphen ∉ hex) :
    (hyphenate hex).filter (· ≠ hyphen) = hex := by
  have kept {part : PyStr} (inside : part ⊆ hex) : part.filter (· ≠ hyphen) = part :=
    List.filter_eq_self.mpr fun c member => by
      simpa using fun same : c = hyphen => plain (same ▸ inside member)
  have inner (start : Nat) : (hex.drop start).take 4 ⊆ hex :=
    fun _ member => List.mem_of_mem_drop (List.mem_of_mem_take member)
  have next (start : Nat) :
      (hex.drop start).take 4 ++ hex.drop (start + 4) = hex.drop start := by
    rw [← List.drop_drop, List.take_append_drop]
  have skip (rest : PyStr) : (hyphen :: rest).filter (· ≠ hyphen) = rest.filter (· ≠ hyphen) := by
    simp
  rw [hyphenate, List.filter_append, skip, List.filter_append, skip, List.filter_append, skip,
    List.filter_append, skip, kept fun _ => List.mem_of_mem_take, kept (inner 8), kept (inner 12),
    kept (inner 16), kept fun _ => List.mem_of_mem_drop, next 16, next 12, next 8,
    List.take_append_drop]

namespace Uuid

theorem mem_text {uuid : Uuid} {c : Nat} (member : c ∈ uuid.text) :
    c = hyphen ∨ isLowerHex c = true :=
  (mem_hyphenate member).imp_right hexText_lower

theorem text_length (uuid : Uuid) : uuid.text.length = 36 :=
  hyphenate_length (hexText_length 32 _)

theorem text_ne_nil (uuid : Uuid) : uuid.text ≠ [] := by
  intro empty
  simpa [empty] using text_length uuid

theorem text_without_hyphens (uuid : Uuid) :
    uuid.text.filter (· ≠ hyphen) = hexText 32 uuid.int :=
  hyphenate_filter fun member => (lowerHex_facts (hexText_lower member)).2.2.2.2.2.2.1 rfl

/-- The constructor reads the canonical text back. -/
theorem parse_text (uuid : Uuid) : parse uuid.text = some uuid := by
  have noColon : 0x3A ∉ uuid.text := fun member =>
    (mem_text member).elim (by decide) fun lower => (lowerHex_facts lower).2.2.2.2.2.2.2.2.1 rfl
  have noBrace : ∀ c ∈ uuid.text, isBrace c = false := fun c member =>
    (mem_text member).elim (fun same => same ▸ rfl) fun lower => (lowerHex_facts lower).2.2.2.2.1
  have nonempty : hexText 32 uuid.int ≠ [] := by
    intro empty
    simpa [empty] using hexText_length 32 uuid.int
  have bound : uuid.int.val < 16 ^ 32 := Nat.lt_of_lt_of_eq uuid.int.isLt (by decide)
  have number : hexNumber (hexText 32 uuid.int) = uuid.int.val :=
    (hexNumber_hexText 32 _).trans (Nat.mod_eq_of_lt bound)
  simp only [parse]
  rw [removeSubstr_of_not_mem (c := 0x3A) _ (by decide) noColon,
    removeSubstr_of_not_mem (c := 0x3A) _ (by decide) noColon, stripBy_of_not_mem _ noBrace,
    text_without_hyphens, hexText_length, intBase16_lower nonempty fun c => hexText_lower, number]
  have small : (uuid.int.val : Int).toNat < 2 ^ 128 ∧ (0 : Int) ≤ uuid.int.val :=
    ⟨uuid.int.isLt, Int.natCast_nonneg _⟩
  rw [if_neg (fun different => different rfl)]
  exact dif_pos small

theorem text_injective {first second : Uuid} (same : first.text = second.text) : first = second := by
  have read := parse_text first
  rw [same, parse_text] at read
  exact (Option.some.inj read).symm

/-- A text too short for 32 digits is no UUID. -/
theorem parse_short {text : PyStr} (noColon : 0x3A ∉ text) (short : text.length < 32) :
    parse text = none := by
  simp only [parse]
  rw [removeSubstr_of_not_mem (c := 0x3A) _ (by decide) noColon,
    removeSubstr_of_not_mem (c := 0x3A) _ (by decide) noColon, if_pos]
  have filtered := List.length_filter_le (· ≠ hyphen) (stripBy isBrace text)
  have stripped := stripBy_length_le isBrace text
  omega

end Uuid

end HostingService.Text
