import Mathlib.Algebra.Order.Ring.Nat
import Mathlib.Algebra.Order.Ring.Int
import Mathlib.Data.List.Lex
import Mathlib.Data.List.DropRight
import Mathlib.Data.List.Infix

/-! Python's `str` as a list of code points, with the methods used on it. Code
points are natural numbers, so lone surrogates are included. -/

namespace HostingService.Text

abbrev PyStr := List Nat

instance lawfulBEq_pyStr : LawfulBEq PyStr := inferInstance

/-- The code points of a literal. Those of an ASCII text are its bytes, which evaluate
faster. -/
def lit (text : String) : PyStr :=
  let bytes := text.toByteArray.data.toList.map UInt8.toNat
  if bytes.all (Nat.blt · 0x80) then bytes else text.toList.map Char.toNat

theorem toNat_utf8EncodeChar {c : Char}
    (ascii : ∀ byte ∈ String.utf8EncodeChar c, byte.toNat < 0x80) :
    (String.utf8EncodeChar c).map UInt8.toNat = [c.toNat] := by
  rw [String.utf8EncodeChar.eq_def] at ascii ⊢
  dsimp only at ascii ⊢
  by_cases small : c.val.toNat ≤ 0x7F
  · rw [if_pos small, List.map_singleton, UInt8.toNat_ofNat']
    exact congrArg (fun code => [code]) (Nat.mod_eq_of_lt (by omega))
  · exfalso
    -- the first of several bytes has its upper bit set
    have first {lead : Nat} {later : List UInt8} (upper : 0x80 ≤ lead) (bound : lead < 0x100)
        (below : ∀ byte ∈ UInt8.ofNat lead :: later, byte.toNat < 0x80) : False := by
      have low := below _ List.mem_cons_self
      rw [UInt8.toNat_ofNat', Nat.mod_eq_of_lt bound] at low
      omega
    rw [if_neg small] at ascii
    split at ascii
    · exact first (by omega) (by omega) ascii
    · split at ascii
      · exact first (by omega) (by omega) ascii
      · exact first (by omega) (by omega) ascii

theorem toNat_utf8Encode {text : List Char}
    (ascii : ∀ byte ∈ text.flatMap String.utf8EncodeChar, byte.toNat < 0x80) :
    (text.flatMap String.utf8EncodeChar).map UInt8.toNat = text.map Char.toNat := by
  induction text with
  | nil => rfl
  | cons c rest ih =>
    rw [List.flatMap_cons] at ascii ⊢
    rw [List.map_append, List.map_cons, toNat_utf8EncodeChar fun byte member =>
      ascii byte (List.mem_append_left _ member), ih fun byte member =>
      ascii byte (List.mem_append_right _ member), List.singleton_append]

theorem lit_eq (text : String) : lit text = text.toList.map Char.toNat := by
  obtain ⟨chars, rfl⟩ := String.exists_eq_ofList text
  have bytes : (String.ofList chars).toByteArray.data.toList = chars.flatMap String.utf8EncodeChar := by
    simp [List.utf8Encode]
  rw [lit, String.toList_ofList]
  split
  · rename_i ascii
    rw [bytes] at ascii ⊢
    refine toNat_utf8Encode fun byte member => ?_
    simpa using List.all_eq_true.mp ascii _ (List.mem_map_of_mem member)
  · rfl

/-- `str.isspace` on one character. -/
def isSpace (c : Nat) : Bool :=
  (0x09 ≤ c && c ≤ 0x0D) || (0x1C ≤ c && c ≤ 0x20) || c == 0x85 || c == 0xA0 || c == 0x1680 ||
    (0x2000 ≤ c && c ≤ 0x200A) || c == 0x2028 || c == 0x2029 || c == 0x202F || c == 0x205F ||
    c == 0x3000

def slash : Nat := 0x2F
def backslash : Nat := 0x5C

def isSlash (c : Nat) : Bool := c == slash

@[simp] theorem isSpace_slash : isSpace slash = false := rfl

@[simp] theorem isSlash_slash : isSlash slash = true := rfl

section Strip
variable (drop : Nat → Bool)

def lstripBy (text : PyStr) : PyStr := text.dropWhile drop
def rstripBy (text : PyStr) : PyStr := text.rdropWhile drop
def stripBy (text : PyStr) : PyStr := rstripBy drop (lstripBy drop text)

@[simp] theorem rstripBy_nil : rstripBy drop [] = [] := List.rdropWhile_nil ..

theorem lstripBy_cons {c : Nat} (kept : drop c = false) (text : PyStr) :
    lstripBy drop (c :: text) = c :: text := by
  simp [lstripBy, kept]

theorem rstripBy_append (left right : PyStr) :
    rstripBy drop (left ++ right) =
      if rstripBy drop right = [] then rstripBy drop left else left ++ rstripBy drop right := by
  simp only [rstripBy, List.rdropWhile, List.reverse_append, List.dropWhile_append,
    List.isEmpty_iff, List.reverse_eq_nil_iff]
  split <;> simp

theorem rstripBy_cons {c : Nat} (kept : drop c = false) (text : PyStr) :
    rstripBy drop (c :: text) = c :: rstripBy drop text := by
  have alone : rstripBy drop [c] = [c] := by simp [rstripBy, kept]
  have split := rstripBy_append drop [c] text
  by_cases blank : rstripBy drop text = []
  · simpa [blank, alone] using split
  · simpa [blank] using split

theorem rstripBy_concat {c : Nat} (kept : drop c = false) (text : PyStr) :
    rstripBy drop (text ++ [c]) = text ++ [c] := by
  simp [rstripBy, kept]

theorem rstripBy_concat_dropped {c : Nat} (dropped : drop c = true) (text : PyStr) :
    rstripBy drop (text ++ [c]) = rstripBy drop text := by
  simp [rstripBy, dropped]

theorem rstripBy_eq_nil_iff (text : PyStr) :
    rstripBy drop text = [] ↔ ∀ c ∈ text, drop c = true :=
  List.rdropWhile_eq_nil_iff

theorem rstripBy_isPrefix (text : PyStr) : rstripBy drop text <+: text :=
  List.rdropWhile_prefix ..

theorem rstripBy_rstripBy (text : PyStr) :
    rstripBy drop (rstripBy drop text) = rstripBy drop text :=
  List.rdropWhile_idempotent ..

theorem rstripBy_of_not_mem {text : PyStr} (kept : ∀ c ∈ text, drop c = false) :
    rstripBy drop text = text := by
  apply List.rdropWhile_eq_self_iff.mpr
  intro nonempty
  simp [kept _ (List.getLast_mem nonempty)]

theorem lstripBy_of_not_mem {text : PyStr} (kept : ∀ c ∈ text, drop c = false) :
    lstripBy drop text = text := by
  cases text with
  | nil => rfl
  | cons c rest => exact lstripBy_cons drop (kept c (by simp)) rest

theorem stripBy_of_not_mem {text : PyStr} (kept : ∀ c ∈ text, drop c = false) :
    stripBy drop text = text := by
  rw [stripBy, lstripBy_of_not_mem drop kept, rstripBy_of_not_mem drop kept]

theorem stripBy_stripBy (text : PyStr) : stripBy drop (stripBy drop text) = stripBy drop text := by
  have kept : lstripBy drop (stripBy drop text) = stripBy drop text := by
    rcases left : lstripBy drop text with _ | ⟨c, rest⟩
    · rw [stripBy, left, rstripBy_nil]
      rfl
    · have first : drop c = false := by
        have head := List.head?_dropWhile_not drop text
        rw [← lstripBy, left] at head
        simpa using head
      rw [stripBy, left, rstripBy_cons drop first, lstripBy_cons drop first]
  rw [stripBy, kept, stripBy, rstripBy_rstripBy]

theorem stripBy_subset (text : PyStr) : stripBy drop text ⊆ text := fun _ member =>
  (List.dropWhile_sublist drop).subset ((rstripBy_isPrefix drop _).subset member)

theorem stripBy_length_le (text : PyStr) : (stripBy drop text).length ≤ text.length :=
  Nat.le_trans (rstripBy_isPrefix drop _).length_le (List.dropWhile_sublist drop).length_le

variable {drop}

theorem mem_lstripBy {c : Nat} (kept : drop c = false) {text : PyStr} :
    c ∈ lstripBy drop text ↔ c ∈ text := by
  induction text with
  | nil => rfl
  | cons first rest ih =>
    cases dropped : drop first with
    | false => rw [lstripBy_cons drop dropped]
    | true =>
      have different : c ≠ first := by
        rintro rfl
        rw [kept] at dropped
        contradiction
      have shorter : lstripBy drop (first :: rest) = lstripBy drop rest :=
        List.dropWhile_cons_of_pos dropped
      rw [shorter, ih, List.mem_cons, or_iff_right different]

theorem mem_rstripBy {c : Nat} (kept : drop c = false) {text : PyStr} :
    c ∈ rstripBy drop text ↔ c ∈ text := by
  have reversed : c ∈ lstripBy drop text.reverse ↔ c ∈ text.reverse := mem_lstripBy kept
  rw [List.mem_reverse] at reversed
  rw [rstripBy, List.rdropWhile, List.mem_reverse]
  exact reversed

theorem mem_stripBy {c : Nat} (kept : drop c = false) {text : PyStr} :
    c ∈ stripBy drop text ↔ c ∈ text := by
  rw [stripBy, mem_rstripBy kept, mem_lstripBy kept]

end Strip

/-- `text.strip()`, `text.strip('/')` and the one-sided forms. -/
def strip : PyStr → PyStr := stripBy isSpace
def rstrip : PyStr → PyStr := rstripBy isSpace
def stripSlash : PyStr → PyStr := stripBy isSlash
def rstripSlash : PyStr → PyStr := rstripBy isSlash
def lstripSlash : PyStr → PyStr := lstripBy isSlash

theorem strip_strip (text : PyStr) : strip (strip text) = strip text := stripBy_stripBy ..

theorem rstrip_append (left right : PyStr) :
    rstrip (left ++ right) = if rstrip right = [] then rstrip left else left ++ rstrip right :=
  rstripBy_append ..

/-- What is stripped off is white space. -/
theorem strip_split (text : PyStr) : ∃ left right, text = left ++ strip text ++ right ∧
    (∀ c ∈ left, isSpace c = true) ∧ ∀ c ∈ right, isSpace c = true := by
  have outer : ∀ part : PyStr, ∃ right, part = rstripBy isSpace part ++ right ∧
      ∀ c ∈ right, isSpace c = true := by
    intro part
    refine ⟨part.rtakeWhile isSpace, ?_, fun c member => List.mem_rtakeWhile_imp member⟩
    rw [rstripBy, List.rdropWhile_append_rtakeWhile]
  obtain ⟨right, split, after⟩ := outer (text.dropWhile isSpace)
  refine ⟨text.takeWhile isSpace, right, ?_, fun c member => List.mem_takeWhile_imp member, after⟩
  conv_lhs => rw [← List.takeWhile_append_dropWhile (p := isSpace) (l := text), split]
  rw [List.append_assoc]
  rfl

theorem mem_intercalate {sep : Nat} {parts : List PyStr} {c : Nat}
    (member : c ∈ [sep].intercalate parts) : c = sep ∨ ∃ part ∈ parts, c ∈ part := by
  induction parts with
  | nil => simp [List.intercalate] at member
  | cons part rest ih =>
    cases rest with
    | nil =>
      rw [List.intercalate_singleton] at member
      exact Or.inr ⟨part, by simp, member⟩
    | cons next rest =>
      rw [List.intercalate_cons_of_ne_nil (by simp)] at member
      simp only [List.append_assoc, List.mem_append, List.mem_singleton] at member
      rcases member with here | same | later
      · exact Or.inr ⟨part, by simp, here⟩
      · exact Or.inl same
      · rcases ih later with same | ⟨found, place, within⟩
        · exact Or.inl same
        · exact Or.inr ⟨found, List.mem_cons_of_mem _ place, within⟩

/-- `text.replace(old, new)` for single characters. -/
def replaceChar (old new : Nat) (text : PyStr) : PyStr :=
  text.map fun c => if c = old then new else c

theorem not_mem_replaceChar {old new : Nat} (different : new ≠ old) (text : PyStr) :
    old ∉ replaceChar old new text := by
  intro member
  obtain ⟨c, _, same⟩ := List.mem_map.mp member
  split at same
  · exact different same
  · contradiction

theorem replaceChar_of_not_mem {old : Nat} (new : Nat) {text : PyStr}
    (absent : old ∉ text) : replaceChar old new text = text := by
  apply (List.map_congr_left fun c member => ?_).trans (List.map_id text)
  rw [if_neg (fun same : c = old => absent (same ▸ member))]
  rfl

@[simp] theorem replaceChar_length (old new : Nat) (text : PyStr) :
    (replaceChar old new text).length = text.length := List.length_map ..

/-- `text.replace(sub, '')`, leftmost occurrences first. -/
def removeSubstr (sub : PyStr) : PyStr → PyStr
  | [] => []
  | c :: rest => go (c :: rest) 0
where
  go : PyStr → Nat → PyStr
    | [], _ => []
    | _ :: rest, skip + 1 => go rest skip
    | c :: rest, 0 => if sub.isPrefixOf (c :: rest) then go rest (sub.length - 1) else c :: go rest 0

theorem removeSubstr_of_not_mem {c : Nat} (sub : PyStr) {text : PyStr}
    (needed : c ∈ sub) (absent : c ∉ text) : removeSubstr sub text = text := by
  have keep : ∀ rest : PyStr, c ∉ rest → removeSubstr.go sub rest 0 = rest := by
    intro rest missing
    induction rest with
    | nil => rfl
    | cons head tail ih =>
      have noPrefix : sub.isPrefixOf (head :: tail) = false := by
        apply Bool.eq_false_iff.mpr
        intro found
        exact missing ((List.isPrefixOf_iff_prefix.mp found).subset needed)
      simp only [removeSubstr.go, noPrefix, Bool.false_eq_true, ↓reduceIte]
      rw [ih fun member => missing (List.mem_cons_of_mem head member)]
  cases text with
  | nil => rfl
  | cons head tail => exact keep _ absent

end HostingService.Text
