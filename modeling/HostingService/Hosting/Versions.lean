import HostingService.Hosting.Runs
import HostingService.Hosting.SemVer
import HostingService.Text.IpAddress

/-! The order of versions: that of the data class, and the precedence of Semantic Versioning. -/

namespace HostingService

open Text

namespace SemVer

/-! ### The order of the data class -/

/-- The three numbers, one after the other. -/
def compareCore : SemVer → SemVer → Ordering :=
  compareLex (compareOn (·.major)) (compareLex (compareOn (·.minor)) (compareOn (·.patch)))

/-- The fields as a tuple: the pre-release is compared as text. -/
def order : SemVer → SemVer → Ordering := compareLex compareCore (compareOn (·.prerelease))

def satisfies (library : Library) (current : SemVer) (minimum : PyStr) (maximum : Option PyStr) :
    Except Error Bool := do
  let lower ← parse library minimum
  if order current lower = .lt then return false
  match maximum with
  | none | some [] => return true
  | some maximum =>
    let upper ← parse library maximum
    return (order current upper).isLE

end SemVer

def compareVersions (library : Library) (a b : PyStr) : Except Error Int := do
  let va ← SemVer.parse library a
  let vb ← SemVer.parse library b
  return if SemVer.order va vb = .lt then -1 else if SemVer.order va vb = .gt then 1 else 0

/-- The number that `compareVersions` returns. -/
def orderingNumber : Ordering → Int
  | .lt => -1
  | .eq => 0
  | .gt => 1

/-! ### The precedence of Semantic Versioning -/

def isNumericIdentifier (identifier : PyStr) : Bool :=
  identifier ≠ [] && identifier.all isAsciiDigit

/-- Numeric identifiers by their number and below the others, which go by their text. -/
def compareIdentifier (x y : PyStr) : Ordering :=
  match isNumericIdentifier x, isNumericIdentifier y with
  | true, true => compare (decimalNumber x) (decimalNumber y)
  | true, false => .lt
  | false, true => .gt
  | false, false => compare x y

namespace SemVer

def identifiers (version : SemVer) : List PyStr := version.prerelease.splitOn fullStop

/-- A pre-release is below its release, and a longer list of identifiers above its front. -/
def precedence (a b : SemVer) : Ordering :=
  (compareCore a b).then
    (if a.prerelease = [] then (if b.prerelease = [] then .eq else .gt)
    else if b.prerelease = [] then .lt
    else List.compareLex compareIdentifier a.identifiers b.identifiers)

/-- `minimum ≤ version ≤ maximum` in the precedence. -/
def inRange (version lower : SemVer) (upper : Option SemVer) : Bool :=
  (precedence lower version).isLE && upper.all fun highest => (precedence version highest).isLE

end SemVer

/-! ### Where the two agree -/

/-- Another identifier follows `identifier`, and `other` goes on with a hyphen: as text
the hyphen is below the full stop. -/
def DashFollows (identifier : PyStr) (more : List PyStr) (other : PyStr) : Prop :=
  more ≠ [] ∧ identifier ++ [hyphen] <+: other

/-- What the first two identifiers that differ must be like for their texts, and what
stands behind them, to be in the order of the identifiers. -/
def SameOrder : List PyStr → List PyStr → Prop
  | [], _ => True
  | _, [] => True
  | x :: xs, y :: ys =>
    if x = y then SameOrder xs ys
    else
      match isNumericIdentifier x, isNumericIdentifier y with
      | true, true =>
        compare x y =
          (compare (decimalNumber x) (decimalNumber y)).then
            (List.compareLex compareIdentifier xs ys)
      | true, false => compare x y = .lt ∧ ¬DashFollows x xs y
      | false, true => compare x y = .gt ∧ ¬DashFollows y ys x
      | false, false => ¬DashFollows x xs y ∧ ¬DashFollows y ys x

/-- Two versions whose order is decided before the pre-release, or by pre-releases on
both sides that are in the same order as text. -/
def SemVer.Comparable (a b : SemVer) : Prop :=
  SemVer.compareCore a b ≠ .eq ∨ a.prerelease = [] ∧ b.prerelease = [] ∨
    a.prerelease ≠ [] ∧ b.prerelease ≠ [] ∧ SameOrder a.identifiers b.identifiers

/-! ### Texts of identifiers -/

/-- The text of identifiers behind another one. -/
def following (identifiers : List PyStr) : PyStr := identifiers.flatMap (fullStop :: ·)

@[simp] theorem following_nil : following [] = [] := rfl

@[simp] theorem following_cons (x : PyStr) (xs : List PyStr) :
    following (x :: xs) = fullStop :: (x ++ following xs) := rfl

theorem following_splitOn (text : PyStr) : following (text.splitOn fullStop) = fullStop :: text := by
  have joined : ∀ parts : List PyStr, parts ≠ [] →
      following parts = fullStop :: [fullStop].intercalate parts := by
    intro parts full
    induction parts with
    | nil => exact absurd rfl full
    | cons x xs ih =>
      cases xs with
      | nil => simp [List.intercalate_singleton]
      | cons y ys =>
        rw [following_cons, ih (List.cons_ne_nil y ys),
          List.intercalate_cons_of_ne_nil (List.cons_ne_nil y ys)]
        simp
  rw [joined _ (List.splitOn_ne_nil _ _), List.intercalate_splitOn]

theorem compare_append_left (front s t : PyStr) :
    compare (front ++ s) (front ++ t) = compare s t := by
  induction front with
  | nil => rfl
  | cons c rest ih =>
    have same : compare c c = .eq := Std.ReflCmp.compare_self
    rw [List.cons_append, List.cons_append, List.compare_cons_cons, ih, same]
    rfl

/-- The characters of an identifier: the only one below the full stop is the hyphen. -/
def IsIdentifier (identifier : PyStr) : Prop := ∀ c ∈ identifier, c = hyphen ∨ fullStop < c

theorem IsIdentifier.tail {c : Nat} {x : PyStr} (valid : IsIdentifier (c :: x)) : IsIdentifier x :=
  fun other member => valid other (List.mem_cons_of_mem _ member)

@[simp] theorem dashFollows_nil_iff {c : Nat} {y : PyStr} {more : List PyStr} :
    DashFollows [] more (c :: y) ↔ more ≠ [] ∧ hyphen = c := by
  simp [DashFollows]

theorem not_dashFollows_nil {x : PyStr} {more : List PyStr} : ¬DashFollows x more [] := by
  simp [DashFollows]

@[simp] theorem dashFollows_cons_iff {c : Nat} {x y : PyStr} {more : List PyStr} :
    DashFollows (c :: x) more (c :: y) ↔ DashFollows x more y := by
  simp [DashFollows]

theorem DashFollows.head_eq {c d : Nat} {x y : PyStr} {more : List PyStr}
    (follows : DashFollows (c :: x) more (d :: y)) : c = d := by
  obtain ⟨_, rest, same⟩ := follows
  exact (List.cons.inj same).1

/-- The front of an identifier is below it. -/
theorem DashFollows.compare_lt {x y : PyStr} {more : List PyStr} (follows : DashFollows x more y) :
    compare x y = .lt := by
  obtain ⟨_, rest, same⟩ := follows
  have front := compare_append_left x [] (hyphen :: rest)
  rw [List.append_nil] at front
  rw [← same, List.append_assoc, List.singleton_append, front, List.compare_nil_cons]

/-- Texts of two identifiers that differ, with others behind them: the texts of the two
decide, unless one goes on with a hyphen where the other ends at a full stop. -/
structure Decided (x y : PyStr) (xs ys : List PyStr) : Prop where
  above : DashFollows x xs y → compare (x ++ following xs) (y ++ following ys) = .gt
  below : DashFollows y ys x → compare (x ++ following xs) (y ++ following ys) = .lt
  plain : ¬DashFollows x xs y → ¬DashFollows y ys x →
    compare (x ++ following xs) (y ++ following ys) = compare x y

theorem Decided.swap {x y : PyStr} {xs ys : List PyStr} (decided : Decided x y xs ys) :
    Decided y x ys xs := by
  have swapped : compare (y ++ following ys) (x ++ following xs) =
      (compare (x ++ following xs) (y ++ following ys)).swap := Std.OrientedCmp.eq_swap
  constructor
  · intro follows
    rw [swapped, decided.below follows]
    rfl
  · intro follows
    rw [swapped, decided.above follows]
    rfl
  · intro first second
    have back : compare y x = (compare x y).swap := Std.OrientedCmp.eq_swap
    rw [swapped, decided.plain second first, back]

theorem decided_nil {c : Nat} {y : PyStr} (xs ys : List PyStr) (valid : IsIdentifier (c :: y)) :
    Decided [] (c :: y) xs ys := by
  have stopped : ¬DashFollows (c :: y) ys [] := not_dashFollows_nil
  cases xs with
  | nil =>
    constructor
    · exact fun follows => absurd rfl follows.1
    · exact fun follows => absurd follows stopped
    · intro _ _
      rfl
  | cons m ms =>
    have first : compare ([] ++ following (m :: ms)) (c :: y ++ following ys) =
        (compare fullStop c).then (compare (m ++ following ms) (y ++ following ys)) :=
      List.compare_cons_cons
    constructor
    · intro follows
      obtain ⟨_, rfl⟩ := dashFollows_nil_iff.mp follows
      rw [first]
      rfl
    · exact fun follows => absurd follows stopped
    · intro open' _
      have higher : fullStop < c := by
        rcases valid c List.mem_cons_self with rfl | higher
        · exact absurd (dashFollows_nil_iff.mpr ⟨List.cons_ne_nil m ms, rfl⟩) open'
        · exact higher
      rw [first, Nat.compare_eq_lt.mpr higher]
      rfl

theorem decided {x y : PyStr} (xs ys : List PyStr) (differ : x ≠ y) (validX : IsIdentifier x)
    (validY : IsIdentifier y) : Decided x y xs ys := by
  induction x generalizing y with
  | nil =>
    cases y with
    | nil => exact absurd rfl differ
    | cons d y => exact decided_nil xs ys validY
  | cons c x ih =>
    cases y with
    | nil => exact (decided_nil ys xs validX).swap
    | cons d y =>
      have first : compare (c :: x ++ following xs) (d :: y ++ following ys) =
          (compare c d).then (compare (x ++ following xs) (y ++ following ys)) :=
        List.compare_cons_cons
      by_cases same : c = d
      · subst same
        have equal : compare c c = .eq := Std.ReflCmp.compare_self
        have rest := ih (fun same => differ (congrArg (c :: ·) same)) validX.tail validY.tail
        constructor
        · intro follows
          rw [first, equal, rest.above (dashFollows_cons_iff.mp follows)]
          rfl
        · intro follows
          rw [first, equal, rest.below (dashFollows_cons_iff.mp follows)]
          rfl
        · intro firstOpen secondOpen
          rw [dashFollows_cons_iff] at firstOpen secondOpen
          rw [first, List.compare_cons_cons, rest.plain firstOpen secondOpen]
      · constructor
        · exact fun follows => absurd follows.head_eq same
        · exact fun follows => absurd follows.head_eq (Ne.symm same)
        · intro _ _
          have heads : compare c d ≠ .eq := fun equal => same (Nat.compare_eq_eq.mp equal)
          rw [first, List.compare_cons_cons]
          cases order : compare c d with
          | lt => rfl
          | eq => exact absurd order heads
          | gt => rfl

/-! ### The identifiers of a pre-release -/

theorem compareIdentifier_eq :
    compareIdentifier =
      compareLex (compareOn (!isNumericIdentifier ·))
        (compareLex (compareOn fun x => if isNumericIdentifier x then decimalNumber x else 0)
          (compareOn fun x => if isNumericIdentifier x then [] else x)) := by
  funext x y
  simp only [compareIdentifier, compareLex, compareOn]
  cases isNumericIdentifier x with
  | true => cases isNumericIdentifier y with
    | true => simp [Std.ReflCmp.compare_self]
    | false => rfl
  | false => cases isNumericIdentifier y with
    | true => rfl
    | false => simp [Std.ReflCmp.compare_self]

instance : Std.TransCmp compareIdentifier := by
  rw [compareIdentifier_eq]
  infer_instance

theorem numeric_no_hyphen {x : PyStr} (numeric : isNumericIdentifier x = true) : hyphen ∉ x := by
  intro member
  rw [isNumericIdentifier, Bool.and_eq_true, List.all_eq_true] at numeric
  have digit := numeric.2 _ member
  contradiction

theorem DashFollows.not_numeric {x y : PyStr} {more : List PyStr} (follows : DashFollows x more y) :
    isNumericIdentifier y = false := by
  obtain ⟨_, rest, rfl⟩ := follows
  rw [← Bool.not_eq_true]
  intro numeric
  apply numeric_no_hyphen numeric
  simp

/-- Where the first identifiers differ, `SameOrder` is the order of the texts. -/
theorem compare_differ_iff {x y : PyStr} (xs ys : List PyStr) (differ : x ≠ y)
    (validX : IsIdentifier x) (validY : IsIdentifier y) :
    compare (x ++ following xs) (y ++ following ys) =
        List.compareLex compareIdentifier (x :: xs) (y :: ys) ↔
      SameOrder (x :: xs) (y :: ys) := by
  have text := decided xs ys differ validX validY
  rw [SameOrder, if_neg differ, List.compareLex_cons_cons, compareIdentifier]
  cases numericX : isNumericIdentifier x with
  | true =>
    have closedY : ¬DashFollows y ys x := by
      intro follows
      simp [follows.not_numeric] at numericX
    cases numericY : isNumericIdentifier y with
    | true =>
      have closedX : ¬DashFollows x xs y := by
        intro follows
        simp [follows.not_numeric] at numericY
      rw [text.plain closedX closedY]
    | false =>
      by_cases closedX : DashFollows x xs y
      · simp [text.above closedX, closedX]
      · simp [text.plain closedX closedY, closedX]
  | false =>
    cases numericY : isNumericIdentifier y with
    | true =>
      have closedX : ¬DashFollows x xs y := by
        intro follows
        simp [follows.not_numeric] at numericY
      by_cases closedY : DashFollows y ys x
      · simp [text.below closedY, closedY]
      · simp [text.plain closedX closedY, closedY]
    | false =>
      have heads : compare x y ≠ .eq := fun equal => differ (Std.LawfulEqCmp.eq_of_compare equal)
      have first : (compare x y).then (List.compareLex compareIdentifier xs ys) = compare x y := by
        cases order : compare x y with
        | lt => rfl
        | eq => exact absurd order heads
        | gt => rfl
      rw [first]
      by_cases closedX : DashFollows x xs y
      · simp [text.above closedX, closedX, closedX.compare_lt]
      · by_cases closedY : DashFollows y ys x
        · have above : compare x y = .gt := Std.OrientedCmp.gt_of_lt closedY.compare_lt
          simp [text.below closedY, closedY, above]
        · simp [text.plain closedX closedY, closedX, closedY]

theorem compare_following_iff {xs ys : List PyStr} (validX : ∀ x ∈ xs, IsIdentifier x)
    (validY : ∀ y ∈ ys, IsIdentifier y) :
    compare (following xs) (following ys) = List.compareLex compareIdentifier xs ys ↔
      SameOrder xs ys := by
  induction xs generalizing ys with
  | nil =>
    cases ys with
    | nil => simp [SameOrder, List.compareLex_nil_nil]
    | cons y ys => simp [SameOrder, List.compareLex_nil_cons, List.compare_nil_cons]
  | cons x xs ih =>
    cases ys with
    | nil => simp [SameOrder, List.compareLex_cons_nil, List.compare_cons_nil]
    | cons y ys =>
      have stop : compare (following (x :: xs)) (following (y :: ys)) =
          compare (x ++ following xs) (y ++ following ys) :=
        compare_append_left [fullStop] _ _
      rw [List.forall_mem_cons] at validX validY
      by_cases same : x = y
      · subst same
        have equal : compareIdentifier x x = .eq := Std.ReflCmp.compare_self
        rw [stop, compare_append_left, List.compareLex_cons_cons, equal, SameOrder, if_pos rfl]
        exact ih validX.2 validY.2
      · rw [stop]
        exact compare_differ_iff xs ys same validX.1 validY.1

theorem splitOn_identifiers {text : PyStr} (chars : ∀ c ∈ text, isPrereleaseChar c = true) :
    ∀ identifier ∈ text.splitOn fullStop, IsIdentifier identifier := by
  induction text with
  | nil =>
    intro identifier member c inside
    simp at member
    simp [member] at inside
  | cons c rest ih =>
    rw [List.forall_mem_cons] at chars
    have others := ih chars.2
    rw [List.splitOn_cons_eq_if_modifyHead]
    by_cases stop : c = fullStop
    · rw [if_pos (beq_iff_eq.mpr stop), List.forall_mem_cons]
      exact ⟨fun other inside => absurd inside List.not_mem_nil, others⟩
    · rw [if_neg (by simpa using stop)]
      obtain ⟨first, more, parts⟩ := List.exists_cons_of_ne_nil (List.splitOn_ne_nil fullStop rest)
      have above : c = hyphen ∨ fullStop < c := by
        have char := chars.1
        simp only [isPrereleaseChar, Bool.or_eq_true, Bool.and_eq_true, decide_eq_true_eq,
          beq_iff_eq] at char
        simp only [hyphen, fullStop] at stop ⊢
        omega
      rw [parts, List.forall_mem_cons] at others
      rw [parts, List.modifyHead_cons, List.forall_mem_cons]
      refine ⟨?_, others.2⟩
      intro other inside
      rcases List.mem_cons.mp inside with rfl | inside
      · exact above
      · exact others.1 other inside

namespace SemVer

theorem order_eq_precedence_iff {a b : SemVer} (charsA : ∀ c ∈ a.prerelease, isPrereleaseChar c = true)
    (charsB : ∀ c ∈ b.prerelease, isPrereleaseChar c = true) :
    order a b = precedence a b ↔ Comparable a b := by
  rw [order, compareLex, precedence, Comparable, compareOn]
  cases core : compareCore a b with
  | lt => simp
  | gt => simp
  | eq =>
    simp only [Ordering.eq_then]
    by_cases releaseA : a.prerelease = []
    · by_cases releaseB : b.prerelease = []
      · simp [releaseA, releaseB]
      · obtain ⟨c, rest, text⟩ := List.exists_cons_of_ne_nil releaseB
        simp [releaseA, text, List.compare_nil_cons]
    · by_cases releaseB : b.prerelease = []
      · obtain ⟨c, rest, text⟩ := List.exists_cons_of_ne_nil releaseA
        simp [releaseB, text, List.compare_cons_nil]
      · have texts := compare_following_iff (splitOn_identifiers charsA) (splitOn_identifiers charsB)
        rw [following_splitOn, following_splitOn] at texts
        have stop := compare_append_left [fullStop] a.prerelease b.prerelease
        rw [List.singleton_append, List.singleton_append] at stop
        rw [stop] at texts
        simpa only [releaseA, releaseB, if_false, identifiers, ne_eq, not_false_eq_true, true_and,
          false_and, not_true_eq_false, false_or] using texts

theorem versionGroups_chars {raw prerelease : PyStr} {numbers : PyStr × PyStr × PyStr}
    (groups : versionGroups raw = some (numbers, prerelease)) :
    ∀ c ∈ prerelease, isPrereleaseChar c = true := by
  simp only [versionGroups] at groups
  generalize (if raw.head? = some 0x76 then raw.tail else raw) = body at groups
  split at groups
  · split at groups
    case isTrue accepted =>
      obtain ⟨_, rfl⟩ := Prod.mk.inj (Option.some.inj groups)
      rw [Bool.and_eq_true, Bool.or_eq_true, Bool.and_eq_true] at accepted
      rcases accepted.2 with empty | full
      · rw [List.isEmpty_iff.mp empty]
        intro c member
        contradiction
      · exact List.all_eq_true.mp full.2
    case isFalse => cases groups
  · cases groups

theorem parse_chars {library : Library} {value : PyStr} {version : SemVer}
    (read : parse library value = .ok version) :
    ∀ c ∈ version.prerelease, isPrereleaseChar c = true := by
  unfold parse at read
  simp only at read
  split at read
  · cases read
  · split at read
    · cases read
    · rename_i groups
      split at read
      · cases read
        exact versionGroups_chars groups
      · cases read

instance : Std.TransCmp compareCore := by
  unfold compareCore
  infer_instance

instance : Std.TransCmp order := by
  unfold order
  infer_instance

instance : Std.LawfulEqCmp order where
  eq_of_compare {a b} equal := by
    simp only [order, compareCore, compareLex_eq_eq, compareOn, Std.LawfulEqCmp.compare_eq_iff_eq] at equal
    obtain ⟨⟨major, minor, patch⟩, prerelease⟩ := equal
    cases a
    cases b
    simp_all

/-- Releases above pre-releases, and these by their identifiers. -/
theorem precedence_eq :
    precedence = compareLex compareCore
      (compareLex (compareOn fun version => decide (version.prerelease = []))
        fun a b => List.compareLex compareIdentifier a.identifiers b.identifiers) := by
  funext a b
  simp only [precedence, compareLex, compareOn]
  by_cases releaseA : a.prerelease = []
  · by_cases releaseB : b.prerelease = []
    · have equal : List.compareLex compareIdentifier a.identifiers b.identifiers = .eq := by
        rw [identifiers, identifiers, releaseA, releaseB]
        exact Std.ReflCmp.compare_self
      simp [releaseA, releaseB, equal]
    · simp only [releaseA, releaseB, if_true, if_false, decide_true, decide_false]
      rfl
  · by_cases releaseB : b.prerelease = []
    · simp only [releaseA, releaseB, if_true, if_false, decide_true, decide_false]
      rfl
    · simp [releaseA, releaseB]

instance : Std.TransCmp precedence := by
  have oriented : Std.TransCmp fun a b : SemVer =>
      List.compareLex compareIdentifier a.identifiers b.identifiers :=
    { eq_swap := Std.OrientedCmp.eq_swap
      isLE_trans := Std.TransCmp.isLE_trans }
  rw [precedence_eq]
  infer_instance

end SemVer

/-! ### The comparisons of the code -/

open SemVer

theorem orderingNumber_inj {a b : Ordering} : orderingNumber a = orderingNumber b ↔ a = b := by
  cases a <;> cases b <;> decide

theorem compareVersions_eq {library : Library} {a b : PyStr} {va vb : SemVer}
    (readA : parse library a = .ok va) (readB : parse library b = .ok vb) :
    compareVersions library a b = .ok (orderingNumber (order va vb)) := by
  unfold compareVersions
  rw [readA, readB]
  cases found : order va vb <;> simp [bind, Except.bind, pure, Except.pure, found, orderingNumber]

theorem compareVersions_eq_iff {library : Library} {a b : PyStr} {va vb : SemVer}
    (readA : parse library a = .ok va) (readB : parse library b = .ok vb) :
    compareVersions library a b = .ok (orderingNumber (precedence va vb)) ↔ Comparable va vb := by
  rw [compareVersions_eq readA readB, Except.ok.injEq, orderingNumber_inj]
  exact order_eq_precedence_iff (parse_chars readA) (parse_chars readB)

/-- The maximum that a caller gives, if it is one. -/
def parseMaximum (library : Library) (maximum : Option PyStr) : Except Error (Option SemVer) :=
  (maximum.filter (· ≠ [])).mapM (parse library)

theorem parseMaximum_cases {library : Library} {maximum : Option PyStr} {upper : Option SemVer}
    (read : parseMaximum library maximum = .ok upper) :
    (maximum = none ∨ maximum = some []) ∧ upper = none ∨
      ∃ text highest, text ≠ [] ∧ maximum = some text ∧ upper = some highest ∧
        parse library text = .ok highest := by
  cases maximum with
  | none =>
    cases read
    exact .inl ⟨.inl rfl, rfl⟩
  | some text =>
    cases text with
    | nil =>
      cases read
      exact .inl ⟨.inr rfl, rfl⟩
    | cons c rest =>
      simp only [parseMaximum, Option.filter, ne_eq, reduceCtorEq, not_false_eq_true, decide_true,
        if_true, Option.mapM_some] at read
      cases parsed : parse library (c :: rest) with
      | error error => simp [parsed] at read
      | ok highest =>
        rw [parsed] at read
        cases read
        exact .inr ⟨c :: rest, highest, List.cons_ne_nil c rest, rfl, rfl, parsed⟩

theorem satisfies_eq {library : Library} {minimum : PyStr} {maximum : Option PyStr}
    (version : SemVer) {lower : SemVer} {upper : Option SemVer}
    (readMinimum : parse library minimum = .ok lower)
    (readMaximum : parseMaximum library maximum = .ok upper) :
    satisfies library version minimum maximum =
      .ok ((order lower version).isLE && upper.all fun highest => (order version highest).isLE) := by
  have turned : order lower version = (order version lower).swap := Std.OrientedCmp.eq_swap
  unfold satisfies
  rw [readMinimum, turned]
  by_cases below : order version lower = .lt
  · simp [bind, Except.bind, pure, Except.pure, below]
  · have above : (order version lower).swap.isLE = true := by
      cases found : order version lower with
      | lt => exact absurd found below
      | eq => rfl
      | gt => rfl
    rw [above, Bool.true_and]
    simp only [bind, Except.bind, pure, Except.pure, below, if_false]
    rcases parseMaximum_cases readMaximum with ⟨rfl | rfl, rfl⟩ | ⟨text, highest, full, rfl, rfl, parsed⟩
    · rfl
    · rfl
    · simp [parsed]

/-- The comparisons go by the precedence exactly where the pre-releases are in the same
order as text; the order they go by is total. -/
theorem versions_by_precedence_iff {library : Library} {value minimum : PyStr}
    {maximum : Option PyStr} {version lower : SemVer} {upper : Option SemVer}
    (read : parse library value = .ok version) (readMinimum : parse library minimum = .ok lower)
    (readMaximum : parseMaximum library maximum = .ok upper) :
    ((compareVersions library value minimum = .ok (orderingNumber (precedence version lower)) ∧
        (∀ text ∈ maximum.filter (· ≠ []), ∀ highest ∈ upper,
          compareVersions library value text = .ok (orderingNumber (precedence version highest))) ∧
        satisfies library version minimum maximum = .ok (inRange version lower upper)) ↔
      Comparable version lower ∧ ∀ highest ∈ upper, Comparable version highest) ∧
    Std.TransCmp order ∧ Std.LawfulEqCmp order := by
  refine ⟨?_, inferInstance, inferInstance⟩
  have chars := parse_chars read
  have lowest := compareVersions_eq_iff read readMinimum
  constructor
  · intro ⟨least, most, _⟩
    refine ⟨lowest.mp least, ?_⟩
    intro highest member
    rcases parseMaximum_cases readMaximum with ⟨_, rfl⟩ | ⟨text, found, full, rfl, rfl, parsed⟩
    · contradiction
    · cases member
      exact (compareVersions_eq_iff read parsed).mp (most text (by simp [full]) highest rfl)
  · intro ⟨least, most⟩
    refine ⟨lowest.mpr least, ?_, ?_⟩
    · intro text member highest upward
      rcases parseMaximum_cases readMaximum with ⟨_, rfl⟩ | ⟨other, found, full, rfl, rfl, parsed⟩
      · contradiction
      · cases upward
        obtain ⟨rfl, _⟩ : other = text ∧ text ≠ [] := by simpa using member
        exact (compareVersions_eq_iff read parsed).mpr (most highest rfl)
    · have turned : order lower version = precedence lower version := by
        have same := (order_eq_precedence_iff chars (parse_chars readMinimum)).mpr least
        have back : order lower version = (order version lower).swap := Std.OrientedCmp.eq_swap
        rw [back, same]
        exact Std.OrientedCmp.eq_swap.symm
      rw [satisfies_eq version readMinimum readMaximum, inRange, turned]
      rcases parseMaximum_cases readMaximum with ⟨_, rfl⟩ | ⟨_, highest, _, _, rfl, parsed⟩
      · rfl
      · have same := (order_eq_precedence_iff chars (parse_chars parsed)).mpr (most highest rfl)
        simp only [Option.all_some, same]

theorem versions_by_precedence_candidate :
    satisfies demoLibrary ⟨2, 0, 0, lit "rc.2"⟩ (lit "1.9.0") (some (lit "2.0.0-rc.3")) =
      .ok (inRange ⟨2, 0, 0, lit "rc.2"⟩ ⟨1, 9, 0, []⟩ (some ⟨2, 0, 0, lit "rc.3"⟩)) := by
  have read : parse demoLibrary (lit "v2.0.0-rc.2") = .ok ⟨2, 0, 0, lit "rc.2"⟩ := by decide
  have readMinimum : parse demoLibrary (lit "1.9.0") = .ok ⟨1, 9, 0, []⟩ := by decide
  have readMaximum : parseMaximum demoLibrary (some (lit "2.0.0-rc.3")) =
      .ok (some ⟨2, 0, 0, lit "rc.3"⟩) := by decide
  have least : Comparable ⟨2, 0, 0, lit "rc.2"⟩ ⟨1, 9, 0, []⟩ := .inl (by decide)
  have most : Comparable ⟨2, 0, 0, lit "rc.2"⟩ ⟨2, 0, 0, lit "rc.3"⟩ := by
    right; right
    have first : identifiers ⟨2, 0, 0, lit "rc.2"⟩ = [lit "rc", lit "2"] := by decide
    have second : identifiers ⟨2, 0, 0, lit "rc.3"⟩ = [lit "rc", lit "3"] := by decide
    refine ⟨by decide, by decide, ?_⟩
    rw [first, second, SameOrder, if_pos rfl, SameOrder, if_neg (by decide)]
    change compare (lit "2") (lit "3") = _
    decide
  have both := (versions_by_precedence_iff read readMinimum readMaximum).1.mpr
    ⟨least, by rintro _ ⟨⟩; exact most⟩
  exact both.2.2

/-- The tuple puts a pre-release above its release. -/
theorem prerelease_above_release :
    compareVersions demoLibrary (lit "1.0.0-alpha") (lit "1.0.0") = .ok 1 ∧
      orderingNumber (precedence ⟨1, 0, 0, lit "alpha"⟩ ⟨1, 0, 0, []⟩) = -1 ∧
      parse demoLibrary (lit "1.0.0-alpha") = .ok ⟨1, 0, 0, lit "alpha"⟩ ∧
      parse demoLibrary (lit "1.0.0") = .ok ⟨1, 0, 0, []⟩ := by
  decide

end HostingService
