import HostingService.Hosting.Settings

/-! Relative path validation for archive members and served paths. -/

namespace HostingService

open Text

/-- `[a-z]` with IGNORECASE also matches four letters outside ASCII. -/
def isDriveLetter (c : Nat) : Bool :=
  (0x41 ≤ c && c ≤ 0x5A) || (0x61 ≤ c && c ≤ 0x7A) ||
    c == 0x130 || c == 0x131 || c == 0x17F || c == 0x212A

/-- `_WINDOWS_ABSOLUTE.match(path)` -/
def windowsAbsolute : PyStr → Bool
  | letter :: colon :: mark :: _ =>
    isDriveLetter letter && colon == 0x3A && (mark == slash || mark == backslash)
  | _ => false

/-- `path.replace('\\', '/').strip('/')` -/
def slashed (path : PyStr) : PyStr := stripSlash (replaceChar backslash slash path)

def normalizeRelativePath (path : PyStr) : Option PyStr :=
  if windowsAbsolute path then none
  else
    let relative := slashed path
    if relative = [] then none
    else if (segments relative).any fun part => part = [] ∨ part = dotdot then none
    else
      let normalized := normpath relative
      if normalized = [] ∨ normalized = dot then none
      else if (dotdot ++ [slash]).isPrefixOf normalized ∨ normalized = dotdot then none
      else if (segments normalized).any (· = dotdot) then none
      else some normalized

/-- `[/%5c]` with IGNORECASE: a class of single characters. -/
def isMark (c : Nat) : Bool :=
  c == slash || c == percent || c == 0x35 || c == 0x63 || c == 0x43

/-- `(?:$|[/%5c])`; `$` also matches before a last newline. -/
def endOrMark : PyStr → Bool
  | [] => true
  | c :: rest => isMark c || (c == 0x0A && rest.isEmpty)

/-- `(?:%2e%2e|\.\.)(?:$|[/%5c])` with IGNORECASE, at the start of the text. -/
def dotsHere : PyStr → Bool
  | 0x2E :: 0x2E :: rest => endOrMark rest
  | 0x25 :: 0x32 :: e :: 0x25 :: 0x32 :: e' :: rest =>
    (e == 0x65 || e == 0x45) && (e' == 0x65 || e' == 0x45) && endOrMark rest
  | _ => false

def dotsAfterMark : PyStr → Bool
  | [] => false
  | c :: rest => (isMark c && dotsHere rest) || dotsAfterMark rest

/-- `_ENCODED_DOTDOT.search(raw)` -/
def encodedDotdot (raw : PyStr) : Bool := dotsHere raw || dotsAfterMark raw

def rawPathHasTraversal (raw : PyStr) : Bool :=
  decide (dotdot <:+: raw) || encodedDotdot raw ||
    (segments (replaceChar backslash slash raw)).any fun segment =>
      !segment.isEmpty && unquote segment == dotdot

def validateServePath (raw : PyStr) : Except Error PyStr :=
  if stripSlash raw = [] then .ok []
  else if rawPathHasTraversal raw then .error (.http404 (lit "Invalid path"))
  else
    match normalizeRelativePath (unquote raw) with
    | none => .error (.http404 (lit "Invalid path"))
    | some rel => .ok rel

/-! ### What the normaliser returns -/

/-- The segments that `normpath` keeps of a path without empty or `..` segments. -/
def keptSegments (path : PyStr) : List PyStr := (segments (slashed path)).filter (· ≠ dot)

/-- The first check of the normaliser: no empty and no `..` segment. -/
def PlainPath (path : PyStr) : Prop :=
  ∀ part ∈ segments (slashed path), part ≠ [] ∧ part ≠ dotdot

theorem plainPath_iff {path : PyStr} :
    ((segments (slashed path)).any fun part => part = [] ∨ part = dotdot) = false ↔
      PlainPath path := by
  simp [PlainPath, List.any_eq_false, not_or]

theorem keptSegments_plain {path part : PyStr} (member : part ∈ keptSegments path) :
    slash ∉ part := slash_not_mem_segment (List.mem_of_mem_filter member)

theorem keptSegments_safe {path : PyStr} (plain : PlainPath path) (kept : keptSegments path ≠ []) :
    SafeRelative (joinSegments (keptSegments path)) := by
  refine (safeRelative_join kept fun _ => keptSegments_plain).mpr fun part member => ?_
  obtain ⟨inside, notDot⟩ := List.mem_filter.mp member
  exact ⟨(plain part inside).1, by simpa using notDot, (plain part inside).2⟩

/-- The checks after `normpath` never fail on a path that passed the first one. -/
theorem normalizeRelativePath_plain {path : PyStr} (relative : windowsAbsolute path = false)
    (plain : PlainPath path) :
    normalizeRelativePath path =
      if keptSegments path = [] then none else some (joinSegments (keptSegments path)) := by
  have nonempty : slashed path ≠ [] := by
    intro empty
    exact (plain [] (by simp [empty, segments])).1 rfl
  simp only [normalizeRelativePath, relative, Bool.false_eq_true, ↓reduceIte, nonempty,
    plainPath_iff.mpr plain, normpath_plain plain]
  rw [show (segments (slashed path)).filter (· ≠ dot) = keptSegments path from rfl]
  by_cases empty : keptSegments path = []
  · simp [empty]
  · have safe := keptSegments_safe plain empty
    have noDots : (segments (joinSegments (keptSegments path))).any (· = dotdot) = false := by
      simpa [List.any_eq_false] using fun part member => (safe part member).2.2
    simp [empty, safe.ne_nil, safe.ne_dot, safe.ne_dotdot, safe.not_up, noDots]

theorem normalizeRelativePath_eq_some {path rel : PyStr} :
    normalizeRelativePath path = some rel ↔
      windowsAbsolute path = false ∧ PlainPath path ∧ keptSegments path ≠ [] ∧
        rel = joinSegments (keptSegments path) := by
  by_cases relative : windowsAbsolute path = false
  · by_cases plain : PlainPath path
    · rw [normalizeRelativePath_plain relative plain]
      by_cases empty : keptSegments path = []
      · simp [empty]
      · simp [relative, plain, empty, eq_comm]
    · have bad := mt plainPath_iff.mp plain
      simp only [Bool.not_eq_false] at bad
      have refused : normalizeRelativePath path = none := by
        simp only [normalizeRelativePath, relative, Bool.false_eq_true, ↓reduceIte, bad, ite_self]
      simp [refused, plain]
  · simp only [Bool.not_eq_false] at relative
    simp [normalizeRelativePath, relative]

/-- A normalised path is safe and has no backslash. -/
theorem normalizeRelativePath_safe {path rel : PyStr}
    (normal : normalizeRelativePath path = some rel) : SafeRelative rel ∧ backslash ∉ rel := by
  obtain ⟨_, plain, kept, rfl⟩ := normalizeRelativePath_eq_some.mp normal
  refine ⟨keptSegments_safe plain kept, fun member => ?_⟩
  rcases mem_joinSegments member with same | ⟨part, present, inside⟩
  · exact absurd same (by decide)
  · have inPath := (segment_within (List.mem_of_mem_filter present)).subset inside
    exact not_mem_replaceChar (by decide) path (stripBy_subset isSlash _ inPath)

theorem slashed_of_safe {rel : PyStr} (safe : SafeRelative rel) (noBackslash : backslash ∉ rel) :
    slashed rel = rel := by
  rw [slashed, replaceChar_of_not_mem slash noBackslash, safe.stripSlash]

/-- Normalising again changes nothing, unless a drive letter has come to the front. -/
theorem normalizeRelativePath_of_safe {rel : PyStr} (safe : SafeRelative rel)
    (noBackslash : backslash ∉ rel) (relative : windowsAbsolute rel = false) :
    normalizeRelativePath rel = some rel := by
  have same := slashed_of_safe safe noBackslash
  have plain : PlainPath rel := fun part member => by
    rw [same] at member
    exact ⟨(safe part member).1, (safe part member).2.2⟩
  have kept : keptSegments rel = segments rel := by
    rw [keptSegments, same]
    exact List.filter_eq_self.mpr fun part member => by simpa using (safe part member).2.1
  exact normalizeRelativePath_eq_some.mpr
    ⟨relative, plain, kept ▸ segments_ne_nil rel, by rw [kept, join_segments]⟩

theorem normalizeRelativePath_length_le {path rel : PyStr}
    (normal : normalizeRelativePath path = some rel) : rel.length ≤ path.length := by
  obtain ⟨_, _, _, rfl⟩ := normalizeRelativePath_eq_some.mp normal
  calc (joinSegments (keptSegments path)).length
      ≤ (joinSegments (segments (slashed path))).length := joinSegments_filter_length ..
    _ = (slashed path).length := by rw [join_segments]
    _ ≤ (replaceChar backslash slash path).length := stripBy_length_le ..
    _ = path.length := replaceChar_length ..

/-! ### Which stored names the serving check accepts -/

theorem dotsHere_found {text : PyStr} (found : dotsHere text = true) :
    dotdot <:+: text ∨ hasEscape text = true := by
  unfold dotsHere at found
  split at found
  · exact .inl (List.prefix_append [0x2E, 0x2E] _).isInfix
  · simp only [Bool.and_eq_true, Bool.or_eq_true, beq_iff_eq] at found
    obtain ⟨⟨rfl | rfl, _⟩, _⟩ := found <;> exact .inr rfl
  · contradiction

theorem dotsAfterMark_found {text : PyStr} (found : dotsAfterMark text = true) :
    dotdot <:+: text ∨ hasEscape text = true := by
  induction text with
  | nil => contradiction
  | cons c rest ih =>
    have later : dotdot <:+: rest ∨ hasEscape rest = true := by
      rw [dotsAfterMark, Bool.or_eq_true, Bool.and_eq_true] at found
      exact found.elim (fun here => dotsHere_found here.2) ih
    exact later.imp (fun inside => inside.trans (List.suffix_cons c rest).isInfix)
      fun escaped => hasEscape_append_left escaped [c]

/-- Without two dots in a row and without an escape there is no traversal. -/
theorem rawPathHasTraversal_plain {rel : PyStr} (noBackslash : backslash ∉ rel)
    (noDots : ¬ dotdot <:+: rel) (plain : hasEscape rel = false) :
    rawPathHasTraversal rel = false := by
  have noEncoded : encodedDotdot rel = false := by
    apply Bool.eq_false_iff.mpr
    intro found
    have both := (Bool.or_eq_true _ _ ▸ found).elim dotsHere_found dotsAfterMark_found
    simp [noDots, plain] at both
  have noSegment : ∀ part ∈ segments rel, unquote part ≠ dotdot := by
    intro part member same
    rw [unquote_of_plain (hasEscape_within (segment_within member) plain)] at same
    exact noDots (same ▸ segment_within member)
  simp only [rawPathHasTraversal, noDots, decide_false, noEncoded, Bool.or_false, Bool.false_or,
    replaceChar_of_not_mem slash noBackslash, List.any_eq_false, Bool.and_eq_true, beq_iff_eq,
    not_and]
  exact fun part member _ => noSegment part member

/-- A name as extraction stores it is served under itself exactly when it has no
two dots in a row, no percent escape and no drive letter in front. -/
def ServedAsIs (rel : PyStr) : Prop :=
  ¬ dotdot <:+: rel ∧ hasEscape rel = false ∧ windowsAbsolute rel = false

instance : DecidablePred ServedAsIs := fun _ => inferInstanceAs (Decidable (_ ∧ _ ∧ _))

theorem validateServePath_eq_self {name rel : PyStr}
    (normal : normalizeRelativePath name = some rel) :
    validateServePath rel = .ok rel ↔ ServedAsIs rel := by
  obtain ⟨safe, noBackslash⟩ := normalizeRelativePath_safe normal
  have nonempty : stripSlash rel ≠ [] := by rw [safe.stripSlash]; exact safe.ne_nil
  rw [validateServePath, if_neg nonempty]
  constructor
  · intro accepted
    split at accepted
    · contradiction
    · rename_i noTraversal
      split at accepted
      · contradiction
      · rename_i found again
        obtain rfl := Except.ok.inj accepted
        have plain : hasEscape found = false := by
          apply Bool.eq_false_iff.mpr
          intro escaped
          have shorter := unquote_length_lt escaped
          have longer := normalizeRelativePath_length_le again
          omega
        rw [unquote_of_plain plain] at again
        refine ⟨fun dots => noTraversal ?_, plain, (normalizeRelativePath_eq_some.mp again).1⟩
        simp [rawPathHasTraversal, dots]
  · rintro ⟨noDots, plain, relative⟩
    rw [if_neg (by simp [rawPathHasTraversal_plain noBackslash noDots plain]),
      unquote_of_plain plain, normalizeRelativePath_of_safe safe noBackslash relative]

end HostingService
