import HostingService.Text.Str

/-! Slash-separated paths: their segments, `posixpath.normpath`, and what is left
of a relative path once trailing white space and slashes are stripped. -/

namespace HostingService.Text

def dot : PyStr := [0x2E]
def dotdot : PyStr := [0x2E, 0x2E]

def segments (path : PyStr) : List PyStr := path.splitOn slash
def joinSegments (parts : List PyStr) : PyStr := [slash].intercalate parts

theorem segments_ne_nil (path : PyStr) : segments path ≠ [] := List.splitOn_ne_nil _ _

@[simp] theorem join_segments (path : PyStr) : joinSegments (segments path) = path :=
  List.intercalate_splitOn ..

theorem segments_cons (c : Nat) (path : PyStr) :
    segments (c :: path) =
      if c = slash then [] :: segments path else (segments path).modifyHead (c :: ·) := by
  simp [segments, List.splitOn_cons_eq_if_modifyHead]

theorem slash_not_mem_segment {path part : PyStr} (member : part ∈ segments path) :
    slash ∉ part := by
  induction path generalizing part with
  | nil => simp_all [segments]
  | cons c path ih =>
    rw [segments_cons] at member
    split at member
    · rcases List.mem_cons.mp member with rfl | later
      · simp
      · exact ih later
    · rename_i different
      obtain ⟨first, rest, split⟩ := List.exists_cons_of_ne_nil (segments_ne_nil path)
      rw [split, List.modifyHead_cons] at member
      rcases List.mem_cons.mp member with rfl | later
      · rintro (_ | ⟨_, inside⟩)
        · exact different rfl
        · exact ih (by simp [split]) inside
      · exact ih (by simp [split, later])

theorem segments_join {parts : List PyStr} (nonempty : parts ≠ [])
    (plain : ∀ part ∈ parts, slash ∉ part) : segments (joinSegments parts) = parts :=
  List.splitOn_intercalate slash plain nonempty

theorem joinSegments_concat {parts : List PyStr} (nonempty : parts ≠ []) (last : PyStr) :
    joinSegments (parts ++ [last]) = joinSegments parts ++ slash :: last := by
  induction parts with
  | nil => contradiction
  | cons first rest ih =>
    cases rest with
    | nil => simp [joinSegments, List.intercalate_cons_cons]
    | cons second rest => simpa [joinSegments, List.intercalate_cons_cons] using ih

@[simp] theorem joinSegments_singleton (part : PyStr) : joinSegments [part] = part :=
  List.intercalate_singleton

theorem segments_of_plain {path : PyStr} (plain : slash ∉ path) : segments path = [path] :=
  List.splitOn_eq_singleton plain

theorem segments_append (path rest : PyStr) :
    segments (path ++ slash :: rest) = segments path ++ segments rest :=
  List.splitOn_append_cons_self ..

theorem mem_joinSegments {parts : List PyStr} {c : Nat} (member : c ∈ joinSegments parts) :
    c = slash ∨ ∃ part ∈ parts, c ∈ part :=
  mem_intercalate member

theorem infix_joinSegments {parts : List PyStr} {part : PyStr} (member : part ∈ parts) :
    part <:+: joinSegments parts := by
  induction parts with
  | nil => simp at member
  | cons first rest ih =>
    cases rest with
    | nil => simp_all
    | cons second rest =>
      simp only [joinSegments, List.intercalate_cons_cons, List.append_assoc] at ih ⊢
      rcases List.mem_cons.mp member with rfl | later
      · exact (List.prefix_append ..).isInfix
      · exact (ih later).trans
          (((List.suffix_append [slash] _).trans (List.suffix_append first _)).isInfix)

theorem segment_within {path part : PyStr} (member : part ∈ segments path) : part <:+: path := by
  simpa using infix_joinSegments member

theorem joinSegments_length (parts : List PyStr) :
    (joinSegments parts).length = (parts.map (·.length + 1)).sum - 1 := by
  induction parts with
  | nil => rfl
  | cons first rest ih =>
    cases rest with
    | nil => simp
    | cons second rest =>
      simp only [joinSegments, List.intercalate_cons_cons, List.length_append,
        List.length_singleton, List.map_cons, List.sum_cons] at ih ⊢
      omega

theorem joinSegments_filter_length (keep : PyStr → Bool) (parts : List PyStr) :
    (joinSegments (parts.filter keep)).length ≤ (joinSegments parts).length := by
  have fewer : ((parts.filter keep).map (·.length + 1)).sum ≤ (parts.map (·.length + 1)).sum := by
    induction parts with
    | nil => simp
    | cons first rest ih =>
      rw [List.filter_cons]
      split <;> simp only [List.map_cons, List.sum_cons] <;> omega
  rw [joinSegments_length, joinSegments_length]
  omega

/-! ### Safe relative paths -/

/-- A segment that names an entry of its folder. -/
def SafeSegment (part : PyStr) : Prop := part ≠ [] ∧ part ≠ dot ∧ part ≠ dotdot

instance : DecidablePred SafeSegment := fun _ => inferInstanceAs (Decidable (_ ∧ _ ∧ _))

/-- A non-empty relative path none of whose segments is empty, `.` or `..`. -/
def SafeRelative (path : PyStr) : Prop := ∀ part ∈ segments path, SafeSegment part

instance : DecidablePred SafeRelative := fun path =>
  inferInstanceAs (Decidable (∀ part ∈ segments path, SafeSegment part))

theorem SafeRelative.ne_nil {path : PyStr} (safe : SafeRelative path) : path ≠ [] := by
  rintro rfl
  exact (safe [] (by simp [segments])).1 rfl

theorem SafeRelative.ne_dot {path : PyStr} (safe : SafeRelative path) : path ≠ dot := by
  rintro rfl
  exact (safe dot (by decide)).2.1 rfl

theorem SafeRelative.ne_dotdot {path : PyStr} (safe : SafeRelative path) : path ≠ dotdot := by
  rintro rfl
  exact (safe dotdot (by decide)).2.2 rfl

theorem SafeRelative.not_up {path : PyStr} (safe : SafeRelative path) :
    (dotdot ++ [slash]).isPrefixOf path = false := by
  apply Bool.eq_false_iff.mpr
  intro found
  obtain ⟨rest, whole⟩ := List.isPrefixOf_iff_prefix.mp found
  have parts : segments path = segments dotdot ++ segments rest := by
    rw [← whole, List.append_assoc, List.singleton_append, segments_append]
  refine (safe dotdot ?_).2.2 rfl
  rw [parts]
  exact List.mem_append_left _ (by decide)

theorem SafeRelative.append {path rest : PyStr} (safe : SafeRelative path)
    (later : SafeRelative rest) : SafeRelative (path ++ slash :: rest) := by
  intro part member
  rw [segments_append] at member
  exact (List.mem_append.mp member).elim (safe part) (later part)

theorem safeRelative_join {parts : List PyStr} (nonempty : parts ≠ [])
    (plain : ∀ part ∈ parts, slash ∉ part) :
    SafeRelative (joinSegments parts) ↔ ∀ part ∈ parts, SafeSegment part := by
  rw [SafeRelative, segments_join nonempty plain]

/-- `key` names an entry at some depth of the folder `root`. -/
def StrictlyBelow (root key : PyStr) : Prop :=
  ∃ rel, key = root ++ slash :: rel ∧ SafeRelative rel

/-! ### `posixpath.normpath` -/

/-- `posixpath.splitroot` without the always empty drive. -/
def splitroot (path : PyStr) : PyStr × PyStr :=
  match path with
  | c :: rest =>
    if c ≠ slash then ([], path)
    else if rest.head? ≠ some slash ∨ rest.tail.head? = some slash then ([slash], rest)
    else ([slash, slash], rest.tail)
  | [] => ([], [])

/-- One round of the loop of `normpath`; the components so far, latest first. -/
def normpathStep (rooted : Bool) (comps : List PyStr) (comp : PyStr) : List PyStr :=
  if comp = [] ∨ comp = dot then comps
  else if comp ≠ dotdot ∨ (rooted = false ∧ comps = []) ∨ comps.head? = some dotdot then
    comp :: comps
  else comps.tail

def normpath (path : PyStr) : PyStr :=
  if path = [] then dot
  else
    let (root, rest) := splitroot path
    let comps := (segments rest).foldl (normpathStep !root.isEmpty) []
    let normal := root ++ joinSegments comps.reverse
    if normal = [] then dot else normal

theorem normpathStep_fold {parts : List PyStr} (rooted : Bool)
    (plain : ∀ part ∈ parts, part ≠ [] ∧ part ≠ dotdot) (comps : List PyStr) :
    parts.foldl (normpathStep rooted) comps = (parts.filter (· ≠ dot)).reverse ++ comps := by
  induction parts generalizing comps with
  | nil => rfl
  | cons part rest ih =>
    obtain ⟨nonempty, notDots⟩ := plain part (by simp)
    rw [List.foldl_cons, ih (fun other member => plain other (by simp [member]))]
    by_cases same : part = dot <;> simp [normpathStep, nonempty, notDots, same]

/-- On a relative path without empty or `..` segments only the `.` segments go. -/
theorem normpath_plain {path : PyStr} (plain : ∀ part ∈ segments path, part ≠ [] ∧ part ≠ dotdot) :
    normpath path =
      if (segments path).filter (· ≠ dot) = [] then dot
      else joinSegments ((segments path).filter (· ≠ dot)) := by
  have nonempty : path ≠ [] := by
    rintro rfl
    exact (plain [] (by simp [segments])).1 rfl
  have relative : splitroot path = ([], path) := by
    cases path with
    | nil => rfl
    | cons c rest =>
      have first : c ≠ slash := by
        rintro rfl
        exact (plain [] (by simp [segments_cons])).1 rfl
      simp [splitroot, first]
  have joined : ∀ parts : List PyStr, (∀ part ∈ parts, part ≠ []) →
      (joinSegments parts = [] ↔ parts = []) := by
    intro parts full
    cases parts with
    | nil => simp [joinSegments]
    | cons first rest =>
      have head := full first (by simp)
      cases rest with
      | nil => simpa using head
      | cons second rest => simp [joinSegments, List.intercalate_cons_cons, head]
  simp only [normpath, nonempty, ↓reduceIte, relative, normpathStep_fold _ plain, List.append_nil,
    List.reverse_reverse, List.nil_append]
  simp only [joined _ fun part member => (plain part (List.mem_of_mem_filter member)).1]

/-! ### Trailing white space and slashes -/

/-- What is left of a relative path at the end of a longer stripped text. -/
def trimTail (path : PyStr) : PyStr := rstripSlash (rstrip path)

/-- Stripping leaves the path below the folder it is relative to: it is not all
white space, and no `.` or `..` appears as its last segment. -/
def KeepsBelow (path : PyStr) : Prop :=
  rstrip path ≠ [] ∧ ∀ last ∈ (segments path).getLast?, rstrip last ≠ dot ∧ rstrip last ≠ dotdot

instance : DecidablePred KeepsBelow := fun path =>
  inferInstanceAs (Decidable (_ ∧ ∀ last ∈ (segments path).getLast?, _))

theorem rstripSlash_plain {part : PyStr} (plain : slash ∉ part) : rstripSlash part = part :=
  rstripBy_of_not_mem isSlash fun c member => by
    simpa [isSlash] using fun same : c = slash => plain (same ▸ member)

theorem rstripSlash_append_plain (path : PyStr) {part : PyStr} (full : part ≠ [])
    (plain : slash ∉ part) : rstripSlash (path ++ part) = path ++ part := by
  have kept : rstripBy isSlash part = part := rstripSlash_plain plain
  rw [rstripSlash, rstripBy_append, kept, if_neg full]

/-- The last segment of a path, after the join of the others if there are any. -/
theorem segments_last (path : PyStr) :
    ∃ front last, segments path = front ++ [last] ∧
      path = if front = [] then last else joinSegments front ++ slash :: last := by
  obtain empty | ⟨front, last, split⟩ := List.eq_nil_or_concat' (segments path)
  · exact absurd empty (segments_ne_nil path)
  · refine ⟨front, last, split, ?_⟩
    rw [← join_segments path, split]
    split
    · subst front; simp
    · exact joinSegments_concat ‹_› last

theorem SafeRelative.rstripSlash {path : PyStr} (safe : SafeRelative path) :
    rstripSlash path = path := by
  obtain ⟨front, last, split, joined⟩ := segments_last path
  have full := (safe last (by simp [split])).1
  have plain : slash ∉ last :=
    slash_not_mem_segment (show last ∈ segments path by simp [split])
  rw [joined]
  split
  · exact rstripSlash_plain plain
  · simpa using rstripSlash_append_plain (joinSegments front ++ [slash]) full plain

theorem SafeRelative.lstripSlash {path : PyStr} (safe : SafeRelative path) :
    lstripSlash path = path := by
  cases path with
  | nil => rfl
  | cons c rest =>
    refine lstripBy_cons isSlash ?_ rest
    rw [isSlash, beq_eq_false_iff_ne]
    rintro rfl
    exact (safe [] (by simp [segments_cons])).1 rfl

theorem SafeRelative.stripSlash {path : PyStr} (safe : SafeRelative path) :
    stripSlash path = path :=
  (congrArg Text.rstripSlash safe.lstripSlash).trans safe.rstripSlash

theorem SafeRelative.last_ne_slash {path : PyStr} (safe : SafeRelative path) :
    path.getLast? ≠ some slash := by
  intro last
  obtain ⟨front, rfl⟩ := List.getLast?_eq_some_iff.mp last
  refine (safe [] ?_).1 rfl
  rw [segments_append]
  exact List.mem_append_right _ (by simp [segments])

theorem slash_not_mem_rstrip {part : PyStr} (plain : slash ∉ part) : slash ∉ rstrip part :=
  fun member => plain ((rstripBy_isPrefix isSpace part).subset member)

/-- A trimmed safe path is safe exactly when it keeps below its folder. -/
theorem safeRelative_trimTail {path : PyStr} (safe : SafeRelative path) :
    SafeRelative (trimTail path) ↔ KeepsBelow path := by
  obtain ⟨front, last, split, joined⟩ := segments_last path
  have plain : slash ∉ rstrip last :=
    slash_not_mem_rstrip (slash_not_mem_segment (show last ∈ segments path by simp [split]))
  have below : KeepsBelow path ↔ rstrip path ≠ [] ∧ rstrip last ≠ dot ∧ rstrip last ≠ dotdot := by
    simp [KeepsBelow, split]
  rw [below]
  by_cases alone : front = []
  · have same : path = last := by simpa [alone] using joined
    rw [trimTail, same, rstripSlash_plain plain, SafeRelative, segments_of_plain plain]
    simp [SafeSegment]
  · have path_eq : path = (joinSegments front ++ [slash]) ++ last := by simpa [alone] using joined
    have frontSafe : SafeRelative (joinSegments front) :=
      (safeRelative_join alone fun part member =>
          slash_not_mem_segment (show part ∈ segments path by simp [split, member])).mpr
        fun part member => safe part (by simp [split, member])
    by_cases blank : rstrip last = []
    · have trimmed : rstrip path = joinSegments front ++ [slash] := by
        rw [path_eq, rstrip_append, if_pos blank]
        exact rstripBy_concat isSpace isSpace_slash _
      have tail : trimTail path = joinSegments front := by
        rw [trimTail, trimmed, Text.rstripSlash, rstripBy_concat_dropped isSlash isSlash_slash]
        exact frontSafe.rstripSlash
      simp [tail, trimmed, blank, frontSafe, dot, dotdot]
    · have trimmed : rstrip path = (joinSegments front ++ [slash]) ++ rstrip last := by
        rw [path_eq, rstrip_append, if_neg blank]
      have tail : trimTail path = joinSegments front ++ slash :: rstrip last := by
        rw [trimTail, trimmed, rstripSlash_append_plain _ blank plain]
        simp
      have parts : segments (trimTail path) = segments (joinSegments front) ++ [rstrip last] := by
        rw [tail, segments_append, segments_of_plain plain]
      constructor
      · intro safeTail
        exact ⟨by simp [trimmed], (safeTail (rstrip last) (by simp [parts])).2⟩
      · rintro ⟨_, notDots⟩ part member
        rw [parts] at member
        rcases List.mem_append.mp member with inner | same
        · exact frontSafe part inner
        · rw [List.mem_singleton.mp same]
          exact ⟨blank, notDots⟩

theorem trimTail_isPrefix (path : PyStr) : trimTail path <+: path :=
  (rstripBy_isPrefix isSlash _).trans (rstripBy_isPrefix isSpace path)

/-- Trimming a safe path leaves no empty segment, unless it leaves nothing. -/
theorem trimTail_plain {path : PyStr} (safe : SafeRelative path) (full : trimTail path ≠ []) :
    [] ∉ segments (trimTail path) := by
  obtain ⟨front, last, split, joined⟩ := segments_last (trimTail path)
  obtain ⟨rest, whole⟩ := trimTail_isPrefix path
  have lastFull : last ≠ [] := by
    rintro rfl
    have again : rstripSlash (trimTail path) = trimTail path :=
      rstripBy_rstripBy isSlash (rstrip path)
    by_cases alone : front = []
    · exact full (by simpa [alone] using joined)
    · rw [if_neg alone] at joined
      rw [joined, rstripSlash, rstripBy_concat_dropped isSlash isSlash_slash] at again
      have shorter := (rstripBy_isPrefix isSlash (joinSegments front)).length_le
      rw [again, List.length_append, List.length_singleton] at shorter
      omega
  rw [split]
  intro member
  rcases List.mem_append.mp member with inner | same
  · have nonempty : front ≠ [] := List.ne_nil_of_mem inner
    rw [if_neg nonempty] at joined
    have shape : path = joinSegments front ++ slash :: (last ++ rest) := by
      rw [← whole, joined]
      simp
    have parts : segments (joinSegments front) = front :=
      segments_join nonempty fun part present =>
        slash_not_mem_segment (show part ∈ segments (trimTail path) by simp [split, present])
    refine (safe [] ?_).1 rfl
    rw [shape, segments_append, parts]
    exact List.mem_append_left _ inner
  · exact lastFull (List.mem_singleton.mp same).symm

/-- Nothing is left of a safe path only when it is all white space. -/
theorem trimTail_eq_nil {path : PyStr} (safe : SafeRelative path) :
    trimTail path = [] ↔ rstrip path = [] := by
  constructor
  · intro empty
    have slashes := (rstripBy_eq_nil_iff isSlash (rstrip path)).mp empty
    rcases blank : rstrip path with _ | ⟨c, rest⟩
    · rfl
    · obtain ⟨tail, whole⟩ := rstripBy_isPrefix isSpace path
      rw [show rstripBy isSpace path = c :: rest from blank] at whole
      have first : c = slash := by simpa [isSlash] using slashes c (by simp [blank])
      refine absurd rfl (safe [] ?_).1
      rw [← whole, first]
      simp [segments_cons]
  · intro blank
    rw [trimTail, blank]
    rfl

end HostingService.Text
