import HostingService.Program.Prog
import HostingService.Text.Segments
import Mathlib.Data.List.AList
import Mathlib.Data.List.Dedup

/-! An object store whose calls may fail. Each call acts on one key; a folder is
a proper prefix of a stored key that ends before a slash. Where folders exist by
themselves, as on a file system, no key is a folder and a file at once. -/

namespace HostingService.Storage

open Program Text

abbrev Bytes := List UInt8

abbrev Objects := AList fun _ : PyStr => Bytes

/-- What is stored below `root`, relative to it. -/
def below (objects : Objects) (root : PyStr) : List PyStr :=
  (objects.keys.filter ((root ++ [slash]).isPrefixOf ·)).map (·.drop (root.length + 1))

def isFolder (objects : Objects) (key : PyStr) : Bool := !(below objects key).isEmpty

/-- The immediate folders and files below `root`. -/
def listing (objects : Objects) (root : PyStr) : List PyStr × List PyStr :=
  ((((below objects root).filter (slash ∈ ·)).map (·.takeWhile (· ≠ slash))).dedup,
    (below objects root).filter fun rel => slash ∉ rel ∧ rel ≠ [])

theorem drop_root (root rel : PyStr) : (root ++ slash :: rel).drop (root.length + 1) = rel := by
  have cut : ((root ++ [slash]) ++ rel).drop (root.length + 1) = rel :=
    List.drop_left' (by simp)
  rwa [List.append_assoc, List.singleton_append] at cut

theorem mem_below {objects : Objects} {root rel : PyStr} :
    rel ∈ below objects root ↔ root ++ slash :: rel ∈ objects := by
  rw [below, List.mem_map]
  constructor
  · rintro ⟨key, found, rfl⟩
    obtain ⟨stored, starts⟩ := List.mem_filter.mp found
    obtain ⟨rest, rfl⟩ := List.isPrefixOf_iff_prefix.mp starts
    rw [List.append_assoc, List.singleton_append] at stored ⊢
    rw [drop_root]
    exact AList.mem_keys.mpr stored
  · intro stored
    refine ⟨root ++ slash :: rel, List.mem_filter.mpr ⟨AList.mem_keys.mpr stored, ?_⟩, ?_⟩
    · exact List.isPrefixOf_iff_prefix.mpr ⟨rel, by simp⟩
    · exact drop_root root rel

theorem mem_listing_files {objects : Objects} {root name : PyStr} :
    name ∈ (listing objects root).2 ↔
      root ++ slash :: name ∈ objects ∧ slash ∉ name ∧ name ≠ [] := by
  simp [listing, List.mem_filter, mem_below]

theorem takeWhile_before {name : PyStr} (plain : slash ∉ name) (rest : PyStr) :
    (name ++ slash :: rest).takeWhile (· ≠ slash) = name := by
  rw [List.takeWhile_append_of_pos fun c member => by
    simpa using fun same : c = slash => plain (same ▸ member)]
  simp

theorem mem_listing_folders {objects : Objects} {root name : PyStr} :
    name ∈ (listing objects root).1 ↔
      slash ∉ name ∧ ∃ rest, root ++ slash :: (name ++ slash :: rest) ∈ objects := by
  rw [listing, List.mem_dedup, List.mem_map]
  constructor
  · rintro ⟨rel, found, rfl⟩
    obtain ⟨stored, nested⟩ := List.mem_filter.mp found
    obtain ⟨front, rest, rfl, plain⟩ := List.eq_append_cons_of_mem (of_decide_eq_true nested)
    rw [takeWhile_before plain]
    exact ⟨plain, rest, mem_below.mp stored⟩
  · rintro ⟨plain, rest, stored⟩
    refine ⟨name ++ slash :: rest, List.mem_filter.mpr ⟨mem_below.mpr stored, by simp⟩, ?_⟩
    exact takeWhile_before plain rest

theorem map_below (objects : Objects) (root : PyStr) :
    (below objects root).map (root ++ slash :: ·) =
      objects.keys.filter ((root ++ [slash]).isPrefixOf ·) := by
  rw [below, List.map_map]
  refine (List.map_congr_left fun key member => ?_).trans (List.map_id _)
  obtain ⟨rest, rfl⟩ := List.isPrefixOf_iff_prefix.mp (List.mem_filter.mp member).2
  rw [Function.comp_apply, List.append_assoc, List.singleton_append, drop_root, id]

theorem nodup_below (objects : Objects) (root : PyStr) :
    ((below objects root).map (root ++ slash :: ·)).Nodup := by
  rw [map_below]
  exact objects.keys_nodup.filter _

inductive StorageCall : Type → Type where
  | hasKey (key : PyStr) : StorageCall Bool
  | delete (key : PyStr) : StorageCall Unit
  | save (key : PyStr) (content : Bytes) : StorageCall Unit
  | read (key : PyStr) : StorageCall Bytes
  | listdir (root : PyStr) : StorageCall (List PyStr × List PyStr)
  /-- Every file at any depth below `root`, relative to it. -/
  | walk (root : PyStr) : StorageCall (List PyStr)
  /-- The length of the longest key: no call to the store, but what bounds a
  recursion over its folders. -/
  | longestKey : StorageCall Nat

/-- A stored file has the name of a folder above the key. -/
def underFile (objects : Objects) (key : PyStr) : Bool :=
  objects.keys.any fun file => (file ++ [slash]).isPrefixOf key

/-- The key is a folder, or below a file. -/
def blocked (objects : Objects) (key : PyStr) : Bool :=
  isFolder objects key || underFile objects key

theorem isFolder_iff {objects : Objects} {key : PyStr} :
    isFolder objects key = true ↔ ∃ rest, key ++ slash :: rest ∈ objects := by
  rw [isFolder, Bool.not_eq_true', List.isEmpty_eq_false_iff_exists_mem]
  exact exists_congr fun rest => mem_below

/-- One of the keys has the name of a folder above the other. -/
def Clashing (first second : PyStr) : Prop :=
  first ++ [slash] <+: second ∨ second ++ [slash] <+: first

theorem Clashing.symm {first second : PyStr} (clash : Clashing first second) :
    Clashing second first := Or.symm clash

theorem Clashing.irrefl (key : PyStr) : ¬ Clashing key key := by
  intro clash
  have longer := (or_self_iff.mp clash).length_le
  rw [List.length_append, List.length_singleton] at longer
  omega

theorem blocked_iff {objects : Objects} {key : PyStr} :
    blocked objects key = true ↔ ∃ stored ∈ objects, Clashing stored key := by
  rw [blocked, Bool.or_eq_true, isFolder_iff, underFile, List.any_eq_true]
  constructor
  · rintro (⟨rest, stored⟩ | ⟨file, stored, above⟩)
    · exact ⟨_, stored, .inr ⟨rest, by simp⟩⟩
    · exact ⟨file, AList.mem_keys.mpr stored, .inl (List.isPrefixOf_iff_prefix.mp above)⟩
  · rintro ⟨other, stored, above | ⟨rest, rfl⟩⟩
    · exact .inr ⟨other, AList.mem_keys.mp stored, List.isPrefixOf_iff_prefix.mpr above⟩
    · exact .inl ⟨rest, by simpa using stored⟩

/-- How the backend answers: whether folders exist by themselves, and the errors
for a key that is not stored, for a folder read as a file, for a folder where a
file is needed or a file where a folder is, and for a name that no file may have. -/
structure Backend (Error : Type) where
  folders : Bool
  missing : PyStr → Error
  directory : Error
  misplaced : Error
  refuses : PyStr → Option Error

variable {Error : Type} (backend : Backend Error)

/-- Why nothing can be stored under the key, if so. -/
def Backend.refusal (objects : Objects) (key : PyStr) : Option Error :=
  (backend.refuses key).or
    (if backend.folders && blocked objects key then some backend.misplaced else none)

def StorageCall.exec : {β : Type} → StorageCall β → Objects → Except Error β × Objects
  | _, .hasKey key, objects =>
    (.ok (decide (key ∈ objects) || (backend.folders && isFolder objects key)), objects)
  | _, .delete key, objects =>
    if backend.folders && blocked objects key && decide (key ∉ objects) then
      (.error backend.misplaced, objects)
    else (.ok (), objects.erase key)
  | _, .save key content, objects =>
    match backend.refusal objects key with
    | some error => (.error error, objects)
    | none => (.ok (), objects.insert key content)
  | _, .read key, objects =>
    match objects.lookup key with
    | some content => (.ok content, objects)
    | none =>
      if backend.folders && isFolder objects key then (.error backend.directory, objects)
      else (.error (backend.missing key), objects)
  | _, .listdir root, objects => (.ok (listing objects root), objects)
  | _, .walk root, objects => (.ok (below objects root), objects)
  | _, .longestKey, objects => (.ok ((objects.keys.map List.length).foldr max 0), objects)

theorem exec_delete_stored {objects : Objects} {key : PyStr} (stored : key ∈ objects) :
    (StorageCall.delete key).exec backend objects = (.ok (), objects.erase key) := by
  simp [StorageCall.exec, stored]

theorem exec_delete_free {objects : Objects} {key : PyStr}
    (free : (backend.folders && blocked objects key) = false) :
    (StorageCall.delete key).exec backend objects = (.ok (), objects.erase key) := by
  simp [StorageCall.exec, free]

theorem exec_delete_cases (objects : Objects) (key : PyStr) :
    (StorageCall.delete key).exec backend objects = (.error backend.misplaced, objects) ∨
      (StorageCall.delete key).exec backend objects = (.ok (), objects.erase key) := by
  rw [StorageCall.exec]
  split
  · exact .inl rfl
  · exact .inr rfl

theorem exec_save_free {objects : Objects} {key : PyStr} (content : Bytes)
    (free : backend.refusal objects key = none) :
    (StorageCall.save key content).exec backend objects = (.ok (), objects.insert key content) := by
  rw [StorageCall.exec, free]

theorem exec_save_refused {objects : Objects} {key : PyStr} (content : Bytes) {error : Error}
    (refused : backend.refusal objects key = some error) :
    (StorageCall.save key content).exec backend objects = (.error error, objects) := by
  rw [StorageCall.exec, refused]

theorem exec_save_cases (objects : Objects) (key : PyStr) (content : Bytes) :
    (∃ error, (StorageCall.save key content).exec backend objects = (.error error, objects)) ∨
      (StorageCall.save key content).exec backend objects =
        (.ok (), objects.insert key content) := by
  cases free : backend.refusal objects key with
  | some error => exact .inl ⟨error, exec_save_refused backend content free⟩
  | none => exact .inr (exec_save_free backend content free)

/-- The objects, and the outcomes the next calls are going to have: `some error`
for a call that raises without effect, `none` for one that goes through. After
the scheduled outcomes every call goes through. -/
structure Disk (Error : Type) where
  objects : Objects
  faults : List (Option Error)

def StorageCall.handle : Handler StorageCall Error (Disk Error)
  | _, .longestKey, disk => ((StorageCall.longestKey.exec backend disk.objects).1, disk)
  | _, op, disk =>
    match disk.faults with
    | some error :: faults => (.error error, { disk with faults })
    | _ => ((op.exec backend disk.objects).1, ⟨(op.exec backend disk.objects).2, disk.faults.tail⟩)

/-- A call raises without effect, or goes through. -/
theorem handle_cases {β : Type} (op : StorageCall β) (disk : Disk Error) :
    (∃ error faults, StorageCall.handle backend β op disk = (.error error, ⟨disk.objects, faults⟩)) ∨
      ∃ faults, StorageCall.handle backend β op disk =
        ((op.exec backend disk.objects).1, ⟨(op.exec backend disk.objects).2, faults⟩) := by
  unfold StorageCall.handle
  split
  · exact .inr ⟨disk.faults, rfl⟩
  · split
    · exact .inl ⟨_, _, rfl⟩
    · exact .inr ⟨disk.faults.tail, rfl⟩

/-! ### Keys a call changes and keys it depends on -/

/-- The call deletes only keys in `deleted` and saves only keys in `saved`. -/
def Changes (deleted saved : PyStr → Prop) : ∀ β, StorageCall β → Prop
  | _, .delete key => deleted key
  | _, .save key _ => saved key
  | _, _ => True

theorem Changes.mono {deleted saved other wider : PyStr → Prop} {β : Type} {op : StorageCall β}
    (changes : Changes deleted saved β op) (deletes : ∀ key, deleted key → other key)
    (saves : ∀ key, saved key → wider key) : Changes other wider β op := by
  cases op with
  | delete key => exact deletes key changes
  | save key content => exact saves key changes
  | _ => trivial

/-- The call changes no key outside `inside`. -/
abbrev Writes (inside : PyStr → Prop) : ∀ β, StorageCall β → Prop := Changes inside inside

/-- The call names only keys in `inside`. -/
def Touches (inside : PyStr → Prop) : ∀ β, StorageCall β → Prop
  | _, .hasKey key => inside key
  | _, .delete key => inside key
  | _, .save key _ => inside key
  | _, .read key => inside key
  | _, .listdir root => inside root
  | _, .walk root => inside root
  | _, .longestKey => True

theorem Touches.writes {inside : PyStr → Prop} {β : Type} {op : StorageCall β}
    (touches : Touches inside β op) : Writes inside β op := by
  cases op <;> first | exact touches | trivial

/-- Two object stores hold the same outside `inside`. -/
def SameOutside (inside : PyStr → Prop) (first second : Objects) : Prop :=
  ∀ key, ¬ inside key → second.lookup key = first.lookup key

theorem SameOutside.refl (inside : PyStr → Prop) (objects : Objects) :
    SameOutside inside objects objects := fun _ _ => rfl

theorem SameOutside.trans {inside : PyStr → Prop} {first second third : Objects}
    (left : SameOutside inside first second) (right : SameOutside inside second third) :
    SameOutside inside first third :=
  fun key outside => (right key outside).trans (left key outside)

theorem SameOutside.mono {inside wider : PyStr → Prop} {first second : Objects}
    (same : SameOutside inside first second) (grows : ∀ key, inside key → wider key) :
    SameOutside wider first second :=
  fun key outside => same key fun within => outside (grows key within)

theorem exec_sameOutside {inside : PyStr → Prop} {β : Type} {op : StorageCall β}
    (writes : Writes inside β op) (objects : Objects) :
    SameOutside inside objects (op.exec backend objects).2 := by
  intro key outside
  cases op with
  | hasKey _ => rfl
  | listdir _ => rfl
  | walk _ => rfl
  | longestKey => rfl
  | read other =>
    simp only [StorageCall.exec]
    repeat' split
    all_goals rfl
  | delete other =>
    rcases exec_delete_cases backend objects other with kept | gone
    · rw [kept]
    · rw [gone]
      exact AList.lookup_erase_ne fun same => outside (same ▸ writes)
  | save other content =>
    rcases exec_save_cases backend objects other content with ⟨_, kept⟩ | stored
    · rw [kept]
    · rw [stored]
      exact AList.lookup_insert_ne fun same => outside (same ▸ writes)

theorem handle_sameOutside {inside : PyStr → Prop} {β : Type} {op : StorageCall β}
    (writes : Writes inside β op) (disk : Disk Error) :
    SameOutside inside disk.objects (StorageCall.handle backend β op disk).2.objects := by
  unfold StorageCall.handle
  split
  · exact SameOutside.refl inside _
  · split
    · exact SameOutside.refl inside _
    · exact exec_sameOutside backend writes disk.objects

/-- A program changes only the keys its calls may change, whichever calls fail. -/
theorem run_sameOutside {α : Type} {inside : PyStr → Prop} {body : Prog StorageCall Error α}
    (writes : body.All (Writes inside)) (disk : Disk Error) :
    SameOutside inside disk.objects (body.run (StorageCall.handle backend) disk).2.objects :=
  writes.run_related (fun first second => SameOutside inside first.objects second.objects)
    (fun disk => SameOutside.refl inside disk.objects) SameOutside.trans
    (fun _ _ allowed disk => handle_sameOutside backend allowed disk) disk

/-- The second store holds nothing but what the first one does. -/
def Shrinks (first second : Objects) : Prop :=
  ∀ key content, second.lookup key = some content → first.lookup key = some content

theorem Shrinks.refl (objects : Objects) : Shrinks objects objects := fun _ _ stored => stored

theorem Shrinks.trans {first second third : Objects} (left : Shrinks first second)
    (right : Shrinks second third) : Shrinks first third :=
  fun key content stored => left key content (right key content stored)

theorem shrinks_erase (objects : Objects) (gone : PyStr) : Shrinks objects (objects.erase gone) := by
  intro key content stored
  by_cases same : key = gone
  · rw [same, AList.lookup_erase] at stored
    contradiction
  · rwa [AList.lookup_erase_ne same] at stored

theorem SameOutside.shrinks {first second : Objects}
    (same : SameOutside (fun _ => False) first second) : Shrinks first second :=
  fun key _ stored => same key not_false ▸ stored

/-- A call that saves nothing stores nothing. -/
theorem handle_shrinks {deleted : PyStr → Prop} {β : Type} {op : StorageCall β}
    (changes : Changes deleted (fun _ => False) β op) (disk : Disk Error) :
    Shrinks disk.objects (StorageCall.handle backend β op disk).2.objects := by
  rcases handle_cases backend op disk with ⟨error, faults, ran⟩ | ⟨faults, ran⟩
  · rw [ran]
    exact Shrinks.refl _
  · rw [ran]
    cases op with
    | delete gone =>
      rcases exec_delete_cases backend disk.objects gone with kept | erased
      · rw [kept]
        exact Shrinks.refl _
      · rw [erased]
        exact shrinks_erase _ gone
    | save other content => exact changes.elim
    | _ =>
      refine SameOutside.shrinks (exec_sameOutside backend ?_ disk.objects)
      trivial

/-- Every key that the call saves is in `good`. -/
abbrev Saves (good : PyStr → Prop) : ∀ β, StorageCall β → Prop := Changes (fun _ => True) good

theorem exec_saves {good : PyStr → Prop} {β : Type} {op : StorageCall β}
    (saves : Saves good β op) {objects : Objects} (plain : ∀ key ∈ objects, good key) :
    ∀ key ∈ (op.exec backend objects).2, good key := by
  intro key stored
  cases op with
  | hasKey _ => exact plain key stored
  | listdir _ => exact plain key stored
  | walk _ => exact plain key stored
  | longestKey => exact plain key stored
  | read other =>
    refine plain key ?_
    simp only [StorageCall.exec] at stored
    repeat' split at stored
    all_goals exact stored
  | delete other =>
    rcases exec_delete_cases backend objects other with kept | erased
    · rw [kept] at stored
      exact plain key stored
    · rw [erased] at stored
      exact plain key (AList.mem_erase.mp stored).2
  | save other content =>
    rcases exec_save_cases backend objects other content with ⟨_, kept⟩ | inserted
    · rw [kept] at stored
      exact plain key stored
    · rw [inserted] at stored
      rcases (AList.mem_insert objects).mp stored with rfl | old
      · exact saves
      · exact plain key old

/-- A program leaves only keys that were there or that it may save. -/
theorem run_saves {α : Type} {good : PyStr → Prop} {body : Prog StorageCall Error α}
    (saves : body.All (Saves good)) (disk : Disk Error) :
    (∀ key ∈ disk.objects, good key) →
      ∀ key ∈ (body.run (StorageCall.handle backend) disk).2.objects, good key := by
  refine saves.run_related
    (fun first second => (∀ key ∈ first.objects, good key) → ∀ key ∈ second.objects, good key)
    (fun _ plain => plain) (fun left right plain => right (left plain)) ?_ disk
  intro β op allowed disk plain
  unfold StorageCall.handle
  split
  · exact plain
  · split
    · exact plain
    · exact exec_saves backend allowed plain

/-! ### Looking at a part of the store -/

/-- The call looks at a key in `inside`. -/
def Looks (inside : PyStr → Prop) : ∀ β, StorageCall β → Prop
  | _, .hasKey key => inside key
  | _, .read key => inside key
  | _, _ => False

/-- Two object stores hold the same in `inside`. -/
def SameWithin (inside : PyStr → Prop) (first second : Objects) : Prop :=
  ∀ key, inside key → second.lookup key = first.lookup key

theorem SameWithin.refl (inside : PyStr → Prop) (objects : Objects) :
    SameWithin inside objects objects := fun _ _ => rfl

theorem SameWithin.trans {inside : PyStr → Prop} {first second third : Objects}
    (left : SameWithin inside first second) (right : SameWithin inside second third) :
    SameWithin inside first third :=
  fun key within => (right key within).trans (left key within)

theorem SameOutside.within {inside changed : PyStr → Prop} {first second : Objects}
    (same : SameOutside changed first second) (apart : ∀ key, inside key → ¬ changed key) :
    SameWithin inside first second :=
  fun key within => same key (apart key within)

section
variable {inside : PyStr → Prop} {first second : Objects}

theorem SameWithin.mem_iff (same : SameWithin inside first second) {key : PyStr}
    (within : inside key) : key ∈ second ↔ key ∈ first := by
  rw [← AList.lookup_isSome, ← AList.lookup_isSome, same key within]

theorem SameWithin.isFolder_eq (same : SameWithin inside first second) {key : PyStr}
    (deeper : ∀ rest, inside (key ++ slash :: rest)) :
    isFolder second key = isFolder first key := by
  rw [Bool.eq_iff_iff, isFolder_iff, isFolder_iff]
  exact exists_congr fun rest => same.mem_iff (deeper rest)

/-- Looks at a part of the store that holds the same are answered the same. -/
theorem exec_looks {β : Type} {op : StorageCall β} (looks : Looks inside β op)
    (deeper : ∀ key rest, inside key → inside (key ++ slash :: rest))
    (same : SameWithin inside first second) :
    (op.exec backend second).1 = (op.exec backend first).1 ∧
      (op.exec backend first).2 = first ∧ (op.exec backend second).2 = second := by
  cases op with
  | hasKey key =>
    have folders := same.isFolder_eq fun rest => deeper key rest looks
    simp [StorageCall.exec, folders, same.mem_iff looks]
  | read key =>
    have folders := same.isFolder_eq fun rest => deeper key rest looks
    simp only [StorageCall.exec, folders, same key looks]
    cases first.lookup key with
    | some content => exact ⟨rfl, rfl, rfl⟩
    | none => cases backend.folders && isFolder first key <;> exact ⟨rfl, rfl, rfl⟩
  | _ => exact looks.elim

theorem handle_looks {β : Type} {op : StorageCall β} (looks : Looks inside β op)
    (deeper : ∀ key rest, inside key → inside (key ++ slash :: rest))
    (same : SameWithin inside first second) (faults : List (Option Error)) :
    (StorageCall.handle backend β op ⟨second, faults⟩).1 =
        (StorageCall.handle backend β op ⟨first, faults⟩).1 ∧
      ∃ later, (StorageCall.handle backend β op ⟨first, faults⟩).2 = ⟨first, later⟩ ∧
        (StorageCall.handle backend β op ⟨second, faults⟩).2 = ⟨second, later⟩ := by
  obtain ⟨answers, firstKept, secondKept⟩ := exec_looks backend looks deeper same
  cases op with
  | hasKey key =>
    rcases faults with _ | ⟨_ | error, later⟩
    · exact ⟨answers, [], rfl, rfl⟩
    · exact ⟨answers, later, rfl, rfl⟩
    · exact ⟨rfl, later, rfl, rfl⟩
  | read key =>
    rcases faults with _ | ⟨_ | error, later⟩
    · exact ⟨answers, [], congrArg (Disk.mk · []) firstKept, congrArg (Disk.mk · []) secondKept⟩
    · exact ⟨answers, later, congrArg (Disk.mk · later) firstKept,
        congrArg (Disk.mk · later) secondKept⟩
    · exact ⟨rfl, later, rfl, rfl⟩
  | _ => exact looks.elim

/-- A program that looks at a part of the store cannot tell what else is stored. -/
theorem run_looks {α : Type} {body : Prog StorageCall Error α} (looks : body.All (Looks inside))
    (deeper : ∀ key rest, inside key → inside (key ++ slash :: rest))
    (same : SameWithin inside first second) (faults : List (Option Error)) :
    (body.run (StorageCall.handle backend) ⟨second, faults⟩).1 =
      (body.run (StorageCall.handle backend) ⟨first, faults⟩).1 := by
  refine (looks.run_simulated
    (fun left right => ∃ faults, left = ⟨second, faults⟩ ∧ right = ⟨first, faults⟩)
    (fun β op allowed left right alike => ?_) ⟨faults, rfl, rfl⟩).1
  obtain ⟨faults, rfl, rfl⟩ := alike
  obtain ⟨answers, later, firstKept, secondKept⟩ := handle_looks backend allowed deeper same faults
  exact ⟨answers, later, secondKept, firstKept⟩

end

/-! ### Runs in which the store answers every call -/

/-- The disk with the store behind it answering. -/
def answering (objects : Objects) : Disk Error := ⟨objects, []⟩

theorem handle_answering {β : Type} (op : StorageCall β) (objects : Objects) :
    StorageCall.handle backend β op (answering objects) =
      ((op.exec backend objects).1, answering (op.exec backend objects).2) := by
  cases op <;> rfl

theorem run_perform_answering {β : Type} (op : StorageCall β) (objects : Objects) :
    (Prog.perform op : Prog StorageCall Error β).run (StorageCall.handle backend)
      (answering objects) =
      ((op.exec backend objects).1, answering (op.exec backend objects).2) := by
  rw [Prog.run_perform, handle_answering]

/-- A store that answers goes on answering. -/
theorem run_answering {α : Type} (body : Prog StorageCall Error α) (objects : Objects) :
    ∃ result after, body.run (StorageCall.handle backend) (answering objects) =
      (result, answering after) := by
  induction body generalizing objects with
  | ret value => exact ⟨_, objects, rfl⟩
  | raise error => exact ⟨_, objects, rfl⟩
  | call op next ih =>
    rw [Prog.run_call, handle_answering]
    exact ih _ _

end HostingService.Storage
