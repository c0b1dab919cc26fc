import HostingService.Hosting.Keys
import HostingService.Storage.Erases
import Mathlib.Data.List.MinMax

/-! What `delete_extracted_prefix` removes on the two backends. The file system
walks the whole tree; on S3 each recursion looks at `extracted/` of a folder. -/

namespace HostingService

open Program Text Storage

/-- The paths below the root that the recursion on S3 gets to: a file in the
root, or such a path in the folder `extracted` of a folder of the root. -/
def Reached : List PyStr → Prop
  | [] => False
  | [_] => True
  | _ :: nested :: rest => nested = lit "extracted" ∧ Reached rest

instance decidableReached : ∀ parts, Decidable (Reached parts)
  | [] => .isFalse id
  | [_] => .isTrue trivial
  | _ :: _ :: rest => @instDecidableAnd _ _ _ (decidableReached rest)

/-- No stored path below the root has an empty segment. -/
def PlainBelow (root key : PyStr) : Prop :=
  ∀ rel, key = root ++ slash :: rel → [] ∉ segments rel

/-- The keys below the root that one clean-up removes. -/
def Cleaned (settings : Settings) (root key : PyStr) : Prop :=
  if isS3Backend settings then ∃ rel, key = root ++ slash :: rel ∧ Reached (segments rel)
  else InFolder root key

theorem inFolder_iff {root key : PyStr} : InFolder root key ↔ ∃ rel, key = root ++ slash :: rel := by
  constructor
  · rintro ⟨rel, rfl⟩
    exact ⟨rel, by simp⟩
  · rintro ⟨rel, rfl⟩
    exact InFolder.below root rel

theorem Cleaned.inFolder {settings : Settings} {root key : PyStr}
    (cleaned : Cleaned settings root key) : InFolder root key := by
  unfold Cleaned at cleaned
  split at cleaned
  · obtain ⟨rel, same, _⟩ := cleaned
    exact inFolder_iff.mpr ⟨rel, same⟩
  · exact cleaned

section
variable {settings : Settings}

/-- On an answering store the look says whether the key is a file or a folder. -/
theorem run_targetExists (settings : Settings) (key : PyStr) (before : Objects) :
    (targetExists key).run (StorageCall.handle (storageBackend settings)) (answering before) =
      (((StorageCall.hasKey key).exec (storageBackend settings) before).1, answering before) := by
  have looked := run_perform_answering (storageBackend settings) (.hasKey key) before
  exact Prog.run_tryCatch_ok _ looked _

theorem erases_filesystemTree {settings : Settings} (disk : isS3Backend settings = false)
    (root : PyStr) (before : Objects) :
    Erases (storageBackend settings) (deleteFilesystemTree root) (InFolder root) before := by
  have folders : (storageBackend settings).folders = true := by simp [storageBackend, disk]
  have looked := run_targetExists settings root before
  rw [deleteFilesystemTree]
  by_cases found : decide (root ∈ before) || isFolder before root
  · have walked := run_perform_answering (storageBackend settings) (.walk root) before
    simp only [StorageCall.exec, folders, Bool.true_and, found] at looked
    have sorted := (below before root).perm_insertionSort
      fun first second => segments second ≤ segments first
    have loop := @erases_stored _ (storageBackend settings) _ (root ++ slash :: ·) _ before
      ((sorted.map _).nodup_iff.mpr (nodup_below before root))
      fun rel listed => mem_below.mp (sorted.mem_iff.mp listed)
    have exactly : Erases (storageBackend settings) _ (InFolder root) before :=
      loop.congr fun key stored => by
        rw [inFolder_iff]
        constructor
        · rintro ⟨rel, _, rfl⟩
          exact ⟨rel, rfl⟩
        · rintro ⟨rel, rfl⟩
          exact ⟨rel, sorted.mem_iff.mpr (mem_below.mpr stored), rfl⟩
    obtain ⟨after, ran, erased⟩ := exactly
    refine ⟨after, ?_, erased⟩
    rw [Prog.run_bind_ok _ looked]
    exact (Prog.run_bind_ok _ walked _).trans ran
  · rw [Bool.not_eq_true] at found
    simp only [StorageCall.exec, folders, Bool.true_and, found] at looked
    refine ⟨before, Prog.run_bind_ok _ looked _, fun key inside => ?_, fun _ _ => rfl⟩
    obtain ⟨rel, rfl⟩ := inFolder_iff.mp inside
    refine AList.lookup_eq_none.mpr fun stored => ?_
    have folder : isFolder before root = true := isFolder_iff.mpr ⟨rel, stored⟩
    simp [folder] at found

/-- The listing answers with the folders and files there are when it is called. -/
theorem erases_deleteListing {root : PyStr} {deleteFolder : PyStr → StorageProg Unit}
    {gone : PyStr → Prop} {before : Objects}
    (loops : Erases (storageBackend settings)
      (Prog.forEach (fun name => Prog.perform (.delete (root ++ slash :: name)))
          (listing before root).2 >>= fun _ =>
        Prog.forEach deleteFolder (listing before root).1) gone before) :
    Erases (storageBackend settings) (deleteListing root deleteFolder) gone before := by
  obtain ⟨after, ran, erased⟩ := loops
  refine ⟨after, ?_, erased⟩
  have listed := run_perform_answering (storageBackend settings) (.listdir root) before
  exact Prog.run_tryCatch_ok _ ((Prog.run_bind_ok _ listed _).trans ran) _

theorem extractedRoot_folder {storagePrefix name : PyStr} (anchored : Anchored storagePrefix)
    (full : name ≠ []) (plain : slash ∉ name) :
    extractedRoot settings (nestedPrefix storagePrefix name) =
      extractedRoot settings storagePrefix ++ slash :: (name ++ slash :: lit "extracted") := by
  rw [extractedRoot_eq settings (nestedPrefix_anchored anchored name),
    extractedRoot_eq settings anchored, nestedPrefix, rstripSlash_append_plain _ full plain]
  simp [show lit "/extracted/" = slash :: (lit "extracted" ++ [slash]) from rfl]

theorem reached_nested {name rel : PyStr} (plain : slash ∉ name) :
    Reached (segments (name ++ slash :: (lit "extracted" ++ slash :: rel))) ↔
      Reached (segments rel) := by
  rw [segments_append, segments_append, segments_of_plain plain,
    segments_of_plain (show slash ∉ lit "extracted" by decide)]
  simp [Reached]

/-- A reached path is a file of the root, or a reached path of a nested tree. -/
theorem reached_cases {rel : PyStr} (reached : Reached (segments rel)) :
    slash ∉ rel ∨ ∃ name inner, slash ∉ name ∧ name ∈ segments rel ∧
      rel = name ++ slash :: (lit "extracted" ++ slash :: inner) := by
  rcases split : segments rel with _ | ⟨name, _ | ⟨nested, rest⟩⟩
  · exact absurd split (segments_ne_nil rel)
  · left
    have whole := join_segments rel
    rw [split, joinSegments_singleton] at whole
    rw [← whole]
    exact slash_not_mem_segment (show name ∈ segments rel by simp [split])
  · right
    rw [split] at reached
    obtain ⟨rfl, inner⟩ := reached
    obtain ⟨first, others, tail⟩ : ∃ first others, rest = first :: others := by
      cases rest with
      | nil => exact inner.elim
      | cons first others => exact ⟨first, others, rfl⟩
    refine ⟨name, joinSegments rest, ?_, by simp, ?_⟩
    · exact slash_not_mem_segment (show name ∈ segments rel by simp [split])
    · rw [← join_segments rel, split, tail]
      simp [joinSegments, List.intercalate_cons_cons]

theorem storageBackend_flat (s3 : isS3Backend settings = true) :
    (storageBackend settings).folders = false := by simp [storageBackend, s3]

/-- On S3 the recursion removes exactly the reached paths, once it is deep enough. -/
theorem erases_extractedListing {settings : Settings} (s3 : isS3Backend settings = true) (depth : Nat) {storagePrefix root : PyStr}
    (anchored : Anchored storagePrefix) (located : extractedRoot settings storagePrefix = root)
    {before : Objects}
    (shallow : ∀ key ∈ before, PlainBelow root key ∧ key.length < root.length + depth) :
    Erases (storageBackend settings) (deleteExtractedListing settings depth storagePrefix)
      (fun key => ∃ rel, key = root ++ slash :: rel ∧ Reached (segments rel)) before := by
  induction depth generalizing storagePrefix root before with
  | zero =>
    refine (erases_nothing before).congr fun key stored => ?_
    constructor
    · exact False.elim
    · rintro ⟨rel, rfl, _⟩
      have short := (shallow _ stored).2
      rw [List.length_append] at short
      omega
  | succ depth ih =>
    have child (name : PyStr) (full : name ≠ []) (plain : slash ∉ name) :
        extractedRoot settings (nestedPrefix storagePrefix name) =
          root ++ slash :: (name ++ slash :: lit "extracted") :=
      located ▸ extractedRoot_folder anchored full plain
    have named {name : PyStr} (listed : name ∈ (listing before root).1) : name ≠ [] := by
      obtain ⟨_, rest, stored⟩ := mem_listing_folders.mp listed
      rintro rfl
      exact (shallow _ stored).1 _ rfl (by simp [segments_cons])
    have files : Erases (storageBackend settings)
        (Prog.forEach (fun name => Prog.perform (.delete (root ++ slash :: name)))
          (listing before root).2) _ before :=
      Erases.forEach shallow fun name _ objects _ =>
        erases_delete (storageBackend_flat s3) (root ++ slash :: name) objects
    have folders (after : Objects) (good : ∀ key ∈ after, PlainBelow root key ∧
        key.length < root.length + (depth + 1)) :
        Erases (storageBackend settings)
          (Prog.forEach
            (fun name => deleteExtractedListing settings depth (nestedPrefix storagePrefix name))
            (listing before root).1)
          (fun key => ∃ name ∈ (listing before root).1, ∃ rel,
            key = root ++ slash :: (name ++ slash :: lit "extracted") ++ slash :: rel ∧
              Reached (segments rel)) after := by
      refine Erases.forEach good fun name listed objects kept => ?_
      have plain := (mem_listing_folders.mp listed).1
      refine ih (nestedPrefix_anchored anchored name) (child name (named listed) plain)
        fun key present => ?_
      obtain ⟨plainKey, short⟩ := kept key present
      constructor
      · rintro rel rfl empty
        refine plainKey (name ++ slash :: (lit "extracted" ++ slash :: rel)) (by simp) ?_
        rw [segments_append, segments_append]
        simp [empty]
      · simp only [List.length_append, List.length_cons]
        omega
    rw [deleteExtractedListing, show buildStorageKey settings _ = root from located]
    refine erases_deleteListing ((files.bind shallow folders).congr fun key stored => ?_)
    constructor
    · rintro (⟨name, listed, rfl⟩ | ⟨name, listed, rel, rfl, reached⟩)
      · obtain ⟨_, plain, _⟩ := mem_listing_files.mp listed
        exact ⟨name, rfl, by simp [segments_of_plain plain, Reached]⟩
      · have plain := (mem_listing_folders.mp listed).1
        exact ⟨_, by simp, (reached_nested plain).mpr reached⟩
    · rintro ⟨rel, rfl, reached⟩
      rcases reached_cases reached with plain | ⟨name, inner, plain, member, rfl⟩
      · left
        have full : rel ≠ [] := by
          rintro rfl
          exact (shallow _ stored).1 [] rfl (by simp [segments])
        exact ⟨rel, mem_listing_files.mpr ⟨stored, plain, full⟩, rfl⟩
      · right
        have listed := mem_listing_folders.mpr ⟨plain, _, stored⟩
        exact ⟨name, listed, inner, by simp, (reached_nested plain).mp reached⟩

theorem length_le_longest {objects : Objects} {key : PyStr} (stored : key ∈ objects) :
    key.length ≤ (objects.keys.map List.length).foldr max 0 :=
  List.le_max_of_le' 0 (List.mem_map.mpr ⟨key, AList.mem_keys.mp stored, rfl⟩) le_rfl

theorem cleaned_disk (disk : ¬ isS3Backend settings = true) {root : PyStr} :
    Cleaned settings root = InFolder root := by
  funext key
  simp [Cleaned, disk]

theorem erases_deleteExtractedPrefix {storagePrefix : PyStr} (anchored : Anchored storagePrefix)
    {before : Objects}
    (plain : ∀ key ∈ before, PlainBelow (extractedRoot settings storagePrefix) key) :
    Erases (storageBackend settings) (deleteExtractedPrefix settings storagePrefix)
      (Cleaned settings (extractedRoot settings storagePrefix)) before := by
  by_cases s3 : isS3Backend settings = true
  · have removes := erases_extractedListing s3
      ((before.keys.map List.length).foldr max 0 + 1) anchored rfl fun key stored => by
        have bound := length_le_longest stored
        exact ⟨plain key stored, by omega⟩
    obtain ⟨after, ran, erased⟩ := removes
    have measured := run_perform_answering (storageBackend settings) .longestKey before
    refine ⟨after, ?_, ?_⟩
    · rw [deleteExtractedPrefix, if_pos s3, Prog.run_bind_ok _ measured]
      exact ran
    · rw [show Cleaned settings (extractedRoot settings storagePrefix) = _ from
        funext fun key => if_pos s3]
      exact erased
  · rw [deleteExtractedPrefix, if_neg s3, cleaned_disk s3]
    exact erases_filesystemTree (Bool.not_eq_true _ ▸ s3) _ before

theorem deleteListing_returns {settings : Settings} (root : PyStr) (deleteFolder : PyStr → StorageProg Unit)
    (before : Objects) :
    ∃ after, (deleteListing root deleteFolder).run (StorageCall.handle (storageBackend settings))
      (answering before) = (.ok (), answering after) := by
  obtain ⟨result, after, ran⟩ := run_answering (storageBackend settings)
    (.perform (.listdir root) >>= fun listed =>
      .forEach (fun name => .perform (.delete (root ++ slash :: name))) listed.2 >>= fun _ =>
        .forEach deleteFolder listed.1 : StorageProg Unit) before
  cases result with
  | ok value => exact ⟨after, Prog.run_tryCatch_ok _ ran _⟩
  | error error => exact ⟨after, Prog.run_tryCatch_error _ ran _⟩

/-- On an answering store a clean-up always returns. On a file system it removes what lies
below the root; elsewhere it removes exactly what it gets to when the stored paths have no
empty segment. -/
theorem run_deleteExtractedPrefix (settings : Settings) {storagePrefix : PyStr}
    (anchored : Anchored storagePrefix) (before : Objects) :
    ∃ after, (deleteExtractedPrefix settings storagePrefix).run
        (StorageCall.handle (storageBackend settings)) (answering before) =
        (.ok (), answering after) ∧
      (isS3Backend settings = false →
        Without (InFolder (extractedRoot settings storagePrefix)) before after) ∧
      ((∀ key ∈ before, PlainBelow (extractedRoot settings storagePrefix) key) →
        Without (Cleaned settings (extractedRoot settings storagePrefix)) before after) := by
  by_cases s3 : isS3Backend settings = true
  · have onDisk : isS3Backend settings = false → False := by simp [s3]
    by_cases plain : ∀ key ∈ before, PlainBelow (extractedRoot settings storagePrefix) key
    · obtain ⟨after, ran, erased⟩ := erases_deleteExtractedPrefix anchored plain
      exact ⟨after, ran, fun disk => (onDisk disk).elim, fun _ => erased⟩
    · have measured := run_perform_answering (storageBackend settings) .longestKey before
      obtain ⟨after, ran⟩ := deleteListing_returns 
        (buildStorageKey settings (extractedPrefix storagePrefix)) (fun name =>
          deleteExtractedListing settings ((before.keys.map List.length).foldr max 0)
            (nestedPrefix storagePrefix name)) before
      refine ⟨after, ?_, fun disk => (onDisk disk).elim, fun other => absurd other plain⟩
      rw [deleteExtractedPrefix, if_pos s3, Prog.run_bind_ok _ measured]
      exact ran
  · obtain ⟨after, ran, erased⟩ := erases_filesystemTree (Bool.not_eq_true _ ▸ s3)
      (extractedRoot settings storagePrefix) before
    refine ⟨after, ?_, fun _ => erased, fun _ => ?_⟩
    · rw [deleteExtractedPrefix, if_neg s3]
      exact ran
    · rw [cleaned_disk s3]
      exact erased

end

end HostingService
