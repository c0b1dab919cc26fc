import HostingService.Hosting.Agreement

/-! What the clean-up of a deployment has removed when it returns. -/

namespace HostingService

open Program Text Storage

section
variable {settings : Settings}

/-- A program that saves nothing leaves only what was stored. -/
theorem ensures_no_more {α : Type} {body : StorageProg α}
    (removes : body.All (Changes (fun _ => True) fun _ => False)) (disk : Disk Error) :
    body.Ensures (StorageCall.handle (storageBackend settings))
      (fun _ after => ∀ key ∈ after.objects, key ∈ disk.objects) disk := by
  have kept : body.All (Saves (· ∈ disk.objects)) :=
    removes.mono fun β op changes => changes.mono (fun _ _ => trivial) fun _ saved => saved.elim
  exact run_saves (storageBackend settings) kept disk fun _ stored => stored

/-! ### Folders on S3 -/

/-- A path of which the clean-up on S3 finds every folder again: no part is empty, and no
folder has a name that ends in white space. -/
def Addressable (parts : List PyStr) : Prop :=
  [] ∉ parts ∧ ∀ name ∈ parts.dropLast, trimTail name = name

def AddressableBelow (folder key : PyStr) : Prop :=
  ∀ rel, key = folder ++ slash :: rel → Addressable (segments rel)

theorem Addressable.tail {name : PyStr} {parts : List PyStr} (more : parts ≠ [])
    (addressable : Addressable (name :: parts)) :
    trimTail name = name ∧ name ≠ [] ∧ Addressable parts := by
  obtain ⟨full, kept⟩ := addressable
  rw [List.dropLast_cons_of_ne_nil more] at kept
  refine ⟨kept name List.mem_cons_self, fun empty => full (empty ▸ List.mem_cons_self), ?_, ?_⟩
  · exact fun member => full (List.mem_cons_of_mem _ member)
  · exact fun other member => kept other (List.mem_cons_of_mem _ member)

theorem inFolder_child {folder name key : PyStr} (inside : InFolder (folder ++ slash :: name) key) :
    InFolder folder key := by
  obtain ⟨rel, rfl⟩ := inFolder_iff.mp inside
  exact inFolder_iff.mpr ⟨name ++ slash :: rel, by simp⟩

/-- The folder that `delete_artifact_prefix` lists. -/
theorem buildStorageKey_folder (settings : Settings) {folder : PyStr} (anchored : Anchored folder)
    (kept : trimTail folder = folder) :
    buildStorageKey settings folder = keyBase settings ++ folder := by
  rw [buildStorageKey_anchored settings anchored, kept]

theorem trimTail_child {folder name : PyStr} (kept : trimTail name = name) (full : name ≠ []) :
    trimTail (folder ++ slash :: name) = folder ++ slash :: name := by
  rw [trimTail_join, kept, if_neg full]

/-- On S3 the recursion removes everything below its folder, once it is deep enough. -/
theorem erases_artifactListing (s3 : isS3Backend settings = true) (depth : Nat) {root folder : PyStr}
    (anchored : Anchored folder) (stripped : rstripSlash root = folder)
    (located : buildStorageKey settings root = keyBase settings ++ folder) {before : Objects}
    (shallow : ∀ key ∈ before, AddressableBelow (keyBase settings ++ folder) key ∧
      key.length < (keyBase settings ++ folder).length + depth) :
    Erases (storageBackend settings) (deleteArtifactListing settings depth root)
      (InFolder (keyBase settings ++ folder)) before := by
  induction depth generalizing root folder before with
  | zero =>
    refine (erases_nothing before).congr fun key stored => ⟨False.elim, fun inside => ?_⟩
    have short := (shallow key stored).2
    have long := inside.length_le
    rw [List.length_append] at long
    omega
  | succ depth ih =>
    have files : Erases (storageBackend settings)
        (Prog.forEach (fun name => Prog.perform (.delete (keyBase settings ++ folder ++ slash :: name)))
          (listing before (keyBase settings ++ folder)).2) _ before :=
      Erases.forEach shallow fun name _ objects _ =>
        erases_delete (storageBackend_flat s3) (keyBase settings ++ folder ++ slash :: name) objects
    have folders (after : Objects) (good : ∀ key ∈ after,
        AddressableBelow (keyBase settings ++ folder) key ∧
          key.length < (keyBase settings ++ folder).length + (depth + 1)) :
        Erases (storageBackend settings)
          (Prog.forEach
            (fun name => deleteArtifactListing settings depth (rstripSlash root ++ slash :: name))
            (listing before (keyBase settings ++ folder)).1)
          (fun key => ∃ name ∈ (listing before (keyBase settings ++ folder)).1,
            InFolder (keyBase settings ++ folder ++ slash :: name) key) after := by
      refine Erases.forEach good fun name listed objects kept => ?_
      obtain ⟨plain, rest, stored⟩ := mem_listing_folders.mp listed
      have address := (shallow _ stored).1 _ rfl
      rw [segments_append, segments_of_plain plain, List.singleton_append] at address
      obtain ⟨trimmed, full, _⟩ := address.tail (segments_ne_nil rest)
      have child : trimTail (folder ++ slash :: name) = folder ++ slash :: name :=
        trimTail_child trimmed full
      have childAnchored : Anchored (folder ++ slash :: name) := anchored.append _
      have childStripped : rstripSlash (folder ++ slash :: name) = folder ++ slash :: name := by
        have kept := rstripSlash_append_plain (folder ++ [slash]) full plain
        simpa using kept
      rw [stripped, List.append_assoc]
      refine ih childAnchored childStripped
        (buildStorageKey_folder settings childAnchored child) fun key present => ?_
      obtain ⟨plainKey, short⟩ := kept key present
      constructor
      · rintro rel rfl
        have whole := plainKey (name ++ slash :: rel) (by simp)
        rw [segments_append, segments_of_plain plain, List.singleton_append] at whole
        exact (whole.tail (segments_ne_nil rel)).2.2
      · simp only [List.length_append, List.length_cons] at short ⊢
        omega
    rw [deleteArtifactListing, located]
    refine erases_deleteListing ((files.bind shallow folders).congr fun key stored => ?_)
    constructor
    · rintro (⟨name, _, rfl⟩ | ⟨name, _, inside⟩)
      · exact InFolder.below _ name
      · exact inFolder_child inside
    · intro inside
      obtain ⟨rel, rfl⟩ := inFolder_iff.mp inside
      have address := (shallow _ stored).1 rel rfl
      by_cases nested : slash ∈ rel
      · right
        obtain ⟨name, rest, rfl, plain⟩ := List.eq_append_cons_of_mem nested
        exact ⟨name, mem_listing_folders.mpr ⟨plain, rest, stored⟩,
          inFolder_iff.mpr ⟨rest, by simp⟩⟩
      · left
        have full : rel ≠ [] := by
          rintro rfl
          exact address.1 (by simp [segments])
        exact ⟨rel, mem_listing_files.mpr ⟨stored, nested, full⟩, rfl⟩

/-! ### The folder of a deployment -/

/-- Errors are swallowed, on S3 all of them and on disk that of the first look at a folder, so
the store answers; and on S3, where folders may be missed, every folder can be found. -/
structure CleanUpReaches (settings : Settings) (row : Deployment) (disk : Disk Error) : Prop where
  answers : disk.faults = []
  addressable : isS3Backend settings = true →
    ∀ key ∈ disk.objects, AddressableBelow (folderKey settings row) key

/-- What is left when the clean-up of a deployment returns. -/
structure FolderEmptied (settings : Settings) (row : Deployment) (before after : Disk Error) :
    Prop where
  empty : ∀ key ∈ after.objects, key ∈ before.objects ∧ ¬ InFolder (folderKey settings row) key
  answers : after.faults = []

theorem folderKey_rstrip (settings : Settings) (row : Deployment) :
    buildStorageKey settings (rstripSlash row.storagePrefix) = folderKey settings row := by
  rw [storagePrefix_rstrip, buildStorageKey_anchored settings (deploymentFolder_facts row.app row.id).1,
    deploymentFolder_trimTail, folderKey]

theorem folderKey_split (settings : Settings) (row : Deployment) :
    buildStorageKey settings row.storagePrefix = folderKey settings row := by
  have facts := deploymentFolder_facts row.app row.id
  have joined : row.storagePrefix = deploymentFolder row.app row.id ++ slash :: [] := by
    rw [row.storagePrefix_eq]
    rfl
  rw [joined, buildStorageKey_anchored settings (facts.1.append _), trimTail_join,
    if_pos (by rfl), facts.2, folderKey]

theorem ensures_artifactPrefix_s3 (row : Deployment) (s3 : isS3Backend settings = true)
    {objects : Objects} (addressable : ∀ key ∈ objects, AddressableBelow (folderKey settings row) key) :
    Erases (storageBackend settings) (deleteArtifactPrefix settings row.storagePrefix)
      (InFolder (folderKey settings row)) objects := by
  have facts := deploymentFolder_facts row.app row.id
  obtain ⟨after, ran, erased⟩ := erases_artifactListing s3
    ((objects.keys.map List.length).foldr max 0 + 1) facts.1 (storagePrefix_rstrip row)
    (folderKey_split settings row) fun key stored => by
      have bound := length_le_longest stored
      exact ⟨addressable key stored, by omega⟩
  have measured := run_perform_answering (storageBackend settings) .longestKey objects
  refine ⟨after, ?_, erased⟩
  rw [deleteArtifactPrefix, if_pos s3, Prog.run_bind_ok _ measured]
  exact ran

theorem ensures_answering {α : Type} (body : StorageProg α) {disk : Disk Error}
    (answers : disk.faults = []) :
    body.Ensures (StorageCall.handle (storageBackend settings)) (fun _ after => after.faults = []) disk := by
  obtain ⟨objects, faults⟩ := disk
  obtain rfl : faults = [] := answers
  obtain ⟨result, after, ran⟩ := run_answering (storageBackend settings) body objects
  rw [Prog.Ensures, show (⟨objects, []⟩ : Disk Error) = answering objects from rfl, ran]
  rfl

/-- When the clean-up of a deployment returns, nothing is left in its folder. -/
theorem ensures_deleteDeploymentArtifacts {row : Deployment} {disk : Disk Error}
    (reaches : CleanUpReaches settings row disk) :
    (deleteDeploymentArtifacts settings row).Ensures (StorageCall.handle (storageBackend settings))
      (Prog.Returned fun _ after => FolderEmptied settings row disk after) disk := by
  have extracted : (deleteExtractedPrefix settings row.storagePrefix).All
      (Changes (fun _ => True) fun _ => False) :=
    deleteExtractedPrefix_changes settings (storagePrefix_anchored row) fun _ => trivial
  have artifact : (Prog.tryCatch (do
      let found ← .perform (.hasKey (artifactKey settings row))
      .when found (.perform (.delete (artifactKey settings row)))) fun _ => pure () :
      StorageProg Unit).All (Changes (fun _ => True) fun _ => False) :=
    .tryCatch (.bind (Prog.all_perform.mpr trivial) fun _ =>
      .when fun _ => Prog.all_perform.mpr trivial) fun _ => Prog.all_ret _
  have quiet {body : StorageProg Unit} (removes : body.All (Changes (fun _ => True) fun _ => False))
      (before : Disk Error) : body.Ensures (StorageCall.handle (storageBackend settings))
        (fun _ after => (∀ key ∈ after.objects, key ∈ before.objects) ∧
          (before.faults = [] → after.faults = [])) before := by
    refine ⟨ensures_no_more removes before, fun answers => ?_⟩
    exact ensures_answering body answers
  rw [deleteDeploymentArtifacts]
  refine (quiet extracted disk).bind (fun _ _ _ => trivial) fun _ first kept => ?_
  refine (quiet artifact first).bind (fun _ _ _ => trivial) fun _ second keptLater => ?_
  have present (key : PyStr) (stored : key ∈ second.objects) : key ∈ disk.objects :=
    kept.1 key (keptLater.1 key stored)
  have answering : second.faults = [] := keptLater.2 (kept.2 reaches.answers)
  obtain ⟨objects, faults⟩ := second
  obtain rfl : faults = [] := answering
  have emptied {body : StorageProg Unit}
      (erases : Erases (storageBackend settings) body (InFolder (folderKey settings row)) objects) :
      body.Ensures (StorageCall.handle (storageBackend settings))
        (Prog.Returned fun _ after => FolderEmptied settings row disk after) ⟨objects, []⟩ := by
    obtain ⟨after, ran, erased⟩ := erases
    rw [Prog.Ensures, show (⟨objects, []⟩ : Disk Error) = Storage.answering objects from rfl, ran]
    refine ⟨fun key stored => ⟨present key (erased.mem stored), fun inside => ?_⟩, rfl⟩
    exact AList.lookup_eq_none.mp (erased.removed key inside) stored
  by_cases s3 : isS3Backend settings = true
  · rw [if_pos s3]
    exact emptied (ensures_artifactPrefix_s3 row s3 fun key stored =>
      reaches.addressable s3 key (present key stored))
  · rw [if_neg s3, folderKey_rstrip]
    exact emptied (erases_filesystemTree (Bool.not_eq_true _ ▸ s3) _ objects)

end

end HostingService
