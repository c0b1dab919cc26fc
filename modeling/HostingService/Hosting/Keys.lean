import HostingService.Hosting.Extract

/-! Where the keys of a deployment lie: everything it stores is in one folder,
and the folders of different deployments are disjoint. -/

namespace HostingService

open Program Text Storage

/-- The configured key prefix with the slash after it. -/
def keyBase (settings : Settings) : PyStr :=
  if stripSlash (strip settings.hostingKeyPrefix) = [] then []
  else stripSlash (strip settings.hostingKeyPrefix) ++ [slash]

theorem buildStorageKey_eq (settings : Settings) (relative : PyStr) :
    buildStorageKey settings relative = keyBase settings ++ stripSlash (strip relative) := by
  simp only [buildStorageKey, keyBase]
  split <;> simp

/-- The path starts with a character that stripping leaves alone. -/
inductive Anchored : PyStr → Prop where
  | cons {c : Nat} (kept : isSpace c = false) (inner : isSlash c = false) (rest : PyStr) :
      Anchored (c :: rest)

theorem Anchored.append {path : PyStr} (anchored : Anchored path) (rest : PyStr) :
    Anchored (path ++ rest) := by
  cases anchored with
  | cons kept inner tail => exact .cons kept inner (tail ++ rest)

theorem Anchored.rstripSlash {path : PyStr} (anchored : Anchored path) :
    Anchored (rstripSlash path) := by
  cases anchored with
  | cons kept inner tail =>
    rw [Text.rstripSlash, rstripBy_cons isSlash inner]
    exact .cons kept inner _

/-- Only the end of an anchored path is stripped. -/
theorem buildStorageKey_anchored (settings : Settings) {relative : PyStr}
    (anchored : Anchored relative) :
    buildStorageKey settings relative = keyBase settings ++ trimTail relative := by
  cases anchored with
  | cons kept inner tail =>
    have left : lstripBy isSpace (_ :: tail) = _ :: tail := lstripBy_cons isSpace kept tail
    have whole : strip (_ :: tail) = rstrip (_ :: tail) := congrArg rstrip left
    rw [buildStorageKey_eq, whole, rstrip, rstripBy_cons isSpace kept, trimTail, rstrip,
      rstripBy_cons isSpace kept, stripSlash, stripBy, lstripBy_cons isSlash inner, rstripSlash]

theorem trimTail_join (path rest : PyStr) :
    trimTail (path ++ slash :: rest) =
      if trimTail rest = [] then rstripSlash path else path ++ slash :: trimTail rest := by
  have split : path ++ slash :: rest = (path ++ [slash]) ++ rest := by simp
  rw [split, trimTail, rstrip_append]
  by_cases blank : rstrip rest = []
  · have kept : rstrip (path ++ [slash]) = path ++ [slash] :=
      rstripBy_concat isSpace isSpace_slash path
    have trimmed : trimTail rest = [] := by rw [trimTail, blank]; rfl
    rw [if_pos blank, if_pos trimmed, kept]
    exact rstripBy_concat_dropped isSlash isSlash_slash path
  · rw [if_neg blank, rstripSlash, rstripBy_append]
    by_cases bare : trimTail rest = []
    · rw [if_pos bare, if_pos (show rstripBy isSlash (rstrip rest) = [] from bare)]
      exact rstripBy_concat_dropped isSlash isSlash_slash path
    · rw [if_neg bare, if_neg (show rstripBy isSlash (rstrip rest) ≠ [] from bare)]
      simp [trimTail, rstripSlash]

/-! ### The extracted tree of a storage prefix -/

/-- The key of the folder that an archive is unpacked into. -/
def extractedRoot (settings : Settings) (storagePrefix : PyStr) : PyStr :=
  buildStorageKey settings (extractedPrefix storagePrefix)

theorem extractedPrefix_eq (storagePrefix : PyStr) :
    extractedPrefix storagePrefix =
      (rstripSlash storagePrefix ++ slash :: lit "extracted") ++ slash :: [] := by
  simp [extractedPrefix, show lit "/extracted/" = slash :: (lit "extracted" ++ [slash]) from rfl]

theorem extracted_rstripSlash (folder : PyStr) :
    rstripSlash (folder ++ slash :: lit "extracted") = folder ++ slash :: lit "extracted" := by
  have tail : rstripSlash ((folder ++ [slash]) ++ lit "extracted") = _ :=
    rstripSlash_append_plain (folder ++ [slash]) (by decide) (by decide)
  simpa using tail

/-- The key of a file of the site: below the root, unless nothing is left of its name. -/
theorem memberKey_eq (settings : Settings) {storagePrefix : PyStr}
    (anchored : Anchored storagePrefix) (rel : PyStr) :
    memberKey settings (extractedPrefix storagePrefix) rel =
      if trimTail rel = [] then
        keyBase settings ++ (rstripSlash storagePrefix ++ slash :: lit "extracted")
      else
        keyBase settings ++
          ((rstripSlash storagePrefix ++ slash :: lit "extracted") ++ slash :: trimTail rel) := by
  have shape : extractedPrefix storagePrefix ++ rel =
      (rstripSlash storagePrefix ++ slash :: lit "extracted") ++ slash :: rel := by
    rw [extractedPrefix_eq]
    simp
  rw [memberKey, shape,
    buildStorageKey_anchored settings ((anchored.rstripSlash.append _).append _), trimTail_join]
  split
  · rw [extracted_rstripSlash]
  · rfl

theorem extractedRoot_eq (settings : Settings) {storagePrefix : PyStr}
    (anchored : Anchored storagePrefix) :
    extractedRoot settings storagePrefix =
      keyBase settings ++ (rstripSlash storagePrefix ++ slash :: lit "extracted") := by
  have whole := memberKey_eq settings anchored []
  rw [memberKey, List.append_nil] at whole
  exact whole

theorem memberKey_root (settings : Settings) {storagePrefix : PyStr}
    (anchored : Anchored storagePrefix) (rel : PyStr) :
    memberKey settings (extractedPrefix storagePrefix) rel =
      if trimTail rel = [] then extractedRoot settings storagePrefix
      else extractedRoot settings storagePrefix ++ slash :: trimTail rel := by
  rw [memberKey_eq settings anchored, extractedRoot_eq settings anchored]
  simp

/-- A file of the site lies strictly below the root exactly when stripping its
name leaves a safe path. -/
theorem strictlyBelow_memberKey (settings : Settings) {storagePrefix rel : PyStr}
    (anchored : Anchored storagePrefix) :
    StrictlyBelow (extractedRoot settings storagePrefix)
        (memberKey settings (extractedPrefix storagePrefix) rel) ↔
      SafeRelative (trimTail rel) := by
  rw [memberKey_root settings anchored]
  by_cases bare : trimTail rel = []
  · rw [if_pos bare, bare]
    constructor
    · rintro ⟨below, same, _⟩
      have length := congrArg List.length same
      simp at length
    · intro safe
      exact absurd rfl safe.ne_nil
  · rw [if_neg bare]
    constructor
    · rintro ⟨below, same, safe⟩
      have tail := List.append_cancel_left same
      rwa [(List.cons.inj tail).2]
    · intro safe
      exact ⟨_, rfl, safe⟩

/-! ### The folder of a deployment -/

theorem text_anchored (uuid : Uuid) : Anchored uuid.text := by
  obtain ⟨c, rest, split⟩ := List.exists_cons_of_ne_nil uuid.text_ne_nil
  have member : c ∈ uuid.text := by simp [split]
  rw [split]
  rcases Uuid.mem_text member with rfl | lower
  · exact .cons rfl rfl rest
  · obtain ⟨_, _, space, _, _, inner, _⟩ := lowerHex_facts lower
    exact .cons space (by simpa [isSlash] using inner) rest

theorem slash_not_mem_text (uuid : Uuid) : slash ∉ uuid.text := by
  intro member
  rcases Uuid.mem_text member with same | lower
  · exact absurd same (by decide)
  · exact (lowerHex_facts lower).2.2.2.2.2.1 rfl

/-- The storage prefix of a deployment without its last slash. -/
def deploymentFolder (app id : Uuid) : PyStr := app.text ++ lit "/deployments/" ++ id.text

theorem deploymentPrefix_rstrip (app id : Uuid) :
    rstripSlash (deploymentPrefix app id) = deploymentFolder app id := by
  rw [deploymentPrefix, rstripSlash, rstripBy_concat_dropped isSlash isSlash_slash]
  exact rstripSlash_append_plain _ id.text_ne_nil (slash_not_mem_text id)

theorem deploymentPrefix_anchored (app id : Uuid) : Anchored (deploymentPrefix app id) :=
  ((text_anchored app).append _).append _ |>.append _

def folderKey (settings : Settings) (deployment : Deployment) : PyStr :=
  keyBase settings ++ deploymentFolder deployment.app deployment.id

def InFolder (folder key : PyStr) : Prop := folder ++ [slash] <+: key

theorem InFolder.below (folder rest : PyStr) : InFolder folder (folder ++ slash :: rest) :=
  ⟨rest, by simp⟩

theorem InFolder.irrefl (folder : PyStr) : ¬ InFolder folder folder := by
  intro inside
  have longer := inside.length_le
  rw [List.length_append, List.length_singleton] at longer
  omega

theorem InFolder.deeper {folder key : PyStr} (inside : InFolder folder key) (rest : PyStr) :
    InFolder folder (key ++ rest) := inside.trans (List.prefix_append ..)

theorem storagePrefix_anchored (deployment : Deployment) : Anchored deployment.storagePrefix :=
  deployment.storagePrefix_eq ▸ deploymentPrefix_anchored ..

theorem storagePrefix_rstrip (deployment : Deployment) :
    rstripSlash deployment.storagePrefix = deploymentFolder deployment.app deployment.id := by
  rw [deployment.storagePrefix_eq, deploymentPrefix_rstrip]

theorem extractedRoot_deployment (settings : Settings) (deployment : Deployment) :
    extractedRoot settings deployment.storagePrefix =
      folderKey settings deployment ++ slash :: lit "extracted" := by
  rw [extractedRoot_eq settings (storagePrefix_anchored deployment),
    storagePrefix_rstrip, folderKey, List.append_assoc]

theorem artifactKey_eq (settings : Settings) (deployment : Deployment) :
    artifactKey settings deployment =
      folderKey settings deployment ++ slash :: lit "artifact.tar.gz" := by
  have shape : deployment.storagePrefix ++ lit "artifact.tar.gz" =
      deploymentFolder deployment.app deployment.id ++ slash :: lit "artifact.tar.gz" := by
    rw [deployment.storagePrefix_eq]
    simp [deploymentPrefix, deploymentFolder]
  have anchored : Anchored (deploymentFolder deployment.app deployment.id) :=
    ((text_anchored _).append _).append _
  rw [artifactKey, shape, buildStorageKey_anchored settings (anchored.append _), trimTail_join,
    if_neg (by decide), folderKey, List.append_assoc]
  rfl

/-- All folder keys have one length, so a key lies in the folder of one deployment only. -/
theorem folderKey_disjoint {settings : Settings} {first second : Deployment} {key : PyStr}
    (inFirst : InFolder (folderKey settings first) key)
    (inSecond : InFolder (folderKey settings second) key) :
    first.app = second.app ∧ first.id = second.id := by
  have length : (folderKey settings first ++ [slash]).length =
      (folderKey settings second ++ [slash]).length := by
    simp [folderKey, deploymentFolder, Uuid.text_length]
  have same := (List.prefix_of_prefix_length_le inFirst inSecond length.le).eq_of_length length
  have folders : deploymentFolder first.app first.id = deploymentFolder second.app second.id :=
    List.append_cancel_left (List.append_cancel_right same)
  obtain ⟨front, ids⟩ := List.append_inj folders (by simp [Uuid.text_length])
  exact ⟨Uuid.text_injective (List.append_cancel_right front), Uuid.text_injective ids⟩

/-! ### What the storage helpers write -/

section Writes
variable {deleted saved : PyStr → Prop}

theorem deleteListing_changes {root : PyStr} {deleteFolder : PyStr → StorageProg Unit}
    (files : ∀ name, deleted (root ++ slash :: name))
    (folders : ∀ name, (deleteFolder name).All (Changes deleted saved)) :
    (deleteListing root deleteFolder).All (Changes deleted saved) := by
  have removed : ∀ name, (Prog.perform (.delete (root ++ slash :: name)) :
      StorageProg Unit).All (Changes deleted saved) := fun name => Prog.all_perform.mpr (files name)
  have listed : (Prog.perform (.listdir root) : StorageProg _).All (Changes deleted saved) :=
    Prog.all_perform.mpr trivial
  refine .tryCatch (listed.bind fun names => ?_) fun _ => trivial
  exact .bind (.forEach fun name _ => removed name) fun _ => .forEach fun name _ => folders name

theorem deleteFilesystemTree_changes {root : PyStr}
    (files : ∀ rel, deleted (root ++ slash :: rel)) :
    (deleteFilesystemTree root).All (Changes deleted saved) := by
  have looked : (targetExists root).All (Changes deleted saved) :=
    .tryCatch (Prog.all_perform.mpr trivial) fun _ => trivial
  have walked : (Prog.perform (.walk root) : StorageProg _).All (Changes deleted saved) :=
    Prog.all_perform.mpr trivial
  refine looked.bind fun found => .when fun _ => walked.bind fun paths => ?_
  exact .forEach fun rel _ => Prog.all_perform.mpr (files rel)

theorem replaceFile_all {allowed : ∀ β, StorageCall β → Prop} {key : PyStr} {content : Bytes} :
    (replaceFile key content).All allowed ↔
      allowed _ (.hasKey key) ∧ allowed _ (.delete key) ∧ allowed _ (.save key content) := by
  constructor
  · intro every
    obtain ⟨tested, answers⟩ := every
    exact ⟨tested, (answers (.ok true)).1, (answers (.ok false)).1⟩
  · rintro ⟨tested, deleted, saved⟩
    refine .bind (Prog.all_perform.mpr tested) fun found => ?_
    exact .bind (.when fun _ => Prog.all_perform.mpr deleted) fun _ => Prog.all_perform.mpr saved

theorem replaceFile_changes {key : PyStr} (content : Bytes) (deletes : deleted key)
    (saves : saved key) : (replaceFile key content).All (Changes deleted saved) :=
  replaceFile_all.mpr ⟨trivial, deletes, saves⟩

theorem saveArtifact_changes {key : PyStr} {fileobj : Stream Error} {maxBytes : Nat}
    (deletes : deleted key) (saves : saved key) :
    (saveArtifact key fileobj maxBytes).All (Changes deleted saved) :=
  .bind (Prog.all_ofExcept _) fun content =>
    .bind (replaceFile_changes content deletes saves) fun _ => trivial

theorem nestedPrefix_eq (storagePrefix name : PyStr) :
    nestedPrefix storagePrefix name =
      (rstripSlash storagePrefix ++ slash :: lit "extracted") ++ slash :: name := by
  simp [nestedPrefix, show lit "/extracted/" = slash :: (lit "extracted" ++ [slash]) from rfl]

theorem nestedPrefix_anchored {storagePrefix : PyStr} (anchored : Anchored storagePrefix)
    (name : PyStr) : Anchored (nestedPrefix storagePrefix name) :=
  (anchored.rstripSlash.append _).append name

/-- A recursion into a folder of the listing stays below the root. -/
theorem extractedRoot_child (settings : Settings) {storagePrefix : PyStr}
    (anchored : Anchored storagePrefix) (name : PyStr) :
    ∃ more, extractedRoot settings (nestedPrefix storagePrefix name) =
      extractedRoot settings storagePrefix ++ slash :: more := by
  rw [nestedPrefix_eq, extractedRoot_eq settings ((anchored.rstripSlash.append _).append _),
    extractedRoot_eq settings anchored, rstripSlash, ← List.singleton_append (l := name),
    ← List.append_assoc, rstripBy_append]
  split
  · refine ⟨lit "extracted", ?_⟩
    rw [show rstripBy isSlash _ = _ from extracted_rstripSlash _]
  · rename_i full
    refine ⟨rstripBy isSlash name ++ slash :: lit "extracted", ?_⟩
    rw [rstripBy_append] at full ⊢
    by_cases bare : rstripBy isSlash name = []
    · exact absurd (by rw [if_pos bare]; rfl) full
    · simp [bare]

theorem deleteExtractedListing_changes (settings : Settings) (depth : Nat)
    {storagePrefix : PyStr} (anchored : Anchored storagePrefix)
    (below : ∀ rest, deleted (extractedRoot settings storagePrefix ++ slash :: rest)) :
    (deleteExtractedListing settings depth storagePrefix).All (Changes deleted saved) := by
  induction depth generalizing storagePrefix with
  | zero => trivial
  | succ depth ih =>
    refine deleteListing_changes (fun name => below name) fun name => ?_
    refine ih (nestedPrefix_anchored anchored name) fun rest => ?_
    obtain ⟨more, longer⟩ := extractedRoot_child settings anchored name
    rw [longer, List.append_assoc, List.cons_append]
    exact below _

theorem deleteExtractedPrefix_changes (settings : Settings) {storagePrefix : PyStr}
    (anchored : Anchored storagePrefix)
    (below : ∀ rest, deleted (extractedRoot settings storagePrefix ++ slash :: rest)) :
    (deleteExtractedPrefix settings storagePrefix).All (Changes deleted saved) := by
  rw [deleteExtractedPrefix]
  split
  · exact .bind (Prog.all_perform.mpr trivial) fun depth =>
      deleteExtractedListing_changes settings _ anchored below
  · exact deleteFilesystemTree_changes below

/-- A folder that the recursion through an artifact prefix gets to lies in the first one. -/
theorem folder_child {folder : PyStr} (kept : rstripSlash folder = folder) (rest name : PyStr) :
    ∃ more, rstripSlash (folder ++ slash :: rest) ++ slash :: name = folder ++ slash :: more := by
  have split : folder ++ slash :: rest = (folder ++ [slash]) ++ rest := by simp
  rw [split, rstripSlash, rstripBy_append]
  by_cases bare : rstripBy isSlash rest = []
  · rw [if_pos bare, rstripBy_concat_dropped isSlash isSlash_slash]
    exact ⟨name, by rw [show rstripBy isSlash folder = folder from kept]⟩
  · rw [if_neg bare]
    exact ⟨rstripBy isSlash rest ++ slash :: name, by simp⟩

theorem deleteArtifactListing_changes (settings : Settings) (depth : Nat) {folder : PyStr}
    (anchored : Anchored folder) (kept : rstripSlash folder = folder)
    (below : ∀ rest, deleted (keyBase settings ++ folder ++ slash :: rest)) (rest : PyStr) :
    (deleteArtifactListing settings depth (folder ++ slash :: rest)).All
      (Changes deleted saved) := by
  induction depth generalizing rest with
  | zero => trivial
  | succ depth ih =>
    refine deleteListing_changes (fun name => ?_) fun name => ?_
    · rw [buildStorageKey_anchored settings (anchored.append _), trimTail_join]
      split
      · rw [kept]
        exact below name
      · rw [List.append_assoc, List.append_assoc, List.cons_append, ← List.append_assoc]
        exact below _
    · obtain ⟨more, same⟩ := folder_child kept rest name
      rw [same]
      exact ih more

end Writes

theorem extractedRoot_inFolder (settings : Settings) (deployment : Deployment) :
    InFolder (folderKey settings deployment)
      (extractedRoot settings deployment.storagePrefix) := by
  rw [extractedRoot_deployment]
  exact InFolder.below _ _

theorem artifactKey_inFolder (settings : Settings) (deployment : Deployment) :
    InFolder (folderKey settings deployment) (artifactKey settings deployment) := by
  rw [artifactKey_eq]
  exact InFolder.below _ _

theorem memberKey_inFolder (settings : Settings) (deployment : Deployment) (rel : PyStr) :
    InFolder (folderKey settings deployment)
      (memberKey settings (extractedPrefix deployment.storagePrefix) rel) := by
  have root := extractedRoot_inFolder settings deployment
  rw [memberKey_root settings (storagePrefix_anchored deployment)]
  split
  · exact root
  · exact root.deeper _

/-- A key that the extraction may store a member under. -/
def MemberKey (settings : Settings) (deployment : Deployment) (key : PyStr) : Prop :=
  ∃ rel, SafeRelative rel ∧ key = memberKey settings (extractedPrefix deployment.storagePrefix) rel

/-- Whatever the archive and whatever fails, extraction deletes only in the folder of
the deployment and saves only under the keys of members. -/
theorem extractDeploymentArtifact_changes (settings : Settings) (library : Library)
    (deployment : Deployment) :
    (extractDeploymentArtifact settings library deployment).All
      (Changes (InFolder (folderKey settings deployment)) (MemberKey settings deployment)) := by
  have cleaned : (deleteExtractedPrefix settings deployment.storagePrefix).All
      (Changes (InFolder (folderKey settings deployment)) (MemberKey settings deployment)) :=
    deleteExtractedPrefix_changes settings (storagePrefix_anchored deployment) fun rest =>
      (extractedRoot_inFolder settings deployment).deeper _
  unfold extractDeploymentArtifact
  refine .bind (Prog.all_perform.mpr trivial) fun found => ?_
  refine .bind (.when fun _ => trivial) fun _ => cleaned.bind fun _ => ?_
  refine .bind (Prog.all_perform.mpr trivial) fun data => ?_
  unfold unpackArtifact
  split
  · trivial
  · split
    · trivial
    · trivial
    · refine .tryCatch (.bind (Prog.all_ofExcept _) fun members => ?_) fun error => ?_
      · rw [extractTarMembers_eq]
        refine .bind (.forEach fun file stored => ?_) fun _ => Prog.all_ofExcept _
        exact replaceFile_changes file.2 (memberKey_inFolder settings deployment file.1)
          ⟨file.1, (unpack_safe stored).1, rfl⟩
      · exact .bind (.when fun _ => cleaned) fun _ => Prog.all_raise error

theorem deploymentFolder_facts (app id : Uuid) :
    Anchored (deploymentFolder app id) ∧
      rstripSlash (deploymentFolder app id) = deploymentFolder app id :=
  ⟨((text_anchored _).append _).append _,
    rstripSlash_append_plain _ id.text_ne_nil (slash_not_mem_text id)⟩

theorem text_not_space {uuid : Uuid} {c : Nat} (member : c ∈ uuid.text) : isSpace c = false := by
  rcases Uuid.mem_text member with rfl | lower
  · rfl
  · exact (lowerHex_facts lower).2.2.1

theorem deploymentFolder_trimTail (app id : Uuid) :
    trimTail (deploymentFolder app id) = deploymentFolder app id := by
  have spaceless : ∀ c ∈ deploymentFolder app id, isSpace c = false := by
    intro c member
    rcases List.mem_append.mp member with front | last
    · rcases List.mem_append.mp front with first | middle
      · exact text_not_space first
      · have plain : ∀ c ∈ lit "/deployments/", isSpace c = false := by decide
        exact plain c middle
    · exact text_not_space last
  rw [trimTail, rstrip, rstripBy_of_not_mem isSpace spaceless]
  exact (deploymentFolder_facts app id).2

theorem deleteArtifactPrefix_changes {saved : PyStr → Prop} (settings : Settings)
    (deployment : Deployment) :
    (deleteArtifactPrefix settings deployment.storagePrefix).All
      (Changes (InFolder (folderKey settings deployment)) saved) := by
  obtain ⟨anchored, kept⟩ := deploymentFolder_facts deployment.app deployment.id
  rw [deleteArtifactPrefix]
  split
  · refine .bind (Prog.all_perform.mpr trivial) fun depth => ?_
    rw [deployment.storagePrefix_eq]
    exact deleteArtifactListing_changes settings _ anchored kept
      (fun rest => InFolder.below (folderKey settings deployment) rest) []
  · trivial

theorem saveArtifact_writes (settings : Settings) (deployment : Deployment)
    (fileobj : Stream Error) (maxBytes : Nat) :
    (saveArtifact (artifactKey settings deployment) fileobj maxBytes).All
      (Writes (InFolder (folderKey settings deployment))) :=
  saveArtifact_changes (artifactKey_inFolder settings deployment)
    (artifactKey_inFolder settings deployment)

theorem extractDeploymentArtifact_writes (settings : Settings) (library : Library)
    (deployment : Deployment) :
    (extractDeploymentArtifact settings library deployment).All
      (Writes (InFolder (folderKey settings deployment))) := by
  refine (extractDeploymentArtifact_changes settings library deployment).mono fun β op changes => ?_
  refine changes.mono (fun key inside => inside) ?_
  rintro key ⟨rel, _, rfl⟩
  exact memberKey_inFolder settings deployment rel

end HostingService
