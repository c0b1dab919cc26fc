import HostingService.Hosting.Cleanup
import HostingService.Storage.Placing

/-! What extraction leaves below the root of a deployment. -/

namespace HostingService

open Program Text Storage

/-- The content of the last file with this key. -/
def lastStored (settings : Settings) (root : PyStr) (files : List SiteFile) (key : PyStr) :
    Option Bytes :=
  (files.filter fun file => memberKey settings root file.1 = key).getLast?.map (·.2)

theorem lastStored_cons (settings : Settings) (root : PyStr) (file : SiteFile)
    (files : List SiteFile) (key : PyStr) :
    lastStored settings root (file :: files) key =
      (lastStored settings root files key).or
        (if memberKey settings root file.1 = key then some file.2 else none) := by
  by_cases same : memberKey settings root file.1 = key
  · rw [lastStored, lastStored, List.filter_cons_of_pos (by simpa using same), if_pos same,
      List.getLast?_cons]
    cases (files.filter fun file => memberKey settings root file.1 = key).getLast? <;> rfl
  · rw [lastStored, lastStored, List.filter_cons_of_neg (by simpa using same), if_neg same,
      Option.or_none]

theorem lastStored_eq_none {settings : Settings} {root : PyStr} {files : List SiteFile}
    {key : PyStr} :
    lastStored settings root files key = none ↔
      ∀ file ∈ files, memberKey settings root file.1 ≠ key := by
  simp [lastStored]

theorem lastStored_isSome {settings : Settings} {root : PyStr} {files : List SiteFile}
    {key : PyStr} {content : Bytes} (stored : lastStored settings root files key = some content) :
    ∃ file ∈ files, memberKey settings root file.1 = key := by
  by_contra absent
  have none := lastStored_eq_none.mpr fun file member same => absent ⟨file, member, same⟩
  rw [stored] at none
  contradiction

section
variable (settings : Settings)

theorem refusal_cases {objects : Objects} {key : PyStr} {error : Error}
    (refused : (storageBackend settings).refusal objects key = some error) :
    ∃ refusal : NameRefusal, error = refusal.error := by
  rcases Option.or_eq_some_iff.mp refused with named | ⟨_, misplaced⟩
  · obtain ⟨refusal, _, same⟩ := Option.map_eq_some_iff.mp named
    exact ⟨refusal, same.symm⟩
  · obtain ⟨_, same⟩ := Option.ite_none_right_eq_some.mp misplaced
    exact ⟨.osError, (Option.some.inj same).symm⟩

/-- Storing is refused with or without the file that was there before. -/
theorem takes_erase (before : Objects) (key : PyStr) :
    (storageBackend settings).Takes (· ∈ before.erase key) key ↔
      (storageBackend settings).Takes (· ∈ before) key :=
  Backend.Takes.congr fun stored apart => by simp [AList.mem_erase, apart]

theorem lookup_written (key : PyStr) (content : Bytes) (objects : Objects) (other : PyStr) :
    (objects.insert key content).lookup other =
      if key = other then some content else objects.lookup other := by
  split
  · rename_i same
    subst same
    exact AList.lookup_insert objects
  · rename_i different
    exact AList.lookup_insert_ne (Ne.symm different)

/-- A key that the store takes is no folder. -/
theorem not_blocked_of_takes {before : Objects} {key : PyStr}
    (takes : (storageBackend settings).Takes (· ∈ before) key) :
    ((storageBackend settings).folders && blocked before key) = false := by
  rw [Bool.and_eq_false_imp, ← Bool.not_eq_true, blocked_iff]
  rintro folders ⟨stored, present, clash⟩
  exact takes.apart folders stored present clash

theorem mem_written {key : PyStr} {content : Bytes} {before after : Objects}
    (written : ∀ other, after.lookup other =
      if key = other then some content else before.lookup other) (other : PyStr) :
    other ∈ after ↔ key = other ∨ other ∈ before := by
  rw [← AList.lookup_isSome, written, ← AList.lookup_isSome]
  by_cases same : key = other
  · simp [same]
  · simp [same]

theorem run_replaceFile {key : PyStr} (content : Bytes) {before : Objects}
    (takes : (storageBackend settings).Takes (· ∈ before) key) :
    ∃ after, (replaceFile key content).run (StorageCall.handle (storageBackend settings))
        (answering before) = (.ok (), answering after) ∧
      ∀ other, after.lookup other =
        if key = other then some content else before.lookup other := by
  have saved {objects : Objects} (room : (storageBackend settings).Takes (· ∈ objects) key) :
      (Prog.perform (.save key content) : StorageProg Unit).run
        (StorageCall.handle (storageBackend settings)) (answering objects) =
        (.ok (), answering (objects.insert key content)) := by
    rw [run_perform_answering, exec_save_free _ content (refusal_eq_none.mpr room)]
  have tested := run_perform_answering (storageBackend settings) (.hasKey key) before
  rcases found : (StorageCall.exec (storageBackend settings) (.hasKey key) before).1 with _ | stored
  · simp [StorageCall.exec] at found
  rw [found] at tested
  rw [replaceFile, Prog.run_bind_ok _ tested]
  cases stored with
  | false => exact ⟨before.insert key content, saved takes, lookup_written key content before⟩
  | true =>
    have deleted : (Prog.perform (.delete key) : StorageProg Unit).run
        (StorageCall.handle (storageBackend settings)) (answering before) =
        (.ok (), answering (before.erase key)) := by
      rw [run_perform_answering, exec_delete_free _ (not_blocked_of_takes settings takes)]
    refine ⟨(before.erase key).insert key content, ?_, fun other => ?_⟩
    · exact (Prog.run_bind_ok _ deleted _).trans (saved ((takes_erase settings before key).mpr takes))
    · rw [lookup_written]
      split
      · rfl
      · rename_i different
        exact AList.lookup_erase_ne (Ne.symm different)

/-- The program ends with an error of the storage, which has no room for a file. -/
def TurnedAway {α : Type} (settings : Settings) (body : StorageProg α) (before : Objects) : Prop :=
  ∃ (refusal : NameRefusal) (after : Objects), body.run
    (StorageCall.handle (storageBackend settings)) (answering before) =
      (.error refusal.error, answering after)

theorem replaceFile_refused {key : PyStr} (content : Bytes) {before : Objects}
    (full : ¬ (storageBackend settings).Takes (· ∈ before) key) :
    TurnedAway settings (replaceFile key content) before := by
  have refused {objects : Objects} (room : ¬ (storageBackend settings).Takes (· ∈ objects) key) :
      TurnedAway settings (.perform (.save key content)) objects := by
    obtain ⟨error, raised⟩ := Option.ne_none_iff_exists'.mp (mt refusal_eq_none.mp room)
    obtain ⟨refusal, rfl⟩ := refusal_cases settings raised
    exact ⟨refusal, objects, by rw [run_perform_answering, exec_save_refused _ content raised]⟩
  have tested := run_perform_answering (storageBackend settings) (.hasKey key) before
  rcases found : (StorageCall.exec (storageBackend settings) (.hasKey key) before).1 with _ | stored
  · simp [StorageCall.exec] at found
  rw [found] at tested
  rw [TurnedAway, replaceFile, Prog.run_bind_ok _ tested]
  cases stored with
  | false => exact refused full
  | true =>
    have deleting := run_perform_answering (storageBackend settings) (.delete key) before
    rcases exec_delete_cases (storageBackend settings) before key with kept | gone
    · rw [kept] at deleting
      exact ⟨.osError, before, Prog.run_bind_error _ deleting _⟩
    · rw [gone] at deleting
      obtain ⟨refusal, after, raised⟩ := refused (mt (takes_erase settings before key).mp full)
      exact ⟨refusal, after, (Prog.run_bind_ok _ deleting _).trans raised⟩

/-- The keys of files, in order. -/
def fileKeys (settings : Settings) (root : PyStr) (files : List SiteFile) : List PyStr :=
  files.map fun file => memberKey settings root file.1

/-- Storing the files of a site leaves the last one of each key. -/
theorem run_storeFiles (root : PyStr) {files : List SiteFile} {before : Objects}
    (fits : (storageBackend settings).Fits (· ∈ before) (fileKeys settings root files)) :
    ∃ after, (Prog.forEach (fun file : SiteFile =>
        replaceFile (memberKey settings root file.1) file.2) files).run
          (StorageCall.handle (storageBackend settings)) (answering before) =
        (.ok (), answering after) ∧
      ∀ key, after.lookup key =
        (lastStored settings root files key).or (before.lookup key) := by
  induction files generalizing before with
  | nil => exact ⟨before, rfl, fun key => rfl⟩
  | cons file files ih =>
    obtain ⟨takes, later⟩ := Backend.fits_cons.mp fits
    obtain ⟨middle, ranFirst, first⟩ := run_replaceFile settings file.2 takes
    obtain ⟨after, ranRest, rest⟩ := ih ((Backend.Fits.congr (mem_written first)).mpr later)
    refine ⟨after, ?_, fun key => ?_⟩
    · rw [Prog.forEach, Prog.run_bind_ok _ ranFirst, ranRest]
    · rw [rest, first, lastStored_cons]
      cases lastStored settings root files key with
      | some content => rfl
      | none => split <;> rfl

/-- A site for which there is no room is not stored. -/
theorem storeFiles_refused (root : PyStr) {files : List SiteFile} {before : Objects}
    (full : ¬ (storageBackend settings).Fits (· ∈ before) (fileKeys settings root files)) :
    TurnedAway settings (Prog.forEach (fun file : SiteFile =>
      replaceFile (memberKey settings root file.1) file.2) files) before := by
  induction files generalizing before with
  | nil => exact absurd (Backend.fits_nil _) full
  | cons file files ih =>
    by_cases takes : (storageBackend settings).Takes (· ∈ before) (memberKey settings root file.1)
    · obtain ⟨middle, ranFirst, first⟩ := run_replaceFile settings file.2 takes
      obtain ⟨refusal, after, raised⟩ := ih fun later =>
        full (Backend.fits_cons.mpr ⟨takes, (Backend.Fits.congr (mem_written first)).mp later⟩)
      exact ⟨refusal, after, (Prog.run_bind_ok _ ranFirst _).trans raised⟩
    · obtain ⟨refusal, after, raised⟩ := replaceFile_refused settings file.2 takes
      exact ⟨refusal, after, Prog.run_bind_error _ raised _⟩

variable {settings}

theorem plainBelow_memberKey (deployment : Deployment) {rel : PyStr} (safe : SafeRelative rel) :
    PlainBelow (extractedRoot settings deployment.storagePrefix)
      (memberKey settings (extractedPrefix deployment.storagePrefix) rel) := by
  intro below same
  rw [memberKey_root settings (storagePrefix_anchored deployment)] at same
  by_cases bare : trimTail rel = []
  · rw [if_pos bare] at same
    have length := congrArg List.length same
    simp at length
  · rw [if_neg bare] at same
    obtain rfl := (List.cons.inj (List.append_cancel_left same)).2
    exact trimTail_plain safe bare

theorem artifactKey_not_below (deployment : Deployment) :
    ¬ InFolder (extractedRoot settings deployment.storagePrefix)
      (artifactKey settings deployment) := by
  rw [extractedRoot_deployment, artifactKey_eq, InFolder, List.append_assoc,
    List.prefix_append_right_inj]
  decide

/-- The archive went over a limit. -/
def Unpacking.overLimit (unpacking : Unpacking) : Bool :=
  match unpacking.outcome with
  | .ok _ => false
  | .error error => error.isExtractError

/-- From a cleaned store to the end of the extraction: the files of the archive
are stored, and removed again by a second clean-up if it went over a limit. -/
def Filled (settings : Settings) (deployment : Deployment) (unpacking : Unpacking)
    (cleaned after : Objects) : Prop :=
  ∃ filled : Objects,
    (∀ key, filled.lookup key =
      (lastStored settings (extractedPrefix deployment.storagePrefix) unpacking.files key).or
        (cleaned.lookup key)) ∧
    if unpacking.overLimit then
      Without (Cleaned settings (extractedRoot settings deployment.storagePrefix)) filled after
    else after = filled

theorem filled_nothing (deployment : Deployment) {outcome : Except Error Nat} (cleaned : Objects)
    (quiet : (Unpacking.mk [] outcome).overLimit = false) :
    Filled settings deployment ⟨[], outcome⟩ cleaned cleaned := by
  refine ⟨cleaned, fun key => rfl, ?_⟩
  rw [quiet]
  rfl

theorem mem_filled {deployment : Deployment} {files : List SiteFile} {cleaned filled : Objects}
    (stored : ∀ key, filled.lookup key =
      (lastStored settings (extractedPrefix deployment.storagePrefix) files key).or
        (cleaned.lookup key)) {key : PyStr} (present : key ∈ filled) :
    key ∈ cleaned ∨
      ∃ file ∈ files, memberKey settings (extractedPrefix deployment.storagePrefix) file.1 = key := by
  obtain ⟨content, found⟩ := Option.isSome_iff_exists.mp (AList.lookup_isSome.mpr present)
  rw [stored] at found
  rcases last : lastStored settings (extractedPrefix deployment.storagePrefix) files key with
    _ | newest
  · rw [last, Option.none_or] at found
    exact .inl (mem_of_lookup found)
  · exact .inr (lastStored_isSome last)

section
variable (settings : Settings) (library : Library) (deployment : Deployment) {data : Bytes}
  {cleaned : Objects}

theorem run_unpackArtifact
    (fits : (storageBackend settings).Fits (· ∈ cleaned) (fileKeys settings
      (extractedPrefix deployment.storagePrefix) (unpackData settings library data).files)) :
    ∃ after, (unpackArtifact settings library deployment data).run
          (StorageCall.handle (storageBackend settings)) (answering cleaned) =
        ((unpackData settings library data).outcome, answering after) ∧
      ((∀ key ∈ cleaned, PlainBelow (extractedRoot settings deployment.storagePrefix) key) →
        Filled settings deployment (unpackData settings library data) cleaned after) := by
  unfold unpackArtifact
  unfold unpackData at fits ⊢
  by_cases empty : data = []
  · simp only [if_pos empty]
    exact ⟨cleaned, rfl, fun _ => filled_nothing deployment cleaned rfl⟩
  · simp only [if_neg empty] at fits ⊢
    rcases opened : library.tarOpen data with error | tar
    · cases error <;> exact ⟨cleaned, rfl, fun _ => filled_nothing deployment cleaned rfl⟩
    simp only [opened] at fits ⊢
    rcases listed : tar.getmembers with error | members
    · exact ⟨cleaned, rfl, fun _ => filled_nothing deployment cleaned rfl⟩
    simp only [listed] at fits ⊢
    obtain ⟨filled, stores, contents⟩ := run_storeFiles settings
      (extractedPrefix deployment.storagePrefix) fits
    have looped : (extractTarMembers settings (extractLimits settings)
        (extractedPrefix deployment.storagePrefix) members ⟨0, 0⟩).run
          (StorageCall.handle (storageBackend settings)) (answering cleaned) =
        ((unpack (extractLimits settings) members ⟨0, 0⟩).outcome, answering filled) := by
      rw [extractTarMembers_eq, Prog.run_bind_ok _ stores, Prog.run_ofExcept]
    rcases ends : (unpack (extractLimits settings) members ⟨0, 0⟩).outcome with error | count
    · rw [ends] at looped
      by_cases beyond : error.isExtractError = true
      · obtain ⟨after, ran, _, erased⟩ := run_deleteExtractedPrefix settings
          (storagePrefix_anchored deployment) filled
        refine ⟨after, ?_, fun plain => ⟨filled, contents, ?_⟩⟩
        · refine (Prog.run_tryCatch_error _ looped _).trans ?_
          rw [beyond]
          exact Prog.run_bind_ok _ ran _
        · have plainFilled : ∀ key ∈ filled,
              PlainBelow (extractedRoot settings deployment.storagePrefix) key := by
            intro key present
            rcases mem_filled contents present with old | ⟨file, stored, rfl⟩
            · exact plain key old
            · exact plainBelow_memberKey deployment (unpack_safe stored).1
          simpa [Unpacking.overLimit, ends, beyond] using erased plainFilled
      · refine ⟨filled, ?_, fun _ => ⟨filled, contents, ?_⟩⟩
        · refine (Prog.run_tryCatch_error _ looped _).trans ?_
          rw [Bool.not_eq_true] at beyond
          rw [beyond]
          rfl
        · simp [Unpacking.overLimit, ends, beyond]
    · rw [ends] at looped
      refine ⟨filled, Prog.run_tryCatch_ok _ looped _, fun _ => ⟨filled, contents, ?_⟩⟩
      simp [Unpacking.overLimit, ends]

/-- Without room for its files the archive is not unpacked, and the error of the storage
starts no second clean-up. -/
theorem unpackArtifact_refused
    (full : ¬ (storageBackend settings).Fits (· ∈ cleaned) (fileKeys settings
      (extractedPrefix deployment.storagePrefix) (unpackData settings library data).files)) :
    TurnedAway settings (unpackArtifact settings library deployment data) cleaned := by
  unfold unpackArtifact
  unfold unpackData at full
  by_cases empty : data = []
  · exact absurd (Backend.fits_nil _) (by simpa only [if_pos empty, fileKeys, List.map_nil] using full)
  · simp only [if_neg empty] at full ⊢
    rcases opened : library.tarOpen data with error | tar
    · cases error <;> exact absurd (Backend.fits_nil _) (by simpa only [opened, fileKeys, List.map_nil] using full)
    simp only [opened] at full ⊢
    rcases listed : tar.getmembers with error | members
    · exact absurd (Backend.fits_nil _) (by simpa only [listed, fileKeys, List.map_nil] using full)
    simp only [listed] at full ⊢
    obtain ⟨refusal, after, raised⟩ := storeFiles_refused settings
      (extractedPrefix deployment.storagePrefix) full
    have looped : (extractTarMembers settings (extractLimits settings)
        (extractedPrefix deployment.storagePrefix) members ⟨0, 0⟩).run
          (StorageCall.handle (storageBackend settings)) (answering cleaned) =
        (.error refusal.error, answering after) := by
      rw [extractTarMembers_eq, Prog.run_bind_error _ raised]
    refine ⟨refusal, after, (Prog.run_tryCatch_error _ looped _).trans ?_⟩
    rw [refusal.not_extractError]
    rfl

end

/-- There is room for the files of an archive: the storage takes their names, and on a file
system none is a folder above another one, or clashes with what is stored elsewhere. -/
def Room (settings : Settings) (deployment : Deployment) (before : Objects)
    (files : List SiteFile) : Prop :=
  (storageBackend settings).Fits
    (fun key => key ∈ before ∧ ¬ InFolder (extractedRoot settings deployment.storagePrefix) key)
    (fileKeys settings (extractedPrefix deployment.storagePrefix) files)

theorem room_iff {deployment : Deployment} {before cleaned : Objects} {files : List SiteFile}
    (erased : isS3Backend settings = false →
      Without (InFolder (extractedRoot settings deployment.storagePrefix)) before cleaned) :
    Room settings deployment before files ↔
      (storageBackend settings).Fits (· ∈ cleaned)
        (fileKeys settings (extractedPrefix deployment.storagePrefix) files) := by
  have alike (disk : isS3Backend settings = false) (key : PyStr) : key ∈ cleaned ↔
      key ∈ before ∧ ¬ InFolder (extractedRoot settings deployment.storagePrefix) key :=
    (erased disk).mem_iff
  have disk (folders : (storageBackend settings).folders = true) : isS3Backend settings = false := by
    simpa [storageBackend] using folders
  constructor
  · intro room
    refine ⟨room.named, fun folders key member other present => ?_⟩
    exact room.apart folders key member other (present.imp_left (alike (disk folders) other).mp)
  · intro fits
    refine ⟨fits.named, fun folders key member other present => ?_⟩
    exact fits.apart folders key member other (present.imp_left (alike (disk folders) other).mpr)

/-- The clean-up does not touch the artifact. -/
theorem cleaned_artifact {deployment : Deployment} {before after : Objects}
    (ran : (deleteExtractedPrefix settings deployment.storagePrefix).run
      (StorageCall.handle (storageBackend settings)) (answering before) =
      (.ok (), answering after)) :
    after.lookup (artifactKey settings deployment) =
      before.lookup (artifactKey settings deployment) := by
  have writes : (deleteExtractedPrefix settings deployment.storagePrefix).All
      (Writes (InFolder (extractedRoot settings deployment.storagePrefix))) :=
    deleteExtractedPrefix_changes settings (storagePrefix_anchored deployment) fun rest =>
      InFolder.below _ rest
  have same := run_sameOutside (storageBackend settings) writes (answering before)
  rw [ran] at same
  exact same _ (artifactKey_not_below deployment)

/-- Up to the unpacking, extraction from a store that holds the artifact comes to a store
`cleaned` and to the bytes. -/
theorem run_extract_unpack (library : Library) {deployment : Deployment} {data : Bytes}
    {before : Objects} (stored : before.lookup (artifactKey settings deployment) = some data) :
    ∃ cleaned, (extractDeploymentArtifact settings library deployment).run
        (StorageCall.handle (storageBackend settings)) (answering before) =
      (unpackArtifact settings library deployment data).run
        (StorageCall.handle (storageBackend settings)) (answering cleaned) ∧
      (isS3Backend settings = false →
        Without (InFolder (extractedRoot settings deployment.storagePrefix)) before cleaned) ∧
      ((∀ key ∈ before, PlainBelow (extractedRoot settings deployment.storagePrefix) key) →
        Without (Cleaned settings (extractedRoot settings deployment.storagePrefix))
          before cleaned) := by
  obtain ⟨cleaned, ranClean, onDisk, erased⟩ := run_deleteExtractedPrefix settings
    (storagePrefix_anchored deployment) before
  refine ⟨cleaned, ?_, onDisk, erased⟩
  have tested := run_perform_answering (storageBackend settings)
    (.hasKey (artifactKey settings deployment)) before
  have present : artifactKey settings deployment ∈ before := mem_of_lookup stored
  have kept := (cleaned_artifact ranClean).trans stored
  have opened := run_perform_answering (storageBackend settings)
    (.read (artifactKey settings deployment)) cleaned
  simp only [StorageCall.exec, present, decide_true, Bool.true_or] at tested
  simp only [StorageCall.exec, kept] at opened
  refine (Prog.run_bind_ok _ tested _).trans ((Prog.run_bind_ok _ ranClean _).trans ?_)
  exact Prog.run_bind_ok _ opened _

/-- From an answering store that holds the artifact and has room for the archive, extraction
ends as the archive says: `cleaned` is the store after the first clean-up, `after` the one at
the end. -/
theorem run_extractDeploymentArtifact (library : Library) {deployment : Deployment} {data : Bytes}
    {before : Objects} (stored : before.lookup (artifactKey settings deployment) = some data)
    (room : Room settings deployment before (unpackData settings library data).files) :
    ∃ after, (extractDeploymentArtifact settings library deployment).run
          (StorageCall.handle (storageBackend settings)) (answering before) =
        ((unpackData settings library data).outcome, answering after) ∧
      ((∀ key ∈ before, PlainBelow (extractedRoot settings deployment.storagePrefix) key) →
        ∃ cleaned,
          Without (Cleaned settings (extractedRoot settings deployment.storagePrefix))
            before cleaned ∧
          Filled settings deployment (unpackData settings library data) cleaned after) := by
  obtain ⟨cleaned, ran, onDisk, erased⟩ := run_extract_unpack library stored
  obtain ⟨after, unpacked, fills⟩ :=
    run_unpackArtifact settings library deployment ((room_iff onDisk).mp room)
  refine ⟨after, ran.trans unpacked, fun plain => ⟨cleaned, erased plain, fills ?_⟩⟩
  exact fun key present => plain key ((erased plain).mem present)

theorem extract_refused (library : Library) {deployment : Deployment} {data : Bytes}
    {before : Objects} (stored : before.lookup (artifactKey settings deployment) = some data)
    (full : ¬ Room settings deployment before (unpackData settings library data).files) :
    TurnedAway settings (extractDeploymentArtifact settings library deployment) before := by
  obtain ⟨cleaned, ran, onDisk, _⟩ := run_extract_unpack library stored
  obtain ⟨refusal, after, raised⟩ := unpackArtifact_refused settings library deployment
    (mt (room_iff onDisk).mpr full)
  exact ⟨refusal, after, ran.trans raised⟩

end

end HostingService
