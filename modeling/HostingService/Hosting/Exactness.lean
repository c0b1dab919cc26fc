import HostingService.Hosting.Contents

/-! After an extraction the objects below the root are those of the archive, and
after an archive over a limit there are none: exactly when this is so. -/

namespace HostingService

open Program Text Storage

/-- What is promised of the objects below the root when an extraction ends. -/
structure ExtractedExactly (settings : Settings) (deployment : Deployment) (files : List SiteFile)
    (result : Except Error Nat × Disk Error) : Prop where
  returned : ∀ count, result.1 = .ok count → ∀ key content,
    (InFolder (extractedRoot settings deployment.storagePrefix) key ∧
      result.2.objects.lookup key = some content) ↔
    lastStored settings (extractedPrefix deployment.storagePrefix) files key = some content
  raised : ∀ error, result.1 = .error error → error.isExtractError = true →
    ∀ key, InFolder (extractedRoot settings deployment.storagePrefix) key →
      result.2.objects.lookup key = none

/-- An archive within the limits has no stored name that is all white space, and an
earlier object that the clean-up does not get to is stored anew. Over a limit, the
clean-up gets to all earlier objects and to what the archive stored before. -/
structure CleansUp (settings : Settings) (deployment : Deployment) (unpacking : Unpacking)
    (before : Objects) : Prop where
  withinLimits : ∀ count, unpacking.outcome = .ok count →
    (∀ file ∈ unpacking.files, rstrip file.1 ≠ []) ∧
      ∀ key ∈ before, InFolder (extractedRoot settings deployment.storagePrefix) key →
        Cleaned settings (extractedRoot settings deployment.storagePrefix) key ∨
          ∃ file ∈ unpacking.files,
            memberKey settings (extractedPrefix deployment.storagePrefix) file.1 = key
  overLimit : ∀ error, unpacking.outcome = .error error → error.isExtractError = true →
    (∀ key ∈ before, InFolder (extractedRoot settings deployment.storagePrefix) key →
        Cleaned settings (extractedRoot settings deployment.storagePrefix) key) ∧
      ∀ file ∈ unpacking.files, rstrip file.1 ≠ [] →
        Cleaned settings (extractedRoot settings deployment.storagePrefix)
          (memberKey settings (extractedPrefix deployment.storagePrefix) file.1)

section
variable {settings : Settings} {deployment : Deployment}

theorem memberKey_inRoot {rel : PyStr} (safe : SafeRelative rel) :
    InFolder (extractedRoot settings deployment.storagePrefix)
        (memberKey settings (extractedPrefix deployment.storagePrefix) rel) ↔
      rstrip rel ≠ [] := by
  rw [memberKey_root settings (storagePrefix_anchored deployment), ne_eq, ← trimTail_eq_nil safe]
  constructor
  · intro inside bare
    rw [if_pos bare] at inside
    exact InFolder.irrefl _ inside
  · intro full
    rw [if_neg full]
    exact InFolder.below _ _

/-- Saved keys have no empty segment below the root, so every content that earlier
extractions left is plain. -/
theorem extraction_plain (library : Library) (disk : Disk Error)
    (plain : ∀ key ∈ disk.objects,
      PlainBelow (extractedRoot settings deployment.storagePrefix) key) :
    ∀ key ∈ ((extractDeploymentArtifact settings library deployment).run
      (StorageCall.handle (storageBackend settings)) disk).2.objects,
      PlainBelow (extractedRoot settings deployment.storagePrefix) key := by
  have saves := (extractDeploymentArtifact_changes settings library deployment).mono
    fun β op changes => changes.mono (fun _ _ => trivial) fun key member => by
      obtain ⟨rel, safe, same⟩ := member
      exact same ▸ plainBelow_memberKey deployment safe
  exact run_saves (storageBackend settings) saves disk plain

theorem lastStored_of_mem {files : List SiteFile} {root : PyStr} {file : SiteFile}
    (member : file ∈ files) :
    ∃ content, lastStored settings root files (memberKey settings root file.1) = some content := by
  refine Option.ne_none_iff_exists'.mp fun absent => ?_
  exact lastStored_eq_none.mp absent file member rfl

variable {unpacking : Unpacking} {before cleaned after : Objects}

/-- Within the limits: what extraction stored, over what was not cleaned. -/
theorem exactly_withinLimits {count : Nat} (ends : unpacking.outcome = .ok count)
    (safe : ∀ file ∈ unpacking.files, SafeRelative file.1)
    (erased : Without (Cleaned settings (extractedRoot settings deployment.storagePrefix))
      before cleaned) (filled : Filled settings deployment unpacking cleaned after) :
    ExtractedExactly settings deployment unpacking.files (unpacking.outcome, answering after) ↔
      CleansUp settings deployment unpacking before := by
  obtain ⟨filled, contents, last⟩ := filled
  have quiet : unpacking.overLimit = false := by rw [Unpacking.overLimit, ends]
  rw [quiet] at last
  obtain rfl : after = filled := last
  constructor
  · intro exactly
    refine ⟨fun _ _ => ?_, fun _ failed => by simp [ends] at failed⟩
    have returned := exactly.returned count ends
    constructor
    · intro file member
      obtain ⟨content, stored⟩ := lastStored_of_mem member
      exact (memberKey_inRoot (safe file member)).mp ((returned _ content).mpr stored).1
    · intro key present inside
      by_contra missed
      obtain ⟨notCleaned, notStored⟩ := not_or.mp missed
      obtain ⟨content, old⟩ := Option.isSome_iff_exists.mp (AList.lookup_isSome.mpr present)
      have absent := lastStored_eq_none.mpr fun file member same =>
        notStored ⟨file, member, same⟩
      have kept := contents key
      rw [absent, Option.none_or, erased.kept key notCleaned, old] at kept
      have stored := (returned key content).mp ⟨inside, kept⟩
      rw [absent] at stored
      contradiction
  · intro cleans
    obtain ⟨named, covered⟩ := cleans.withinLimits count ends
    refine ⟨fun _ _ key content => ?_, fun _ failed => by simp [ends] at failed⟩
    show _ ∧ after.lookup key = _ ↔ _
    rw [contents]
    constructor
    · rintro ⟨inside, found⟩
      rcases newest : lastStored settings (extractedPrefix deployment.storagePrefix)
        unpacking.files key with _ | latest
      · rw [newest, Option.none_or] at found
        have absent := lastStored_eq_none.mp newest
        have notCleaned : ¬ Cleaned settings (extractedRoot settings deployment.storagePrefix) key :=
          fun gone => by simp [erased.removed key gone] at found
        rw [erased.kept key notCleaned] at found
        rcases covered key (mem_of_lookup found) inside with gone | ⟨file, member, same⟩
        · exact absurd gone notCleaned
        · exact absurd same (absent file member)
      · rwa [newest, Option.some_or] at found
    · intro stored
      obtain ⟨file, member, rfl⟩ := lastStored_isSome stored
      exact ⟨(memberKey_inRoot (safe file member)).mpr (named file member), by rw [stored]; rfl⟩

/-- Over a limit: nothing is left when the second clean-up gets to everything. -/
theorem exactly_overLimit {error : Error} (ends : unpacking.outcome = .error error)
    (limit : error.isExtractError = true)
    (safe : ∀ file ∈ unpacking.files, SafeRelative file.1)
    (erased : Without (Cleaned settings (extractedRoot settings deployment.storagePrefix))
      before cleaned) (filled : Filled settings deployment unpacking cleaned after) :
    ExtractedExactly settings deployment unpacking.files (unpacking.outcome, answering after) ↔
      CleansUp settings deployment unpacking before := by
  obtain ⟨filled, contents, last⟩ := filled
  have beyond : unpacking.overLimit = true := by
    rw [Unpacking.overLimit, ends]
    exact limit
  rw [beyond, if_pos rfl] at last
  constructor
  · intro exactly
    refine ⟨fun _ done => by simp [ends] at done, fun _ _ _ => ?_⟩
    have emptied := exactly.raised error ends limit
    constructor
    · intro key present inside
      by_contra missed
      have left : after.lookup key = none := emptied key inside
      rw [last.kept key missed, contents, erased.kept key missed] at left
      exact AList.lookup_eq_none.mp (Option.or_eq_none_iff.mp left).2 present
    · intro file member full
      by_contra missed
      have left : after.lookup _ = none := emptied _ ((memberKey_inRoot (safe file member)).mpr full)
      rw [last.kept _ missed, contents] at left
      exact lastStored_eq_none.mp (Option.or_eq_none_iff.mp left).1 file member rfl
  · intro cleans
    obtain ⟨old, stored⟩ := cleans.overLimit error ends limit
    refine ⟨fun _ done => by simp [ends] at done, fun _ _ _ key inside => ?_⟩
    show after.lookup key = none
    by_cases gone : Cleaned settings (extractedRoot settings deployment.storagePrefix) key
    · exact last.removed key gone
    · rw [last.kept key gone, contents, erased.kept key gone]
      refine Option.or_eq_none_iff.mpr ⟨lastStored_eq_none.mpr ?_, AList.lookup_eq_none.mpr ?_⟩
      · rintro file member rfl
        exact gone (stored file member ((memberKey_inRoot (safe file member)).mp inside))
      · intro present
        exact gone (old key present inside)

/-- An error of the storage is no error of the limits, so nothing is promised. -/
theorem extractedExactly_of_raised {body : StorageProg Nat} {files : List SiteFile}
    (raises : TurnedAway settings body before) :
    ExtractedExactly settings deployment files
      (body.run (StorageCall.handle (storageBackend settings)) (answering before)) := by
  obtain ⟨refusal, after, raised⟩ := raises
  rw [raised]
  constructor
  · intro count done
    cases done
  · intro error failed limit
    cases failed
    rw [refusal.not_extractError] at limit
    contradiction

theorem extractedExactly_iff {library : Library} {data : Bytes}
    (stored : before.lookup (artifactKey settings deployment) = some data)
    (plain : ∀ key ∈ before, PlainBelow (extractedRoot settings deployment.storagePrefix) key) :
    ExtractedExactly settings deployment (unpackData settings library data).files
        ((extractDeploymentArtifact settings library deployment).run
          (StorageCall.handle (storageBackend settings)) (answering before)) ↔
      (Room settings deployment before (unpackData settings library data).files →
        CleansUp settings deployment (unpackData settings library data) before) := by
  by_cases room : Room settings deployment before (unpackData settings library data).files
  swap
  · exact iff_of_true (extractedExactly_of_raised (extract_refused library stored room))
      fun has => absurd has room
  obtain ⟨after, ran, contents⟩ := run_extractDeploymentArtifact library stored room
  obtain ⟨cleaned, erased, filled⟩ := contents plain
  rw [ran, forall_prop_of_true room]
  have safe := fun (file : SiteFile) (member : file ∈ (unpackData settings library data).files) =>
    (unpackData_safe member).1
  rcases ends : (unpackData settings library data).outcome with error | count
  · by_cases limit : error.isExtractError = true
    · rw [← ends]
      exact exactly_overLimit ends limit safe erased filled
    · have other : ∀ raised, Except.error error = Except.error raised (α := Nat) →
          raised.isExtractError = true → False := by
        rintro _ ⟨⟩ beyond
        exact limit beyond
      constructor
      · intro _
        refine ⟨fun _ done => by simp [ends] at done, fun raised failed beyond => ?_⟩
        exact (other raised (ends.symm.trans failed) beyond).elim
      · intro _
        exact ⟨fun _ done => by simp at done, fun raised failed beyond =>
          (other raised failed beyond).elim⟩
  · rw [← ends]
    exact exactly_withinLimits ends safe erased filled

end

/-- For an archive that can be opened and listed, the objects below the root are exactly
those of the archive, or none over a limit, if and only if nothing escapes the clean-up.
An archive that the storage has no room for raises another error. -/
theorem extraction_exact_iff (settings : Settings) (library : Library) (deployment : Deployment)
    (before : Objects) (data : Bytes) (tar : TarFile) (members : List TarMember)
    (stored : before.lookup (artifactKey settings deployment) = some data) (full : data ≠ [])
    (opened : library.tarOpen data = .ok tar) (listed : tar.getmembers = .ok members)
    (plain : ∀ key ∈ before,
      PlainBelow (extractedRoot settings deployment.storagePrefix) key) :
    ExtractedExactly settings deployment (unpack (extractLimits settings) members ⟨0, 0⟩).files
        ((extractDeploymentArtifact settings library deployment).run
          (StorageCall.handle (storageBackend settings)) (answering before)) ↔
      (Room settings deployment before (unpack (extractLimits settings) members ⟨0, 0⟩).files →
        CleansUp settings deployment (unpack (extractLimits settings) members ⟨0, 0⟩) before) := by
  have unpacks : unpackData settings library data =
      unpack (extractLimits settings) members ⟨0, 0⟩ := by
    simp only [unpackData, if_neg full, opened, listed]
  rw [← unpacks]
  exact extractedExactly_iff stored plain

/-! A site of one page, and a store on S3 with a page of an earlier build. -/

def indexArchive : Bytes :=
  [0x1f, 0x8b, 0x08, 0x00, 0x00, 0x00, 0x00, 0x00, 0x02, 0xff, 0xed, 0xcd, 0x4d, 0x0a, 0x82, 0x60,
    0x18, 0x04, 0xe0, 0xf7, 0x28, 0x9e, 0x40, 0xc4, 0x44, 0xcf, 0x23, 0x18, 0x14, 0xfe, 0x41,
    0x29, 0x78, 0x7c, 0xbf, 0x5a, 0x45, 0x7b, 0x83, 0xf0, 0x79, 0x36, 0x33, 0xcc, 0x66, 0xee,
    0x53, 0x77, 0xdd, 0xf2, 0xdb, 0x32, 0x0e, 0x71, 0x98, 0x22, 0xa9, 0xab, 0xea, 0x9d, 0xc9,
    0x77, 0x26, 0xe5, 0x47, 0x7f, 0xed, 0x4d, 0x73, 0x29, 0x23, 0x2b, 0xe2, 0x07, 0xd6, 0xe7,
    0xd2, 0x3e, 0xd2, 0x65, 0x9c, 0xd3, 0xdc, 0x07, 0x00, 0x00, 0x00, 0x00, 0x00, 0x00, 0x00,
    0x00, 0x00, 0x7f, 0x68, 0x07, 0x0d, 0x2f, 0x4b, 0xdb, 0x00, 0x28, 0x00, 0x00]

def page : Bytes := [0x6f, 0x6b]

def indexMembers : List TarMember :=
  [⟨lit "index.html", true, 2, .ok (some ⟨[page], none⟩)⟩]

def s3Settings : Settings := { defaultSettings with hostingBackend := .s3 }

def firstDraft : Deployment :=
  .draft ⟨1⟩ ⟨2⟩ (lit "1.0.0") (lit "0.5.0") false 7

/-- The artifact of a new build, and one file of an earlier build. -/
def rebuilt (settings : Settings) (old : PyStr) : Objects :=
  (AList.singleton (artifactKey settings firstDraft) indexArchive).insert
    (extractedRoot settings firstDraft.storagePrefix ++ slash :: old) page

theorem rebuilt_plain (settings : Settings) {old : PyStr} (full : [] ∉ segments old) :
    ∀ key ∈ rebuilt settings old,
      PlainBelow (extractedRoot settings firstDraft.storagePrefix) key := by
  rintro key stored rel rfl
  rcases (AList.mem_insert _).mp stored with same | artifact
  · obtain rfl := (List.cons.inj (List.append_cancel_left same)).2
    exact full
  · have same := AList.mem_keys.mp artifact
    rw [AList.keys_singleton, List.mem_singleton] at same
    exact absurd (same ▸ InFolder.below _ rel) (artifactKey_not_below firstDraft)

/-- On the file system the earlier build is gone. -/
theorem extraction_exact_rebuilt :
    ExtractedExactly defaultSettings firstDraft
      (unpack (extractLimits defaultSettings) indexMembers ⟨0, 0⟩).files
      ((extractDeploymentArtifact defaultSettings (.knowing indexArchive indexMembers)
        firstDraft).run (StorageCall.handle (storageBackend defaultSettings))
        (answering (rebuilt defaultSettings (lit "assets/app.js")))) := by
  have stored : (rebuilt defaultSettings (lit "assets/app.js")).lookup
      (artifactKey defaultSettings firstDraft) = some indexArchive := by decide +kernel
  have opened : (Library.knowing indexArchive indexMembers).tarOpen indexArchive =
      .ok ⟨.ok indexMembers⟩ := by simp [Library.knowing]
  have plain := rebuilt_plain defaultSettings (show [] ∉ segments (lit "assets/app.js") by decide)
  have exactly := extraction_exact_iff defaultSettings (.knowing indexArchive indexMembers)
    firstDraft _ _ _ _ stored (List.cons_ne_nil _ _) opened rfl plain
  refine exactly.mpr fun _ => ?_
  have unpacks : unpack (extractLimits defaultSettings) indexMembers ⟨0, 0⟩ =
      ⟨[(lit "index.html", page)], .ok 1⟩ := by rfl
  rw [unpacks]
  refine ⟨fun _ _ => ⟨by decide, fun key _ inside => .inl inside⟩, fun _ failed => ?_⟩
  simp at failed

/-- On S3 a file in a folder of the earlier build is still there. -/
theorem extraction_keeps_nested :
    ¬ ExtractedExactly s3Settings firstDraft
      (unpack (extractLimits s3Settings) indexMembers ⟨0, 0⟩).files
      ((extractDeploymentArtifact s3Settings (.knowing indexArchive indexMembers) firstDraft).run
        (StorageCall.handle (storageBackend s3Settings))
        (answering (rebuilt s3Settings (lit "assets/app.js")))) := by
  intro exactly
  have ended : ((extractDeploymentArtifact s3Settings (.knowing indexArchive indexMembers)
      firstDraft).run (StorageCall.handle (storageBackend s3Settings))
      (answering (rebuilt s3Settings (lit "assets/app.js")))).1 = .ok 1 := by
    decide +kernel
  have kept := exactly.returned 1 ended (extractedRoot s3Settings firstDraft.storagePrefix ++
    slash :: lit "assets/app.js") page
  have stored := kept.mp ⟨InFolder.below _ _, by decide +kernel⟩
  exact absurd stored (by decide +kernel)

end HostingService
