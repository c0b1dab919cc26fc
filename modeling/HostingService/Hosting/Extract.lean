import HostingService.Hosting.Paths
import HostingService.Hosting.Storage

/-! Extract deployment tar.gz artifacts for static serving. -/

namespace HostingService

open Program Text Storage

def safeMemberName (name : PyStr) : Option PyStr := normalizeRelativePath name

structure ExtractLimits where
  maxFiles : Int
  maxTotalBytes : Nat
  maxFileBytes : Nat

def extractLimits (settings : Settings) : ExtractLimits where
  maxFiles := settings.hostingMaxExtractFiles
  maxTotalBytes := settings.hostingMaxExtractBytes
  maxFileBytes := settings.hostingMaxExtractFileBytes

def fileTooLarge (limits : ExtractLimits) : Error :=
  .extractError
    (lit "Extracted file exceeds maximum size (" ++ digits limits.maxFileBytes ++ lit " bytes).")

def readMemberLimited (limits : ExtractLimits) (extracted : Stream LibraryError) :
    Except Error Bytes :=
  readUpTo limits.maxFileBytes (fileTooLarge limits) (extracted.failure.map .library)
    extracted.chunks []

/-- `count` and `total_bytes` of the loop over the members. -/
structure Progress where
  count : Nat
  totalBytes : Nat

/-- A file to be stored: its path in the site and its content. -/
abbrev SiteFile := PyStr × Bytes

def Progress.add (progress : Progress) (file : SiteFile) : Progress :=
  ⟨progress.count + 1, progress.totalBytes + file.2.length⟩

/-- The part of a round before the storage is touched; `none` for `continue`. -/
def acceptMember (limits : ExtractLimits) (progress : Progress) (member : TarMember) :
    Except Error (Option SiteFile) :=
  if !member.isfile then .ok none
  else
    match safeMemberName member.name with
    | none => .ok none
    | some rel =>
      if rel = [] then .ok none
      else if (progress.count : Int) ≥ limits.maxFiles then
        .error (.extractError
          (lit "Extracted file count exceeds maximum (" ++ digits limits.maxFiles ++ lit ")."))
      else if member.size > limits.maxFileBytes then .error (fileTooLarge limits)
      else
        match member.extractfile with
        | .error error => .error (.library error)
        | .ok none => .ok none
        | .ok (some extracted) =>
          match readMemberLimited limits extracted with
          | .error error => .error error
          | .ok content =>
            if progress.totalBytes + content.length > limits.maxTotalBytes then
              .error (.extractError (lit "Total extracted size exceeds maximum (" ++
                digits limits.maxTotalBytes ++ lit " bytes)."))
            else .ok (some (rel, content))

/-- `dest = build_storage_key(f'{prefix}{rel}')` -/
def memberKey (settings : Settings) (root rel : PyStr) : PyStr :=
  buildStorageKey settings (root ++ rel)

def extractTarMembers (settings : Settings) (limits : ExtractLimits) (root : PyStr) :
    List TarMember → Progress → StorageProg Nat
  | [], progress => return progress.count
  | member :: members, progress => do
    match ← .ofExcept (acceptMember limits progress member) with
    | none => extractTarMembers settings limits root members progress
    | some file =>
      replaceFile (memberKey settings root file.1) file.2
      extractTarMembers settings limits root members (progress.add file)

/-- The part of `extract_deployment_artifact` after the artifact is read. -/
def unpackArtifact (settings : Settings) (library : Library) (deployment : Deployment)
    (data : Bytes) : StorageProg Nat :=
  if data = [] then return 0
  else
    match library.tarOpen data with
    | .error .tarError => return 0
    | .error error => throw (.library error)
    | .ok tar =>
      Prog.tryCatch
        (do
          let members ← .ofExcept (tar.getmembers.mapError .library)
          extractTarMembers settings (extractLimits settings)
            (extractedPrefix deployment.storagePrefix) members ⟨0, 0⟩)
        fun error => do
          .when error.isExtractError (deleteExtractedPrefix settings deployment.storagePrefix)
          throw error

/-- Extract into `{storage_prefix}extracted/`; the number of files extracted. -/
def extractDeploymentArtifact (settings : Settings) (library : Library)
    (deployment : Deployment) : StorageProg Nat := do
  let key := artifactKey settings deployment
  let found ← .perform (.hasKey key)
  .when (!found) (throw (.fileNotFound (lit "Artifact not found: " ++ key)))
  deleteExtractedPrefix settings deployment.storagePrefix
  let data ← .perform (.read key)
  unpackArtifact settings library deployment data

/-! ### What an archive stores -/

/-- The files an archive stores, in order, and how the loop over its members ends. -/
structure Unpacking where
  files : List SiteFile
  outcome : Except Error Nat

def unpack (limits : ExtractLimits) : List TarMember → Progress → Unpacking
  | [], progress => ⟨[], .ok progress.count⟩
  | member :: members, progress =>
    match acceptMember limits progress member with
    | .error error => ⟨[], .error error⟩
    | .ok none => unpack limits members progress
    | .ok (some file) =>
      let later := unpack limits members (progress.add file)
      ⟨file :: later.files, later.outcome⟩

/-- The same for the bytes of an artifact. -/
def unpackData (settings : Settings) (library : Library) (data : Bytes) : Unpacking :=
  if data = [] then ⟨[], .ok 0⟩
  else
    match library.tarOpen data with
    | .error .tarError => ⟨[], .ok 0⟩
    | .error error => ⟨[], .error (.library error)⟩
    | .ok tar =>
      match tar.getmembers with
      | .error error => ⟨[], .error (.library error)⟩
      | .ok members => unpack (extractLimits settings) members ⟨0, 0⟩

/-- The loop stores the files of the archive one by one, then ends as it does. -/
theorem extractTarMembers_eq (settings : Settings) (limits : ExtractLimits) (root : PyStr)
    (members : List TarMember) (progress : Progress) :
    extractTarMembers settings limits root members progress = (do
      .forEach (fun file : SiteFile => replaceFile (memberKey settings root file.1) file.2)
        (unpack limits members progress).files
      .ofExcept (unpack limits members progress).outcome) := by
  induction members generalizing progress with
  | nil => rfl
  | cons member members ih =>
    simp only [extractTarMembers, unpack]
    cases acceptMember limits progress member with
    | error error => rfl
    | ok accepted =>
      cases accepted with
      | none => exact ih progress
      | some file =>
        simp only [Prog.ofExcept_ok, Prog.ret_bind, Prog.forEach, Prog.bind_assoc, ih]

/-- The name of a stored file is the normalised name of a member of the archive. -/
theorem acceptMember_name {limits : ExtractLimits} {progress : Progress} {member : TarMember}
    {file : SiteFile} (accepted : acceptMember limits progress member = .ok (some file)) :
    normalizeRelativePath member.name = some file.1 := by
  unfold acceptMember safeMemberName at accepted
  repeat' split at accepted
  all_goals simp_all
  obtain rfl := accepted
  rfl

theorem unpack_names {limits : ExtractLimits} {members : List TarMember} {progress : Progress}
    {file : SiteFile} (stored : file ∈ (unpack limits members progress).files) :
    ∃ member ∈ members, normalizeRelativePath member.name = some file.1 := by
  induction members generalizing progress with
  | nil => simp [unpack] at stored
  | cons member members ih =>
    rw [unpack] at stored
    split at stored
    · simp at stored
    · obtain ⟨source, present, name⟩ := ih stored
      exact ⟨source, List.mem_cons_of_mem _ present, name⟩
    · rename_i accepted
      rcases List.mem_cons.mp stored with rfl | later
      · exact ⟨member, by simp, acceptMember_name accepted⟩
      · obtain ⟨source, present, name⟩ := ih later
        exact ⟨source, List.mem_cons_of_mem _ present, name⟩

theorem unpack_safe {limits : ExtractLimits} {members : List TarMember} {progress : Progress}
    {file : SiteFile} (stored : file ∈ (unpack limits members progress).files) :
    SafeRelative file.1 ∧ backslash ∉ file.1 := by
  obtain ⟨_, _, name⟩ := unpack_names stored
  exact normalizeRelativePath_safe name

theorem unpackData_safe {settings : Settings} {library : Library} {data : Bytes}
    {file : SiteFile} (stored : file ∈ (unpackData settings library data).files) :
    SafeRelative file.1 ∧ backslash ∉ file.1 := by
  unfold unpackData at stored
  repeat' split at stored
  all_goals try contradiction
  exact unpack_safe stored

end HostingService
