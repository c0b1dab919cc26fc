import HostingService.Hosting.Exactness
import HostingService.Hosting.Serve
import HostingService.Hosting.Statements

/-! Which archives unpack, and which paths are served, strictly below the root of
their deployment. -/

namespace HostingService

open Program Text Storage Transaction

/-- `{key prefix}/{storage_prefix}extracted` -/
def siteRoot (settings : Settings) (deployment : Deployment) : PyStr :=
  keyBase settings ++ deployment.storagePrefix ++ lit "extracted"

theorem extractedRoot_eq_siteRoot (settings : Settings) (deployment : Deployment) :
    extractedRoot settings deployment.storagePrefix = siteRoot settings deployment := by
  rw [extractedRoot_deployment, siteRoot, deployment.storagePrefix_eq, folderKey]
  simp [deploymentPrefix, deploymentFolder]

theorem strictlyBelow_site (settings : Settings) (deployment : Deployment) {rel : PyStr}
    (safe : SafeRelative rel) :
    StrictlyBelow (siteRoot settings deployment)
        (memberKey settings (extractedPrefix deployment.storagePrefix) rel) ↔
      KeepsBelow rel := by
  rw [← extractedRoot_eq_siteRoot,
    strictlyBelow_memberKey settings (storagePrefix_anchored deployment), safeRelative_trimTail safe]

/-- The program after a stored file runs on some path, so every file counts. -/
theorem replaceFile_then_all {allowed : ∀ β, StorageCall β → Prop} {key : PyStr}
    {content : Bytes} {rest : StorageProg Unit} :
    (replaceFile key content >>= fun _ => rest).All allowed ↔
      (replaceFile key content).All allowed ∧ rest.All allowed := by
  constructor
  · intro every
    obtain ⟨tested, answers⟩ := every
    obtain ⟨saved, afterSave⟩ := answers (.ok false)
    exact ⟨replaceFile_all.mpr ⟨tested, (answers (.ok true)).1, saved⟩, afterSave (.ok ())⟩
  · rintro ⟨first, later⟩
    exact first.bind fun _ => later

theorem storeFiles_all {allowed : ∀ β, StorageCall β → Prop} {place : SiteFile → PyStr}
    {files : List SiteFile} :
    (Prog.forEach (fun file : SiteFile => replaceFile (place file) file.2) files).All allowed ↔
      ∀ file ∈ files, (replaceFile (place file) file.2).All allowed := by
  induction files with
  | nil => simp [Prog.forEach]
  | cons file files ih => simp [Prog.forEach, replaceFile_then_all, ih]

theorem extractTarMembers_touches (settings : Settings) (limits : ExtractLimits) (root : PyStr)
    (members : List TarMember) (inside : PyStr → Prop) :
    (extractTarMembers settings limits root members ⟨0, 0⟩).All (Touches inside) ↔
      ∀ file ∈ (unpack limits members ⟨0, 0⟩).files, inside (memberKey settings root file.1) := by
  have each (file : SiteFile) :
      (replaceFile (memberKey settings root file.1) file.2).All (Touches inside) ↔
        inside (memberKey settings root file.1) := by
    simp [replaceFile_all, Touches]
  have stores : (Prog.forEach (fun file : SiteFile =>
        replaceFile (memberKey settings root file.1) file.2)
        (unpack limits members ⟨0, 0⟩).files).All (Touches inside) ↔
      ∀ file ∈ (unpack limits members ⟨0, 0⟩).files, inside (memberKey settings root file.1) := by
    rw [storeFiles_all]
    exact forall₂_congr fun file _ => each file
  rw [extractTarMembers_eq, ← stores]
  constructor
  · intro every
    exact every.left
  · intro every
    exact every.bind fun _ => Prog.all_ofExcept _

/-- Unpacking touches only keys strictly below the root, whatever the storage answers,
if and only if the trimmed name of every stored member keeps below it. -/
theorem unpacking_confined_iff (settings : Settings) (deployment : Deployment)
    (members : List TarMember) :
    (extractTarMembers settings (extractLimits settings)
        (extractedPrefix deployment.storagePrefix) members ⟨0, 0⟩).All
        (Touches (StrictlyBelow (siteRoot settings deployment))) ↔
      ∀ file ∈ (unpack (extractLimits settings) members ⟨0, 0⟩).files, KeepsBelow file.1 := by
  rw [extractTarMembers_touches]
  exact forall₂_congr fun file stored =>
    strictlyBelow_site settings deployment (unpack_safe stored).1

/-- For a member called `.. ` the parent of the root is tested and deleted. -/
theorem unpacking_reaches_parent :
    ¬ (extractTarMembers defaultSettings (extractLimits defaultSettings)
        (extractedPrefix firstDraft.storagePrefix)
        [⟨lit ".. ", true, 2, .ok (some ⟨[page], none⟩)⟩] ⟨0, 0⟩).All
        (Touches (StrictlyBelow (siteRoot defaultSettings firstDraft))) := by
  rw [extractTarMembers_touches]
  intro confined
  have stored : (lit ".. ", page) ∈ (unpack (extractLimits defaultSettings)
      [⟨lit ".. ", true, 2, .ok (some ⟨[page], none⟩)⟩] ⟨0, 0⟩).files := by decide +kernel
  have below := (strictlyBelow_site defaultSettings firstDraft (by decide)).mp (confined _ stored)
  exact absurd below (by decide)

/-! ### Serving -/

theorem validateServePath_safe {path rel : PyStr} (valid : validateServePath path = .ok rel)
    (full : rel ≠ []) : SafeRelative rel := by
  unfold validateServePath at valid
  split at valid
  · exact absurd (Except.ok.inj valid).symm full
  · split at valid
    · contradiction
    · split at valid
      · contradiction
      · rename_i normal
        obtain rfl := Except.ok.inj valid
        exact (normalizeRelativePath_safe normal).1

section
variable {settings : Settings} {deployment : Deployment}

theorem extractedFileKey_of_safe {rel : PyStr} (safe : SafeRelative rel) :
    extractedFileKey settings deployment rel =
      memberKey settings (extractedPrefix deployment.storagePrefix) rel := by
  rw [extractedFileKey, safe.lstripSlash, memberKey]

theorem strictlyBelow_file {rel : PyStr} (safe : SafeRelative rel) :
    StrictlyBelow (siteRoot settings deployment) (extractedFileKey settings deployment rel) ↔
      KeepsBelow rel := by
  rw [extractedFileKey_of_safe safe, strictlyBelow_site settings deployment safe]

theorem indexHtml_safe : SafeRelative indexHtml := by decide

/-- `index.html` in a folder is a safe name that nothing is stripped from. -/
theorem folderIndex_keepsBelow {rel : PyStr} (safe : SafeRelative rel) :
    SafeRelative (rel ++ slash :: indexHtml) ∧ KeepsBelow (rel ++ slash :: indexHtml) := by
  have whole := safe.append indexHtml_safe
  have kept : trimTail (rel ++ slash :: indexHtml) = rel ++ slash :: indexHtml := by
    rw [trimTail_join, if_neg (by decide)]
    rfl
  exact ⟨whole, (safeRelative_trimTail whole).mp (kept.symm ▸ whole)⟩

theorem openExtractedFile_bind_all {α : Type} {allowed : ∀ β, StorageCall β → Prop} {rel : PyStr}
    {rest : Option Bytes → StorageProg α} :
    (openExtractedFile settings deployment rel >>= rest).All allowed ↔
      allowed _ (.read (extractedFileKey settings deployment rel)) ∧
        ∀ content, (rest content).All allowed := by
  constructor
  · intro every
    refine ⟨every.1, fun content => ?_⟩
    cases content with
    | none => exact every.2 (.error .osError)
    | some content => exact every.2 (.ok content)
  · rintro ⟨opened, later⟩
    refine .bind (.tryCatch (.bind (Prog.all_perform.mpr opened) fun _ => trivial)
      fun error => ?_) later
    split <;> trivial

/-- Every candidate may be opened, unless an earlier one has the same name. -/
theorem openFirst_all {allowed : ∀ β, StorageCall β → Prop} {candidates seen : List PyStr} :
    (openFirst settings deployment candidates seen).All allowed ↔
      ∀ candidate ∈ candidates, candidate ≠ [] → candidate ∉ seen →
        allowed _ (.read (extractedFileKey settings deployment candidate)) := by
  induction candidates generalizing seen with
  | nil => simp [openFirst]
  | cons candidate candidates ih =>
    rw [openFirst]
    split
    · rename_i passed
      rw [ih]
      constructor
      · intro every other member full fresh
        rcases List.mem_cons.mp member with rfl | later
        · exact absurd passed (not_or.mpr ⟨full, fresh⟩)
        · exact every other later full fresh
      · intro every other later full fresh
        exact every other (List.mem_cons_of_mem _ later) full fresh
    · rename_i passed
      obtain ⟨full, fresh⟩ := not_or.mp passed
      rw [openExtractedFile_bind_all]
      constructor
      · rintro ⟨opened, later⟩ other member otherFull otherFresh
        by_cases same : other = candidate
        · exact same ▸ opened
        · have rest := (ih.mp (later none)) other
            ((List.mem_cons.mp member).resolve_left same) otherFull
          exact rest (by simp [same, otherFresh])
      · intro every
        refine ⟨every candidate (by simp) full fresh, fun content => ?_⟩
        cases content with
        | some content => trivial
        | none =>
          refine ih.mpr fun other later otherFull unseen => ?_
          exact every other (List.mem_cons_of_mem _ later) otherFull fun old =>
            unseen (List.mem_cons_of_mem _ old)

/-- Besides the path itself only `index.html` in it and two names of the root are tried. -/
theorem pickCandidates_cases {library : Library} {rel candidate : PyStr}
    (valid : rel ≠ [] → SafeRelative rel) (member : candidate ∈ pickCandidates library rel) :
    candidate = rel ∧ rel ≠ [] ∨ rel ≠ [] ∧ candidate = rel ++ slash :: indexHtml ∨
      candidate = indexHtml ∨ candidate = lit "404.html" := by
  unfold pickCandidates at member
  by_cases empty : rel = []
  · simp [empty] at member
    tauto
  · have safe := valid empty
    simp only [empty, safe.last_ne_slash, or_self, ↓reduceIte, safe.rstripSlash, ne_eq,
      not_false_eq_true, true_and] at member
    repeat' split at member
    all_goals simp at member
    all_goals tauto

theorem pickCandidates_below {library : Library} {rel : PyStr}
    (valid : rel ≠ [] → SafeRelative rel ∧ KeepsBelow rel) :
    ∀ candidate ∈ pickCandidates library rel,
      StrictlyBelow (siteRoot settings deployment)
        (extractedFileKey settings deployment candidate) := by
  intro candidate member
  rcases pickCandidates_cases (fun full => (valid full).1) member with
    ⟨rfl, full⟩ | ⟨full, rfl⟩ | rfl | rfl
  · exact (strictlyBelow_file (valid full).1).mpr (valid full).2
  · obtain ⟨safe, keeps⟩ := folderIndex_keepsBelow (valid full).1
    exact (strictlyBelow_file safe).mpr keeps
  · exact (strictlyBelow_file indexHtml_safe).mpr (by decide)
  · exact (strictlyBelow_file (by decide)).mpr (by decide)

theorem mem_pickCandidates {library : Library} {rel : PyStr} (safe : SafeRelative rel) :
    rel ∈ pickCandidates library rel := by
  unfold pickCandidates
  simp only [safe.ne_nil, safe.last_ne_slash, or_self, ↓reduceIte]
  repeat' split
  all_goals simp

end

/-- Serving a path touches only keys strictly below the root exactly when its
validated form keeps below it. -/
theorem serveDeployment_touches (settings : Settings) (library : Library)
    (deployment : Deployment) (path : PyStr) :
    (serveDeployment settings library deployment path).All
        (Touches (StrictlyBelow (siteRoot settings deployment))) ↔
      ∀ rel, validateServePath path = .ok rel → rel ≠ [] → KeepsBelow rel := by
  rw [serveDeployment, Prog.all_ofExcept_bind]
  constructor
  · intro every rel valid full
    have safe := validateServePath_safe valid full
    suffices below : StrictlyBelow (siteRoot settings deployment)
        (extractedFileKey settings deployment rel) from (strictlyBelow_file safe).mp below
    have body := every rel valid
    by_cases asset : rel ≠ [] ∧ looksLikeStaticAsset library rel = true
    · rw [if_pos asset] at body
      exact (openExtractedFile_bind_all.mp body).1
    · rw [if_neg asset, extractedIndexExists, Prog.all_perform_bind] at body
      have picks := Prog.all_ofExcept_bind.mp (body.2 true).left rel valid
      exact openFirst_all.mp picks rel (mem_pickCandidates safe) full (by simp)
  · intro keeps rel valid
    have named : rel ≠ [] → SafeRelative rel ∧ KeepsBelow rel := fun full =>
      ⟨validateServePath_safe valid full, keeps rel valid full⟩
    split
    · rename_i asset
      obtain ⟨safe, below⟩ := named asset.1
      refine openExtractedFile_bind_all.mpr ⟨(strictlyBelow_file safe).mpr below, fun content => ?_⟩
      cases content with
      | none => trivial
      | some content => exact Prog.all_ofExcept _
    · refine .bind (Prog.all_perform.mpr ((strictlyBelow_file indexHtml_safe).mpr (by decide)))
        fun found => ?_
      cases found with
      | false => trivial
      | true =>
        refine .bind (Prog.all_ofExcept_bind.mpr fun again same => ?_) fun _ => Prog.all_ofExcept _
        obtain rfl := Except.ok.inj (valid.symm.trans same)
        exact openFirst_all.mpr fun candidate member _ _ =>
          pickCandidates_below named candidate member

/-- Serving reads files of the deployment and asks for its index page, and does no more. -/
theorem serveDeployment_all {settings : Settings} {library : Library} {deployment : Deployment}
    {allowed : ∀ β, StorageCall β → Prop}
    (reads : ∀ rel, allowed _ (.read (extractedFileKey settings deployment rel)))
    (tests : allowed _ (.hasKey (extractedFileKey settings deployment indexHtml)))
    (path : PyStr) : (serveDeployment settings library deployment path).All allowed := by
  refine .bind (Prog.all_ofExcept _) fun rel => ?_
  split
  · refine openExtractedFile_bind_all.mpr ⟨reads rel, fun content => ?_⟩
    cases content with
    | none => trivial
    | some content => exact Prog.all_ofExcept _
  · refine .bind (Prog.all_perform.mpr tests) fun found => ?_
    cases found with
    | false => trivial
    | true =>
      refine .bind (.bind (Prog.all_ofExcept _) fun rel => ?_) fun _ => Prog.all_ofExcept _
      exact openFirst_all.mpr fun candidate _ _ _ => reads candidate

theorem isPreviewExpired_bind_all {α : Type} {allowed : ∀ β, StorageCall β → Prop} {app : App}
    {rest : Bool → Transaction α} (later : ∀ expired, (rest expired).All (OnStorage allowed)) :
    (isPreviewExpired app >>= rest).All (OnStorage allowed) := by
  refine .bind ?_ later
  unfold isPreviewExpired
  split
  · trivial
  · exact .bind (Prog.all_perform.mpr trivial) fun _ => trivial

/-- Some clock finds the preview live, so the rest of the view counts. -/
theorem isPreviewExpired_bind_live {α : Type} {allowed : ∀ β, StorageCall β → Prop} {app : App}
    {rest : Bool → Transaction α}
    (every : (isPreviewExpired app >>= rest).All (OnStorage allowed)) :
    (rest false).All (OnStorage allowed) := by
  unfold isPreviewExpired at every
  split at every
  · exact every
  · rename_i expiresAt _
    have live : (rest (decide (expiresAt ≤ expiresAt - 1))).All (OnStorage allowed) :=
      every.2 (.ok (expiresAt - 1))
    have later : ¬ expiresAt ≤ expiresAt - 1 := Int.not_le.mpr (Int.sub_lt_self _ (by decide))
    simpa only [later, decide_false] using live

/-- A request for a path of an app with a servable deployment touches only keys strictly
below the root of that deployment exactly when the validated path keeps below it. -/
theorem serving_confined_iff (settings : Settings) (library : Library) (app : ServedApp)
    (deployment : Deployment) (resolved : resolveDeployment app = some deployment)
    (path : PyStr) :
    (serveApp settings library app path).All
        (OnStorage (Touches (StrictlyBelow (siteRoot settings deployment)))) ↔
      ∀ rel, validateServePath path = .ok rel → rel ≠ [] → KeepsBelow rel := by
  rw [← serveDeployment_touches settings library deployment path]
  constructor
  · intro every
    have live := isPreviewExpired_bind_live every
    simp only [resolved] at live
    exact onStorage_hoist.mp live
  · intro confined
    refine isPreviewExpired_bind_all fun expired => ?_
    cases expired with
    | true => trivial
    | false =>
      simp only [resolved]
      exact onStorage_hoist.mpr confined

/-- A named app whose first deployment is served. -/
def servedFirst : ServedApp :=
  { app :=
      { id := ⟨1⟩
        name := lit "demo"
        slug := lit "abcdefghijkl"
        companyId := 3
        displayName := lit "Demo"
        createdById := none
        expiresAt := none
        currentDeployment := some ⟨2⟩ }
    currentDeployment := some (firstDraft.assign ⟨.active, some 104, some (some 0)⟩) }

theorem serving_confined_asset :
    (serveApp defaultSettings (.knowing [] []) servedFirst (lit "assets/app.js")).All
      (OnStorage (Touches (StrictlyBelow (siteRoot defaultSettings
        (firstDraft.assign ⟨.active, some 104, some (some 0)⟩))))) := by
  refine (serving_confined_iff defaultSettings (.knowing [] []) servedFirst _ rfl
    (lit "assets/app.js")).mpr fun rel valid _ => ?_
  have same : validateServePath (lit "assets/app.js") = .ok (lit "assets/app.js") := by
    decide +kernel
  obtain rfl := Except.ok.inj (same.symm.trans valid)
  decide

/-- The path `%2e%2e ` is opened at the parent of the root. -/
theorem serving_reaches_parent :
    ¬ (serveApp defaultSettings (.knowing [] []) servedFirst (lit "%2e%2e ")).All
      (OnStorage (Touches (StrictlyBelow (siteRoot defaultSettings
        (firstDraft.assign ⟨.active, some 104, some (some 0)⟩))))) := by
  intro every
  have live := onStorage_hoist.mp (isPreviewExpired_bind_live every)
  have keeps := (serveDeployment_touches defaultSettings _ _ _).mp live (lit ".. ")
    (by decide +kernel) (by decide)
  exact absurd keeps (by decide)

end HostingService
