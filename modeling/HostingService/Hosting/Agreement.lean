import HostingService.Hosting.Rollback

/-! What extraction stores is what serving finds: a finalized archive is served under the
names of its members. -/

namespace HostingService

open Program Text Storage Transaction

/-- The artifact unpacked, and every key of the archive holds the last file stored under it. -/
def Unpacked (settings : Settings) (library : Library) (row : Deployment) (before after : Objects) :
    Prop :=
  ∃ data count, before.lookup (artifactKey settings row) = some data ∧
    (unpackData settings library data).outcome = .ok count ∧
    ∀ key content, lastStored settings (extractedPrefix row.storagePrefix)
      (unpackData settings library data).files key = some content → after.lookup key = some content

section
variable {settings : Settings} {library : Library} {world : World} {row : Deployment}

/-! ### Storing, whichever calls fail -/

/-- A call that returns went through. -/
theorem ensures_storageCall {α : Type} {op : StorageCall α} {disk : Disk Error}
    {post : α → Disk Error → Prop}
    (done : ∀ value faults, (op.exec (storageBackend settings) disk.objects).1 = .ok value →
      post value ⟨(op.exec (storageBackend settings) disk.objects).2, faults⟩) :
    (Prog.perform op).Ensures (StorageCall.handle (storageBackend settings)) (Prog.Returned post)
      disk := by
  refine Prog.ensures_perform.mpr ?_
  rcases handle_cases (storageBackend settings) op disk with ⟨_, _, failed⟩ | ⟨faults, answered⟩
  · rw [failed]
    trivial
  · rw [answered]
    rcases result : (op.exec (storageBackend settings) disk.objects).1 with error | value
    · trivial
    · exact done value faults result

theorem ensures_replaceFile (key : PyStr) (content : Bytes) (disk : Disk Error) :
    (replaceFile key content).Ensures (StorageCall.handle (storageBackend settings))
      (Prog.Returned fun _ after => ∀ other, after.objects.lookup other =
        if key = other then some content else disk.objects.lookup other) disk := by
  have removed (middle : Disk Error) (stored : Bool) :
      (Prog.when stored (.perform (.delete key)) : StorageProg Unit).Ensures
        (StorageCall.handle (storageBackend settings)) (Prog.Returned fun _ after =>
          ∀ other, other ≠ key → after.objects.lookup other = middle.objects.lookup other) middle := by
    cases stored with
    | false => exact fun _ _ => rfl
    | true =>
      refine ensures_storageCall fun _ faults _ other apart => ?_
      rcases exec_delete_cases (storageBackend settings) middle.objects key with kept | gone
      · rw [kept]
      · rw [gone]
        exact AList.lookup_erase_ne apart
  have tested : (Prog.perform (.hasKey key) : StorageProg Bool).Ensures
      (StorageCall.handle (storageBackend settings))
      (Prog.Returned fun _ after => after.objects = disk.objects) disk :=
    ensures_storageCall fun _ _ _ => rfl
  have saved (last : Disk Error) : (Prog.perform (.save key content) : StorageProg Unit).Ensures
      (StorageCall.handle (storageBackend settings))
      (Prog.Returned fun _ after => after.objects = last.objects.insert key content) last := by
    refine ensures_storageCall fun _ faults returned => ?_
    rcases exec_save_cases (storageBackend settings) last.objects key content with ⟨_, refused⟩ | stored
    · rw [refused] at returned
      cases returned
    · rw [stored]
  rw [replaceFile]
  refine tested.bind (fun _ _ _ => trivial) fun stored middle same => ?_
  refine (removed middle stored).bind (fun _ _ _ => trivial) fun _ last kept => ?_
  refine (saved last).mono fun result after ended => ?_
  cases result with
  | error error => trivial
  | ok value =>
    intro other
    rw [show after.objects = _ from ended]
    split
    · rename_i target
      exact target ▸ AList.lookup_insert _
    · rename_i apart
      rw [AList.lookup_insert_ne (Ne.symm apart), kept other (Ne.symm apart), same]

theorem ensures_storeFiles (root : PyStr) (files : List SiteFile) (disk : Disk Error) :
    (Prog.forEach (fun file : SiteFile => replaceFile (memberKey settings root file.1) file.2)
      files).Ensures (StorageCall.handle (storageBackend settings))
      (Prog.Returned fun _ after => ∀ key, after.objects.lookup key =
        (lastStored settings root files key).or (disk.objects.lookup key)) disk := by
  induction files generalizing disk with
  | nil => exact fun _ => rfl
  | cons file files ih =>
    refine (ensures_replaceFile _ file.2 disk).bind (fun _ _ _ => trivial) fun _ middle first => ?_
    refine (ih middle).mono fun result after rest => ?_
    cases result with
    | error error => trivial
    | ok value =>
      intro key
      rw [show after.objects.lookup key = _ from rest key, first key, lastStored_cons]
      cases lastStored settings root files key with
      | some content => rfl
      | none => split <;> rfl

theorem ensures_unpackArtifact (data : Bytes) (disk : Disk Error) :
    (unpackArtifact settings library row data).Ensures
      (StorageCall.handle (storageBackend settings)) (Prog.Returned fun count after =>
        (unpackData settings library data).outcome = .ok count ∧
        ∀ key content, lastStored settings (extractedPrefix row.storagePrefix)
          (unpackData settings library data).files key = some content →
            after.objects.lookup key = some content) disk := by
  have nothing (count : Nat) (after : Disk Error) (same : count = 0) :
      Except.ok 0 = (.ok count : Except Error Nat) ∧ ∀ key content,
        lastStored settings (extractedPrefix row.storagePrefix) [] key = some content →
          after.objects.lookup key = some content :=
    ⟨congrArg Except.ok same.symm, fun _ _ absent => by cases absent⟩
  unfold unpackArtifact unpackData
  by_cases empty : data = []
  · simp only [if_pos empty]
    exact nothing 0 disk rfl
  · simp only [if_neg empty]
    rcases library.tarOpen data with error | tar
    · cases error with
      | tarError => exact nothing 0 disk rfl
      | _ => trivial
    simp only
    rcases listed : tar.getmembers with error | members
    · trivial
    · simp only [Except.mapError, Prog.ofExcept_ok, Prog.ret_bind, extractTarMembers_eq]
      have looped : (Prog.forEach (fun file : SiteFile =>
          replaceFile (memberKey settings (extractedPrefix row.storagePrefix) file.1) file.2)
            (unpack (extractLimits settings) members ⟨0, 0⟩).files >>= fun _ =>
          Prog.ofExcept (unpack (extractLimits settings) members ⟨0, 0⟩).outcome).Ensures
          (StorageCall.handle (storageBackend settings)) (Prog.Returned fun count after =>
            (unpack (extractLimits settings) members ⟨0, 0⟩).outcome = .ok count ∧ ∀ key,
              after.objects.lookup key = (lastStored settings (extractedPrefix row.storagePrefix)
                (unpack (extractLimits settings) members ⟨0, 0⟩).files key).or
                  (disk.objects.lookup key)) disk := by
        refine (ensures_storeFiles _ _ disk).bind (fun _ _ _ => trivial) fun _ after stored => ?_
        refine Prog.ensures_ofExcept.mpr ?_
        cases ends : (unpack (extractLimits settings) members ⟨0, 0⟩).outcome with
        | error error => trivial
        | ok count => exact ⟨rfl, stored⟩
      refine looped.tryCatch (fun count after ended => ?_) fun error after _ => ?_
      · refine ⟨ended.1, fun key content last => ?_⟩
        rw [ended.2 key, last]
        rfl
      · exact Prog.ensures_then_raise

/-- The artifact is read after the clean-up, which leaves it alone. -/
theorem ensures_extract (disk : Disk Error) :
    (extractDeploymentArtifact settings library row).Ensures
      (StorageCall.handle (storageBackend settings)) (Prog.Returned fun _ after =>
        Unpacked settings library row disk.objects after.objects) disk := by
  have tested : (Prog.perform (.hasKey (artifactKey settings row)) : StorageProg Bool).Ensures
      (StorageCall.handle (storageBackend settings))
      (Prog.Returned fun _ after => after.objects = disk.objects) disk :=
    ensures_storageCall fun _ _ _ => rfl
  have cleaned (middle : Disk Error) :
      (deleteExtractedPrefix settings row.storagePrefix).Ensures
        (StorageCall.handle (storageBackend settings)) (fun _ after =>
          after.objects.lookup (artifactKey settings row) =
            middle.objects.lookup (artifactKey settings row)) middle := by
    have writes : (deleteExtractedPrefix settings row.storagePrefix).All
        (Writes (InFolder (extractedRoot settings row.storagePrefix))) :=
      deleteExtractedPrefix_changes settings (storagePrefix_anchored row) fun rest =>
        InFolder.below _ rest
    exact run_sameOutside (storageBackend settings) writes middle _ (artifactKey_not_below row)
  have opened (middle : Disk Error) :
      (Prog.perform (.read (artifactKey settings row)) : StorageProg Bytes).Ensures
        (StorageCall.handle (storageBackend settings)) (Prog.Returned fun data _ =>
          middle.objects.lookup (artifactKey settings row) = some data) middle := by
    refine ensures_storageCall fun data faults answered => ?_
    simp only [StorageCall.exec] at answered
    split at answered
    · rename_i found
      exact Except.ok.inj answered ▸ found
    · split at answered <;> contradiction
  rw [extractDeploymentArtifact]
  refine tested.bind (fun _ _ _ => trivial) fun found first same => ?_
  refine Prog.ensures_check.mpr ⟨fun _ => trivial, fun _ => ?_⟩
  refine (cleaned first).bind (fun _ _ _ => trivial) fun _ middle kept => ?_
  refine (opened middle).bind (fun _ _ _ => trivial) fun data last stored => ?_
  refine (ensures_unpackArtifact data last).mono fun result after ended => ?_
  cases result with
  | error error => trivial
  | ok count => exact ⟨data, count, by rw [← same, ← kept, stored], ended⟩

/-! ### Finalizing -/

/-- After the extraction no statement of the activation changes a file. -/
theorem ensures_activate_unpacked (actor : Option Actor) (world : World) :
    (activateDeployment settings library row actor).Ensures (Statement.handle settings)
      (Prog.Returned fun _ after =>
        Unpacked settings library row world.disk.objects after.disk.objects) world := by
  rw [activateDeployment]
  refine Prog.ensures_check.mpr ⟨fun _ => trivial, fun _ => ?_⟩
  refine Prog.ensures_check.mpr ⟨fun _ => trivial, fun _ => ?_⟩
  have extracted : (Prog.tryCatch (storage (extractDeploymentArtifact settings library row))
      fun error => throw (artifactMissing error)).Ensures (Statement.handle settings)
      (Prog.Returned fun _ after =>
        Unpacked settings library row world.disk.objects after.disk.objects) world := by
    have stored : (storage (extractDeploymentArtifact settings library row)).Ensures
        (Statement.handle settings) (Prog.Returned fun _ after =>
          Unpacked settings library row world.disk.objects after.disk.objects) world := by
      refine ensures_storage_last.mpr ((ensures_extract world.disk).mono fun result _ ended => ?_)
      cases result with
      | error error => trivial
      | ok count => exact ended
    exact stored.tryCatch (fun _ _ ended => ended) fun _ _ _ => trivial
  refine extracted.bind (fun _ _ _ => trivial) fun count middle unpacked => ?_
  refine Prog.Ensures.mono
    (ensures_sameOutside (?_ : Prog.All (OnStorage (Writes fun _ => False)) _)) fun result after same => ?_
  · exact ((permits_onStorage 0).all_appOf row).bind fun app =>
      all_activated (permits_onStorage _) row actor
  · cases result with
    | error error => trivial
    | ok active =>
      obtain ⟨data, count, found, ends, stores⟩ := unpacked
      exact ⟨data, count, found, ends, fun key content last =>
        (same key id).trans (stores key content last)⟩

theorem ensures_finalize_returned (userId : Option Nat) (actorEmail : PyStr) (world : World) :
    (finalizeDeployment settings library row userId actorEmail).Ensures (Action.handle settings)
      (Prog.Returned fun active after => Activates settings row world (.ok active) after ∧
        Unpacked settings library row world.disk.objects after.disk.objects) world := by
  have activated (actor : Option Actor) :
      (Service.atomic (activateDeployment settings library row actor)).Ensures
        (Action.handle settings) (Prog.Returned fun active after =>
          Activates settings row world (.ok active) after ∧
            Unpacked settings library row world.disk.objects after.disk.objects) world := by
    refine Service.ensures_atomic_returned
      (((ensures_activate row actor).and (ensures_activate_unpacked actor world)).mono ?_)
    intro result after ended
    cases result with
    | error error => trivial
    | ok active => exact ended
  rw [finalizeDeployment]
  refine (activated _).tryCatch (fun _ _ ended => ended) fun error after _ => ?_
  cases error with
  | extractError message => exact Prog.ensures_then_raise
  | _ => trivial

theorem ensures_finalizeRequest (id : Uuid) (userId : Option Nat) (actorEmail : PyStr)
    (world : World) :
    ((Request.finalize id userId actorEmail).service settings library).Ensures
      (Action.handle settings) (Prog.Returned fun _ after =>
        ∃ row ∈ world.db.deployments, row.id = id ∧ Activates settings row world (.ok row) after ∧
          Unpacked settings library row world.disk.objects after.disk.objects) world := by
  refine Service.ensures_loadRow trivial fun row found => ?_
  obtain ⟨present, same⟩ := Db.mem_of_deployment found
  refine (ensures_finalize_returned userId actorEmail world).bind (fun _ _ _ => trivial)
    fun active after ended => ?_
  exact ⟨row, present, same, ended.1, ended.2⟩

/-! ### Serving -/

theorem run_openExtractedFile {rel : PyStr} {content : Bytes} {objects : Objects}
    (stored : objects.lookup (extractedFileKey settings row rel) = some content) :
    (openExtractedFile settings row rel).run (StorageCall.handle (storageBackend settings))
      (answering objects) = (.ok (some content), answering objects) := by
  have opened := run_perform_answering (storageBackend settings)
    (.read (extractedFileKey settings row rel)) objects
  simp only [StorageCall.exec, stored] at opened
  exact Prog.run_tryCatch_ok _ (Prog.run_bind_ok _ opened _) _

/-- The first candidate is the path itself. -/
theorem pickCandidates_head {rel : PyStr} (safe : SafeRelative rel) :
    ∃ others, pickCandidates library rel = rel :: others := by
  unfold pickCandidates
  simp only [safe.ne_nil, safe.last_ne_slash, or_self, ↓reduceIte]
  repeat' split
  all_goals exact ⟨_, rfl⟩

/-- A stored file with a response is answered under its path, if the path is an asset or the
site has an index page. -/
theorem siteAnswer_stored {rel : PyStr} {content : Bytes} {objects : Objects}
    (safe : SafeRelative rel) (valid : validateServePath rel = .ok rel)
    (responds : Respondable library (extractedFileKey settings row rel) rel)
    (stored : objects.lookup (extractedFileKey settings row rel) = some content)
    (page : looksLikeStaticAsset library rel = true ∨
      extractedFileKey settings row indexHtml ∈ objects) :
    siteAnswer settings library row (slash :: rel) (answering objects) = .ok (.file rel content) := by
  have path : lstripSlash (slash :: rel) = rel := safe.lstripSlash
  have opened := run_openExtractedFile stored
  rw [siteAnswer, path, serveDeployment, valid, Prog.ofExcept_ok, Prog.ret_bind]
  by_cases asset : rel ≠ [] ∧ looksLikeStaticAsset library rel = true
  · rw [if_pos asset, Prog.run_bind_ok _ opened]
    simp only [fileResponse_ok responds, Prog.run_ofExcept]
  · have index : extractedFileKey settings row indexHtml ∈ objects :=
      page.resolve_left fun looks => asset ⟨safe.ne_nil, looks⟩
    have tested := run_perform_answering (storageBackend settings)
      (.hasKey (extractedFileKey settings row indexHtml)) objects
    simp only [StorageCall.exec, index, decide_true, Bool.true_or] at tested
    obtain ⟨others, first⟩ : ∃ others, pickCandidates library rel = rel :: others :=
      pickCandidates_head safe
    have picked : (pickFile settings library row rel).run
        (StorageCall.handle (storageBackend settings)) (answering objects) =
        (.ok (rel, content), answering objects) := by
      rw [pickFile, valid, Prog.ofExcept_ok, Prog.ret_bind, first, openFirst,
        if_neg (by simp [safe.ne_nil]), Prog.run_bind_ok _ opened]
      rfl
    have asks : extractedIndexExists settings row =
        .perform (.hasKey (extractedFileKey settings row indexHtml)) := rfl
    rw [if_neg asset, asks, Prog.run_bind_ok _ tested]
    simp only
    rw [Prog.run_bind_ok _ picked]
    simp only [fileResponse_ok responds, Prog.run_ofExcept]

end

/-- After a successful finalize, a visit to the path of a stored name is answered with the last
bytes stored under it, as long as the site is not expired. The name must be one that serving
takes as it is and has a response for, and an asset unless the site has an index page. -/
theorem stored_names_served (settings : Settings) (library : Library) (world : World)
    (reachable : world.Reachable settings library) (id : Uuid) (userId : Option Nat)
    (actorEmail : PyStr) (faults : List (Option Error)) (after : World)
    (ran : (Request.finalize id userId actorEmail).run settings library faults world =
      (.ok (), after)) :
    (∀ name rel, normalizeRelativePath name = some rel → ServedAsIs rel →
      validateServePath rel = .ok rel) ∧
    ∃ row ∈ world.db.deployments, row.id = id ∧ ∃ data,
      world.disk.objects.lookup (artifactKey settings row) = some data ∧
      ∀ visits, (∀ occurrence ∈ visits, occurrence.Quiet) →
      ∀ app ∈ after.db.apps, app.id = row.app →
      app.unexpired (runFrom settings library after visits).clock = true →
      ∀ file ∈ (unpackData settings library data).files, ServedAsIs file.1 →
      Respondable library (extractedFileKey settings row file.1) file.1 →
      (looksLikeStaticAsset library file.1 = true ∨
        extractedFileKey settings row indexHtml ∈ after.disk.objects) →
      ∃ content, lastStored settings (extractedPrefix row.storagePrefix)
          (unpackData settings library data).files
          (memberKey settings (extractedPrefix row.storagePrefix) file.1) = some content ∧
        (visit settings library app.slug (slash :: file.1) []
          (runFrom settings library after visits)).1 = .ok (.file file.1 content) := by
  refine ⟨fun name rel normal asIs => (validateServePath_eq_self normal).mpr asIs, ?_⟩
  obtain ⟨row, found, same, ⟨old, oldPresent, oldOwner, _, _, uncached, applied⟩, data, count, stored,
    _, stores⟩ := (ensures_finalizeRequest id userId actorEmail (world.withFaults faults)).of_run ran
  have later : after = Occurrence.next settings library world
      (.request (.finalize id userId actorEmail) faults) := (congrArg Prod.snd ran).symm
  have formed : after.db.sites.WellFormed :=
    later ▸ Occurrence.next_wellFormed settings library _ reachable.wellFormed
  refine ⟨row, found, same, data, stored, fun visits quiet app present owner live file member asIs
    responds page => ?_⟩
  obtain ⟨content, last⟩ : ∃ content, lastStored settings (extractedPrefix row.storagePrefix)
      (unpackData settings library data).files
      (memberKey settings (extractedPrefix row.storagePrefix) file.1) = some content :=
    lastStored_of_mem member
  have shows : after.Shows settings row after.disk.objects app :=
    shows_of_makeCurrent reachable.wellFormed formed applied found oldPresent oldOwner uncached
      present owner
  have named := unpackData_safe member
  have normal := normalizeRelativePath_of_safe named.1 named.2 asIs.2.2
  refine ⟨content, last, ?_⟩
  rw [(run_shows visits quiet shows).answer, if_pos live]
  refine siteAnswer_stored named.1 ((validateServePath_eq_self normal).mpr asIs) responds ?_ page
  rw [extractedFileKey_of_safe named.1]
  exact stores _ _ last

/-! The first site, and an archive whose one page is not the index. -/

def siteToFinalize (library : Library) : World :=
  runFrom defaultSettings library emptyWorld uploadedSite

def finalizedSite (library : Library) : Except Error Unit × World :=
  (Request.finalize ⟨2⟩ (some 7) []).run defaultSettings library [] (siteToFinalize library)

theorem stored_names_served_firstSite :
    ∃ row ∈ (siteToFinalize demoLibrary).db.deployments, row.id = ⟨2⟩ ∧ ∃ data,
      (siteToFinalize demoLibrary).disk.objects.lookup (artifactKey defaultSettings row) = some data ∧
      ∀ app ∈ (finalizedSite demoLibrary).2.db.apps, app.id = row.app →
      app.unexpired (runFrom defaultSettings demoLibrary (finalizedSite demoLibrary).2
        [.passes 1]).clock = true →
      ∀ file ∈ (unpackData defaultSettings demoLibrary data).files, ServedAsIs file.1 →
      Respondable demoLibrary (extractedFileKey defaultSettings row file.1) file.1 →
      (looksLikeStaticAsset demoLibrary file.1 = true ∨
        extractedFileKey defaultSettings row indexHtml ∈ (finalizedSite demoLibrary).2.disk.objects) →
      ∃ content, lastStored defaultSettings (extractedPrefix row.storagePrefix)
          (unpackData defaultSettings demoLibrary data).files
          (memberKey defaultSettings (extractedPrefix row.storagePrefix) file.1) = some content ∧
        (visit defaultSettings demoLibrary app.slug (slash :: file.1) []
          (runFrom defaultSettings demoLibrary (finalizedSite demoLibrary).2 [.passes 1])).1 =
            .ok (.file file.1 content) := by
  have accepted : (finalizedSite demoLibrary).1 = .ok () := by decide +kernel
  have returned : finalizedSite demoLibrary = (.ok (), (finalizedSite demoLibrary).2) := by
    rw [← accepted]
  obtain ⟨row, found, same, data, stored, served⟩ := (stored_names_served defaultSettings demoLibrary
    (siteToFinalize demoLibrary) (reachable_from_empty ..) ⟨2⟩ (some 7) [] [] _ returned).2
  exact ⟨row, found, same, data, stored, served [.passes 1] (by simp [Occurrence.Quiet])⟩

def aboutMembers : List TarMember :=
  [⟨lit "about.html", true, 2, .ok (some ⟨[page], none⟩)⟩]

/-- A page is not served without an index page, and a name with two dots in a row not at all. -/
theorem stored_page_not_served :
    let library := Library.knowing indexArchive aboutMembers
    (finalizedSite library).1 = .ok () ∧
      (lit "about.html", page) ∈ (unpackData defaultSettings library indexArchive).files ∧
      (visit defaultSettings library (letterDraw 3).candidate (lit "/about.html") []
        (finalizedSite library).2).1 = .ok (.siteUnavailable .unavailable) ∧
      normalizeRelativePath (lit "a..b.js") = some (lit "a..b.js") ∧
      validateServePath (lit "a..b.js") ≠ .ok (lit "a..b.js") := by
  decide +kernel

end HostingService
