import HostingService.Hosting.Emptied
import HostingService.Hosting.Uploads

/-! The site of a finalized deployment is its archive: what its visitors are answered is
decided by the bytes of the upload, whatever was stored and asked before. -/

namespace HostingService

open Program Text Storage Transaction

/-- The key is the root of the site, or below it. -/
def AtSite (settings : Settings) (row : Deployment) (key : PyStr) : Prop :=
  key = siteRoot settings row ∨ InFolder (siteRoot settings row) key

/-- Nothing is stored at the site but keys of this kind. -/
def OnlyLeft (settings : Settings) (row : Deployment) (kind : PyStr → Prop) (objects : Objects) :
    Prop :=
  ∀ key ∈ objects, AtSite settings row key → kind key

/-- What the clean-up before an extraction gets to on a file system that answers. -/
def Sweepable (settings : Settings) (row : Deployment) (key : PyStr) : Prop :=
  isS3Backend settings = false ∧ InFolder (siteRoot settings row) key

/-- The clean-up leaves nothing at the site: there is nothing, or it gets to all of it and the
store answers. On S3 it may skip objects, and on disk a failed look at the root skips it. -/
def SiteClears (settings : Settings) (row : Deployment) (objects : Objects)
    (faults : List (Option Error)) : Prop :=
  OnlyLeft settings row (fun _ => False) objects ∨
    OnlyLeft settings row (Sweepable settings row) objects ∧ faults = []

/-- A store that holds the files of an archive and nothing else. -/
def archiveObjects (settings : Settings) (row : Deployment) (files : List SiteFile) : Objects :=
  files.foldl (fun objects file =>
    objects.insert (memberKey settings (extractedPrefix row.storagePrefix) file.1) file.2) ∅

/-- The bytes of the upload went through the extraction, and at the site is what they store. -/
def Placed (settings : Settings) (library : Library) (row : Deployment) (data : Bytes)
    (objects : Objects) : Prop :=
  ∀ key, AtSite settings row key → objects.lookup key =
    lastStored settings (extractedPrefix row.storagePrefix) (unpackData settings library data).files key

section
variable {settings : Settings} {library : Library} {world : World} {row : Deployment}

theorem atSite_memberKey (rel : PyStr) :
    AtSite settings row (memberKey settings (extractedPrefix row.storagePrefix) rel) := by
  rw [AtSite, ← extractedRoot_eq_siteRoot, memberKey_root settings (storagePrefix_anchored row)]
  split
  · exact .inl rfl
  · exact .inr (InFolder.below _ _)

theorem AtSite.deeper {key : PyStr} (inside : AtSite settings row key) (rest : PyStr) :
    AtSite settings row (key ++ slash :: rest) := by
  rcases inside with rfl | inside
  · exact .inr (InFolder.below _ _)
  · exact .inr (inside.deeper _)

theorem AtSite.inFolder {key : PyStr} (inside : AtSite settings row key) :
    InFolder (folderKey settings row) key := by
  have root := extractedRoot_inFolder settings row
  rw [extractedRoot_eq_siteRoot] at root
  rcases inside with rfl | inside
  · exact root
  · obtain ⟨rel, rfl⟩ := inFolder_iff.mp inside
    exact root.deeper _

theorem artifactKey_not_atSite : ¬ AtSite settings row (artifactKey settings row) := by
  rw [AtSite, ← extractedRoot_eq_siteRoot]
  rintro (same | inside)
  · rw [extractedRoot_deployment, artifactKey_eq] at same
    exact absurd (List.append_cancel_left same) (by decide)
  · exact artifactKey_not_below row inside

theorem lookup_archiveObjects (files : List SiteFile) (key : PyStr) :
    (archiveObjects settings row files).lookup key =
      lastStored settings (extractedPrefix row.storagePrefix) files key := by
  suffices every : ∀ objects : Objects,
      (files.foldl (fun objects file => objects.insert
        (memberKey settings (extractedPrefix row.storagePrefix) file.1) file.2) objects).lookup key =
      (lastStored settings (extractedPrefix row.storagePrefix) files key).or (objects.lookup key) by
    rw [archiveObjects, every ∅]
    exact Option.or_none
  induction files with
  | nil => exact fun _ => rfl
  | cons file files ih =>
    intro objects
    rw [List.foldl_cons, ih, lastStored_cons, Option.or_assoc]
    congr 1
    by_cases same : memberKey settings (extractedPrefix row.storagePrefix) file.1 = key
    · subst same
      rw [if_pos rfl, AList.lookup_insert]
      rfl
    · rw [if_neg same, AList.lookup_insert_ne (Ne.symm same)]
      rfl

/-- Answers depend on what is stored at the site alone. -/
theorem siteAnswer_site {first second : Objects} (same : SameWithin (AtSite settings row) first second)
    (pathInfo : PyStr) (faults : List (Option Error)) :
    siteAnswer settings library row pathInfo ⟨second, faults⟩ =
      siteAnswer settings library row pathInfo ⟨first, faults⟩ := by
  have file (rel : PyStr) : AtSite settings row (extractedFileKey settings row rel) :=
    atSite_memberKey (lstripSlash rel)
  have looks : (serveDeployment settings library row (lstripSlash pathInfo)).All
      (Looks (AtSite settings row)) := serveDeployment_all (fun rel => file rel) (file indexHtml) _
  exact run_looks _ looks (fun _ _ inside => inside.deeper _) same faults

theorem Placed.answer {data : Bytes} {objects : Objects}
    (placed : Placed settings library row data objects) (pathInfo : PyStr)
    (faults : List (Option Error)) :
    siteAnswer settings library row pathInfo ⟨objects, faults⟩ =
      siteAnswer settings library row pathInfo
        ⟨archiveObjects settings row (unpackData settings library data).files, faults⟩ := by
  refine siteAnswer_site (fun key inside => ?_) pathInfo faults
  rw [placed key inside, lookup_archiveObjects]

/-! ### Extraction from a clear site -/

theorem ensures_deleteExtractedPrefix {disk : Disk Error}
    (clears : SiteClears settings row disk.objects disk.faults) :
    (deleteExtractedPrefix settings row.storagePrefix).Ensures
      (StorageCall.handle (storageBackend settings))
      (Prog.Returned fun _ after => ∀ key ∈ after.objects, ¬ AtSite settings row key) disk := by
  have removes : (deleteExtractedPrefix settings row.storagePrefix).All
      (Changes (fun _ => True) fun _ => False) :=
    deleteExtractedPrefix_changes settings (storagePrefix_anchored row) fun _ => trivial
  have kept := @ensures_no_more settings _ _ removes disk
  rcases clears with blank | ⟨sweepable, answers⟩
  · refine kept.mono fun result after fewer => ?_
    cases result with
    | error error => trivial
    | ok value => exact fun key stored inside => blank key (fewer key stored) inside
  · obtain ⟨objects, faults⟩ := disk
    obtain rfl : faults = [] := answers
    obtain ⟨after, ran, onDisk, _⟩ := run_deleteExtractedPrefix settings
      (storagePrefix_anchored row) objects
    rw [Prog.Ensures, show (⟨objects, []⟩ : Disk Error) = answering objects from rfl, ran] at kept ⊢
    intro key stored inside
    obtain ⟨disk, below⟩ := sweepable key (kept key stored) inside
    rw [← extractedRoot_eq_siteRoot] at below
    exact AList.lookup_eq_none.mp ((onDisk disk).removed key below) stored

/-- The unpacking saves nothing but the files of the archive. -/
theorem unpackArtifact_saves (data : Bytes) {good : PyStr → Prop}
    (files : ∀ file ∈ (unpackData settings library data).files,
      good (memberKey settings (extractedPrefix row.storagePrefix) file.1)) :
    (unpackArtifact settings library row data).All (Saves good) := by
  unfold unpackArtifact
  unfold unpackData at files
  by_cases empty : data = []
  · rw [if_pos empty]
    trivial
  · rw [if_neg empty] at files ⊢
    rcases opened : library.tarOpen data with error | tar
    · cases error <;> trivial
    rw [opened] at files
    simp only at files ⊢
    rcases listed : tar.getmembers with error | members
    · refine .tryCatch (Prog.all_ofExcept_bind.mpr fun _ other => by cases other) fun error => ?_
      exact .bind (.when fun _ => deleteExtractedPrefix_changes settings (storagePrefix_anchored row)
        fun _ => trivial) fun _ => Prog.all_raise error
    · rw [listed] at files
      refine .tryCatch ?_ fun error => ?_
      · simp only [Except.mapError, Prog.ofExcept_ok, Prog.ret_bind, extractTarMembers_eq]
        refine .bind (.forEach fun file stored => ?_) fun _ => Prog.all_ofExcept _
        exact replaceFile_changes file.2 trivial (files file stored)
      · exact .bind (.when fun _ => deleteExtractedPrefix_changes settings (storagePrefix_anchored row)
          fun _ => trivial) fun _ => Prog.all_raise error

theorem ensures_unpack_placed {data : Bytes} {disk : Disk Error}
    (emptied : ∀ key ∈ disk.objects, ¬ AtSite settings row key) :
    (unpackArtifact settings library row data).Ensures
      (StorageCall.handle (storageBackend settings))
      (Prog.Returned fun _ after => Placed settings library row data after.objects) disk := by
  let good (key : PyStr) : Prop := AtSite settings row key →
    ∃ file ∈ (unpackData settings library data).files,
      memberKey settings (extractedPrefix row.storagePrefix) file.1 = key
  have saves : (unpackArtifact settings library row data).All (Saves good) :=
    unpackArtifact_saves data fun file member _ => ⟨file, member, rfl⟩
  have kept : (unpackArtifact settings library row data).Ensures
      (StorageCall.handle (storageBackend settings)) (fun _ after => ∀ key ∈ after.objects, good key)
      disk :=
    run_saves (storageBackend settings) saves disk fun key stored inside =>
      absurd inside (emptied key stored)
  refine ((ensures_unpackArtifact data disk).and kept).mono fun result after ended => ?_
  cases result with
  | error error => trivial
  | ok count =>
    obtain ⟨⟨_, stores⟩, only⟩ := ended
    intro key inside
    rcases last : lastStored settings (extractedPrefix row.storagePrefix)
        (unpackData settings library data).files key with _ | content
    · refine AList.lookup_eq_none.mpr fun stored => ?_
      obtain ⟨file, member, same⟩ := only key stored inside
      exact lastStored_eq_none.mp last file member same
    · exact stores key content last

theorem ensures_extract_placed {data : Bytes} {disk : Disk Error}
    (stored : disk.objects.lookup (artifactKey settings row) = some data)
    (clears : SiteClears settings row disk.objects disk.faults) :
    (extractDeploymentArtifact settings library row).Ensures
      (StorageCall.handle (storageBackend settings))
      (Prog.Returned fun _ after => Placed settings library row data after.objects) disk := by
  have tested : (Prog.perform (.hasKey (artifactKey settings row)) : StorageProg Bool).Ensures
      (StorageCall.handle (storageBackend settings)) (Prog.Returned fun _ after =>
        after.objects = disk.objects ∧ (disk.faults = [] → after.faults = [])) disk := by
    have same : (Prog.perform (.hasKey (artifactKey settings row)) : StorageProg Bool).Ensures
        (StorageCall.handle (storageBackend settings))
        (Prog.Returned fun _ after => after.objects = disk.objects) disk :=
      ensures_storageCall fun _ _ _ => rfl
    have steady : Prog.Ensures (StorageCall.handle (storageBackend settings)) _
        (fun _ after => disk.faults = [] → after.faults = []) disk :=
      fun answers => ensures_answering (.perform (.hasKey (artifactKey settings row))) answers
    refine (same.and steady).mono fun result after ended => ?_
    cases result with
    | error error => trivial
    | ok value => exact ended
  have artifactKept (middle : Disk Error) :
      (deleteExtractedPrefix settings row.storagePrefix).Ensures
        (StorageCall.handle (storageBackend settings)) (fun _ after =>
          after.objects.lookup (artifactKey settings row) =
            middle.objects.lookup (artifactKey settings row)) middle := by
    have writes : (deleteExtractedPrefix settings row.storagePrefix).All
        (Writes (InFolder (extractedRoot settings row.storagePrefix))) :=
      deleteExtractedPrefix_changes settings (storagePrefix_anchored row) fun rest =>
        InFolder.below _ rest
    exact run_sameOutside (storageBackend settings) writes middle _ (artifactKey_not_below row)
  have opened (middle : Disk Error) (holds : middle.objects.lookup (artifactKey settings row) = some data) :
      (Prog.perform (.read (artifactKey settings row)) : StorageProg Bytes).Ensures
        (StorageCall.handle (storageBackend settings)) (Prog.Returned fun found after =>
          found = data ∧ after.objects = middle.objects) middle := by
    refine ensures_storageCall fun found faults answered => ?_
    simp only [StorageCall.exec, holds] at answered ⊢
    exact ⟨(Except.ok.inj answered).symm, trivial⟩
  rw [extractDeploymentArtifact]
  refine tested.bind (fun _ _ _ => trivial) fun found first looked => ?_
  obtain ⟨same, steady⟩ := looked
  refine Prog.ensures_check.mpr ⟨fun _ => trivial, fun _ => ?_⟩
  have clearNow : SiteClears settings row first.objects first.faults := by
    rw [same]
    exact clears.imp id fun sweeps => ⟨sweeps.1, steady sweeps.2⟩
  refine ((ensures_deleteExtractedPrefix clearNow).and (artifactKept first)).bind
    (fun _ _ _ => trivial) fun _ middle ended => ?_
  obtain ⟨emptied, kept⟩ := ended
  rw [same, stored] at kept
  refine (opened middle kept).bind (fun _ _ _ => trivial) fun found last read => ?_
  obtain ⟨rfl, unchanged⟩ := read
  refine ensures_unpack_placed ?_
  rw [unchanged]
  exact emptied

/-! ### Finalizing -/

/-- After the extraction no statement of the activation changes a file. -/
theorem ensures_activate_placed {data : Bytes}
    (stored : world.disk.objects.lookup (artifactKey settings row) = some data)
    (clears : SiteClears settings row world.disk.objects world.disk.faults)
    (actor : Option Actor) :
    (activateDeployment settings library row actor).Ensures (Statement.handle settings)
      (Prog.Returned fun _ after => Placed settings library row data after.disk.objects) world := by
  rw [activateDeployment]
  refine Prog.ensures_check.mpr ⟨fun _ => trivial, fun _ => ?_⟩
  refine Prog.ensures_check.mpr ⟨fun _ => trivial, fun _ => ?_⟩
  have extracted : (Prog.tryCatch (storage (extractDeploymentArtifact settings library row))
      fun error => throw (artifactMissing error)).Ensures (Statement.handle settings)
      (Prog.Returned fun _ after => Placed settings library row data after.disk.objects) world := by
    have unpacked : (storage (extractDeploymentArtifact settings library row)).Ensures
        (Statement.handle settings) (Prog.Returned fun _ after =>
          Placed settings library row data after.disk.objects) world := by
      refine ensures_storage_last.mpr ((ensures_extract_placed stored clears).mono fun result _ ended => ?_)
      cases result with
      | error error => trivial
      | ok count => exact ended
    exact unpacked.tryCatch (fun _ _ ended => ended) fun _ _ _ => trivial
  refine extracted.bind (fun _ _ _ => trivial) fun count middle placed => ?_
  refine Prog.Ensures.mono
    (ensures_sameOutside (?_ : Prog.All (OnStorage (Writes fun _ => False)) _)) fun result after same => ?_
  · exact ((permits_onStorage 0).all_appOf row).bind fun app =>
      all_activated (permits_onStorage _) row actor
  · cases result with
    | error error => trivial
    | ok active => exact fun key inside => (same key id).trans (placed key inside)

theorem ensures_finalize_placed {data : Bytes}
    (stored : world.disk.objects.lookup (artifactKey settings row) = some data)
    (clears : SiteClears settings row world.disk.objects world.disk.faults)
    (userId : Option Nat) (actorEmail : PyStr) :
    (finalizeDeployment settings library row userId actorEmail).Ensures (Action.handle settings)
      (Prog.Returned fun active after => Activates settings row world (.ok active) after ∧
        Placed settings library row data after.disk.objects) world := by
  have activated (actor : Option Actor) :
      (Service.atomic (activateDeployment settings library row actor)).Ensures
        (Action.handle settings) (Prog.Returned fun active after =>
          Activates settings row world (.ok active) after ∧
            Placed settings library row data after.disk.objects) world := by
    refine Service.ensures_atomic_returned
      (((ensures_activate row actor).and (ensures_activate_placed stored clears actor)).mono ?_)
    intro result after ended
    cases result with
    | error error => trivial
    | ok active => exact ended
  rw [finalizeDeployment]
  refine (activated _).tryCatch (fun _ _ ended => ended) fun error after _ => ?_
  cases error with
  | extractError message => exact Prog.ensures_then_raise
  | _ => trivial

/-! ### From the upload to the finalize -/

/-- The table has the row, whatever its other columns. -/
def Sites.Has (row : Deployment) (sites : Sites) : Prop :=
  ∃ stored ∈ sites.deployments, stored.id = row.id ∧ stored.app = row.app

/-- Anything but a request that uploads to the deployment, finalizes it or deletes its app. -/
def Occurrence.LeavesAlone (row : Deployment) : Occurrence → Prop
  | .request (.upload id _ _) _ => id ≠ row.id
  | .request (.finalize id _ _) _ => id ≠ row.id
  | .request (.delete id _ _) _ => id ≠ row.app
  | _ => True

theorem Sites.Has.map {sites : Sites} {change : Deployment → Deployment}
    (keeps : KeepsDeployment change) (has : sites.Has row) :
    ({ sites with deployments := sites.deployments.map change } : Sites).Has row := by
  obtain ⟨stored, member, id, owner⟩ := has
  exact ⟨change stored, List.mem_map_of_mem member, (keeps.id stored).trans id,
    (keeps.owner stored).trans owner⟩

theorem Sites.Has.insert {sites : Sites} (has : sites.Has row) (other : Deployment) :
    (sites.insertDeployment other).Has row := by
  obtain ⟨stored, member, facts⟩ := has
  exact ⟨stored, List.mem_append_left _ member, facts⟩

theorem keepsDeployment_reopen (other : Deployment) (columns : DeploymentColumns) :
    Sites.KeepsDeployment fun old => if old.id = other.id then old.assign columns else old := by
  constructor
  all_goals intro old
  all_goals split <;> rfl

/-- Only the deletion of its app takes a row away. -/
theorem Request.Admits.has {request : Request} {act : Act} {now : Time} {sites : Sites}
    (admitted : request.Admits settings library now sites act) (spares : ¬ request.Deletes row.app)
    (has : sites.Has row) : (act.apply sites).Has row := by
  cases admitted with
  | createApp => exact has
  | createPreview => exact has.insert _
  | redeploy => exact has.insert _
  | createDeployment => exact has.insert _
  | upload => exact has.map (keepsDeployment_reopen _ _)
  | markFailed => exact has.map (keepsDeployment_reopen _ _)
  | activate => exact has.map (keepsDeployment_currentRow _ _ _)
  | rollback => exact has.map (keepsDeployment_currentRow _ _ _)
  | renew => exact has
  | delete =>
    obtain ⟨stored, member, id, owner⟩ := has
    refine ⟨stored, List.mem_filter.mpr ⟨member, ?_⟩, id, owner⟩
    rw [owner]
    simpa using fun same : row.app = _ => spares same.symm

theorem Occurrence.next_has (occurrence : Occurrence) (spares : occurrence.Spares row.app)
    (has : world.db.sites.Has row) : (occurrence.next settings library world).db.sites.Has row := by
  rcases occurrence.next_sites settings library world with
    same | ⟨request, faults, act, rfl, admitted, applied, _⟩
  · rw [same]
    exact has
  · rw [applied]
    exact admitted.has spares has

theorem Occurrence.LeavesAlone.spares {occurrence : Occurrence} (alone : occurrence.LeavesAlone row) :
    occurrence.Spares row.app := by
  cases occurrence with
  | request asked faults =>
    cases asked with
    | delete => exact fun same => alone same
    | _ => exact id
  | _ => trivial

/-- A request that leaves the deployment alone touches no file of its folder. -/
theorem Request.footprint_alone {request : Request} {faults : List (Option Error)} {sites : Sites}
    (alone : (Occurrence.request request faults).LeavesAlone row) {key : PyStr}
    (inside : InFolder (folderKey settings row) key) : ¬ request.Footprint settings sites key := by
  intro touched
  cases request with
  | upload =>
    obtain ⟨other, _, same, _, within⟩ := touched
    exact alone (same.symm.trans (folderKey_disjoint within inside).2)
  | finalize =>
    obtain ⟨other, _, same, _, within⟩ := touched
    exact alone (same.symm.trans (folderKey_disjoint within inside).2)
  | delete =>
    obtain ⟨other, _, owned, within⟩ := touched
    exact alone (owned.symm.trans (folderKey_disjoint within inside).1)
  | _ => exact touched

/-- The bytes are stored as the artifact, and only keys of one kind are left at the site. -/
structure World.Awaits (settings : Settings) (row : Deployment) (data : Bytes)
    (kind : PyStr → Prop) (world : World) : Prop where
  formed : world.db.sites.WellFormed
  present : world.db.sites.Has row
  artifact : world.disk.objects.lookup (artifactKey settings row) = some data
  left : OnlyLeft settings row kind world.disk.objects

theorem OnlyLeft.congr {kind : PyStr → Prop} {first second : Objects}
    (left : OnlyLeft settings row kind first)
    (same : SameWithin (AtSite settings row) first second) : OnlyLeft settings row kind second :=
  fun key stored inside => left key ((same.mem_iff inside).mp stored) inside

theorem Occurrence.next_awaits {data : Bytes} {kind : PyStr → Prop} (occurrence : Occurrence)
    (alone : occurrence.LeavesAlone row) (awaits : world.Awaits settings row data kind) :
    (occurrence.next settings library world).Awaits settings row data kind := by
  have folder : SameWithin (InFolder (folderKey settings row)) world.disk.objects
      (occurrence.next settings library world).disk.objects := by
    cases occurrence with
    | request request faults =>
      have changed : SameOutside (request.Footprint settings world.db.sites) world.disk.objects
        (request.run settings library faults world).2.disk.objects :=
        request.confined (world.withFaults faults)
      exact changed.within fun key inside => Request.footprint_alone alone inside
    | visit slug pathInfo faults =>
      exact (visit_reads slug pathInfo faults world).2.within fun _ _ => id
    | passes span => exact SameWithin.refl _ _
    | grants access => exact SameWithin.refl _ _
  refine ⟨occurrence.next_wellFormed settings library awaits.formed,
    occurrence.next_has alone.spares awaits.present, ?_, ?_⟩
  · exact (folder _ (artifactKey_inFolder settings row)).trans awaits.artifact
  · exact awaits.left.congr fun key inside => folder key inside.inFolder

theorem run_awaits {data : Bytes} {kind : PyStr → Prop} (occurrences : List Occurrence)
    (alone : ∀ occurrence ∈ occurrences, occurrence.LeavesAlone row)
    (awaits : world.Awaits settings row data kind) :
    (runFrom settings library world occurrences).Awaits settings row data kind := by
  induction occurrences generalizing world with
  | nil => exact awaits
  | cons occurrence later ih =>
    refine ih (fun other member => alone other (List.mem_cons_of_mem _ member)) ?_
    exact occurrence.next_awaits (alone occurrence List.mem_cons_self) awaits

/-! ### The upload -/

theorem ensures_saveArtifact (key : PyStr) (fileobj : Stream Error) (limit : Nat) (disk : Disk Error) :
    (saveArtifact key fileobj limit).Ensures (StorageCall.handle (storageBackend settings))
      (Prog.Returned fun _ after => ∀ other, after.objects.lookup other =
        if key = other then some fileobj.body else disk.objects.lookup other) disk := by
  rw [saveArtifact]
  refine Prog.ensures_ofExcept_bind.mpr ⟨fun _ _ => trivial, fun content read => ?_⟩
  obtain ⟨rfl, _⟩ := spool_ok read
  exact (ensures_replaceFile key fileobj.body disk).bind (fun _ _ _ => trivial) fun _ _ ended => ended

theorem ensures_upload_stores (fileobj : Stream Error) (contentLength : Option Nat) :
    (uploadDeploymentArtifact settings row fileobj contentLength).Ensures (Statement.handle settings)
      (Prog.Returned fun _ after => ∀ key, after.disk.objects.lookup key =
        if artifactKey settings row = key then some fileobj.body else world.disk.objects.lookup key)
      world := by
  rw [uploadDeploymentArtifact]
  refine Prog.ensures_check.mpr ⟨fun _ => trivial, fun _ => ?_⟩
  refine Prog.ensures_check.mpr ⟨fun _ => trivial, fun _ => ?_⟩
  refine ensures_storage.mpr ((ensures_saveArtifact (artifactKey settings row) fileobj
    settings.hostingMaxUploadBytes world.disk).mono fun result disk ended => ?_)
  cases result with
  | error error => trivial
  | ok size =>
    have saved : (execute (.saveDeployment row.id ⟨.uploading, some size, none⟩) >>= fun _ =>
        pure (row.assign ⟨.uploading, some size, none⟩) : Transaction Deployment).Ensures
        (Statement.handle settings) (Prog.Returned fun _ after => ∀ key, after.disk.objects.lookup key =
          if artifactKey settings row = key then some fileobj.body else world.disk.objects.lookup key)
        { world with disk } := ensures_execute.mpr ⟨fun _ _ => trivial, fun _ _ => ended⟩
    exact saved

/-- After an accepted upload the artifact is its body, and the site is what it was. -/
theorem upload_awaits {kind : PyStr → Prop} {fileobj : Stream Error} {contentLength : Option Nat}
    {faults : List (Option Error)} {uploaded : World} (formed : world.db.sites.WellFormed)
    (member : row ∈ world.db.deployments) (left : OnlyLeft settings row kind world.disk.objects)
    (ran : (Request.upload row.id fileobj contentLength).run settings library faults world =
      (.ok (), uploaded)) : uploaded.Awaits settings row fileobj.body kind := by
  have found : (world.withFaults faults).db.deployment row.id = some row :=
    Db.deployment_of_mem formed member
  have stores : ((Request.upload row.id fileobj contentLength).service settings library).Ensures
      (Action.handle settings) (Prog.Returned fun _ after => ∀ key, after.disk.objects.lookup key =
        if artifactKey settings row = key then some fileobj.body else world.disk.objects.lookup key)
      (world.withFaults faults) :=
    (upload_ensures_iff found).mpr ((ensures_upload_stores fileobj contentLength).bind
      (fun _ _ _ => trivial) fun _ _ ended => ended)
  have stored := stores.of_run ran
  have later : uploaded = Occurrence.next settings library world
      (.request (.upload row.id fileobj contentLength) faults) := (congrArg Prod.snd ran).symm
  refine ⟨later ▸ Occurrence.next_wellFormed settings library _ formed,
    later ▸ Occurrence.next_has _ id ⟨row, member, rfl, rfl⟩, ?_, ?_⟩
  · rw [stored, if_pos rfl]
  · refine left.congr fun key inside => ?_
    rw [stored, if_neg fun same => artifactKey_not_atSite (same ▸ inside)]

/-- The finalize of a deployment that awaits it. -/
theorem ensures_finalizeRequest_placed {data : Bytes} {kind : PyStr → Prop}
    (awaits : world.Awaits settings row data kind)
    (clears : SiteClears settings row world.disk.objects world.disk.faults)
    (userId : Option Nat) (actorEmail : PyStr) :
    ((Request.finalize row.id userId actorEmail).service settings library).Ensures
      (Action.handle settings) (Prog.Returned fun _ after =>
        ∃ stored ∈ world.db.deployments, stored.id = row.id ∧ stored.app = row.app ∧
          Activates settings stored world (.ok stored) after ∧
          Placed settings library row data after.disk.objects) world := by
  obtain ⟨stored, member, id, owner⟩ := awaits.present
  have place : stored.storagePrefix = row.storagePrefix := by
    rw [stored.storagePrefix_eq, row.storagePrefix_eq, id, owner]
  have artifact : world.disk.objects.lookup (artifactKey settings stored) = some data := by
    rw [artifactKey, place]
    exact awaits.artifact
  have clearsStored : SiteClears settings stored world.disk.objects world.disk.faults := by
    have site : siteRoot settings stored = siteRoot settings row := by rw [siteRoot, siteRoot, place]
    have same : AtSite settings stored = AtSite settings row := by
      funext key
      rw [AtSite, AtSite, site]
    have sweeps : Sweepable settings stored = Sweepable settings row := by
      funext key
      rw [Sweepable, Sweepable, site]
    rwa [SiteClears, OnlyLeft, OnlyLeft, same, sweeps]
  refine Service.ensures_loadRow trivial fun found lookup => ?_
  obtain ⟨present, same⟩ := Db.mem_of_deployment lookup
  obtain rfl := awaits.formed.deployment_eq present member (same.trans id.symm)
  refine (ensures_finalize_placed artifact clearsStored userId actorEmail).bind (fun _ _ _ => trivial)
    fun active after ended => ?_
  refine ⟨found, member, id, owner, ended.1, fun key inside => ?_⟩
  rw [← place]
  refine ended.2 key ?_
  rw [AtSite, siteRoot, place]
  exact inside

end

/-- From any state that can be reached: when an upload to a deployment is accepted and it is
finalized later, with anything in between that leaves it alone and whichever storage calls fail,
every visit of the site is answered from the files of the uploaded archive and nothing else,
unless the preview has expired. If an earlier build left files at the site, the clean-up of the
finalize gets to all of them and its storage calls go through. -/
theorem site_of_upload (settings : Settings) (library : Library) (world : World)
    (reachable : world.Reachable settings library) (row : Deployment)
    (member : row ∈ world.db.deployments)
    (fileobj : Stream Error) (contentLength : Option Nat) (faults : List (Option Error))
    (uploaded : World) (stored : (Request.upload row.id fileobj contentLength).run settings library
      faults world = (.ok (), uploaded))
    (between : List Occurrence) (alone : ∀ occurrence ∈ between, occurrence.LeavesAlone row)
    (userId : Option Nat) (actorEmail : PyStr) (laterFaults : List (Option Error))
    (clears : SiteClears settings row world.disk.objects laterFaults) (finalized : World)
    (activated : (Request.finalize row.id userId actorEmail).run settings library laterFaults
      (runFrom settings library uploaded between) = (.ok (), finalized))
    (visits : List Occurrence) (quiet : ∀ occurrence ∈ visits, occurrence.Quiet)
    (app : App) (present : app ∈ finalized.db.apps) (owner : app.id = row.app) (pathInfo : PyStr)
    (visitFaults : List (Option Error)) :
    (visit settings library app.slug pathInfo visitFaults
        (runFrom settings library finalized visits)).1 =
      if app.unexpired (runFrom settings library finalized visits).clock then
        siteAnswer settings library row pathInfo
          ⟨archiveObjects settings row (unpackData settings library fileobj.body).files, visitFaults⟩
      else .ok (.siteUnavailable .expired) := by
  have waits (kind : PyStr → Prop) (left : OnlyLeft settings row kind world.disk.objects) :
      (runFrom settings library uploaded between).Awaits settings row fileobj.body kind :=
    run_awaits between alone (upload_awaits reachable.wellFormed member left stored)
  have awaits := waits (fun _ => True) fun _ _ _ => trivial
  have clearsLater : SiteClears settings row
      (runFrom settings library uploaded between).disk.objects laterFaults :=
    clears.imp (fun blank => (waits _ blank).left) fun sweeps => ⟨(waits _ sweeps.1).left, sweeps.2⟩
  have later : finalized = Occurrence.next settings library (runFrom settings library uploaded between)
      (.request (.finalize row.id userId actorEmail) laterFaults) := (congrArg Prod.snd activated).symm
  have formedAfter : finalized.db.sites.WellFormed :=
    later ▸ Occurrence.next_wellFormed settings library _ awaits.formed
  have ready : ((runFrom settings library uploaded between).withFaults laterFaults).Awaits settings row
      fileobj.body fun _ => True := ⟨awaits.formed, awaits.present, awaits.artifact, awaits.left⟩
  obtain ⟨old, found, id, same, activates, placed⟩ :=
    (ensures_finalizeRequest_placed ready clearsLater userId actorEmail).of_run activated
  obtain ⟨oldApp, oldPresent, oldOwner, _, _, uncached, applied⟩ := activates
  have shows : finalized.Shows settings old finalized.disk.objects app :=
    shows_of_makeCurrent awaits.formed formedAfter applied found oldPresent oldOwner uncached present
      (owner.trans same.symm)
  rw [(run_shows visits quiet shows).answer pathInfo visitFaults]
  have place : old.storagePrefix = row.storagePrefix := by
    rw [old.storagePrefix_eq, row.storagePrefix_eq, id, same]
  rw [siteAnswer_row place, placed.answer]

/-! The first build of an app, finalized some time after its upload. -/

def draftedSite : World :=
  runFrom defaultSettings demoLibrary emptyWorld
    [(Request.createApp demoApp).served, (Request.createDeployment ⟨1⟩ (build ⟨2⟩)).served]

def draftUpload : Except Error Unit × World :=
  (Request.upload firstDraft.id ⟨[indexArchive], none⟩ none).run defaultSettings demoLibrary [] draftedSite

def draftFinalize : Except Error Unit × World :=
  (Request.finalize firstDraft.id (some 7) []).run defaultSettings demoLibrary []
    (runFrom defaultSettings demoLibrary draftUpload.2 [.passes 1])

theorem site_of_upload_firstDraft :
    draftFinalize.2.db.apps.map (·.id) = [firstDraft.app] ∧
      ∀ app ∈ draftFinalize.2.db.apps, app.id = firstDraft.app → ∀ pathInfo faults,
        (visit defaultSettings demoLibrary app.slug pathInfo faults
            (runFrom defaultSettings demoLibrary draftFinalize.2 [.passes 1])).1 =
          if app.unexpired (runFrom defaultSettings demoLibrary draftFinalize.2 [.passes 1]).clock then
            siteAnswer defaultSettings demoLibrary firstDraft pathInfo
              ⟨archiveObjects defaultSettings firstDraft
                (unpackData defaultSettings demoLibrary indexArchive).files, faults⟩
          else .ok (.siteUnavailable .expired) := by
  obtain ⟨member, blank⟩ : firstDraft ∈ draftedSite.db.deployments ∧
      draftedSite.disk.objects.keys = [] := by decide +kernel
  obtain ⟨received, accepted, apps⟩ : draftUpload.1 = .ok () ∧ draftFinalize.1 = .ok () ∧
      draftFinalize.2.db.apps.map (·.id) = [firstDraft.app] := by decide +kernel
  have clears : SiteClears defaultSettings firstDraft draftedSite.disk.objects [] := by
    refine .inl fun key stored => ?_
    rw [AList.mem_keys, blank] at stored
    exact absurd stored List.not_mem_nil
  have stored : draftUpload = (.ok (), draftUpload.2) := by
    rw [← received]
  have activated : draftFinalize = (.ok (), draftFinalize.2) := by
    rw [← accepted]
  have body : (⟨[indexArchive], none⟩ : Stream Error).body = indexArchive := by rfl
  refine ⟨apps, fun app present owner pathInfo faults => ?_⟩
  have answered := site_of_upload defaultSettings demoLibrary draftedSite (reachable_from_empty ..)
    firstDraft member ⟨[indexArchive], none⟩ none [] draftUpload.2 stored [.passes 1]
    (by simp [Occurrence.LeavesAlone]) (some 7) [] [] clears draftFinalize.2 activated [.passes 1]
    (by simp [Occurrence.Quiet]) app present owner pathInfo faults
  rwa [body] at answered

end HostingService
