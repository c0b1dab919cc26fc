import HostingService.Hosting.Agreement
import HostingService.Hosting.Exactness
import HostingService.Hosting.Runs
import HostingService.Program.Tables

/-! An upload over a stored artifact: what it leaves when it does not succeed. -/

namespace HostingService

open Program Text Storage Transaction

/-- The body of a request: what its reads give before the first empty one. -/
def Stream.body {Failure : Type} (fileobj : Stream Failure) : Bytes :=
  (fileobj.chunks.takeWhile (· ≠ [])).flatten

/-- Without success the artifact and the row are as they were; with it the artifact is the
body of the request, within the limit, and the row has its length. -/
def UploadSound (settings : Settings) (row : Deployment) (body : Bytes) (before : World) :
    Except Error Unit × World → Prop
  | (.error _, after) =>
    after.disk.objects.lookup (artifactKey settings row) =
        before.disk.objects.lookup (artifactKey settings row) ∧
      after.db.deployment row.id = some row
  | (.ok _, after) =>
    after.disk.objects.lookup (artifactKey settings row) = some body ∧
      body.length ≤ settings.hostingMaxUploadBytes ∧
        ∃ kept, after.db.deployment row.id = some kept ∧ kept.artifactSize = body.length

/-- The upload comes to the store: the status allows it, and its body was read to the end,
within the limit. -/
structure UploadStores (settings : Settings) (row : Deployment) (fileobj : Stream Error)
    (contentLength : Option Nat) : Prop where
  status : row.status ∈ [.draft, .uploading, .failed]
  declared : ∀ length ∈ contentLength, length ≤ settings.hostingMaxUploadBytes
  read : ∃ content, spool settings.hostingMaxUploadBytes fileobj = .ok content

/-- The store takes the old artifact away, and then its `save` raises: the third call fails,
or all three go through and the store has no room at the key. -/
def RefusesSave (settings : Settings) (key : PyStr) (objects : Objects)
    (faults : List (Option Error)) : Prop :=
  (∃ error rest, faults = none :: none :: some error :: rest) ∨
    (∀ outcome ∈ faults.take 3, outcome = none) ∧
      ¬ (storageBackend settings).Takes (· ∈ objects) key

section
variable {settings : Settings} {library : Library} {world : World}

theorem readUpTo_ok {limit : Nat} {beyond : Error} {failure : Option Error} {chunks : List Bytes}
    {content read : Bytes} (within : content.length ≤ limit)
    (ended : readUpTo limit beyond failure chunks content = .ok read) :
    read = content ++ (chunks.takeWhile (· ≠ [])).flatten ∧ read.length ≤ limit := by
  induction chunks generalizing content with
  | nil =>
    rw [readUpTo] at ended
    cases failure with
    | none =>
      cases ended
      simp [within]
    | some error => cases ended
  | cons chunk chunks ih =>
    rw [readUpTo] at ended
    by_cases empty : chunk = []
    · rw [if_pos empty] at ended
      cases ended
      simp [empty, within]
    · rw [if_neg empty] at ended
      split at ended
      · cases ended
      · rename_i fits
        obtain ⟨rfl, bounded⟩ := ih (Nat.le_of_not_gt fits) ended
        rw [List.takeWhile_cons_of_pos (by simpa using empty), List.flatten_cons]
        exact ⟨List.append_assoc .., by rwa [List.append_assoc] at bounded ⊢⟩

theorem spool_ok {fileobj : Stream Error} {content : Bytes} {limit : Nat}
    (read : spool limit fileobj = .ok content) : content = fileobj.body ∧ content.length ≤ limit := by
  obtain ⟨same, within⟩ := readUpTo_ok (Nat.zero_le _) read
  exact ⟨same, within⟩

/-! What replacing a stored object comes to: one of the first two calls fails, the `save`
does, or none of them. -/

theorem faults_cases (faults : List (Option Error)) :
    (∃ error rest, faults = some error :: rest ∨ faults = none :: some error :: rest) ∨
      (∃ error rest, faults = none :: none :: some error :: rest) ∨
        ∀ outcome ∈ faults.take 3, outcome = none := by
  rcases faults with _ | ⟨_ | error, _ | ⟨_ | error, _ | ⟨_ | error, rest⟩⟩⟩
  all_goals simp

theorem run_replaceFile_early {key : PyStr} {content : Bytes} {objects : Objects}
    (present : key ∈ objects) {faults rest : List (Option Error)} {error : Error}
    (fails : faults = some error :: rest ∨ faults = none :: some error :: rest) :
    (replaceFile key content).run (StorageCall.handle (storageBackend settings)) ⟨objects, faults⟩ =
      (.error error, ⟨objects, rest⟩) := by
  rcases fails with rfl | rfl
  · rfl
  · simp [replaceFile, StorageCall.handle, Prog.run_bind, Prog.run_perform, StorageCall.exec, present]

theorem run_replaceFile_late {key : PyStr} {content : Bytes} {objects : Objects}
    (present : key ∈ objects) (rest : List (Option Error)) (error : Error) :
    (replaceFile key content).run (StorageCall.handle (storageBackend settings))
        ⟨objects, none :: none :: some error :: rest⟩ =
      (.error error, ⟨objects.erase key, rest⟩) := by
  simp [replaceFile, StorageCall.handle, Prog.run_bind, Prog.run_perform, StorageCall.exec, present]

theorem run_replaceFile_through {key : PyStr} {content : Bytes} {objects : Objects}
    (present : key ∈ objects) {faults : List (Option Error)}
    (answers : ∀ outcome ∈ faults.take 3, outcome = none) :
    (replaceFile key content).run (StorageCall.handle (storageBackend settings)) ⟨objects, faults⟩ =
      (((StorageCall.save key content).exec (storageBackend settings) (objects.erase key)).1,
        ⟨((StorageCall.save key content).exec (storageBackend settings) (objects.erase key)).2,
          faults.drop 3⟩) := by
  have deleted := exec_delete_stored (storageBackend settings) present
  rcases faults with _ | ⟨_ | error, _ | ⟨_ | error, _ | ⟨_ | error, rest⟩⟩⟩
  all_goals simp at answers
  all_goals simp [replaceFile, StorageCall.handle, Prog.run_bind, Prog.run_perform, deleted,
    show (StorageCall.hasKey key).exec (storageBackend settings) objects = (.ok true, objects) by
      simp [StorageCall.exec, present]]

/-- What storing the body comes to, once it was read. -/
theorem run_saveArtifact {key : PyStr} {fileobj : Stream Error} {limit : Nat}
    (read : spool limit fileobj = .ok fileobj.body) {faults rest : List (Option Error)}
    {result : Except Error Unit} {objects : Objects}
    (replaced : (replaceFile key fileobj.body).run (StorageCall.handle (storageBackend settings))
      ⟨world.disk.objects, faults⟩ = (result, ⟨objects, rest⟩)) :
    (storage (saveArtifact key fileobj limit)).run (Statement.handle settings)
        (world.withFaults faults) =
      (result.map fun _ => fileobj.body.length, { world with disk := ⟨objects, rest⟩ }) := by
  have ran : (replaceFile key fileobj.body).run (StorageCall.handle (storageBackend settings))
      (world.withFaults faults).disk = (result, ⟨objects, rest⟩) := replaced
  rw [run_storage, saveArtifact, read, Prog.ofExcept_ok, Prog.ret_bind, Prog.run_bind, ran]
  cases result <;> rfl

/-- The body of the service, once its row was found. -/
theorem upload_ensures_iff {row : Deployment} (found : world.db.deployment row.id = some row)
    {fileobj : Stream Error} {contentLength : Option Nat} {post : Except Error Unit → World → Prop} :
    ((Request.upload row.id fileobj contentLength).service settings library).Ensures
        (Action.handle settings) post world ↔
      (uploadDeploymentArtifact settings row fileobj contentLength >>= fun _ => pure ()).Ensures
        (Statement.handle settings) post world := by
  rw [Request.service, Service.ensures_autocommit, loadRow, Prog.bind_assoc, ensures_select, found]
  rfl

theorem deployment_assign {db : Db} {row : Deployment} {columns : DeploymentColumns}
    (found : db.deployment row.id = some row) :
    ({ db with deployments := db.deployments.map fun old =>
      if old.id = row.id then old.assign columns else old } : Db).deployment row.id =
      some (row.assign columns) := by
  have looked : (update (·.id = row.id) (·.assign columns) db.deployments).find? (·.id = row.id) =
      (db.deployments.find? (·.id = row.id)).map fun old =>
        if old.id = row.id then old.assign columns else old := find?_update fun _ => rfl
  rw [Db.deployment] at found
  rw [found, Option.map_some, if_pos rfl] at looked
  exact looked

/-- The row is saved once its artifact is stored. -/
theorem ensures_saveUpload {row : Deployment} {body : Bytes} {before : World} {disk : Disk Error}
    (found : world.db.deployment row.id = some row)
    (stored : disk.objects.lookup (artifactKey settings row) = some body)
    (short : body.length ≤ settings.hostingMaxUploadBytes) :
    ((execute (.saveDeployment row.id ⟨.uploading, some body.length, none⟩) >>= fun _ =>
      pure (row.assign ⟨.uploading, some body.length, none⟩)) >>= fun _ =>
        (pure () : Transaction Unit)).Ensures (Statement.handle settings)
      (fun result after => UploadSound settings row body before (result, after)) { world with disk } := by
  have member : world.db.deployments.any (·.id = row.id) = true :=
    List.any_eq_true.mpr ⟨row, List.mem_of_find?_eq_some found, decide_eq_true rfl⟩
  rw [Prog.bind_assoc]
  refine ensures_execute.mpr ⟨fun error refused => ?_, fun db saved => ?_⟩
  · rw [Change.apply, if_pos member] at refused
    cases refused
  · rw [Change.apply, if_pos member] at saved
    cases saved
    exact ⟨stored, short, _, deployment_assign found, rfl⟩

/-- An upload over a stored artifact is all or nothing, unless the store takes the old
artifact away and then does not save the new one. -/
theorem upload_all_or_nothing (settings : Settings) (library : Library) (world : World)
    {row : Deployment} (found : world.db.deployment row.id = some row)
    (stored : artifactKey settings row ∈ world.disk.objects) (fileobj : Stream Error)
    (contentLength : Option Nat) (faults : List (Option Error)) :
    UploadSound settings row fileobj.body world
        ((Request.upload row.id fileobj contentLength).run settings library faults world) ↔
      ¬(UploadStores settings row fileobj contentLength ∧
        RefusesSave settings (artifactKey settings row) world.disk.objects faults) := by
  have ran : UploadSound settings row fileobj.body world
      ((Request.upload row.id fileobj contentLength).run settings library faults world) ↔
        ((Request.upload row.id fileobj contentLength).service settings library).Ensures
          (Action.handle settings)
          (fun result after => UploadSound settings row fileobj.body world (result, after))
          (world.withFaults faults) := Iff.rfl
  have unchanged (error : Error) (rest : List (Option Error)) :
      UploadSound settings row fileobj.body world (.error error, world.withFaults rest) :=
    ⟨rfl, found⟩
  have lands : (world.withFaults faults).db.deployment row.id = some row := found
  rw [ran, upload_ensures_iff lands, uploadDeploymentArtifact, Prog.bind_assoc]
  refine Prog.ensures_check.trans ?_
  by_cases status : row.status ∈ [.draft, .uploading, .failed]
  swap
  · refine ⟨fun _ stores => status stores.1.status, fun _ => ⟨fun _ => unchanged _ _, fun passed => ?_⟩⟩
    exact absurd status (of_decide_eq_false passed)
  rw [decide_eq_false (not_not.mpr status), Prog.bind_assoc]
  refine Iff.trans ⟨fun both => both.2 rfl, fun rest => ⟨(absurd · Bool.false_ne_true), fun _ => rest⟩⟩ ?_
  refine Prog.ensures_check.trans ?_
  by_cases declared : ∀ length ∈ contentLength, length ≤ settings.hostingMaxUploadBytes
  swap
  · have beyond : contentLength.any (· > settings.hostingMaxUploadBytes) = true := by
      cases contentLength with
      | none => exact absurd (fun _ impossible => by cases impossible) declared
      | some length => simpa using declared
    rw [beyond]
    exact ⟨fun _ stores => declared stores.1.declared, fun _ => ⟨fun _ => unchanged _ _, (absurd · Bool.false_ne_true.symm)⟩⟩
  have within : contentLength.any (· > settings.hostingMaxUploadBytes) = false := by
    cases contentLength with
    | none => rfl
    | some length => simpa using declared length rfl
  rw [within, Prog.bind_assoc]
  refine Iff.trans ⟨fun both => both.2 rfl, fun rest => ⟨(absurd · Bool.false_ne_true), fun _ => rest⟩⟩ ?_
  rcases read : spool settings.hostingMaxUploadBytes fileobj with error | content
  · rw [ensures_storage, saveArtifact, read]
    refine ⟨fun _ stores => ?_, fun _ => unchanged error faults⟩
    obtain ⟨content, again⟩ := stores.1.read
    rw [read] at again
    cases again
  obtain ⟨rfl, short⟩ := spool_ok read
  have stores : UploadStores settings row fileobj contentLength := ⟨status, declared, _, read⟩
  have lost (error : Error) (rest : List (Option Error)) :
      ¬ UploadSound settings row fileobj.body world
        (.error error, { world with disk := ⟨world.disk.objects.erase (artifactKey settings row), rest⟩ }) := by
    rintro ⟨same, _⟩
    have held := AList.lookup_isSome.mpr stored
    rw [← same, AList.lookup_erase] at held
    cases held
  rw [Prog.ensures_bind, Prog.Ensures]
  rcases faults_cases faults with ⟨error, rest, early⟩ | ⟨error, rest, rfl⟩ | through
  · rw [run_saveArtifact read (run_replaceFile_early stored early)]
    refine iff_of_true (unchanged error rest) ?_
    rintro ⟨_, ⟨_, _, late⟩ | ⟨answers, _⟩⟩
    · rcases early with rfl | rfl <;> cases late
    · rcases early with rfl | rfl <;> simp at answers
  · rw [run_saveArtifact read (run_replaceFile_late stored rest error)]
    exact iff_of_false (lost error rest) fun passes => passes ⟨stores, .inl ⟨error, rest, rfl⟩⟩
  · have replaced := @run_replaceFile_through settings _ fileobj.body _ stored _ through
    by_cases room : (storageBackend settings).Takes (· ∈ world.disk.objects) (artifactKey settings row)
    · have free := refusal_eq_none.mpr ((takes_erase settings _ _).mpr room)
      rw [exec_save_free _ _ free] at replaced
      rw [run_saveArtifact read replaced]
      refine iff_of_true (ensures_saveUpload found (AList.lookup_insert _) short) ?_
      rintro ⟨_, ⟨_, _, rfl⟩ | ⟨_, full⟩⟩
      · simp at through
      · exact full room
    · obtain ⟨error, refused⟩ := Option.ne_none_iff_exists'.mp
        (mt refusal_eq_none.mp (mt (takes_erase settings _ _).mp room))
      rw [exec_save_refused _ _ refused] at replaced
      rw [run_saveArtifact read replaced]
      exact iff_of_false (lost error _) fun passes => passes ⟨stores, .inr ⟨through, room⟩⟩

end

/-! ### A store that fails once -/

/-- The first draft, with its archive uploaded before. -/
def storedDraft : World :=
  { emptyWorld with
    db := { emptyWorld.db with deployments := [firstDraft] }
    disk := answering (AList.singleton (artifactKey defaultSettings firstDraft) indexArchive) }

/-- Another archive, by a request that declares no length. -/
def secondUpload : Request := .upload firstDraft.id ⟨[page], none⟩ none

theorem storedDraft_holds : artifactKey defaultSettings firstDraft ∈ storedDraft.disk.objects := by
  have keys : storedDraft.disk.objects.keys = [artifactKey defaultSettings firstDraft] :=
    AList.keys_singleton _ _
  rw [AList.mem_keys, keys]
  exact List.mem_singleton_self _

theorem upload_all_or_nothing_answering :
    UploadSound defaultSettings firstDraft page storedDraft
      (secondUpload.run defaultSettings demoLibrary [] storedDraft) := by
  have found : storedDraft.db.deployment firstDraft.id = some firstDraft := by decide
  have sound := upload_all_or_nothing defaultSettings demoLibrary storedDraft found storedDraft_holds
    ⟨[page], none⟩ none []
  refine sound.mpr fun both => ?_
  rcases both.2 with ⟨_, _, same⟩ | ⟨_, full⟩
  · cases same
  · refine full ⟨rfl, fun _ other member => ?_⟩
    have keys : storedDraft.disk.objects.keys = [artifactKey defaultSettings firstDraft] :=
      AList.keys_singleton _ _
    rw [AList.mem_keys, keys, List.mem_singleton] at member
    exact member ▸ Clashing.irrefl other

/-- The store answers `exists` and `delete`, and its `save` raises. -/
theorem upload_loses_artifact :
    ¬ ∀ (settings : Settings) (library : Library) (world : World) (row : Deployment)
        (_ : world.db.deployment row.id = some row)
        (_ : artifactKey settings row ∈ world.disk.objects) (fileobj : Stream Error)
        (contentLength : Option Nat) (faults : List (Option Error)),
      UploadSound settings row fileobj.body world
        ((Request.upload row.id fileobj contentLength).run settings library faults world) := by
  intro always
  have sound := always defaultSettings demoLibrary storedDraft firstDraft (by decide)
    storedDraft_holds ⟨[page], none⟩ none [none, none, some .osError]
  have failed : (secondUpload.run defaultSettings demoLibrary [none, none, some .osError]
      storedDraft).1 = .error .osError := by rfl
  have gone : (secondUpload.run defaultSettings demoLibrary [none, none, some .osError]
      storedDraft).2.disk.objects.lookup (artifactKey defaultSettings firstDraft) = none := by
    decide +kernel
  change UploadSound _ _ _ _ (secondUpload.run _ _ _ _) at sound
  rcases ran : secondUpload.run defaultSettings demoLibrary [none, none, some .osError] storedDraft
    with ⟨result, after⟩
  rw [ran] at sound failed gone
  cases failed
  have held := AList.lookup_isSome.mpr storedDraft_holds
  rw [← sound.1, gone] at held
  cases held

end HostingService
