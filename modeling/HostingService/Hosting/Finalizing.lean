import HostingService.Hosting.Agreement

/-! The two outcomes of a finalize on a store that answers every call: the archive is
published, or the failure is recorded and nothing else changes. -/

namespace HostingService

open Program Text Storage Transaction

/-- The whole archive can be read and stays within the limits. -/
def Readable (settings : Settings) (library : Library) (data : Bytes) : Prop :=
  data ≠ [] ∧ ∃ tar members count, library.tarOpen data = .ok tar ∧ tar.getmembers = .ok members ∧
    (unpack (extractLimits settings) members ⟨0, 0⟩).outcome = .ok count

/-- The bytes open and list as a tar, and every member that is reached can be read. -/
def Intact (settings : Settings) (library : Library) (data : Bytes) : Prop :=
  data ≠ [] ∧ ∃ tar members, library.tarOpen data = .ok tar ∧ tar.getmembers = .ok members ∧
    ∀ raised, (unpack (extractLimits settings) members ⟨0, 0⟩).outcome ≠ .error (.library raised)

/-- The deployment is active and current. -/
structure Published (row : Deployment) (result : Except Error Unit) (after : World) : Prop where
  returned : result = .ok ()
  active : ∃ stored, after.db.deployment row.id = some stored ∧ stored.status = .active
  current : ∃ app, after.db.app row.app = some app ∧ app.currentDeployment = some row.id

/-- The call raised and the deployment is failed, with one event; the app, the other
deployments and their files are as before. -/
structure FailedAlone (settings : Settings) (row : Deployment) (before : World)
    (result : Except Error Unit) (after : World) : Prop where
  raised : ∃ error, result = .error error
  failed : ∃ stored, after.db.deployment row.id = some stored ∧ stored.status = .failed
  reported : ∃ event, after.db.events = before.db.events ++ [event] ∧
    event.eventType = .deploymentFailed
  app : after.db.app row.app = before.db.app row.app
  others : ∀ other ∈ before.db.deployments, other.id ≠ row.id →
    after.db.deployment other.id = some other ∧
      SameWithin (InFolder (folderKey settings other)) before.disk.objects after.disk.objects

section
variable {settings : Settings} {library : Library} {world : World} {row : Deployment}
  {data : Bytes}

/-! ### How an archive may fail -/

/-- Over a limit, or an error of the library. -/
def BadArchive (error : Error) : Prop :=
  (∃ message, error = .extractError message) ∨ ∃ raised, error = .library raised

theorem BadArchive.artifactMissing {error : Error} (bad : BadArchive error) :
    artifactMissing error = error := by
  rcases bad with ⟨message, rfl⟩ | ⟨raised, rfl⟩ <;> rfl

theorem readUpTo_error {limit : Nat} {beyond error : Error} {failure : Option Error}
    {chunks : List Bytes} {content : Bytes}
    (failed : readUpTo limit beyond failure chunks content = .error error) :
    error = beyond ∨ failure = some error := by
  induction chunks generalizing content with
  | nil =>
    cases failure with
    | none => contradiction
    | some raised => exact .inr (congrArg some (Except.error.inj failed))
  | cons chunk chunks ih =>
    rw [readUpTo] at failed
    split at failed
    · contradiction
    · split at failed
      · exact .inl (Except.error.inj failed).symm
      · exact ih failed

theorem acceptMember_error {limits : ExtractLimits} {progress : Progress} {member : TarMember}
    {error : Error} (failed : acceptMember limits progress member = .error error) :
    BadArchive error := by
  unfold acceptMember at failed
  repeat' split at failed
  all_goals first | contradiction | skip
  all_goals obtain rfl := Except.error.inj failed
  · exact .inl ⟨_, rfl⟩
  · exact .inl ⟨_, rfl⟩
  · exact .inr ⟨_, rfl⟩
  · rename_i read
    rcases readUpTo_error read with rfl | ended
    · exact .inl ⟨_, rfl⟩
    · obtain ⟨raised, _, rfl⟩ := Option.map_eq_some_iff.mp ended
      exact .inr ⟨raised, rfl⟩
  · exact .inl ⟨_, rfl⟩

theorem unpack_error {limits : ExtractLimits} {members : List TarMember} {progress : Progress}
    {error : Error} (failed : (unpack limits members progress).outcome = .error error) :
    BadArchive error := by
  induction members generalizing progress with
  | nil => contradiction
  | cons member members ih =>
    rw [unpack] at failed
    split at failed
    · rename_i refused
      obtain rfl := Except.error.inj failed
      exact acceptMember_error refused
    · exact ih failed
    · exact ih failed

/-- An intact archive is readable, or over a limit. -/
theorem unpackData_intact (intact : Intact settings library data) :
    (Readable settings library data ∧ ∃ count, (unpackData settings library data).outcome = .ok count) ∨
      ¬ Readable settings library data ∧
        ∃ message, (unpackData settings library data).outcome = .error (.extractError message) := by
  obtain ⟨full, tar, members, opened, listed, read⟩ := intact
  have unpacks : unpackData settings library data =
      unpack (extractLimits settings) members ⟨0, 0⟩ := by
    simp only [unpackData, if_neg full, opened, listed]
  rcases outcome : (unpack (extractLimits settings) members ⟨0, 0⟩).outcome with error | count
  · rcases unpack_error outcome with ⟨message, rfl⟩ | ⟨raised, rfl⟩
    · refine .inr ⟨?_, message, by rw [unpacks, outcome]⟩
      rintro ⟨_, otherTar, others, count, openedAgain, listedAgain, done⟩
      obtain rfl := Except.ok.inj (opened.symm.trans openedAgain)
      obtain rfl := Except.ok.inj (listed.symm.trans listedAgain)
      rw [outcome] at done
      contradiction
    · exact absurd outcome (read raised)
  · exact .inl ⟨⟨full, tar, members, count, opened, listed, outcome⟩, count, by rw [unpacks, outcome]⟩

/-- Nothing says that an archive that is not intact is over a limit. -/
theorem unpackData_broken (broken : ¬ Intact settings library data) :
    ¬ Readable settings library data ∧
      ∀ message, (unpackData settings library data).outcome ≠ .error (.extractError message) := by
  constructor
  · rintro ⟨full, tar, members, count, opened, listed, done⟩
    refine broken ⟨full, tar, members, opened, listed, fun raised failed => ?_⟩
    rw [done] at failed
    contradiction
  · intro message beyond
    by_cases empty : data = []
    · simp [unpackData, empty] at beyond
    rcases opened : library.tarOpen data with error | tar
    · cases error <;> simp [unpackData, empty, opened] at beyond
    rcases listed : tar.getmembers with error | members
    · simp [unpackData, empty, opened, listed] at beyond
    · refine broken ⟨empty, tar, members, opened, listed, fun raised failed => ?_⟩
      simp only [unpackData, if_neg empty, opened, listed] at beyond
      rw [beyond] at failed
      simp at failed

theorem unpackData_error {error : Error}
    (failed : (unpackData settings library data).outcome = .error error) : BadArchive error := by
  unfold unpackData at failed
  repeat' split at failed
  all_goals first | contradiction | skip
  · exact .inr ⟨_, (Except.error.inj failed).symm⟩
  · exact .inr ⟨_, (Except.error.inj failed).symm⟩
  · exact unpack_error failed

/-! ### On a store that answers -/

theorem saveDeployment_succeeds {db : Db} {id : Uuid} {columns : DeploymentColumns} {error : Error}
    (present : id ∈ db.deployments.map (·.id)) :
    (Change.saveDeployment id columns).apply db ≠ .error error := by
  have found : db.deployments.any (·.id = id) = true := by
    simpa [List.any_eq_true] using present
  simp [Change.apply, found]

theorem saveApp_succeeds {db : Db} {id : Uuid} {column : AppColumn} {error : Error}
    (present : id ∈ db.apps.map (·.id)) : (Change.saveApp id column).apply db ≠ .error error := by
  have found : db.apps.any (·.id = id) = true := by
    simpa [List.any_eq_true] using present
  simp [Change.apply, found]

/-- The run returns. -/
def Returns {α : Type} (result : Except Error α) (_ : World) : Prop := ∃ value, result = .ok value

theorem ensures_appOf_found {α : Type} {app : App} {rest : App → Transaction α}
    {post : Except Error α → World → Prop} (found : world.db.app row.app = some app)
    (later : (rest app).Ensures (Statement.handle settings) post world) :
    (appOf row >>= rest).Ensures (Statement.handle settings) post world := by
  rw [appOf, Prog.bind_assoc, ensures_select, found]
  exact later

theorem ensures_makeCurrent_returns (app : App) (finalizedAt : Time)
    (found : row.id ∈ world.db.deployments.map (·.id)) :
    (makeCurrent app row finalizedAt).Ensures (Statement.handle settings) Returns world := by
  rw [makeCurrent]
  refine ensures_execute.mpr ⟨fun _ failed => (by cases failed), fun db applied => ?_⟩
  obtain rfl := Except.ok.inj applied
  have kept : row.id ∈ (world.db.deployments.map (·.supersededBy app.id row.id)).map (·.id) := by
    rwa [map_key_of_kept (Deployment.supersededBy_id app.id row.id)]
  exact ensures_execute.mpr ⟨fun _ failed => (saveDeployment_succeeds kept failed).elim,
    fun _ _ => ⟨_, rfl⟩⟩

theorem ensures_renewPreviewExpiry_returns {app : App}
    (present : app.id ∈ world.db.apps.map (·.id)) :
    (renewPreviewExpiry settings app).Ensures (Statement.handle settings) Returns world := by
  rw [renewPreviewExpiry]
  split
  · exact ⟨(), rfl⟩
  · rw [previewExpiresAt, Prog.bind_assoc]
    exact ensures_now.mpr (ensures_execute_last.mpr
      ⟨fun _ failed => (saveApp_succeeds present failed).elim, fun _ _ => ⟨(), rfl⟩⟩)

/-- The extraction on an answering store ends so, with an error that is passed on as it is. -/
structure ExtractEnds (settings : Settings) (library : Library) (row : Deployment)
    (objects : Objects) (outcome : Except Error Nat) : Prop where
  ran : ∃ after, (extractDeploymentArtifact settings library row).run
    (StorageCall.handle (storageBackend settings)) (answering objects) = (outcome, answering after)
  passes : ∀ error, outcome = .error error → artifactMissing error = error

/-- The extraction ends as the archive says, or the store has no room for its files. -/
theorem extractEnds (library : Library) {objects : Objects}
    (stored : objects.lookup (artifactKey settings row) = some data) :
    ∃ outcome, ExtractEnds settings library row objects outcome ∧
      (Room settings row objects (unpackData settings library data).files ∧
          outcome = (unpackData settings library data).outcome ∨
        ¬ Room settings row objects (unpackData settings library data).files ∧
          ∃ refusal : NameRefusal, outcome = .error refusal.error) := by
  by_cases room : Room settings row objects (unpackData settings library data).files
  · obtain ⟨after, ran, _⟩ := run_extractDeploymentArtifact library stored room
    refine ⟨_, ⟨⟨after, ran⟩, fun error failed => ?_⟩, .inl ⟨room, rfl⟩⟩
    exact (unpackData_error failed).artifactMissing
  · obtain ⟨refusal, after, ran⟩ := extract_refused library stored room
    refine ⟨_, ⟨⟨after, ran⟩, fun error failed => ?_⟩, .inr ⟨room, refusal, rfl⟩⟩
    obtain rfl := Except.error.inj failed
    cases refusal <;> rfl

/-- The activation raises what the extraction raises, and nothing else. -/
theorem ensures_activate_answered (actor : Option Actor) {outcome : Except Error Nat}
    (answers : world.disk = answering world.disk.objects) (formed : world.db.sites.WellFormed)
    (found : row ∈ world.db.deployments) (ready : row.status ∈ [.uploading, .ready, .draft])
    (full : row.artifactSize ≠ 0)
    (extraction : ExtractEnds settings library row world.disk.objects outcome) :
    (activateDeployment settings library row actor).Ensures (Statement.handle settings)
      (fun result _ => ∀ error, result = .error error ↔ outcome = .error error) world := by
  obtain ⟨⟨disk, ran⟩, passes⟩ := extraction
  have extracted : (Prog.tryCatch (storage (extractDeploymentArtifact settings library row))
      fun error => throw (artifactMissing error)).Ensures (Statement.handle settings)
      (fun result after => result = outcome ∧ ∃ disk, after = { world with disk }) world := by
    have unpacked : (storage (extractDeploymentArtifact settings library row)).Ensures
        (Statement.handle settings) (fun result after =>
          result = outcome ∧ ∃ disk, after = { world with disk }) world := by
      refine ensures_storage_last.mpr ?_
      rw [answers, Prog.Ensures, ran]
      exact ⟨rfl, _, rfl⟩
    refine unpacked.tryCatch (fun _ _ ended => ended) fun error after ended => ?_
    exact ⟨(congrArg Except.error (passes error ended.1.symm)).trans ended.1, ended.2⟩
  obtain ⟨app, present, owner⟩ := formed.owned row found
  rw [activateDeployment]
  refine Prog.ensures_check.mpr ⟨fun refuses => absurd ready (of_decide_eq_true refuses), fun _ => ?_⟩
  refine Prog.ensures_check.mpr ⟨fun empty => absurd (of_decide_eq_true empty) full, fun _ => ?_⟩
  refine extracted.bind (fun error after ended other => ?_) fun count middle ended => ?_
  · rw [← ended.1, Except.error.injEq, Except.error.injEq]
  · obtain ⟨unpacks, disk, rest⟩ := ended
    have tables : middle.db = world.db := rest ▸ rfl
    have published : ∀ {result : Except Error Deployment} {after : World}, Returns result after →
        ∀ error, result = .error error ↔ outcome = .error error := by
      rintro _ _ ⟨value, rfl⟩ error
      simp [← unpacks]
    have listed : row.id ∈ middle.db.deployments.map (·.id) :=
      tables ▸ List.mem_map_of_mem found
    have owned : app.id ∈ middle.db.apps.map (·.id) := tables ▸ List.mem_map_of_mem present
    have loaded : middle.db.app row.app = some app :=
      owner ▸ tables ▸ Db.app_of_mem formed present
    refine ensures_appOf_found loaded ?_
    refine Prog.Ensures.mono (?_ : Prog.Ensures _ _ Returns _) fun _ _ => published
    refine ensures_now.mpr ?_
    refine ((ensures_makeCurrent app row _).and (ensures_makeCurrent_returns app _ listed)).bind
      (fun _ _ ended => by obtain ⟨_, _, failed⟩ := ended; contradiction) fun active last ended => ?_
    have stays : app.id ∈ last.db.apps.map (·.id) := by
      rw [show last = _ from ended.1]
      exact owned
    refine ((ensures_renewPreviewExpiry app).and (ensures_renewPreviewExpiry_returns stays)).bind
      (fun _ _ ended => by obtain ⟨_, _, failed⟩ := ended; contradiction) fun _ after ended => ?_
    have kept : app.id ∈ after.db.apps.map (·.id) := by
      rw [show after = _ from ended.1, Sites.mapApp, map_key_of_kept]
      · exact stays
      · intro other
        split <;> rfl
    exact ensures_execute.mpr ⟨fun _ failed => (saveApp_succeeds kept failed).elim,
      fun db applied => ensures_uncache.mpr (ensures_emitEvent.mpr ⟨_, rfl⟩)⟩

/-! ### The outcomes of the request -/

/-- The deployment is marked failed and the event of it recorded. -/
def FailureRecorded (row : Deployment) (before after : World) : Prop :=
  ∃ event, event.eventType = .deploymentFailed ∧ after.db = { before.db with
    deployments := ((Act.reopen row ⟨.failed, none, none⟩).apply before.db.sites).deployments
    events := before.db.events ++ [event] }

theorem ensures_markFailed_recorded (actor : Option Actor) (formed : world.db.sites.WellFormed)
    (found : row ∈ world.db.deployments) :
    (markDeploymentFailed row actor).Ensures (Statement.handle settings) (fun result after =>
      result.isOk = true ∧ FailureRecorded row world after) world := by
  obtain ⟨app, present, owner⟩ := formed.owned row found
  have listed : row.id ∈ world.db.deployments.map (·.id) := List.mem_map_of_mem found
  rw [markDeploymentFailed]
  refine ensures_execute.mpr ⟨fun _ failed => (saveDeployment_succeeds listed failed).elim,
    fun db applied => ?_⟩
  obtain rfl := saveDeployment_ok applied
  have loaded : world.db.app row.app = some app := owner ▸ Db.app_of_mem formed present
  refine ensures_appOf_found loaded ?_
  exact ⟨rfl, _, rfl, rfl⟩

/-- How a finalize ends, by the outcome of unpacking the archive. -/
def FinalizeEnds (settings : Settings) (row : Deployment) (before : World) (returned : Bool)
    (after : World) : Except Error Nat → Prop
  | .ok _ => returned = true ∧ Activates settings row before (.ok row) after
  | .error (.extractError _) => returned = false ∧ FailureRecorded row before after
  | .error _ => returned = false ∧ after.db = before.db

theorem ensures_finalize_answered (userId : Option Nat) (actorEmail : PyStr)
    {outcome : Except Error Nat}
    (answers : world.disk = answering world.disk.objects) (formed : world.db.sites.WellFormed)
    (found : row ∈ world.db.deployments) (ready : row.status ∈ [.uploading, .ready, .draft])
    (full : row.artifactSize ≠ 0)
    (extraction : ExtractEnds settings library row world.disk.objects outcome) :
    (finalizeDeployment settings library row userId actorEmail).Ensures (Action.handle settings)
      (fun result after => FinalizeEnds settings row world result.isOk after outcome) world := by
  simp only [finalizeDeployment]
  generalize (if userId.isSome = true then actionActor userId actorEmail
    else actionActor row.deployedById []) = actor
  have activated : (Service.atomic (activateDeployment settings library row actor)).Ensures
        (Action.handle settings) (fun result after =>
          (∀ error, result = .error error → outcome = .error error ∧ after.db = world.db) ∧
          ∀ active, result = .ok active →
            (∃ count, outcome = .ok count) ∧ Activates settings row world (.ok row) after) world := by
    have ends : (activateDeployment settings library row actor).Ensures _ _ world :=
      (ensures_activate row actor).and
        (ensures_activate_answered actor answers formed found ready full extraction)
    refine Service.ensures_atomic ends (fun active after ended => ?_) fun error after ended => ?_
    · refine ⟨fun _ failed => by contradiction, fun _ _ => ⟨?_, ended.1⟩⟩
      rcases ends : outcome with error | count
      · exact absurd ((ended.2 error).mpr ends) (by simp)
      · exact ⟨count, rfl⟩
    · exact ⟨fun _ same => ⟨(ended.2 _).mp same, rfl⟩, fun _ returned => by contradiction⟩
  refine activated.tryCatch (fun active after ended => ?_) fun error after ended => ?_
  · obtain ⟨⟨count, unpacks⟩, activates⟩ := ended.2 active rfl
    rw [unpacks]
    exact ⟨rfl, activates⟩
  · obtain ⟨unpacks, tables⟩ := ended.1 error rfl
    rw [unpacks]
    cases error with
    | extractError message =>
      have marked : (Service.atomic (markDeploymentFailed row actor)).Ensures (Action.handle settings)
          (fun result last => result.isOk = true ∧ FailureRecorded row after last) after :=
        Service.ensures_atomic
          (ensures_markFailed_recorded actor (tables ▸ formed) (tables ▸ found))
          (fun _ _ recorded => recorded) fun _ _ recorded => Bool.noConfusion recorded.1
      refine marked.bind (fun _ _ recorded => Bool.noConfusion recorded.1) fun _ last recorded => ?_
      obtain ⟨_, event, kind, rows⟩ := recorded
      rw [tables] at rows
      exact ⟨rfl, event, kind, rows⟩
    | _ => exact ⟨rfl, tables⟩

theorem finalize_ends (library : Library) (userId : Option Nat) (actorEmail : PyStr)
    {outcome : Except Error Nat}
    (formed : world.db.sites.WellFormed) (found : row ∈ world.db.deployments)
    (ready : row.status ∈ [.uploading, .ready, .draft]) (full : row.artifactSize ≠ 0)
    (extraction : ExtractEnds settings library row world.disk.objects outcome) :
    FinalizeEnds settings row (world.withFaults [])
      ((Request.finalize row.id userId actorEmail).run settings library [] world).1.isOk
      ((Request.finalize row.id userId actorEmail).run settings library [] world).2 outcome := by
  suffices ensures : ((Request.finalize row.id userId actorEmail).service settings library).Ensures
      (Action.handle settings) (fun result after => FinalizeEnds settings row (world.withFaults [])
        result.isOk after outcome) (world.withFaults []) from ensures
  have loaded : (world.withFaults []).db.deployment row.id = some row :=
    Db.deployment_of_mem formed found
  have finalized : (finalizeDeployment settings library row userId actorEmail).Ensures
      (Action.handle settings) (fun result after => FinalizeEnds settings row (world.withFaults [])
        result.isOk after outcome) (world.withFaults []) :=
    ensures_finalize_answered userId actorEmail rfl formed found ready full extraction
  apply Service.ensures_loadRow_found
  · exact loaded
  · exact finalized.bind (fun _ _ ended => ended) fun _ _ ended => ended

theorem published_of_activates {result : Except Error Unit} {after : World}
    (formed : after.db.sites.WellFormed) (found : row ∈ world.db.deployments)
    (returned : result.isOk = true) (activates : Activates settings row world (.ok row) after) :
    Published row result after := by
  obtain ⟨app, present, owner, _, _, _, applied⟩ := activates
  have rows : after.db.deployments = _ := congrArg Sites.deployments applied
  have apps : after.db.apps = _ := congrArg Sites.apps applied
  have promoted : row.assign ⟨.active, none, some (some world.clock)⟩ ∈ after.db.deployments := by
    rw [rows]
    exact List.mem_map.mpr ⟨row, found, if_pos rfl⟩
  have stored : after.db.deployment row.id =
      some (row.assign ⟨.active, none, some (some world.clock)⟩) :=
    Db.deployment_of_mem formed promoted
  refine ⟨?_, ⟨_, stored, rfl⟩, ?_⟩
  · cases result with
    | error error => contradiction
    | ok value => rfl
  · have switched := List.mem_map_of_mem (f := fun other : App => if other.id = row.app then
      { other with
        expiresAt := (app.createdById.map fun _ => renewal settings world.clock).or other.expiresAt
        currentDeployment := some row.id } else other) present
    rw [if_pos owner] at switched
    have kept : ∃ other ∈ after.db.apps, other.id = row.app ∧
        other.currentDeployment = some row.id := by
      rw [apps]
      exact ⟨_, switched, owner, rfl⟩
    obtain ⟨other, listed, same, current⟩ := kept
    exact ⟨other, same ▸ Db.app_of_mem formed listed, current⟩

theorem failedAlone_of_recorded {result : Except Error Unit} {after : World}
    (formedAfter : after.db.sites.WellFormed)
    (found : row ∈ world.db.deployments) (raised : result.isOk = false)
    (recorded : FailureRecorded row world after)
    (files : SameOutside (InFolder (folderKey settings row)) world.disk.objects after.disk.objects) :
    FailedAlone settings row world result after := by
  obtain ⟨event, kind, tables⟩ := recorded
  have rows : after.db.deployments = world.db.deployments.map fun other =>
      if other.id = row.id then other.assign ⟨.failed, none, none⟩ else other :=
    congrArg Db.deployments tables
  have stays (other : Deployment) (present : other ∈ world.db.deployments) :
      (if other.id = row.id then other.assign ⟨.failed, none, none⟩ else other) ∈
        after.db.deployments := rows ▸ List.mem_map_of_mem present
  refine ⟨?_, ?_, ⟨event, congrArg Db.events tables, kind⟩, ?_, fun other present apart => ⟨?_, ?_⟩⟩
  · cases result with
    | error error => exact ⟨error, rfl⟩
    | ok value => contradiction
  · have marked := stays row found
    rw [if_pos rfl] at marked
    have stored : after.db.deployment row.id = some (row.assign ⟨.failed, none, none⟩) :=
      Db.deployment_of_mem formedAfter marked
    exact ⟨_, stored, rfl⟩
  · rw [Db.app, Db.app, congrArg Db.apps tables]
  · have kept := stays other present
    rw [if_neg apart] at kept
    exact Db.deployment_of_mem formedAfter kept
  · refine files.within fun key inside touched => apart ?_
    exact (folderKey_disjoint inside touched).2

end

/-- What is promised of a finalize: a readable archive is published, and any other one fails
alone. -/
def TwoOutcomes (settings : Settings) (library : Library) (row : Deployment) (data : Bytes)
    (before : World) (ended : Except Error Unit × World) : Prop :=
  (Readable settings library data → Published row ended.1 ended.2) ∧
    (¬ Readable settings library data → FailedAlone settings row before ended.1 ended.2)

/-- On a store that answers, finalizing has the two outcomes exactly when the stored bytes are
an intact archive and the store has room for its files: bytes that are no tar activate an
empty site, and an error of the library or of the store leaves the deployment as it was. -/
theorem finalize_two_outcomes_iff (settings : Settings) (library : Library) (world : World)
    (reachable : world.Reachable settings library) (row : Deployment)
    (member : row ∈ world.db.deployments) (uploading : row.status = .uploading)
    (full : row.artifactSize > 0) (data : Bytes)
    (stored : world.disk.objects.lookup (artifactKey settings row) = some data)
    (userId : Option Nat) (actorEmail : PyStr) :
    TwoOutcomes settings library row data world
        ((Request.finalize row.id userId actorEmail).run settings library [] world) ↔
      Intact settings library data ∧
        Room settings row world.disk.objects (unpackData settings library data).files := by
  have ready : row.status ∈ [.uploading, .ready, .draft] := by simp [uploading]
  obtain ⟨outcome, extraction, cases⟩ := extractEnds library stored
  have ends :=
    finalize_ends library userId actorEmail reachable.wellFormed member ready full.ne' extraction
  have formed : Sites.WellFormed
      ((Request.finalize row.id userId actorEmail).run settings library [] world).2.db.sites :=
    service_wellFormed _ _ reachable.wellFormed
  have files : SameOutside (InFolder (folderKey settings row)) world.disk.objects
      ((Request.finalize row.id userId actorEmail).run settings library [] world).2.disk.objects := by
    have confined : SameOutside _ world.disk.objects ((Request.finalize row.id userId
        actorEmail).run settings library [] world).2.disk.objects :=
      (Request.finalize row.id userId actorEmail).confined (world.withFaults [])
    refine confined.mono fun key touched => ?_
    obtain ⟨other, found, same, _, inside⟩ := touched
    obtain rfl := reachable.wellFormed.deployment_eq found member same
    exact inside
  have loaded : world.db.deployment row.id = some row :=
    Db.deployment_of_mem reachable.wellFormed member
  revert ends formed files
  generalize (Request.finalize row.id userId actorEmail).run settings library [] world = ended
  intro ends formed files
  -- a row that stays as it was is neither published nor failed
  have stays (tables : ended.2.db = world.db) : ¬ TwoOutcomes settings library row data world ended := by
    intro two
    have uploaded {stored : Deployment} (found : ended.2.db.deployment row.id = some stored) :
        stored.status = .uploading := by
      rw [tables, loaded] at found
      obtain rfl := Option.some.inj found
      exact uploading
    by_cases readable : Readable settings library data
    · obtain ⟨stored, found, status⟩ := (two.1 readable).active
      rw [uploaded found] at status
      contradiction
    · obtain ⟨stored, found, status⟩ := (two.2 readable).failed
      rw [uploaded found] at status
      contradiction
  rcases cases with ⟨room, rfl⟩ | ⟨full, refusal, rfl⟩
  swap
  · refine iff_of_false (stays ?_) fun both => full both.2
    cases refusal <;> exact ends.2
  rw [and_iff_left room]
  constructor
  · intro two
    by_contra broken
    obtain ⟨unreadable, noLimit⟩ := unpackData_broken broken
    rcases outcome : (unpackData settings library data).outcome with error | count
    · rw [outcome] at ends
      refine stays ?_ two
      cases error with
      | extractError message => exact absurd outcome (noLimit message)
      | _ => exact ends.2
    · rw [outcome] at ends
      obtain ⟨error, raised⟩ := (two.2 unreadable).raised
      have returned : ended.1.isOk = true := ends.1
      rw [raised] at returned
      contradiction
  · intro intact
    rcases unpackData_intact intact with ⟨readable, count, outcome⟩ | ⟨unreadable, message, outcome⟩
    · rw [outcome] at ends
      exact ⟨fun _ => published_of_activates formed member ends.1 ends.2,
        fun other => absurd readable other⟩
    · rw [outcome] at ends
      exact ⟨fun other => absurd other unreadable,
        fun _ => failedAlone_of_recorded formed member ends.1 ends.2 files⟩

/-! The first site, and two bytes in the place of an archive. -/

def uploadedRow (size : Nat) : Deployment := firstDraft.assign ⟨.uploading, some size, none⟩

theorem finalize_two_outcomes_firstSite :
    TwoOutcomes defaultSettings demoLibrary (uploadedRow indexArchive.length) indexArchive
        (siteToFinalize demoLibrary)
        ((Request.finalize (uploadedRow indexArchive.length).id (some 7) []).run defaultSettings
          demoLibrary [] (siteToFinalize demoLibrary)) ↔
      Intact defaultSettings demoLibrary indexArchive ∧
        Room defaultSettings (uploadedRow indexArchive.length)
          (siteToFinalize demoLibrary).disk.objects
          (unpackData defaultSettings demoLibrary indexArchive).files := by
  have member : uploadedRow indexArchive.length ∈ (siteToFinalize demoLibrary).db.deployments := by
    decide +kernel
  have stored : (siteToFinalize demoLibrary).disk.objects.lookup
      (artifactKey defaultSettings (uploadedRow indexArchive.length)) = some indexArchive := by
    decide +kernel
  exact finalize_two_outcomes_iff defaultSettings demoLibrary (siteToFinalize demoLibrary)
    (reachable_from_empty ..) _ member rfl (by decide) indexArchive stored (some 7) []

def uploadedPage : World :=
  runFrom defaultSettings demoLibrary emptyWorld
    [(Request.createApp demoApp).served, (Request.createDeployment ⟨1⟩ (build ⟨2⟩)).served,
      (Request.upload ⟨2⟩ ⟨[page], none⟩ none).served]

/-- Bytes that are no tar at all are activated as an empty site. -/
theorem finalize_activates_no_tar :
    uploadedRow page.length ∈ uploadedPage.db.deployments ∧
      uploadedPage.disk.objects.lookup (artifactKey defaultSettings (uploadedRow page.length)) =
        some page ∧
      ¬ TwoOutcomes defaultSettings demoLibrary (uploadedRow page.length) page uploadedPage
        ((Request.finalize (uploadedRow page.length).id (some 7) []).run defaultSettings demoLibrary
          [] uploadedPage) := by
  refine ⟨by decide +kernel, by decide +kernel, ?_⟩
  rintro ⟨_, failsAlone⟩
  have unreadable : ¬ Readable defaultSettings demoLibrary page := by
    rintro ⟨_, tar, _, _, opened, _⟩
    have refused : demoLibrary.tarOpen page = .error .tarError := rfl
    rw [refused] at opened
    contradiction
  obtain ⟨error, raised⟩ := (failsAlone unreadable).raised
  have returned : ((Request.finalize (uploadedRow page.length).id (some 7) []).run defaultSettings
      demoLibrary [] uploadedPage).1 = .ok () := by decide +kernel
  rw [returned] at raised
  contradiction

end HostingService
