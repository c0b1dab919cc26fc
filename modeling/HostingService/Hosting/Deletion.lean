import HostingService.Hosting.Footprints
import HostingService.Hosting.Redirects
import HostingService.Hosting.Runs
import HostingService.Program.Rely

/-! How much of an app is left when `delete_app` stops, at its end or before. -/

namespace HostingService

open Program Text Storage Transaction

/-- The stored objects of the app's deployments. -/
def AppKey (settings : Settings) (db : Db) (app : Uuid) (key : PyStr) : Prop :=
  ∃ row ∈ db.deployments, row.app = app ∧ InFolder (folderKey settings row) key

/-- The app is there, and served as before, with its files and its login redirect. -/
structure SiteKept (settings : Settings) (library : Library) (tables : Unicode)
    (redirects : RedirectSettings) (app : App) (before after : RemovalWorld) : Prop where
  row : after.hosting.db.app app.id = some app
  files : ∀ key, AppKey settings before.hosting.db app.id key →
    after.hosting.disk.objects.lookup key = before.hosting.disk.objects.lookup key
  served : ∀ slug pathInfo faults, (visit settings library slug pathInfo faults after.hosting).1 =
    (visit settings library slug pathInfo faults before.hosting).1
  registered : ∀ origin, appOrigin tables redirects app = some origin →
    origin ∈ before.allowlist → origin ∈ after.allowlist

structure SiteGone (settings : Settings) (app : App) (before after : RemovalWorld) : Prop where
  row : after.hosting.db.app app.id = none
  deployments : ∀ row ∈ after.hosting.db.deployments, row.app ≠ app.id
  files : ∀ key, AppKey settings before.hosting.db app.id key →
    after.hosting.disk.objects.lookup key = none

/-! ### What a call took away -/

abbrev RemovalEntry := Entry RemovalCall RemovalWorld

def RemovalCall.deletesKey (key : PyStr) : ∀ {β}, RemovalCall β → Prop
  | _, .session (.within _ (.storage (.delete other))) => other = key
  | _, _ => False

def RemovalCall.syncsOrigin (origin : PyStr) : ∀ {β}, RemovalCall β → Prop
  | _, .syncDelete _ other _ => other = origin
  | _, _ => False

def RemovalCall.commits : ∀ {β}, RemovalCall β → Prop
  | _, .session (.commit _) => True
  | _, _ => False

section
variable (settings : Settings)

def WentThrough (entry : RemovalEntry) : Prop :=
  ∃ value, (RemovalCall.handle settings _ entry.op entry.state).1 = .ok value

/-- The storage deleted the key. -/
def Deletes (key : PyStr) (entry : RemovalEntry) : Prop :=
  entry.op.deletesKey key ∧ WentThrough settings entry

/-- The identity service removed the origin. -/
def Unregisters (origin : PyStr) (entry : RemovalEntry) : Prop :=
  entry.op.syncsOrigin origin ∧ ∃ outcome ∈ entry.state.identity.head?, outcome.removed = true

def CommittedDeletion (log : List RemovalEntry) : Prop :=
  ∃ entry ∈ log, entry.op.commits ∧ WentThrough settings entry

/-- Every stored object of the app was deleted. -/
def SweptAway (app : App) (start : RemovalWorld) (log : List RemovalEntry) : Prop :=
  ∀ key ∈ start.hosting.disk.objects, AppKey settings start.hosting.db app.id key →
    ∃ entry ∈ log, Deletes settings key entry

/-- No stored object was deleted, and no registered origin removed. -/
def Untouched (log : List RemovalEntry) : Prop :=
  ∀ entry ∈ log, (∀ key, Deletes settings key entry → key ∉ entry.state.hosting.disk.objects) ∧
    ∀ origin, Unregisters origin entry → origin ∉ entry.state.allowlist

end

/-- `delete_app` after some of its calls. -/
def removal (settings : Settings) (tables : Unicode) (redirects : RedirectSettings) (app : App)
    (accessToken : Option PyStr) (userId : Option Nat) (actorEmail : PyStr) (calls : Nat)
    (start : RemovalWorld) : Thread RemovalCall Error RemovalWorld Unit Unit × RemovalWorld :=
  Thread.after (RemovalCall.handle settings) calls
    ⟨(), deleteAppAndRedirect settings tables redirects app accessToken userId actorEmail, []⟩ start

section
variable {settings : Settings} {tables : Unicode} {redirects : RedirectSettings} {app : App}
  {start world : RemovalWorld} {log : List RemovalEntry}

/-! ### The calls of `delete_app` -/

/-- The calls that `delete_app` makes once it has read the rows of its deployments. -/
inductive DeleteAppCall (inside : PyStr → Prop) (origin : Option PyStr) (app : Uuid) :
    ∀ β, RemovalCall β → Prop where
  | storage {α : Type} (op : StorageCall α) (changes : Changes inside (fun _ => False) α op) :
      DeleteAppCall inside origin app α (.session (.within [] (.storage op)))
  | execute (pending : List Change) (change : Change) :
      DeleteAppCall inside origin app Unit (.session (.within pending (.execute change)))
  | sync (url token : PyStr) (removed : PyStr) (own : origin = some removed) :
      DeleteAppCall inside origin app (Option Nat) (.syncDelete url removed token)
  | commit (event : Event) : DeleteAppCall inside origin app Unit
      (.session (.commit [.deleteApp app, .recordEvent event]))

/-- The origin that the identity service is asked to remove, if it is asked at all. -/
def askedOrigin (tables : Unicode) (redirects : RedirectSettings) (app : App)
    (accessToken : Option PyStr) : Option PyStr :=
  if identityBaseUrl redirects = none ∨ strip (accessToken.getD []) = [] then none
  else appOrigin tables redirects app

theorem appOrigin_of_asked {accessToken : Option PyStr} {origin : PyStr}
    (asked : askedOrigin tables redirects app accessToken = some origin) :
    appOrigin tables redirects app = some origin := by
  rw [askedOrigin] at asked
  split at asked
  · cases asked
  · exact asked

/-- What `delete_app` does after its first call. -/
def deleteRows (settings : Settings) (tables : Unicode) (redirects : RedirectSettings) (app : App)
    (accessToken : Option PyStr) (userId : Option Nat) (actorEmail : PyStr)
    (rows : List Deployment) : Removal Unit := do
  let event : Event :=
    ⟨.appDeleted, app.companyId, .app (appEventPayload app), actionActor userId actorEmail⟩
  ((Prog.forEach (fun row => storage (deleteDeploymentArtifacts settings row)) rows).hoist
    fun _ statement => .within [] statement).hoist fun _ statement => .session statement
  .perform (.session (.within [] (.execute (.deleteApp app.id))))
  .perform (.session (.within [.deleteApp app.id] (.execute (.recordEvent event))))
  match appOrigin tables redirects app with
  | none => pure ()
  | some origin => deleteHostingOauthRedirectOrigin redirects origin accessToken
  .perform (.session (.commit [.deleteApp app.id, .recordEvent event]))

theorem deleteAppAndRedirect_eq (accessToken : Option PyStr) (userId : Option Nat)
    (actorEmail : PyStr) :
    deleteAppAndRedirect settings tables redirects app accessToken userId actorEmail =
      Prog.perform (.session (.within [] (.select fun db =>
        (db.deployments.filter (·.app = app.id)).reverse))) >>= fun rows =>
          deleteRows settings tables redirects app accessToken userId actorEmail rows := by
  have unwritten (rows : List Deployment) :
      (Prog.forEach (fun row => storage (deleteDeploymentArtifacts settings row)) rows).All
        fun β statement => (database settings).written β statement = none :=
    .forEach fun row _ => Prog.all_hoist.mpr ((Prog.all_true _).mono fun _ _ _ => rfl)
  rw [deleteAppAndRedirect, deleteApp, deleteAppArtifacts, Prog.bind_assoc, Prog.within_bind, select,
    Prog.within_perform, Prog.bind_assoc, Prog.hoist_bind, Prog.hoist_perform, Prog.bind_assoc]
  refine congrArg (Prog.perform _ >>= ·) (funext fun rows => ?_)
  simp only [Prog.ret_bind, Prog.within_bind, Prog.hoist_bind, Prog.bind_assoc]
  rw [show ([] ++ Option.toList ((database settings).written (List Deployment) (.select fun db =>
    (db.deployments.filter (·.app = app.id)).reverse)) : List Change) = [] from rfl,
    Prog.within_unwritten (unwritten rows), Prog.hoist_bind, Prog.bind_assoc, deleteRows]
  refine congrArg (_ >>= ·) (funext fun _ => ?_)
  simp only [Prog.hoist, Prog.ret_bind, emitEvent, execute, Prog.within_perform, Prog.hoist_bind,
    Prog.hoist_perform, Prog.bind_assoc]
  refine congrArg (_ >>= ·) (funext fun _ => ?_)
  refine congrArg (_ >>= ·) (funext fun _ => ?_)
  cases appOrigin tables redirects app <;> rfl

theorem syncRequest_calls {inside : PyStr → Prop} {origin : Option PyStr} {removed : PyStr}
    (own : origin = some removed) (url token : PyStr) (attempts : Nat) :
    (syncRequest url removed token attempts).All (DeleteAppCall inside origin app.id) := by
  induction attempts with
  | zero => trivial
  | succ attempts ih =>
    refine .bind (Prog.all_perform.mpr (.sync url token removed own)) fun status => ?_
    split
    · exact ih
    · trivial

theorem deleteRows_calls {inside : PyStr → Prop} {rows : List Deployment}
    (changes : ∀ row ∈ rows, (deleteDeploymentArtifacts settings row).All
      (Changes inside fun _ => False))
    (accessToken : Option PyStr) (userId : Option Nat) (actorEmail : PyStr) :
    (deleteRows settings tables redirects app accessToken userId actorEmail rows).All
      (DeleteAppCall inside (askedOrigin tables redirects app accessToken) app.id) := by
  have removes : (Prog.forEach (fun row => storage (deleteDeploymentArtifacts settings row)) rows).All
      fun β statement => DeleteAppCall inside (askedOrigin tables redirects app accessToken) app.id β
        (.session (.within [] statement)) :=
    .forEach fun row member => Prog.all_hoist.mpr ((changes row member).mono fun _ op => .storage op)
  refine .bind (Prog.all_hoist.mpr (Prog.all_hoist.mpr removes)) fun _ => ?_
  refine .bind (Prog.all_perform.mpr (.execute ..)) fun _ => ?_
  refine .bind (Prog.all_perform.mpr (.execute ..)) fun _ => ?_
  have commits (origin : Option PyStr) (event : Event) :
      (Prog.perform (.session (.commit [.deleteApp app.id, .recordEvent event])) :
        Removal Unit).All (DeleteAppCall inside origin app.id) := Prog.all_perform.mpr (.commit event)
  rcases own : appOrigin tables redirects app with _ | origin
  · exact commits _ _
  · refine .bind ?_ fun _ => commits _ _
    rw [deleteHostingOauthRedirectOrigin]
    split
    · trivial
    · rename_i base
      split
      · trivial
      · rename_i token
        refine syncRequest_calls ?_ _ _ 3
        rw [askedOrigin, if_neg (by simp [base, token]), own]

/-! ### One call -/

variable {inside : PyStr → Prop} {origin : Option PyStr} {β : Type} {op : RemovalCall β}

theorem handle_within_execute (pending : List Change) (change : Change) :
    (RemovalCall.handle settings Unit (.session (.within pending (.execute change))) world).2 =
      world := by
  have kept : ((database settings).session Unit (.within pending (.execute change))
      world.hosting).2 = world.hosting := by
    rw [Tables.session]
    rcases (database settings).replay ((database settings).get world.hosting) pending with _ | rows
    · rfl
    · rcases applied : change.apply rows with _ | db
      · simp [database, Statement.handle, applied]
      · simp [database, Statement.handle, applied]
  rw [RemovalCall.handle]
  · simp only [kept]
  · exact fun _ _ same => by cases same

theorem handle_within_storage {α : Type} (op : StorageCall α) :
    RemovalCall.handle settings α (.session (.within [] (.storage op))) world =
      ((op.handle (storageBackend settings) _ world.hosting.disk).1,
        { world with hosting := { world.hosting with
          disk := (op.handle (storageBackend settings) _ world.hosting.disk).2 } }) := rfl

/-- A call deletes one key, or leaves the files as they are. -/
theorem DeleteAppCall.objects (call : DeleteAppCall inside origin app.id β op) :
    (∃ key, inside key ∧ Deletes settings key ⟨op, world⟩ ∧
      (∀ other, Deletes settings other ⟨op, world⟩ → other = key) ∧
      (RemovalCall.handle settings β op world).2.hosting.disk.objects =
        world.hosting.disk.objects.erase key) ∨
    (∀ key, ¬ Deletes settings key ⟨op, world⟩) ∧
      (RemovalCall.handle settings β op world).2.hosting.disk.objects =
        world.hosting.disk.objects := by
  cases call with
  | storage op changes =>
    rw [handle_within_storage]
    rcases handle_cases (storageBackend settings) op world.hosting.disk with
      ⟨error, faults, ran⟩ | ⟨faults, ran⟩
    · rw [ran]
      refine .inr ⟨fun key deletes => ?_, rfl⟩
      obtain ⟨_, value, answer⟩ := deletes
      rw [handle_within_storage, ran] at answer
      cases answer
    · rw [ran]
      cases op with
      | delete key =>
        rcases exec_delete_cases (storageBackend settings) world.hosting.disk.objects key with
          kept | gone
        · rw [kept] at ran ⊢
          refine .inr ⟨fun other deletes => ?_, rfl⟩
          obtain ⟨_, value, answer⟩ := deletes
          rw [handle_within_storage, ran] at answer
          cases answer
        · rw [gone] at ran ⊢
          refine .inl ⟨key, changes, ⟨rfl, (), ?_⟩, fun other deletes => deletes.1.symm, rfl⟩
          rw [handle_within_storage, ran]
      | save key content => exact changes.elim
      | read key =>
        refine .inr ⟨fun key deletes => deletes.1, ?_⟩
        simp only [StorageCall.exec]
        split
        · rfl
        · split <;> rfl
      | _ => exact .inr ⟨fun key deletes => deletes.1, rfl⟩
  | execute pending change =>
    rw [handle_within_execute]
    exact .inr ⟨fun key deletes => deletes.1, rfl⟩
  | sync url token removed own =>
    refine .inr ⟨fun key deletes => deletes.1, ?_⟩
    rw [RemovalCall.handle]
    split <;> rfl
  | commit event =>
    refine .inr ⟨fun key deletes => deletes.1, ?_⟩
    rw [RemovalCall.handle]
    split
    · dsimp only
      rw [Tables.session]
      split <;> rfl
    · rfl

/-- A call unregisters the origin of the app, or leaves the allow-list as it is. -/
theorem DeleteAppCall.allowlist (settings : Settings) (world : RemovalWorld)
    (call : DeleteAppCall inside origin app.id β op) :
    (∃ removed, origin = some removed ∧ (∀ other, Unregisters other ⟨op, world⟩ ↔ other = removed) ∧
      (RemovalCall.handle settings β op world).2.allowlist =
        world.allowlist.filter (· ≠ removed)) ∨
    (∀ other, ¬ Unregisters other ⟨op, world⟩) ∧
      (RemovalCall.handle settings β op world).2.allowlist = world.allowlist := by
  cases call with
  | storage op changes => exact .inr ⟨fun _ unregisters => unregisters.1, rfl⟩
  | execute pending change =>
    rw [handle_within_execute]
    exact .inr ⟨fun _ unregisters => unregisters.1, rfl⟩
  | sync url token removed own =>
    rw [RemovalCall.handle]
    rcases script : world.identity with _ | ⟨outcome, identity⟩
    · refine .inr ⟨fun other unregisters => ?_, rfl⟩
      obtain ⟨_, outcome, next, _⟩ := unregisters
      simp [script] at next
    · by_cases removes : outcome.removed = true
      · refine .inl ⟨removed, own, fun other => ⟨fun unregisters => unregisters.1.symm, ?_⟩, if_pos removes⟩
        rintro rfl
        exact ⟨rfl, outcome, by simp [script], removes⟩
      · refine .inr ⟨fun other unregisters => ?_, if_neg removes⟩
        obtain ⟨_, next, first, struck⟩ := unregisters
        simp only [script, List.head?_cons, Option.mem_some_iff] at first
        exact removes (first ▸ struck)
  | commit event =>
    refine .inr ⟨fun _ unregisters => unregisters.1, ?_⟩
    rw [RemovalCall.handle]
    split <;> rfl

theorem app_deleteApp {before after : Db} {id : Uuid} {event : Event}
    (replayed : (database settings).replay before [.deleteApp id, .recordEvent event] = .ok after) :
    after.app id = none ∧ ∀ row ∈ after.deployments, row.app ≠ id := by
  cases replayed
  refine ⟨List.find?_eq_none.mpr fun app member same => ?_, fun row member => ?_⟩
  · obtain ⟨old, kept, rfl⟩ := List.mem_map.mp member
    have other : old.id ≠ id := by simpa using (List.mem_filter.mp kept).2
    refine other ?_
    split at same <;> exact of_decide_eq_true same
  · exact of_decide_eq_true (List.mem_filter.mp member).2

/-- Only the commit changes rows. -/
theorem DeleteAppCall.rows (call : DeleteAppCall inside origin app.id β op) :
    (op.commits ∧ WentThrough settings ⟨op, world⟩ ∧
      (RemovalCall.handle settings β op world).2.hosting.db.app app.id = none ∧
      ∀ row ∈ (RemovalCall.handle settings β op world).2.hosting.db.deployments, row.app ≠ app.id) ∨
    ¬ (op.commits ∧ WentThrough settings ⟨op, world⟩) ∧
      (RemovalCall.handle settings β op world).2.hosting.db = world.hosting.db := by
  cases call with
  | storage op changes => exact .inr ⟨fun both => both.1, rfl⟩
  | execute pending change =>
    rw [handle_within_execute]
    exact .inr ⟨fun both => both.1, rfl⟩
  | sync url token removed own =>
    refine .inr ⟨fun both => both.1, ?_⟩
    rw [RemovalCall.handle]
    split <;> rfl
  | commit event =>
    by_cases commits : world.commits = true
    · refine .inl ⟨trivial, ⟨(), ?_⟩, ?_⟩
      · simp only [RemovalCall.handle, if_pos commits]
        rfl
      · simp only [RemovalCall.handle, if_pos commits]
        exact app_deleteApp (show (database settings).replay world.hosting.db _ = .ok _ from rfl)
    · refine .inr ⟨fun both => ?_, ?_⟩
      · obtain ⟨_, value, answer⟩ := both
        simp only [RemovalCall.handle, if_neg commits] at answer
        cases answer
      · simp only [RemovalCall.handle, if_neg commits]

theorem DeleteAppCall.others (settings : Settings) (world : RemovalWorld)
    (call : DeleteAppCall inside origin app.id β op) :
    (RemovalCall.handle settings β op world).2.hosting.cache = world.hosting.cache ∧
      (RemovalCall.handle settings β op world).2.hosting.clock = world.hosting.clock := by
  cases call with
  | storage op changes => exact ⟨rfl, rfl⟩
  | execute pending change =>
    rw [handle_within_execute]
    exact ⟨rfl, rfl⟩
  | sync url token removed own =>
    rw [RemovalCall.handle]
    split <;> exact ⟨rfl, rfl⟩
  | commit event =>
    rw [RemovalCall.handle]
    split <;> exact ⟨rfl, rfl⟩

/-! ### What the calls leave -/

/-- The rows of the app are gone once the deletion is committed. -/
structure RowsLeft (settings : Settings) (app : Uuid) (start world : RemovalWorld)
    (log : List RemovalEntry) : Prop where
  gone : CommittedDeletion settings log → world.hosting.db.app app = none ∧
    ∀ row ∈ world.hosting.db.deployments, row.app ≠ app
  kept : ¬ CommittedDeletion settings log → world.hosting.db = start.hosting.db
  cache : world.hosting.cache = start.hosting.cache
  clock : world.hosting.clock = start.hosting.clock

/-- Exactly the keys that were deleted are gone. -/
structure FilesLeft (settings : Settings) (inside : PyStr → Prop) (start world : RemovalWorld)
    (log : List RemovalEntry) : Prop where
  inside : ∀ entry ∈ log, ∀ key, Deletes settings key entry → inside key
  gone : ∀ entry ∈ log, ∀ key, Deletes settings key entry →
    world.hosting.disk.objects.lookup key = none
  stays : ∀ key, (∀ entry ∈ log, ¬ Deletes settings key entry) →
    world.hosting.disk.objects.lookup key = start.hosting.disk.objects.lookup key
  kept : (∀ entry ∈ log, ∀ key, Deletes settings key entry →
    key ∉ entry.state.hosting.disk.objects) → world.hosting.disk.objects = start.hosting.disk.objects
  entries : ∀ entry ∈ log, Shrinks start.hosting.disk.objects entry.state.hosting.disk.objects
  shrinks : Shrinks start.hosting.disk.objects world.hosting.disk.objects

/-- Exactly the origins that were removed are off the list. -/
structure ListLeft (origin : Option PyStr) (start world : RemovalWorld) (log : List RemovalEntry) :
    Prop where
  own : ∀ entry ∈ log, ∀ removed, Unregisters removed entry → origin = some removed
  gone : ∀ entry ∈ log, ∀ removed, Unregisters removed entry → removed ∉ world.allowlist
  kept : (∀ entry ∈ log, ∀ removed, Unregisters removed entry → removed ∉ entry.state.allowlist) →
    world.allowlist = start.allowlist
  entries : ∀ entry ∈ log, ∀ listed ∈ entry.state.allowlist, listed ∈ start.allowlist
  shrinks : ∀ listed ∈ world.allowlist, listed ∈ start.allowlist

theorem committed_concat {entry : RemovalEntry} :
    CommittedDeletion settings (log ++ [entry]) ↔
      CommittedDeletion settings log ∨ entry.op.commits ∧ WentThrough settings entry := by
  simp only [CommittedDeletion, List.mem_append, List.mem_singleton]
  constructor
  · rintro ⟨other, old | rfl, both⟩
    · exact .inl ⟨other, old, both⟩
    · exact .inr both
  · rintro (⟨other, old, both⟩ | both)
    · exact ⟨other, .inl old, both⟩
    · exact ⟨entry, .inr rfl, both⟩

theorem RowsLeft.step (left : RowsLeft settings app.id start world log)
    (call : DeleteAppCall inside origin app.id β op) :
    RowsLeft settings app.id start (RemovalCall.handle settings β op world).2
      (log ++ [⟨op, world⟩]) := by
  obtain ⟨cache, clock⟩ := call.others settings world
  refine ⟨fun committed => ?_, fun unfinished => ?_, cache.trans left.cache, clock.trans left.clock⟩
  · rcases call.rows with ⟨_, _, gone⟩ | ⟨no, same⟩
    · exact gone
    · rw [same]
      exact left.gone ((committed_concat.mp committed).resolve_right no)
  · rw [committed_concat, not_or] at unfinished
    rcases call.rows with ⟨commits, went, _⟩ | ⟨_, same⟩
    · exact absurd ⟨commits, went⟩ unfinished.2
    · rw [same]
      exact left.kept unfinished.1

theorem FilesLeft.step (left : FilesLeft settings inside start world log)
    (call : DeleteAppCall inside origin app.id β op) :
    FilesLeft settings inside start (RemovalCall.handle settings β op world).2
      (log ++ [⟨op, world⟩]) := by
  have entries : ∀ entry ∈ log ++ [⟨op, world⟩],
      Shrinks start.hosting.disk.objects entry.state.hosting.disk.objects := by
    intro entry member
    rcases List.mem_append.mp member with old | new
    · exact left.entries entry old
    · rw [List.mem_singleton.mp new]
      exact left.shrinks
  have earlier {test : RemovalEntry → Prop} (every : ∀ entry ∈ log ++ [⟨op, world⟩], test entry) :
      (∀ entry ∈ log, test entry) ∧ test ⟨op, world⟩ :=
    ⟨fun entry old => every entry (List.mem_append_left _ old), every _ (by simp)⟩
  rcases call.objects with ⟨key, within, deletes, only, erased⟩ | ⟨none, same⟩
  · refine ⟨fun entry member other struck => ?_, fun entry member other struck => ?_,
      fun other spared => ?_, fun missed => ?_, entries, ?_⟩
    · rcases List.mem_append.mp member with old | new
      · exact left.inside entry old other struck
      · rw [List.mem_singleton.mp new] at struck
        exact only other struck ▸ within
    · rw [erased]
      by_cases same : other = key
      · rw [same, AList.lookup_erase]
      · rw [AList.lookup_erase_ne same]
        rcases List.mem_append.mp member with old | new
        · exact left.gone entry old other struck
        · rw [List.mem_singleton.mp new] at struck
          exact absurd (only other struck) same
    · obtain ⟨old, now⟩ := earlier spared
      have different : other ≠ key := fun same => now (same ▸ deletes)
      rw [erased, AList.lookup_erase_ne different]
      exact left.stays other old
    · obtain ⟨old, now⟩ := earlier missed
      have absent : key ∉ world.hosting.disk.objects := now key deletes
      rw [erased, ← left.kept old]
      refine AList.ext ?_
      exact List.kerase_of_notMem_keys (mt AList.mem_keys.mpr absent)
    · rw [erased]
      exact left.shrinks.trans (shrinks_erase _ key)
  · refine ⟨fun entry member other struck => ?_, fun entry member other struck => ?_,
      fun other spared => ?_, fun missed => ?_, entries, ?_⟩
    · rcases List.mem_append.mp member with old | new
      · exact left.inside entry old other struck
      · rw [List.mem_singleton.mp new] at struck
        exact absurd struck (none other)
    · rw [same]
      rcases List.mem_append.mp member with old | new
      · exact left.gone entry old other struck
      · rw [List.mem_singleton.mp new] at struck
        exact absurd struck (none other)
    · rw [same]
      exact left.stays other (earlier spared).1
    · rw [same]
      exact left.kept (earlier missed).1
    · rw [same]
      exact left.shrinks

theorem ListLeft.step (settings : Settings) (left : ListLeft origin start world log)
    (call : DeleteAppCall inside origin app.id β op) :
    ListLeft origin start (RemovalCall.handle settings β op world).2 (log ++ [⟨op, world⟩]) := by
  have entries : ∀ entry ∈ log ++ [⟨op, world⟩], ∀ listed ∈ entry.state.allowlist,
      listed ∈ start.allowlist := by
    intro entry member
    rcases List.mem_append.mp member with old | new
    · exact left.entries entry old
    · rw [List.mem_singleton.mp new]
      exact left.shrinks
  have struck {test : PyStr → Prop} (now : ∀ removed, Unregisters removed ⟨op, world⟩ → test removed)
      (before : ∀ entry ∈ log, ∀ removed, Unregisters removed entry → test removed) :
      ∀ entry ∈ log ++ [⟨op, world⟩], ∀ removed, Unregisters removed entry → test removed := by
    intro entry member removed unregisters
    rcases List.mem_append.mp member with old | new
    · exact before entry old removed unregisters
    · rw [List.mem_singleton.mp new] at unregisters
      exact now removed unregisters
  rcases call.allowlist settings world with ⟨removed, own, exactly, filtered⟩ | ⟨none, same⟩
  · refine ⟨struck (fun other unregisters => ?_) left.own, struck (fun other unregisters => ?_) ?_,
      fun missed => ?_, entries, ?_⟩
    · rw [(exactly other).mp unregisters, own]
    · rw [filtered, (exactly other).mp unregisters]
      simp
    · intro entry old other unregisters
      rw [filtered]
      exact fun member => left.gone entry old other unregisters (List.mem_filter.mp member).1
    · have absent : removed ∉ world.allowlist := missed _ (by simp) _ ((exactly removed).mpr rfl)
      rw [filtered, ← left.kept fun entry old => missed entry (List.mem_append_left _ old)]
      exact List.filter_eq_self.mpr fun listed member =>
        decide_eq_true fun same => absent (same ▸ member)
    · rw [filtered]
      exact fun listed member => left.shrinks listed (List.mem_filter.mp member).1
  · refine ⟨struck (fun other unregisters => absurd unregisters (none other)) left.own,
      struck (fun other unregisters => absurd unregisters (none other)) ?_,
      fun missed => ?_, entries, ?_⟩
    · rw [same]
      exact left.gone
    · rw [same]
      exact left.kept fun entry old => missed entry (List.mem_append_left _ old)
    · rw [same]
      exact left.shrinks

/-- All that is left after some calls. -/
structure LeftBy (settings : Settings) (inside : PyStr → Prop) (origin : Option PyStr) (app : Uuid)
    (start world : RemovalWorld) (log : List RemovalEntry) : Prop where
  rows : RowsLeft settings app start world log
  files : FilesLeft settings inside start world log
  list : ListLeft origin start world log

theorem LeftBy.step (left : LeftBy settings inside origin app.id start world log)
    (call : DeleteAppCall inside origin app.id β op) :
    LeftBy settings inside origin app.id start (RemovalCall.handle settings β op world).2
      (log ++ [⟨op, world⟩]) :=
  ⟨left.rows.step call, left.files.step call, left.list.step settings call⟩

/-- A call that is none of these: nothing is gone yet. -/
theorem LeftBy.first (settings : Settings) (inside : PyStr → Prop) (origin : Option PyStr)
    (app : Uuid) {log : List RemovalEntry} (read : ∀ entry ∈ log, entry.state = start ∧
      ¬ entry.op.commits ∧ (∀ key, ¬ entry.op.deletesKey key) ∧ ∀ other, ¬ entry.op.syncsOrigin other) :
    LeftBy settings inside origin app start start log := by
  have unfinished : ¬ CommittedDeletion settings log := by
    rintro ⟨entry, member, commits, _⟩
    exact (read entry member).2.1 commits
  refine ⟨⟨fun committed => absurd committed unfinished, fun _ => rfl, rfl, rfl⟩,
    ⟨fun entry member key deletes => ?_, fun entry member key deletes => ?_, fun _ _ => rfl,
      fun _ => rfl, fun entry member => ?_, Shrinks.refl _⟩,
    ⟨fun entry member other syncs => ?_, fun entry member other syncs => ?_,
      fun _ => rfl, fun entry member => ?_, fun _ member => member⟩⟩
  · exact absurd deletes.1 ((read entry member).2.2.1 key)
  · exact absurd deletes.1 ((read entry member).2.2.1 key)
  · rw [(read entry member).1]
    exact Shrinks.refl _
  · exact absurd syncs.1 ((read entry member).2.2.2 other)
  · exact absurd syncs.1 ((read entry member).2.2.2 other)
  · rw [(read entry member).1]
    exact fun _ listed => listed

end

/-- Wherever `delete_app` stops. -/
theorem removal_left (settings : Settings) (tables : Unicode) (redirects : RedirectSettings)
    (app : App) (accessToken : Option PyStr) (userId : Option Nat) (actorEmail : PyStr)
    (calls : Nat) (start : RemovalWorld) :
    LeftBy settings (AppKey settings start.hosting.db app.id)
      (askedOrigin tables redirects app accessToken) app.id start (removal settings tables redirects app accessToken userId actorEmail calls start).2
      (removal settings tables redirects app accessToken userId actorEmail calls start).1.log := by
  cases calls with
  | zero => exact .first settings _ _ _ fun entry member => by cases member
  | succ calls =>
    let rows := (start.hosting.db.deployments.filter (·.app = app.id)).reverse
    have changes : ∀ row ∈ rows, (deleteDeploymentArtifacts settings row).All
        (Changes (AppKey settings start.hosting.db app.id) fun _ => False) := by
      intro row member
      obtain ⟨stored, owner⟩ := List.mem_filter.mp (List.mem_reverse.mp member)
      refine (deleteDeploymentArtifacts_changes _ row).mono fun β op changes => changes.mono
        (fun key inside => ⟨row, stored, of_decide_eq_true owner, inside⟩) fun _ saved => saved
    have rest : (deleteRows settings tables redirects app accessToken userId actorEmail rows).All
        (DeleteAppCall (AppKey settings start.hosting.db app.id)
          (askedOrigin tables redirects app accessToken) app.id) :=
      deleteRows_calls changes accessToken userId actorEmail
    have step (β : Type) (op : RemovalCall β) (world : RemovalWorld) (log : List RemovalEntry)
        (call : DeleteAppCall (AppKey settings start.hosting.db app.id)
          (askedOrigin tables redirects app accessToken) app.id β op)
        (left : LeftBy settings (AppKey settings start.hosting.db app.id)
          (askedOrigin tables redirects app accessToken) app.id start world log) := left.step call
    rw [removal, deleteAppAndRedirect_eq]
    refine Thread.after_invariant rest step ?_ calls
    refine .first settings _ _ _ fun entry member => ?_
    obtain rfl := List.mem_singleton.mp member
    exact ⟨rfl, id, fun _ => id, fun _ => id⟩

section
variable {settings : Settings} {library : Library} {tables : Unicode} {redirects : RedirectSettings}
  {app : App} {start world : RemovalWorld} {log : List RemovalEntry}

/-- A site that nothing was taken from is served as before. -/
theorem LeftBy.kept {inside : PyStr → Prop} {origin : Option PyStr}
    (left : LeftBy settings inside origin app.id start world log)
    (found : start.hosting.db.app app.id = some app) (unfinished : ¬ CommittedDeletion settings log)
    (untouched : Untouched settings log) :
    SiteKept settings library tables redirects app start world := by
  have rows := left.rows.kept unfinished
  have files := left.files.kept fun entry member key deletes => (untouched entry member).1 key deletes
  have list := left.list.kept fun entry member other struck => (untouched entry member).2 other struck
  have same (faults : List (Option Error)) :
      world.hosting.withFaults faults = start.hosting.withFaults faults := by
    rw [World.withFaults, World.withFaults, rows, left.rows.cache, left.rows.clock]
    dsimp only
    rw [files]
  refine ⟨by rw [rows, found], fun key _ => by rw [files], fun slug pathInfo faults => ?_,
    fun origin _ listed => by rw [list]; exact listed⟩
  rw [visit, visit, same]

theorem LeftBy.untouched {accessToken : Option PyStr}
    (left : LeftBy settings (AppKey settings start.hosting.db app.id)
      (askedOrigin tables redirects app accessToken) app.id start world log)
    (kept : SiteKept settings library tables redirects app start world) : Untouched settings log := by
  refine fun entry member => ⟨fun key deletes stored => ?_, fun other struck listed => ?_⟩
  · have inside := left.files.inside entry member key deletes
    obtain ⟨content, there⟩ := Option.isSome_iff_exists.mp (AList.lookup_isSome.mpr stored)
    have before := left.files.entries entry member key content there
    have gone := left.files.gone entry member key deletes
    rw [kept.files key inside, before] at gone
    cases gone
  · have own := appOrigin_of_asked (left.list.own entry member other struck)
    have before := left.list.entries entry member other listed
    exact left.list.gone entry member other struck (kept.registered other own before)

theorem LeftBy.sweptAway {inside : PyStr → Prop} {origin : Option PyStr}
    (left : LeftBy settings inside origin app.id start world log)
    (gone : SiteGone settings app start world) : SweptAway settings app start log := by
  intro key stored inside
  by_contra spared
  have stays := left.files.stays key fun entry member deletes => spared ⟨entry, member, deletes⟩
  rw [gone.files key inside] at stays
  exact AList.lookup_eq_none.mp stays.symm stored

theorem LeftBy.gone {inside : PyStr → Prop} {origin : Option PyStr}
    (left : LeftBy settings inside origin app.id start world log)
    (committed : CommittedDeletion settings log) (swept : SweptAway settings app start log) :
    SiteGone settings app start world := by
  obtain ⟨row, deployments⟩ := left.rows.gone committed
  refine ⟨row, deployments, fun key inside => ?_⟩
  by_cases stored : key ∈ start.hosting.disk.objects
  · obtain ⟨entry, member, deletes⟩ := swept key stored inside
    exact left.files.gone entry member key deletes
  · by_contra present
    obtain ⟨content, there⟩ := Option.ne_none_iff_exists'.mp present
    have before := left.files.shrinks key content there
    exact stored (mem_of_lookup before)

end

/-- Wherever `delete_app` stops, by the calls it has made: the app is there as before or all
gone if and only if the deletion is committed and every stored object was deleted, or it is not
and no object was and the login redirect is registered. -/
theorem removal_ends_iff (settings : Settings) (library : Library) (tables : Unicode)
    (redirects : RedirectSettings) (start : RemovalWorld) {app : App}
    (found : start.hosting.db.app app.id = some app) (accessToken : Option PyStr)
    (userId : Option Nat) (actorEmail : PyStr) (calls : Nat) :
    let ended := removal settings tables redirects app accessToken userId actorEmail calls start
    (SiteKept settings library tables redirects app start ended.2 ∨
        SiteGone settings app start ended.2) ↔
      (CommittedDeletion settings ended.1.log → SweptAway settings app start ended.1.log) ∧
      (¬ CommittedDeletion settings ended.1.log → Untouched settings ended.1.log) := by
  intro ended
  have left : LeftBy settings _ _ app.id start ended.2 ended.1.log :=
    removal_left settings tables redirects app accessToken userId actorEmail calls start
  by_cases committed : CommittedDeletion settings ended.1.log
  · have rows := (left.rows.gone committed).1
    constructor
    · rintro (kept | gone)
      · rw [kept.row] at rows
        cases rows
      · exact ⟨fun _ => left.sweptAway gone, fun unfinished => absurd committed unfinished⟩
    · intro both
      exact .inr (left.gone committed (both.1 committed))
  · have rows := left.rows.kept committed
    constructor
    · rintro (kept | gone)
      · exact ⟨fun finished => absurd finished committed, fun _ => left.untouched kept⟩
      · have row := gone.row
        rw [rows, found] at row
        cases row
    · intro both
      exact .inl (left.kept found committed (both.2 committed))

end HostingService
