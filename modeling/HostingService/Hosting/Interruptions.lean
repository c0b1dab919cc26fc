import HostingService.Hosting.Deletion
import HostingService.Hosting.Emptied
import Mathlib.Order.Nat

/-! For which apps `delete_app` is all or nothing wherever it is interrupted. -/

namespace HostingService

open Program Text Storage Transaction

/-- The same service and app, with what the calls to come are going to meet: the outcomes of
the storage calls, those of the identity service, and whether the database commits. -/
def RemovalWorld.meeting (start : RemovalWorld) (faults : List (Option Error))
    (identity : List SyncOutcome) (commits : Bool) : RemovalWorld where
  hosting := start.hosting.withFaults faults
  allowlist := start.allowlist
  identity := identity
  commits := commits

/-- Nothing is stored for the app, and the redirect that is asked to be removed, if one is, is
not registered. -/
structure NothingToLose (settings : Settings) (tables : Unicode) (redirects : RedirectSettings)
    (app : App) (accessToken : Option PyStr) (start : RemovalWorld) : Prop where
  files : ∀ key ∈ start.hosting.disk.objects, ¬ AppKey settings start.hosting.db app.id key
  redirect : ∀ origin, askedOrigin tables redirects app accessToken = some origin →
    origin ∉ start.allowlist

section
variable {settings : Settings} {tables : Unicode} {redirects : RedirectSettings} {app : App}
  {accessToken : Option PyStr} {userId : Option Nat} {actorEmail : PyStr} {start world : RemovalWorld}

/-! ### A deletion that nothing interrupts -/

theorem hoist_hoist {Call : Type → Type u} {Middle : Type → Type v} {Outer : Type → Type w}
    {α : Type} (first : ∀ β, Call β → Middle β) (second : ∀ β, Middle β → Outer β)
    (body : Prog Call Error α) :
    (body.hoist first).hoist second = body.hoist fun β op => second β (first β op) := by
  induction body with
  | ret value => rfl
  | raise error => rfl
  | call op next ih => exact congrArg (Prog.call _) (funext ih)

/-- The clean-up of the rows makes storage calls alone. -/
theorem hoist_cleanUp (rows : List Deployment) :
    ((Prog.forEach (fun row => storage (deleteDeploymentArtifacts settings row)) rows).hoist
        fun _ statement => (.within [] statement : SessionStatement _)).hoist
          (fun _ statement => RemovalCall.session statement) =
      (Prog.forEach (deleteDeploymentArtifacts settings) rows).hoist
        fun _ op => .session (.within [] (.storage op)) := by
  induction rows with
  | nil => rfl
  | cons row rows ih =>
    rw [Prog.forEach, Prog.hoist_bind, Prog.hoist_bind, Prog.forEach, Prog.hoist_bind, storage,
      hoist_hoist, hoist_hoist]
    exact congrArg (_ >>= ·) (funext fun _ => ih)

theorem run_cleanUp (body : StorageProg Unit) (world : RemovalWorld) :
    (body.hoist fun _ op => RemovalCall.session (.within [] (.storage op))).run
        (RemovalCall.handle settings) world =
      ((body.run (StorageCall.handle (storageBackend settings)) world.hosting.disk).1,
        { world with hosting := { world.hosting with
          disk := (body.run (StorageCall.handle (storageBackend settings)) world.hosting.disk).2 } }) :=
  Prog.run_hoist (fun _ op => RemovalCall.session (.within [] (.storage op)))
    (fun world : RemovalWorld => world.hosting.disk)
    (fun disk world => { world with hosting := { world.hosting with disk } })
    (fun _ _ => rfl) (fun _ => rfl) (fun _ _ _ => rfl) (fun _ op _ => handle_within_storage op) body world

/-- On a store that answers the clean-up of a deployment returns. -/
theorem deleteDeploymentArtifacts_returns (row : Deployment) (before : Objects) :
    ∃ after, (deleteDeploymentArtifacts settings row).run (StorageCall.handle (storageBackend settings))
      (answering before) = (.ok (), answering after) := by
  obtain ⟨first, extracted, _⟩ := run_deleteExtractedPrefix settings (storagePrefix_anchored row) before
  have artifact : ∃ second, (Prog.tryCatch (do
      let found ← .perform (.hasKey (artifactKey settings row))
      .when found (.perform (.delete (artifactKey settings row)))) fun _ => pure () :
      StorageProg Unit).run (StorageCall.handle (storageBackend settings)) (answering first) =
        (.ok (), answering second) := by
    obtain ⟨result, second, ran⟩ := run_answering (storageBackend settings) (.perform
      (.hasKey (artifactKey settings row)) >>= fun found =>
        .when found (.perform (.delete (artifactKey settings row))) : StorageProg Unit) first
    cases result with
    | ok value => exact ⟨second, Prog.run_tryCatch_ok _ ran _⟩
    | error error => exact ⟨second, Prog.run_tryCatch_error _ ran _⟩
  obtain ⟨second, artifact⟩ := artifact
  rw [deleteDeploymentArtifacts]
  by_cases s3 : isS3Backend settings = true
  · have measured := run_perform_answering (storageBackend settings) .longestKey second
    obtain ⟨after, listed⟩ := @deleteListing_returns settings
      (buildStorageKey settings row.storagePrefix) (fun name =>
        deleteArtifactListing settings ((second.keys.map List.length).foldr max 0)
          (rstripSlash row.storagePrefix ++ slash :: name)) second
    refine ⟨after, (Prog.run_bind_ok _ extracted _).trans ((Prog.run_bind_ok _ artifact _).trans ?_)⟩
    rw [if_pos s3, deleteArtifactPrefix, if_pos s3]
    exact (Prog.run_bind_ok _ measured _).trans listed
  · obtain ⟨after, swept, _⟩ := erases_filesystemTree (Bool.not_eq_true _ ▸ s3)
      (buildStorageKey settings (rstripSlash row.storagePrefix)) second
    refine ⟨after, (Prog.run_bind_ok _ extracted _).trans ((Prog.run_bind_ok _ artifact _).trans ?_)⟩
    rw [if_neg s3]
    exact swept

theorem cleanUp_returns (rows : List Deployment) (before : Objects) :
    ∃ after, (Prog.forEach (deleteDeploymentArtifacts settings) rows).run
      (StorageCall.handle (storageBackend settings)) (answering before) = (.ok (), answering after) := by
  induction rows generalizing before with
  | nil => exact ⟨before, rfl⟩
  | cons row rows ih =>
    obtain ⟨middle, first⟩ := @deleteDeploymentArtifacts_returns settings row before
    obtain ⟨after, rest⟩ := ih middle
    exact ⟨after, (Prog.run_bind_ok _ first _).trans rest⟩

/-- The requests to the identity service return, and change its list alone. -/
theorem run_syncRequest (url origin token : PyStr) (attempts : Nat) (world : RemovalWorld) :
    ∃ allowlist identity, (syncRequest url origin token attempts).run (RemovalCall.handle settings) world =
        (.ok (), { world with allowlist, identity }) ∧
      (∀ listed ∈ allowlist, listed ∈ world.allowlist) ∧
      (attempts ≠ 0 → (∃ outcome ∈ world.identity.head?, outcome.removed = true) →
        origin ∉ allowlist) := by
  induction attempts generalizing world with
  | zero => exact ⟨world.allowlist, world.identity, rfl, fun _ listed => listed, fun some => absurd rfl some⟩
  | succ attempts ih =>
    have asked : ∃ status allowlist identity, (RemovalCall.handle settings (Option Nat)
        (.syncDelete url origin token) world) = (.ok status, { world with allowlist, identity }) ∧
        (∀ listed ∈ allowlist, listed ∈ world.allowlist) ∧
        ((∃ outcome ∈ world.identity.head?, outcome.removed = true) → origin ∉ allowlist) := by
      obtain ⟨hosting, allowlist, identity, commits⟩ := world
      cases identity with
      | nil =>
        refine ⟨none, allowlist, [], rfl, fun _ listed => listed, fun removes => ?_⟩
        obtain ⟨_, next, _⟩ := removes
        cases next
      | cons outcome identity =>
        refine ⟨outcome.status, _, identity, rfl, fun listed member => ?_, fun removes => ?_⟩
        · split at member
          · exact (List.mem_filter.mp member).1
          · exact member
        · obtain ⟨_, next, removed⟩ := removes
          cases next
          rw [if_pos removed]
          simp
    obtain ⟨status, allowlist, identity, answered, fewer, struck⟩ := asked
    have first : (Prog.perform (.syncDelete url origin token) : Removal (Option Nat)).run
        (RemovalCall.handle settings) world = (.ok status, { world with allowlist, identity }) := by
      rw [Prog.run_perform, answered]
    rw [syncRequest, Prog.run_bind_ok _ first]
    split
    · obtain ⟨later, rest, ran, fewerLater, _⟩ := ih { world with allowlist, identity }
      refine ⟨later, rest, ran, fun listed member => fewer listed (fewerLater listed member), ?_⟩
      exact fun _ removes member => struck removes (fewerLater origin member)
    · exact ⟨allowlist, identity, rfl, fewer, fun _ => struck⟩

theorem run_sync (world : RemovalWorld) :
    ∃ allowlist identity, (match appOrigin tables redirects app with
        | none => pure ()
        | some origin => deleteHostingOauthRedirectOrigin redirects origin accessToken : Removal Unit).run
          (RemovalCall.handle settings) world = (.ok (), { world with allowlist, identity }) ∧
      ((∃ outcome ∈ world.identity.head?, outcome.removed = true) →
        ∀ origin, askedOrigin tables redirects app accessToken = some origin → origin ∉ allowlist) := by
  rw [askedOrigin]
  rcases appOrigin tables redirects app with _ | origin
  · exact ⟨world.allowlist, world.identity, rfl, fun _ _ asked => by simp at asked⟩
  · simp only [deleteHostingOauthRedirectOrigin]
    rcases base : identityBaseUrl redirects with _ | url
    · exact ⟨world.allowlist, world.identity, rfl, fun _ _ asked => by simp at asked⟩
    · by_cases token : strip (accessToken.getD []) = []
      · simp only [if_pos token]
        exact ⟨world.allowlist, world.identity, rfl, fun _ _ asked => by simp [token] at asked⟩
      · simp only [if_neg token]
        obtain ⟨allowlist, identity, ran, _, struck⟩ := @run_syncRequest settings
          (url ++ lit "/api/v1/hosting-oauth-redirects") origin (strip (accessToken.getD [])) 3 world
        refine ⟨allowlist, identity, ran, fun removes other asked => ?_⟩
        obtain rfl : origin = other := by simpa [token] using asked
        exact struck (by decide) removes

/-- At its end, on a store that answers: a commit has taken the app away, and an answer that
removes the redirect has taken it off the list. -/
theorem run_deleteApp (answers : start.hosting.disk.faults = []) :
    let ended := ((deleteAppAndRedirect settings tables redirects app accessToken userId
      actorEmail).run (RemovalCall.handle settings) start).2
    (start.commits = true → ended.hosting.db.app app.id = none) ∧
      ((∃ outcome ∈ start.identity.head?, outcome.removed = true) →
        ∀ origin, askedOrigin tables redirects app accessToken = some origin →
          origin ∉ ended.allowlist) := by
  intro ended
  let rows := (start.hosting.db.deployments.filter (·.app = app.id)).reverse
  have read : (Prog.perform (.session (.within [] (.select fun db =>
      (db.deployments.filter (·.app = app.id)).reverse))) : Removal (List Deployment)).run
      (RemovalCall.handle settings) start = (.ok rows, start) := rfl
  have store : start.hosting.disk = answering start.hosting.disk.objects := by
    rw [answering, ← answers]
  obtain ⟨after, cleaned⟩ := @cleanUp_returns settings rows start.hosting.disk.objects
  let cleanedWorld : RemovalWorld :=
    { start with hosting := { start.hosting with disk := answering after } }
  have swept := @run_cleanUp settings (Prog.forEach (deleteDeploymentArtifacts settings) rows) start
  rw [store, cleaned] at swept
  let event : Event :=
    ⟨.appDeleted, app.companyId, .app (appEventPayload app), actionActor userId actorEmail⟩
  have deleted : (Prog.perform (.session (.within [] (.execute (.deleteApp app.id)))) : Removal Unit).run
      (RemovalCall.handle settings) cleanedWorld = (.ok (), cleanedWorld) := rfl
  have recorded : (Prog.perform (.session (.within [.deleteApp app.id]
      (.execute (.recordEvent event)))) : Removal Unit).run (RemovalCall.handle settings) cleanedWorld =
        (.ok (), cleanedWorld) := rfl
  obtain ⟨allowlist, identity, synced, struck⟩ :=
    @run_sync settings tables redirects app accessToken cleanedWorld
  have ends : ended = (RemovalCall.handle settings Unit
      (.session (.commit [.deleteApp app.id, .recordEvent event]))
        { cleanedWorld with allowlist, identity }).2 := by
    have ran : (deleteAppAndRedirect settings tables redirects app accessToken userId actorEmail).run
        (RemovalCall.handle settings) start = (Prog.perform (.session (.commit
          [.deleteApp app.id, .recordEvent event])) : Removal Unit).run (RemovalCall.handle settings)
            { cleanedWorld with allowlist, identity } := by
      rw [deleteAppAndRedirect_eq, Prog.run_bind_ok _ read, deleteRows, hoist_cleanUp,
        Prog.run_bind_ok _ swept, Prog.run_bind_ok _ deleted, Prog.run_bind_ok _ recorded]
      refine Eq.trans ?_ (Prog.run_bind_ok _ synced fun _ => Prog.perform (.session (.commit
        [.deleteApp app.id, .recordEvent event])))
      cases appOrigin tables redirects app <;> rfl
    exact (congrArg Prod.snd ran).trans (by rw [Prog.run_perform])
  rw [ends, RemovalCall.handle]
  refine ⟨fun commits => ?_, fun removes origin asked => ?_⟩
  · rw [if_pos (show ({ cleanedWorld with allowlist, identity } : RemovalWorld).commits = true from commits)]
    exact (app_deleteApp (show (database settings).replay start.hosting.db _ = .ok _ from rfl)).1
  · split
    · exact struck removes origin asked
    · exact struck removes origin asked

/-! ### Call by call -/

/-- One call more is one of `delete_app`, or leaves everything as it is. -/
theorem removal_step (calls : Nat) :
    (removal settings tables redirects app accessToken userId actorEmail (calls + 1) start).2 =
        (removal settings tables redirects app accessToken userId actorEmail calls start).2 ∨
      ∃ β, ∃ op : RemovalCall β, DeleteAppCall (AppKey settings start.hosting.db app.id)
          (askedOrigin tables redirects app accessToken) app.id β op ∧
        (removal settings tables redirects app accessToken userId actorEmail (calls + 1) start).2 =
          (RemovalCall.handle settings β op
            (removal settings tables redirects app accessToken userId actorEmail calls start).2).2 := by
  rw [removal, removal, deleteAppAndRedirect_eq]
  cases calls with
  | zero => exact .inl rfl
  | succ calls =>
    refine Thread.after_step (deleteRows_calls (fun row member => ?_) accessToken userId actorEmail) calls
    obtain ⟨stored, owner⟩ := List.mem_filter.mp (List.mem_reverse.mp member)
    refine (deleteDeploymentArtifacts_changes _ row).mono fun β op changes => changes.mono
      (fun key inside => ⟨row, stored, of_decide_eq_true owner, inside⟩) fun _ saved => saved

theorem removal_finishes : ∃ calls,
    (removal settings tables redirects app accessToken userId actorEmail calls start).2 =
      ((deleteAppAndRedirect settings tables redirects app accessToken userId actorEmail).run
        (RemovalCall.handle settings) start).2 :=
  Thread.after_finishes _ _ _ _ _

/-- A call that takes a file leaves the rows. -/
theorem DeleteAppCall.files_or_rows {inside : PyStr → Prop} {origin : Option PyStr} {β : Type}
    {op : RemovalCall β} (call : DeleteAppCall inside origin app.id β op) :
    (RemovalCall.handle settings β op world).2.hosting.disk.objects = world.hosting.disk.objects ∨
      (RemovalCall.handle settings β op world).2.hosting.db = world.hosting.db := by
  cases call with
  | commit event =>
    rcases (@DeleteAppCall.commit (fun _ => False) origin app.id event).objects with
      ⟨_, impossible, _⟩ | ⟨_, same⟩
    · exact impossible.elim
    · exact .inl same
  | storage op changes => exact .inr rfl
  | execute pending change =>
    rw [handle_within_execute]
    exact .inl rfl
  | sync url token removed own =>
    rw [RemovalCall.handle]
    split <;> exact .inl rfl

theorem DeleteAppCall.uncommitted {inside : PyStr → Prop} {origin : Option PyStr} {β : Type}
    {op : RemovalCall β} (call : DeleteAppCall inside origin app.id β op)
    (open_ : world.commits = false) :
    (RemovalCall.handle settings β op world).2.hosting.db = world.hosting.db ∧
      (RemovalCall.handle settings β op world).2.commits = false := by
  cases call with
  | storage op changes => exact ⟨rfl, open_⟩
  | execute pending change =>
    rw [handle_within_execute]
    exact ⟨rfl, open_⟩
  | sync url token removed own =>
    rw [RemovalCall.handle]
    split <;> exact ⟨rfl, open_⟩
  | commit event =>
    rw [RemovalCall.handle, if_neg (by rw [open_]; exact Bool.false_ne_true)]
    exact ⟨rfl, open_⟩

/-- A database that is not going to commit keeps its rows. -/
theorem removal_uncommitted (open_ : start.commits = false) (calls : Nat) :
    (removal settings tables redirects app accessToken userId actorEmail calls start).2.hosting.db =
        start.hosting.db ∧
      (removal settings tables redirects app accessToken userId actorEmail calls start).2.commits =
        false := by
  induction calls with
  | zero => exact ⟨rfl, open_⟩
  | succ calls ih =>
    rcases @removal_step settings tables redirects app accessToken userId actorEmail start calls with same | ⟨β, op, call, later⟩
    · rw [same]
      exact ih
    · rw [later]
      obtain ⟨rows, still⟩ := @DeleteAppCall.uncommitted settings app _ _ _ _ _ call ih.2
      exact ⟨rows.trans ih.1, still⟩

/-! ### Which apps have nothing to lose -/

variable {library : Library}

/-- Where the deletion is all or nothing at every stop, no file of the app is stored: the last
stop before a first file is gone has all rows, and so has the next one. -/
theorem no_files_of_all_or_nothing (answers : start.hosting.disk.faults = [])
    (commits : start.commits = true) (every : ∀ calls,
      SiteKept settings library tables redirects app start
          (removal settings tables redirects app accessToken userId actorEmail calls start).2 ∨
        SiteGone settings app start
          (removal settings tables redirects app accessToken userId actorEmail calls start).2) :
    ∀ key ∈ start.hosting.disk.objects, ¬ AppKey settings start.hosting.db app.id key := by
  classical
  intro key stored own
  obtain ⟨full, finished⟩ := @removal_finishes settings tables redirects app accessToken userId
    actorEmail start
  have taken := (@run_deleteApp settings tables redirects app accessToken userId actorEmail start
    answers).1 commits
  let state (calls : Nat) : RemovalWorld :=
    (removal settings tables redirects app accessToken userId actorEmail calls start).2
  have gone (calls : Nat) (removed : (state calls).hosting.db.app app.id = none) :
      SiteGone settings app start (state calls) := by
    refine (every calls).resolve_left fun kept => ?_
    have there := kept.row
    rw [show (removal settings tables redirects app accessToken userId actorEmail calls start).2.hosting.db.app
      app.id = none from removed] at there
    cases there
  have lost : ∃ calls, ∃ other ∈ start.hosting.disk.objects,
      AppKey settings start.hosting.db app.id other ∧ (state calls).hosting.disk.objects.lookup other = none := by
    refine ⟨full, key, stored, own, (gone full ?_).files key own⟩
    rw [show state full = _ from finished]
    exact taken
  obtain ⟨other, present, ofApp, absent⟩ := Nat.find_spec lost
  rcases first : Nat.find lost with _ | before
  · rw [first] at absent
    exact AList.lookup_eq_none.mp absent present
  · rw [first] at absent
    have earlier := Nat.find_min lost (show before < Nat.find lost by omega)
    have still : (state before).hosting.disk.objects.lookup other ≠ none := fun empty =>
      earlier ⟨other, present, ofApp, empty⟩
    have row : (state (before + 1)).hosting.db.app app.id = none := by
      rcases every (before + 1) with kept | emptied
      · have same := kept.files other ofApp
        rw [show (removal settings tables redirects app accessToken userId actorEmail (before + 1)
          start).2.hosting.disk.objects.lookup other = none from absent] at same
        exact absurd present (AList.lookup_eq_none.mp same.symm)
      · exact emptied.row
    rcases @removal_step settings tables redirects app accessToken userId actorEmail start before with
      same | ⟨β, op, call, later⟩
    · have alike : state (before + 1) = state before := same
      exact still (alike ▸ absent)
    · rcases @DeleteAppCall.files_or_rows settings app (state before) _ _ _ _ call with files | rows
      · have alike : (state (before + 1)).hosting.disk.objects = (state before).hosting.disk.objects :=
          (congrArg (·.hosting.disk.objects) later).trans files
        exact still (alike ▸ absent)
      · have removed : (state before).hosting.db.app app.id = none := by
          rw [← rows, ← later]
          exact row
        exact still ((gone before removed).files other ofApp)

/-- Where the deletion is all or nothing at every stop before a commit that fails, an answer of
the identity service removes no registered redirect. -/
theorem no_redirect_of_all_or_nothing (answers : start.hosting.disk.faults = [])
    (open_ : start.commits = false) (removes : ∃ outcome ∈ start.identity.head?, outcome.removed = true)
    (found : start.hosting.db.app app.id = some app)
    (every : ∀ calls,
      SiteKept settings library tables redirects app start
          (removal settings tables redirects app accessToken userId actorEmail calls start).2 ∨
        SiteGone settings app start
          (removal settings tables redirects app accessToken userId actorEmail calls start).2) :
    ∀ origin, askedOrigin tables redirects app accessToken = some origin → origin ∉ start.allowlist := by
  intro origin asked listed
  obtain ⟨full, finished⟩ := @removal_finishes settings tables redirects app accessToken userId
    actorEmail start
  have struck := (@run_deleteApp settings tables redirects app accessToken userId actorEmail start
    answers).2 removes origin asked
  have rows := (@removal_uncommitted settings tables redirects app accessToken userId actorEmail start
    open_ full).1
  rcases every full with kept | gone
  · have registered := kept.registered origin (appOrigin_of_asked asked) listed
    rw [finished] at registered
    exact struck registered
  · have row := gone.row
    rw [rows, found] at row
    cases row

end

/-- Whatever the storage and the identity service answer, whether the database commits, and
wherever `delete_app` stops: the app is there as before or all gone, exactly for the apps that
have nothing to lose before the commit. -/
theorem deleteApp_all_or_nothing (settings : Settings) (library : Library) (tables : Unicode)
    (redirects : RedirectSettings) (start : RemovalWorld) {app : App}
    (found : start.hosting.db.app app.id = some app) (accessToken : Option PyStr)
    (userId : Option Nat) (actorEmail : PyStr) :
    (∀ faults identity commits calls,
      let begun := start.meeting faults identity commits
      let ended := removal settings tables redirects app accessToken userId actorEmail calls begun
      SiteKept settings library tables redirects app begun ended.2 ∨
        SiteGone settings app begun ended.2) ↔
      NothingToLose settings tables redirects app accessToken start := by
  constructor
  · intro every
    constructor
    · exact @no_files_of_all_or_nothing settings tables redirects app accessToken userId actorEmail
        (start.meeting [] [] true) library rfl rfl
        fun calls => every [] [] true calls
    · exact @no_redirect_of_all_or_nothing settings tables redirects app accessToken userId actorEmail
        (start.meeting [] [⟨some 204, true⟩] false) library rfl rfl
        ⟨_, rfl, rfl⟩ found fun calls => every [] [⟨some 204, true⟩] false calls
  · rintro ⟨files, redirect⟩ faults identity commits calls
    have left := removal_left settings tables redirects app accessToken userId actorEmail calls
      (start.meeting faults identity commits)
    refine (removal_ends_iff settings library tables redirects (start.meeting faults identity commits)
      found accessToken userId actorEmail calls).mpr ⟨fun _ key stored own => ?_, fun _ entry member => ?_⟩
    · exact absurd own (files key stored)
    · refine ⟨fun key deletes stored => ?_, fun origin struck listed => ?_⟩
      · exact files key ((left.files.entries entry member).mem stored)
          (left.files.inside entry member key deletes)
      · exact redirect origin (left.list.own entry member origin struck)
          (left.list.entries entry member origin listed)

/-! An app with a draft alone, and the first site. -/

def siteDomain : RedirectSettings where
  hostingAppDomain := lit "apps.example.com"
  hostingAppScheme := lit "https"
  identityServiceUrl := some (lit "https://identity.example.com")
  identityJwksSource := some .env
  identityJwksUrl := none

def servedSite : RemovalWorld where
  hosting := runFrom defaultSettings demoLibrary emptyWorld firstSite
  allowlist := [lit "https://demo.apps.example.com"]
  identity := []
  commits := true

def servedApp : App :=
  { id := ⟨1⟩
    name := lit "demo"
    slug := (letterDraw 3).candidate
    companyId := 3
    displayName := lit "demo"
    createdById := none
    expiresAt := none
    currentDeployment := some ⟨2⟩ }

/-- An app whose first deployment was never uploaded; its redirect is not registered. -/
def unpublishedSite : RemovalWorld where
  hosting := runFrom defaultSettings demoLibrary emptyWorld
    [(Request.createApp demoApp).served, (Request.createDeployment ⟨1⟩ (build ⟨2⟩)).served]
  allowlist := [lit "https://other.apps.example.com"]
  identity := []
  commits := true

def draftedApp : App := { servedApp with currentDeployment := none }

def siteRemoval (calls : Nat) : Thread RemovalCall Error RemovalWorld Unit Unit × RemovalWorld :=
  removal defaultSettings asciiTables siteDomain servedApp (some (lit "token")) (some 7) [] calls
    servedSite

theorem servedSite_app : servedSite.hosting.db.app ⟨1⟩ = some servedApp := by decide +kernel

/-- Stopped wherever it may be, with any outcomes. -/
theorem deleteApp_all_or_nothing_draft :
    (∀ faults identity commits calls,
      let begun := unpublishedSite.meeting faults identity commits
      let ended := removal defaultSettings asciiTables siteDomain draftedApp (some (lit "token")) (some 7)
        [] calls begun
      SiteKept defaultSettings demoLibrary asciiTables siteDomain draftedApp begun ended.2 ∨
        SiteGone defaultSettings draftedApp begun ended.2) ∧
      unpublishedSite.hosting.db.deployments = [firstDraft] := by
  have found : unpublishedSite.hosting.db.app draftedApp.id = some draftedApp := by decide +kernel
  have blank : unpublishedSite.hosting.disk.objects.keys = [] := by decide +kernel
  have asked : askedOrigin asciiTables siteDomain draftedApp (some (lit "token")) ≠
      some (lit "https://other.apps.example.com") := by decide +kernel
  refine ⟨(deleteApp_all_or_nothing defaultSettings demoLibrary asciiTables siteDomain unpublishedSite
    found (some (lit "token")) (some 7) []).mpr ⟨fun key stored => ?_, fun origin own => ?_⟩,
      by decide +kernel⟩
  · rw [AList.mem_keys, blank] at stored
    exact absurd stored List.not_mem_nil
  · intro listed
    exact asked (List.mem_singleton.mp listed ▸ own)

/-- Stopped once the first file is deleted. -/
theorem deleteApp_leaves_site_without_files :
    ¬ ∀ (settings : Settings) (library : Library) (tables : Unicode) (redirects : RedirectSettings)
        (start : RemovalWorld) (app : App) (_ : start.hosting.db.app app.id = some app)
        (accessToken : Option PyStr) (userId : Option Nat) (actorEmail : PyStr) (calls : Nat),
      SiteKept settings library tables redirects app start
          (removal settings tables redirects app accessToken userId actorEmail calls start).2 ∨
        SiteGone settings app start
          (removal settings tables redirects app accessToken userId actorEmail calls start).2 := by
  intro always
  have either : SiteKept defaultSettings demoLibrary asciiTables siteDomain servedApp servedSite
        (siteRemoval 4).2 ∨ SiteGone defaultSettings servedApp servedSite (siteRemoval 4).2 :=
    always defaultSettings demoLibrary asciiTables siteDomain servedSite servedApp
      servedSite_app (some (lit "token")) (some 7) [] 4
  obtain ⟨page, gone, there⟩ : servedSite.hosting.disk.objects.lookup
        (extractedFileKey defaultSettings firstDraft (lit "index.html")) ≠ none ∧
      (siteRemoval 4).2.hosting.disk.objects.lookup
        (extractedFileKey defaultSettings firstDraft (lit "index.html")) = none ∧
      (siteRemoval 4).2.hosting.db.app servedApp.id = some servedApp := by decide +kernel
  have own : AppKey defaultSettings servedSite.hosting.db servedApp.id
      (extractedFileKey defaultSettings firstDraft (lit "index.html")) := by
    unfold AppKey InFolder
    decide +kernel
  generalize siteRemoval 4 = ended at either gone there
  generalize servedSite = start at either page own
  generalize extractedFileKey defaultSettings firstDraft (lit "index.html") = key at page own gone
  rcases either with kept | emptied
  · exact page ((kept.files key own).symm.trans gone)
  · have row := emptied.row
    rw [there] at row
    cases row

end HostingService
