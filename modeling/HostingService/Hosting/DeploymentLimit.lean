import HostingService.Hosting.Runs
import HostingService.Hosting.Sessions
import HostingService.Program.Stages

/-! Deployments that requests create side by side, and the limit of an app. The rows are
counted before the new one is inserted, so the count may be out of date by then. -/

namespace HostingService

open Program Text Storage Transaction

def Db.deploymentCount (db : Db) (app : Uuid) : Nat := (db.deployments.filter (·.app = app)).length

/-- The two requests that create a deployment. -/
inductive DeployTask where
  | createDeployment (app : Uuid) (new : NewDeployment)
  | preparePreviewDeploy (preview : NewPreview) (slug : Option PyStr) (anyUser : Bool)
      (new : NewDeployment)

def DeployTask.request : DeployTask → Request
  | .createDeployment app new => .createDeployment app new
  | .preparePreviewDeploy preview slug anyUser new => .preparePreviewDeploy preview slug anyUser new

def DeployTask.session (settings : Settings) (library : Library) (task : DeployTask) : Session Unit :=
  task.request.session settings library

/-- Whatever else happens, it leaves the deployments as they are. -/
def KeepsDeployments (before after : World) : Prop := after.db.deployments = before.db.deployments

abbrev DeployThread := Thread SessionStatement Error World DeployTask Unit

abbrev DeployCrew := Crew SessionStatement Error World DeployTask Unit

def DeployCrew.Reaches (settings : Settings) (library : Library) : DeployCrew → DeployCrew → Prop :=
  Crew.Reaches (database settings).session (DeployTask.session settings library) KeepsDeployments

/-! ### CountsDeployments and commits -/

/-- `app.deployments.count()` -/
inductive CountsDeployments (app : Uuid) : ∀ β, SessionStatement β → Prop where
  | autocommit :
      CountsDeployments app Nat (.autocommit (.select fun db => (db.deployments.filter (·.app = app)).length))
  | within (pending : List Change) : CountsDeployments app Nat
      (.within pending (.select fun db => (db.deployments.filter (·.app = app)).length))

def Change.inserts (app : Uuid) : Change → Bool
  | .insertDeployment row => row.app = app
  | _ => false

/-- A deployment of the app is inserted where it is committed. -/
inductive InsertsDeployment (app : Uuid) : ∀ β, SessionStatement β → Prop where
  | autocommit (change : Change) (inserts : change.inserts app = true) :
      InsertsDeployment app Unit (.autocommit (.execute change))
  | commit (pending : List Change) (change : Change) (member : change ∈ pending)
      (inserts : change.inserts app = true) : InsertsDeployment app Unit (.commit pending)

/-- A deployment of the app was committed. -/
def Committed (settings : Settings) (app : Uuid) (entry : Entry SessionStatement World) : Prop :=
  InsertsDeployment app _ entry.op ∧
    ∃ value, ((database settings).session _ entry.op entry.state).1 = .ok value

/-- Where the thread commits a deployment of the app, none was committed since the thread
counted them, or there is still room for one. -/
def CountHolds (settings : Settings) (app : Uuid) (log : List (Entry SessionStatement World)) : Prop :=
  ∀ earlier entry later, log = earlier ++ entry :: later → Committed settings app entry →
    ∀ count ∈ earlier, CountsDeployments app _ count.op →
      entry.state.db.deploymentCount app ≤ count.state.db.deploymentCount app ∨
        (entry.state.db.deploymentCount app : Int) < settings.hostingMaxDeploymentsPerApp

section
variable {settings : Settings} {library : Library} {app : Uuid} {world : World}

theorem CountHolds.earlier {log later : List (Entry SessionStatement World)}
    (holds : CountHolds settings app (log ++ later)) : CountHolds settings app log := by
  intro before entry after same committed
  refine holds before entry (after ++ later) ?_ committed
  rw [same, List.append_assoc, List.cons_append]

/-! ### What writes do to the count -/

def Change.grows : Change → Bool
  | .deleteApp _ => false
  | _ => true

theorem deploymentCount_map {db : Db} {change : Deployment → Deployment}
    (kept : ∀ row, (change row).app = row.app) :
    ({ db with deployments := db.deployments.map change } : Db).deploymentCount app =
      db.deploymentCount app := by
  simp [Db.deploymentCount, List.filter_map, Function.comp_def, kept]

theorem apply_deploymentCount {change : Change} {before after : Db}
    (applied : change.apply before = .ok after) (grows : change.grows = true) :
    after.deploymentCount app = before.deploymentCount app +
      if change.inserts app then 1 else 0 := by
  cases change with
  | insertDeployment row =>
    rw [Change.apply] at applied
    split at applied
    · cases applied
    · cases applied
      rw [Db.deploymentCount, List.filter_append, List.length_append, List.filter_singleton,
        Change.inserts]
      cases decide (row.app = app) <;> rfl
  | saveDeployment id columns =>
    rw [Change.apply] at applied
    split at applied
    · cases applied
      refine deploymentCount_map fun row => ?_
      split <;> rfl
    · cases applied
  | supersede owner id =>
    cases applied
    refine deploymentCount_map fun row => ?_
    rw [Deployment.supersededBy]
    split <;> rfl
  | deleteApp id => cases grows
  | recordEvent event =>
    cases applied
    rfl
  | insertApp row | saveApp id column =>
    rw [Change.apply] at applied
    split at applied
    · cases applied <;> rfl
    · cases applied <;> rfl

theorem replay_deploymentCount {pending : List Change} {before after : Db}
    (replayed : (database settings).replay before pending = .ok after)
    (grow : ∀ change ∈ pending, change.grows = true) :
    after.deploymentCount app = before.deploymentCount app + pending.countP (·.inserts app) := by
  induction pending generalizing before with
  | nil =>
    cases replayed
    rfl
  | cons change pending ih =>
    rw [Tables.replay] at replayed
    rcases applied : change.apply before with error | middle
    · rw [show (database settings).apply before change = _ from applied] at replayed
      cases replayed
    · rw [show (database settings).apply before change = _ from applied] at replayed
      have first : middle.deploymentCount app = _ :=
        apply_deploymentCount applied (grow change List.mem_cons_self)
      have rest := ih replayed fun other member => grow other (List.mem_cons_of_mem _ member)
      rw [rest, first, List.countP_cons]
      omega

/-- A call of an open transaction commits nothing. -/
theorem session_within {β : Type} (pending : List Change) (statement : Statement β) :
    ((database settings).session β (.within pending statement) world).2.db = world.db := by
  rw [Tables.session]
  split <;> rfl

theorem session_commit (pending : List Change) :
    (database settings).session Unit (.commit pending) world =
      match (database settings).replay world.db pending with
      | .ok db => (.ok (), { world with db })
      | .error error => (.error error, world) := by
  rw [Tables.session]
  rcases replayed : (database settings).replay world.db pending with error | db
  · simp only [show (database settings).replay ((database settings).get world) pending = _ from replayed]
  · simp only [show (database settings).replay ((database settings).get world) pending = _ from replayed]
    rfl

/-! ### Stages -/

/-- What a call does to the count that its thread took, and to the rows. -/
inductive LimitMove (settings : Settings) (app : Uuid) :
    ∀ β, SessionStatement β → Option Nat → World → Option Nat → Prop where
  | counts {β : Type} {op : SessionStatement β} (stage : Option Nat) (world : World)
      (counts : CountsDeployments app β op) :
      LimitMove settings app β op stage world (some (world.db.deploymentCount app))
  | keeps {β : Type} {op : SessionStatement β} (stage : Option Nat) (world : World)
      (inserts : ¬ InsertsDeployment app β op)
      (kept : ((database settings).session β op world).2.db.deploymentCount app =
        world.db.deploymentCount app) : LimitMove settings app β op stage world stage
  | inserts {op : SessionStatement Unit} (counted : Nat) (world : World)
      (inserts : InsertsDeployment app Unit op)
      (room : (counted : Int) < settings.hostingMaxDeploymentsPerApp)
      (added : (∃ value, ((database settings).session Unit op world).1 = .ok value) →
        ((database settings).session Unit op world).2.db.deploymentCount app =
          world.db.deploymentCount app + 1)
      (refused : (∃ error, ((database settings).session Unit op world).1 = .error error) →
        ((database settings).session Unit op world).2.db.deploymentCount app =
          world.db.deploymentCount app) :
      LimitMove settings app Unit op (some counted) world (some counted)

/-- What the thread counted for the app. -/
def limitStaging (settings : Settings) (app : Uuid) : Staging SessionStatement World (Option Nat) where
  holds _ _ := True
  moves := LimitMove settings app

abbrev Session.Limits (settings : Settings) (app : Uuid) {α : Type} (session : Session α)
    (ends : Except Error α → Option Nat → Prop) (stage : Option Nat) : Prop :=
  session.Follows (database settings).session (limitStaging settings app) ends stage

/-- A request that found room in the app of its deployment. -/
def Counted (settings : Settings) (app owner : Uuid) (stage : Option Nat) : Prop :=
  owner = app → ∃ counted, stage = some counted ∧
    (counted : Int) < settings.hostingMaxDeploymentsPerApp

/-- The writes add so many deployments of the app, and delete no app. -/
def Adds (app : Uuid) (count : Nat) (pending : List Change) : Prop :=
  (∀ change ∈ pending, change.grows = true) ∧ pending.countP (·.inserts app) = count

theorem Adds.concat {count : Nat} {pending : List Change} (adds : Adds app count pending)
    {change : Change} (grows : change.grows = true) :
    Adds app (count + if change.inserts app then 1 else 0) (pending ++ [change]) := by
  obtain ⟨grow, counted⟩ := adds
  refine ⟨fun other member => ?_, ?_⟩
  · rcases List.mem_append.mp member with old | new
    · exact grow other old
    · rwa [List.mem_singleton.mp new]
  · rw [List.countP_append, counted, List.countP_singleton]

theorem LimitMove.within {β : Type} {pending : List Change} {statement : Statement β}
    {stage : Option Nat} : LimitMove settings app β (.within pending statement) stage world stage := by
  refine .keeps stage world ?_ (congrArg (Db.deploymentCount · app) (session_within pending statement))
  intro inserts
  cases inserts

/-- Outside of transactions, a statement that writes nothing. -/
theorem LimitMove.asks {β : Type} {statement : Statement β} {stage : Option Nat}
    (unwritten : Statement.written β statement = none) :
    LimitMove settings app β (.autocommit statement) stage world stage := by
  refine .keeps stage world ?_ ?_
  · intro inserts
    cases inserts
    cases unwritten
  · exact congrArg (Db.deploymentCount · app)
      ((database_lawful settings).reads statement unwritten world)

/-- Outside of transactions, a write that inserts no deployment without a count. -/
theorem LimitMove.execute {change : Change} {stage : Option Nat} (grows : change.grows = true)
    (counted : change.inserts app = true → Counted settings app app stage) :
    LimitMove settings app Unit (.autocommit (.execute change)) stage world stage := by
  have handled : (database settings).session Unit (.autocommit (.execute change)) world =
      match change.apply world.db with
      | .ok db => (.ok (), { world with db })
      | .error error => (.error error, world) := rfl
  by_cases inserts : change.inserts app = true
  · obtain ⟨count, rfl, room⟩ := counted inserts rfl
    refine .inserts count world (.autocommit change inserts) room ?_ ?_
    · rintro ⟨value, answer⟩
      rcases applied : change.apply world.db with error | db
      · rw [handled, applied] at answer
        cases answer
      · have sum : db.deploymentCount app = _ := apply_deploymentCount applied grows
        rw [handled, applied]
        rwa [if_pos inserts] at sum
    · rintro ⟨error, answer⟩
      rcases applied : change.apply world.db with error | db
      · rw [handled, applied]
      · rw [handled, applied] at answer
        cases answer
  · refine .keeps stage world ?_ ?_
    · intro none
      cases none
      contradiction
    · rcases applied : change.apply world.db with error | db
      · rw [handled, applied]
      · have sum : db.deploymentCount app = _ := apply_deploymentCount applied grows
        rw [handled, applied]
        rwa [if_neg inserts] at sum

/-- The commit of a transaction that inserts one deployment, of a counted app. -/
theorem LimitMove.commit {pending : List Change} {owner : Uuid} {stage : Option Nat}
    (adds : Adds app (if owner = app then 1 else 0) pending)
    (counted : Counted settings app owner stage) :
    LimitMove settings app Unit (.commit pending) stage world stage := by
  obtain ⟨grow, many⟩ := adds
  have handled : (database settings).session Unit (.commit pending) world = _ := session_commit pending
  by_cases own : owner = app
  · obtain ⟨count, rfl, room⟩ := counted own
    rw [if_pos own] at many
    obtain ⟨change, member, inserts⟩ := List.countP_pos_iff.mp (many.symm ▸ Nat.one_pos)
    refine .inserts count world (.commit pending change member inserts) room ?_ ?_
    · rintro ⟨value, answer⟩
      rcases replayed : (database settings).replay world.db pending with error | db
      · rw [handled, replayed] at answer
        cases answer
      · rw [handled, replayed]
        have sum : db.deploymentCount app = _ := replay_deploymentCount replayed grow
        rwa [many] at sum
    · rintro ⟨error, answer⟩
      rcases replayed : (database settings).replay world.db pending with error | db
      · rw [handled, replayed]
      · rw [handled, replayed] at answer
        cases answer
  · rw [if_neg own] at many
    refine .keeps stage world ?_ ?_
    · intro some
      cases some with
      | commit _ change member inserts =>
        exact (List.countP_eq_zero.mp many) change member inserts
    · rcases replayed : (database settings).replay world.db pending with error | db
      · rw [handled, replayed]
      · rw [handled, replayed]
        have sum : db.deploymentCount app = _ := replay_deploymentCount replayed grow
        rwa [many] at sum

/-! ### The two requests -/

/-- Calls that leave the count of their thread and the rows alone. -/
theorem limits_keeps {α : Type} {body : Session α} {ends : Except Error α → Option Nat → Prop}
    {stage : Option Nat}
    (keeps : body.All fun β op => ∀ world, LimitMove settings app β op stage world stage)
    (ended : ∀ result, ends result stage) : Session.Limits settings app body ends stage :=
  keeps.follows (fun _ _ world moves _ => moves world) ended

/-- Outside of transactions, statements that write nothing. -/
theorem limits_asks {α : Type} {body : Transaction α} {ends : Except Error α → Option Nat → Prop}
    {stage : Option Nat} (asks : body.All fun β statement => Statement.written β statement = none)
    (ended : ∀ result, ends result stage) :
    Session.Limits settings app (body.hoist fun _ statement => .autocommit statement) ends stage :=
  limits_keeps (Prog.all_hoist.mpr (asks.mono fun _ _ unwritten _ => .asks unwritten)) ended

theorem assertHostingAccess_asks (companyId : Nat) :
    (assertHostingAccess settings companyId).All fun β statement =>
      Statement.written β statement = none := by
  rw [assertHostingAccess]
  split
  · trivial
  · refine .bind (Prog.all_perform.mpr rfl) fun record => ?_
    exact .when fun _ => Prog.all_raise _

/-- The count and its check. -/
theorem limits_count {owner : Uuid} {embed : SessionStatement Nat} {α : Type} {rest : Session α}
    {error : Error} {ends : Except Error α → Option Nat → Prop} {stage : Option Nat}
    (counts : owner = app → CountsDeployments app Nat embed)
    (keeps : owner ≠ app → ∀ world, LimitMove settings app Nat embed stage world stage)
    (answer : owner = app → ∀ world count,
      ((database settings).session Nat embed world).1 = .ok count →
        count = world.db.deploymentCount app)
    (raised : ∀ error later, ends (.error error) later)
    (passed : ∀ later, Counted settings app owner later → rest.Limits settings app ends later) :
    Session.Limits settings app (Prog.perform embed >>= fun count =>
      Prog.when (count ≥ settings.hostingMaxDeploymentsPerApp) (throw error) >>= fun _ => rest)
      ends stage := by
  refine Prog.follows_perform_bind fun world _ => ?_
  by_cases own : owner = app
  · refine ⟨_, .counts stage world (counts own), fun count found => ?_, fun error _ => raised error _⟩
    obtain rfl := answer own world count found
    by_cases room : (world.db.deploymentCount app : Int) < settings.hostingMaxDeploymentsPerApp
    · refine Prog.follows_check (raised _ _) (passed _ fun _ => ⟨_, rfl, room⟩)
    · rw [decide_eq_true (Int.not_lt.mp room)]
      exact raised _ _
  · refine ⟨stage, keeps own world, fun count _ => ?_, fun error _ => raised error _⟩
    exact Prog.follows_check (raised _ _) (passed _ fun same => absurd same own)

/-- `create_deployment` outside of a transaction. -/
theorem createDeployment_limits (row : App) (new : NewDeployment) (stage : Option Nat) :
    Session.Limits settings app ((createDeployment settings library row new).hoist
      fun _ statement => .autocommit statement) (fun _ _ => True) stage := by
  have access : Session.Limits settings app ((assertHostingAccess settings row.companyId).hoist
      fun _ statement => .autocommit statement) (fun _ _ => True) stage :=
    limits_asks (assertHostingAccess_asks _) fun _ => trivial
  rw [createDeployment, Prog.hoist_bind]
  refine access.bind (fun _ _ _ => trivial) fun _ stage _ => ?_
  rw [Prog.hoist_bind, select, Prog.hoist_perform]
  simp only [Prog.hoist_bind, Prog.hoist_check, Prog.hoist_ofExcept, Prog.throw_eq_raise]
  refine limits_count (fun own : row.id = app => own ▸ .autocommit) (fun _ _ => .asks rfl)
    (fun own world count found => ?_) (fun _ _ => trivial) fun later counted => ?_
  · rw [← own]
    exact (Except.ok.inj found).symm
  refine Prog.follows_ofExcept_bind (fun _ => trivial) fun _ _ => ?_
  refine Prog.follows_ofExcept_bind (fun _ => trivial) fun _ _ => ?_
  rw [execute, Prog.hoist_perform]
  refine Prog.follows_perform_bind fun world _ => ⟨later, .execute rfl fun inserts own => ?_,
    fun _ _ => ?_, fun _ _ => trivial⟩
  · exact counted (of_decide_eq_true inserts)
  rw [emitEvent, execute, Prog.hoist_perform]
  refine Prog.follows_perform_bind fun world _ => ⟨later, .execute rfl fun inserts => ?_,
    fun _ _ => trivial, fun _ _ => trivial⟩
  cases inserts

/-- A statement that writes no deployment and deletes no app. -/
def Settles (app : Uuid) (β : Type) (statement : Statement β) : Prop :=
  ∀ change, Statement.written β statement = some change →
    change.grows = true ∧ change.inserts app = false

/-- Statements of a transaction that add no deployment. -/
theorem limits_within {α : Type} {body : Transaction α} {pending : List Change} {count : Nat}
    {stage : Option Nat} (settles : body.All (Settles app)) (adds : Adds app count pending) :
    Session.Limits settings app (body.within (database settings) pending)
      (fun result later => later = stage ∧ ∀ value written, result = .ok (value, written) →
        Adds app count written) stage := by
  induction body generalizing pending with
  | ret value =>
    refine ⟨rfl, fun other written same => ?_⟩
    cases same
    exact adds
  | raise error => exact ⟨rfl, fun value written same => by cases same⟩
  | @call β statement next ih =>
    intro world _
    refine ⟨stage, .within, ih _ (settles.2 _) ?_⟩
    cases ((database settings).session β (.within pending statement) world).1 with
    | error error => exact adds
    | ok value =>
      rw [Tables.grown]
      rcases written : Statement.written β statement with _ | change
      · rw [show (database settings).written β statement = _ from written]
        simpa using adds
      · obtain ⟨grows, inserts⟩ := settles.1 change written
        rw [show (database settings).written β statement = _ from written]
        have more := adds.concat grows
        rwa [inserts] at more

theorem settles_asks {α : Type} {body : Transaction α}
    (asks : body.All fun β statement => Statement.written β statement = none) :
    body.All (Settles app) := by
  refine asks.mono fun β statement unwritten change written => ?_
  rw [unwritten] at written
  cases written

theorem generatePublicSlug_asks (draws : Fin 32 → SlugDraw) :
    (generatePublicSlug slugTaken draws).All fun β statement =>
      Statement.written β statement = none := by
  rw [generatePublicSlug]
  induction List.ofFn draws with
  | nil => trivial
  | cons draw draws ih =>
    refine .bind (Prog.all_perform.mpr rfl) fun taken => ?_
    cases taken with
    | true => exact ih
    | false => trivial

theorem emitEvent_settles {eventType : EventType} {companyId : Nat} {payload : Payload}
    {actor : Option Actor} : (emitEvent eventType companyId payload actor).All (Settles app) := by
  refine Prog.all_perform.mpr fun change written => ?_
  cases written
  exact ⟨rfl, rfl⟩

theorem createPreviewApp_settles (preview : NewPreview) :
    (createPreviewApp settings preview).All (Settles app) := by
  have check {test : Bool} {error : Error} :
      (Prog.when test (throw error) : Transaction Unit).All (Settles app) :=
    .when fun _ => Prog.all_raise error
  have asks : (activeAppCount preview.companyId).All fun β statement =>
      Statement.written β statement = none :=
    .bind (Prog.all_perform.mpr rfl) fun _ => Prog.all_perform.mpr rfl
  refine (settles_asks (assertHostingAccess_asks _)).bind fun _ => (settles_asks asks).bind fun _ => ?_
  refine check.bind fun _ => (settles_asks (generatePublicSlug_asks _)).bind fun slug => ?_
  refine .bind (Prog.all_perform.mpr fun change written => ?_) fun _ =>
    emitEvent_settles.bind fun _ => Prog.all_ret _
  cases written
  exact ⟨rfl, rfl⟩

theorem resolvePreviewApp_asks (slug : PyStr) (companyId userId : Nat) (anyUser : Bool) :
    (resolvePreviewApp library slug companyId userId anyUser).All fun β statement =>
      Statement.written β statement = none := by
  have check {test : Bool} {error : Error} : (Prog.when test (throw error) : Transaction Unit).All
      fun β statement => Statement.written β statement = none :=
    .when fun _ => Prog.all_raise error
  refine .bind (Prog.all_ofExcept _) fun _ => .bind (Prog.all_perform.mpr rfl) fun _ => ?_
  refine .bind (Prog.all_ofExcept _) fun _ => check.bind fun _ => check.bind fun _ => ?_
  exact check.bind fun _ => Prog.all_ret _

/-- The writes of `create_deployment`. -/
theorem Adds.created {pending : List Change} (adds : Adds app 0 pending) (row : Deployment)
    (event : Event) : Adds app (if row.app = app then 1 else 0)
      (pending ++ [] ++ [.insertDeployment row] ++ [.recordEvent event]) := by
  have inserted : Adds app (0 + if decide (row.app = app) then 1 else 0)
      (pending ++ [.insertDeployment row]) := adds.concat rfl
  have recorded : Adds app ((0 + if decide (row.app = app) then 1 else 0) + 0)
      (pending ++ [.insertDeployment row] ++ [.recordEvent event]) := inserted.concat rfl
  simp only [decide_eq_true_eq, Nat.zero_add, Nat.add_zero] at recorded
  rwa [List.append_nil]

/-- What a transaction counts is committed, as long as it has added nothing itself. -/
theorem session_count {pending : List Change} (adds : Adds app 0 pending) {count : Nat}
    (found : ((database settings).session Nat (.within pending
      (.select fun db => (db.deployments.filter (·.app = app)).length)) world).1 = .ok count) :
    count = world.db.deploymentCount app := by
  rw [Tables.session] at found
  rcases replayed : (database settings).replay world.db pending with error | db
  · simp only [show (database settings).replay ((database settings).get world) pending = _ from replayed]
      at found
    cases found
  · simp only [show (database settings).replay ((database settings).get world) pending = _ from replayed]
      at found
    have sum : db.deploymentCount app = _ := replay_deploymentCount replayed adds.1
    rw [adds.2] at sum
    exact (Except.ok.inj found).symm.trans sum

/-- `create_deployment` in a transaction that has added no deployment yet. -/
theorem createDeployment_within (row : App) (new : NewDeployment) {pending : List Change}
    (adds : Adds app 0 pending) (stage : Option Nat) :
    Session.Limits settings app ((createDeployment settings library row new).within
        (database settings) pending)
      (fun result later => ∀ value written, result = .ok (value, written) →
        Counted settings app row.id later ∧ Adds app (if row.id = app then 1 else 0) written) stage := by
  have failed {value : Deployment} {written : List Change} {error : Error} {later : Option Nat}
      (same : Except.error error = .ok (value, written)) : Counted settings app row.id later ∧
        Adds app (if row.id = app then 1 else 0) written := by cases same
  rw [createDeployment, Prog.within_bind]
  refine (limits_within (settles_asks (assertHostingAccess_asks _)) adds).bind
    (fun _ _ _ _ _ same => failed same) fun written stage asked => ?_
  obtain ⟨_, pending⟩ := written
  have adds : Adds app 0 pending := asked.2 _ _ rfl
  dsimp only
  rw [Prog.within_bind, select, Prog.within_perform, Prog.bind_assoc]
  simp only [Prog.ret_bind, Prog.within_bind, Prog.within_check, Prog.within_ofExcept, Prog.bind_assoc,
    Prog.throw_eq_raise]
  refine limits_count (fun own : row.id = app => own ▸ .within pending) (fun _ _ => .within)
    (fun own world count found => ?_) (fun _ _ _ _ same => failed same) fun later counted => ?_
  · subst own
    exact session_count adds found
  refine Prog.follows_ofExcept_bind (fun _ _ _ same => failed same) fun _ _ => ?_
  refine Prog.follows_ofExcept_bind (fun _ _ _ same => failed same) fun _ _ => ?_
  rw [execute, Prog.within_perform, Prog.bind_assoc]
  refine Prog.follows_perform_bind fun world _ => ⟨later, .within, fun _ _ => ?_,
    fun _ _ _ _ same => failed same⟩
  rw [emitEvent, execute, Prog.ret_bind, Prog.within_perform, Prog.bind_assoc]
  refine Prog.follows_perform_bind fun world _ => ⟨later, .within, fun _ _ => ?_,
    fun _ _ _ _ same => failed same⟩
  intro value written same
  cases same
  exact ⟨counted, adds.created _ _⟩

/-- The transaction of a preview request. -/
theorem preparePreviewDeploy_limits (preview : NewPreview) (slug : Option PyStr) (anyUser : Bool)
    (new : NewDeployment) (stage : Option Nat) :
    Session.Limits settings app ((preparePreviewDeploy settings library preview slug anyUser
      new).transaction (database settings)) (fun _ _ => True) stage := by
  have nothing : Adds app 0 [] := ⟨by simp, rfl⟩
  have deploys (resolve : Transaction App) (settles : resolve.All (Settles app))
      (created : NewDeployment) : Session.Limits settings app ((resolve >>= fun row =>
        createDeployment settings library row created >>= fun deployment =>
          pure (row, deployment)).transaction (database settings)) (fun _ _ => True) stage := by
    rw [Prog.transaction, Prog.within_bind, Prog.bind_assoc]
    refine (limits_within settles nothing).bind (fun _ _ _ => trivial)
      fun written stage resolved => ?_
    obtain ⟨row, pending⟩ := written
    have adds : Adds app 0 pending := resolved.2 _ _ rfl
    dsimp only
    rw [Prog.within_bind, Prog.bind_assoc]
    refine (createDeployment_within row _ adds stage).bind (fun _ _ _ => trivial)
      fun written later created => ?_
    obtain ⟨deployment, pending⟩ := written
    obtain ⟨counted, adds⟩ := created _ _ rfl
    exact Prog.follows_perform_bind fun world _ => ⟨later, .commit adds counted, fun _ _ => trivial,
      fun _ _ => trivial⟩
  rw [preparePreviewDeploy]
  split
  · exact deploys _ (createPreviewApp_settles preview) _
  · exact deploys _ (settles_asks (resolvePreviewApp_asks ..)) _

theorem follows_attempt {α β : Type} {body : Session β} {rest : Except Error β → Session α}
    {ends : Except Error α → Option Nat → Prop} {stage : Option Nat}
    (first : Session.Limits settings app body (fun _ _ => True) stage)
    (later : ∀ result stage, Session.Limits settings app (rest result) ends stage) :
    Session.Limits settings app (body.attempt rest) ends stage := by
  induction body generalizing stage with
  | ret value => exact later _ _
  | raise error => exact later _ _
  | call op next ih =>
    intro world holds
    obtain ⟨stage, moved, follows⟩ := first world holds
    exact ⟨stage, moved, ih _ follows⟩

theorem DeployTask.limits (task : DeployTask) (stage : Option Nat) :
    (task.session settings library).Limits settings app (fun _ _ => True) stage := by
  cases task with
  | createDeployment id new =>
    have loaded : (loadRow (·.app id)).All fun β statement =>
        Statement.written β statement = none :=
      .bind (Prog.all_perform.mpr rfl) fun _ => Prog.all_ofExcept _
    have asked : Session.Limits settings app ((loadRow (·.app id)).hoist
        fun _ statement => .autocommit statement) (fun _ _ => True) stage :=
      limits_asks loaded fun _ => trivial
    rw [session, request, Request.session, Request.service, session_autocommit, Prog.hoist_bind]
    refine asked.bind (fun _ _ _ => trivial) fun row stage _ => ?_
    rw [Prog.hoist_bind]
    exact (createDeployment_limits row new stage).bind (fun _ _ _ => trivial) fun _ _ _ => trivial
  | preparePreviewDeploy preview slug anyUser new =>
    refine follows_attempt (preparePreviewDeploy_limits preview slug anyUser new stage)
      fun result later => ?_
    cases result <;> trivial

/-! ### Crews -/

abbrev DeployPost := Program.Post SessionStatement Error World DeployTask (Option Nat) Unit

/-- What a thread has counted is in its log, every commit added a row, and as long as no count
was overtaken the limit holds. -/
structure LimitInv (settings : Settings) (app : Uuid) (world : World) (posts : List DeployPost) :
    Prop where
  logged : ∀ post ∈ posts, ∀ counted, post.stage = some counted → ∃ count ∈ post.thread.log,
    CountsDeployments app _ count.op ∧ count.state.db.deploymentCount app = counted
  added : ∀ post ∈ posts, ∀ entry ∈ post.thread.log, Committed settings app entry →
    entry.state.db.deploymentCount app < world.db.deploymentCount app
  within : (∀ post ∈ posts, CountHolds settings app post.thread.log) →
    (world.db.deploymentCount app : Int) ≤ settings.hostingMaxDeploymentsPerApp

theorem LimitMove.grows {β : Type} {op : SessionStatement β} {stage later : Option Nat}
    (moved : LimitMove settings app β op stage world later) :
    world.db.deploymentCount app ≤
      ((database settings).session β op world).2.db.deploymentCount app := by
  cases moved with
  | counts _ _ counts =>
    cases counts with
    | autocommit => exact le_rfl
    | within pending => rw [session_within]
  | keeps _ _ _ kept => exact kept.ge
  | @inserts op count _ inserts room added refused =>
    rcases answer : ((database settings).session Unit op world).1 with error | value
    · exact (refused ⟨error, answer⟩).ge
    · rw [added ⟨value, answer⟩]
      exact Nat.le_succ _

theorem InsertsDeployment.answers_unit {β : Type} {op : SessionStatement β}
    (inserts : InsertsDeployment app β op) : β = Unit := by
  cases inserts <;> rfl

/-- A count, which returns a number, is no insert. -/
theorem CountsDeployments.not_inserts {β : Type} {op : SessionStatement β}
    (counts : CountsDeployments app β op) : ¬ InsertsDeployment app β op := by
  intro inserts
  have same := inserts.answers_unit
  have number : Nat = Unit := by cases counts <;> exact same
  have only : ∀ first second : Nat, first = second := by
    rw [number]
    exact fun _ _ => rfl
  exact absurd (only 0 1) Nat.zero_ne_one

/-- A commit is made by a thread that found room, and adds one row. -/
theorem LimitMove.committed {β : Type} {op : SessionStatement β} {stage later : Option Nat}
    (moved : LimitMove settings app β op stage world later)
    (committed : Committed settings app ⟨op, world⟩) :
    ((database settings).session β op world).2.db.deploymentCount app =
        world.db.deploymentCount app + 1 ∧
      ∃ counted, stage = some counted ∧ (counted : Int) < settings.hostingMaxDeploymentsPerApp := by
  obtain ⟨inserts, answered⟩ := committed
  cases moved with
  | counts _ _ counts => exact absurd inserts counts.not_inserts
  | keeps _ _ none kept => exact absurd inserts none
  | inserts count _ _ room added refused => exact ⟨added answered, count, rfl, room⟩

/-- A call that is no commit leaves the rows as they are. -/
theorem LimitMove.kept {β : Type} {op : SessionStatement β} {stage later : Option Nat}
    (moved : LimitMove settings app β op stage world later)
    (quiet : ¬ Committed settings app ⟨op, world⟩) :
    ((database settings).session β op world).2.db.deploymentCount app =
      world.db.deploymentCount app := by
  cases moved with
  | counts _ _ counts =>
    cases counts with
    | autocommit => rfl
    | within pending => rw [session_within]
  | keeps _ _ none kept => exact kept
  | @inserts op count _ inserts room added refused =>
    rcases answer : ((database settings).session Unit op world).1 with error | value
    · exact refused ⟨error, answer⟩
    · exact absurd ⟨inserts, value, answer⟩ quiet

theorem LimitMove.stage {β : Type} {op : SessionStatement β} {stage later : Option Nat}
    (moved : LimitMove settings app β op stage world later) :
    later = stage ∨ CountsDeployments app β op ∧ later = some (world.db.deploymentCount app) := by
  cases moved with
  | counts _ _ counts => exact .inr ⟨counts, rfl⟩
  | keeps => exact .inl rfl
  | inserts => exact .inl rfl

theorem LimitInv.moves {β : Type} {op : SessionStatement β} {left right : List DeployPost}
    {task : DeployTask} {rest next : Session Unit} {log : List (Entry SessionStatement World)}
    {stage later : Option Nat}
    (inv : LimitInv settings app world (left ++ ⟨⟨task, rest, log⟩, stage⟩ :: right))
    (moved : LimitMove settings app β op stage world later) :
    LimitInv settings app ((database settings).session β op world).2
      (left ++ ⟨⟨task, next, log ++ [⟨op, world⟩]⟩, later⟩ :: right) := by
  have others {post : DeployPost} (member : post ∈ left ++ right) :
      post ∈ left ++ ⟨⟨task, rest, log⟩, stage⟩ :: right := mem_middle.mpr (.inr member)
  have own := mem_middle.mpr (.inl rfl : _ ∨ (⟨⟨task, rest, log⟩, stage⟩ : DeployPost) ∈ left ++ right)
  refine ⟨fun post member counted staged => ?_, fun post member entry made committed => ?_,
    fun holds => ?_⟩
  · rcases mem_middle.mp member with rfl | other
    · rcases moved.stage with rfl | ⟨counts, rfl⟩
      · obtain ⟨count, made, found⟩ := inv.logged _ own counted staged
        exact ⟨count, List.mem_append_left _ made, found⟩
      · exact ⟨⟨op, world⟩, by simp, counts, Option.some.inj staged⟩
    · exact inv.logged post (others other) counted staged
  · rcases mem_middle.mp member with rfl | other
    · rcases List.mem_append.mp made with old | new
      · exact (inv.added _ own entry old committed).trans_le moved.grows
      · obtain rfl := List.mem_singleton.mp new
        exact (Nat.lt_succ_self _).trans_eq (moved.committed committed).1.symm
    · exact (inv.added post (others other) entry made committed).trans_le moved.grows
  · have bounded := inv.within fun post member => by
      rcases mem_middle.mp member with rfl | other
      · exact (holds _ (mem_middle.mpr (.inl rfl))).earlier
      · exact holds post (mem_middle.mpr (.inr other))
    by_cases committed : Committed settings app ⟨op, world⟩
    · obtain ⟨added, counted, rfl, room⟩ := moved.committed committed
      obtain ⟨count, made, counts, same⟩ := inv.logged _ own counted rfl
      have fresh := holds _ (mem_middle.mpr (.inl rfl)) log ⟨op, world⟩ [] rfl committed count made counts
      dsimp only at fresh
      omega
    · rwa [moved.kept committed]

theorem LimitInv.arrives {posts : List DeployPost} (inv : LimitInv settings app world posts)
    (task : DeployTask) :
    LimitInv settings app world (⟨⟨task, task.session settings library, []⟩, none⟩ :: posts) := by
  refine ⟨fun post member counted staged => ?_, fun post member entry made => ?_, fun holds => ?_⟩
  · rcases List.mem_cons.mp member with rfl | old
    · cases staged
    · exact inv.logged post old counted staged
  · rcases List.mem_cons.mp member with rfl | old
    · cases made
    · exact inv.added post old entry made
  · exact inv.within fun post member => holds post (List.mem_cons_of_mem _ member)

theorem LimitInv.changes {after : World} {posts : List DeployPost}
    (inv : LimitInv settings app world posts) (changed : KeepsDeployments world after) :
    LimitInv settings app after posts := by
  have same : after.db.deploymentCount app = world.db.deploymentCount app := by
    rw [Db.deploymentCount, show after.db.deployments = _ from changed]
    rfl
  refine ⟨inv.logged, fun post member entry made committed => ?_, fun holds => ?_⟩
  · rw [same]
    exact inv.added post member entry made committed
  · rw [same]
    exact inv.within holds

end

/-- Requests that create deployments side by side keep to the limit of an app if and only if
none of them commits its deployment after others have filled the app since it counted. -/
theorem deployments_within_limit (settings : Settings) (library : Library) (start : World)
    (app : Uuid) (within : (start.db.deploymentCount app : Int) ≤ settings.hostingMaxDeploymentsPerApp)
    {crew : DeployCrew} (reaches : DeployCrew.Reaches settings library ⟨start, []⟩ crew) :
    (crew.shared.db.deploymentCount app : Int) ≤ settings.hostingMaxDeploymentsPerApp ↔
      ∀ thread ∈ crew.threads, CountHolds settings app thread.log := by
  have initial : LimitInv settings app start [] := ⟨by simp, by simp, fun _ => within⟩
  obtain ⟨posts, staffed, inv, _⟩ := Crew.Reaches.staged (LimitInv settings app)
    (fun task => task.limits none) initial rfl (fun _ _ task inv => inv.arrives task)
    (fun _ _ _ changed inv => inv.changes changed) (fun _ _ _ _ _ => trivial)
    (fun _ _ _ _ _ _ _ _ _ inv moved => inv.moves moved) reaches
  rw [← staffed, List.forall_mem_map]
  refine ⟨fun bounded post member => ?_, inv.within⟩
  intro earlier entry later same committed count _ _
  have added := inv.added post member entry (by simp [same]) committed
  omega

/-! An app that may have one deployment, and two requests for its first. One of them has
counted when the other one is served. -/

def oneDeployment : Settings := { defaultSettings with hostingMaxDeploymentsPerApp := 1 }

def createdApp : World :=
  runFrom oneDeployment demoLibrary emptyWorld [(Request.createApp demoApp).served]

def deployThread (deployment : Uuid) : DeployThread :=
  ⟨.createDeployment ⟨1⟩ (build deployment),
    (DeployTask.createDeployment ⟨1⟩ (build deployment)).session oneDeployment demoLibrary, []⟩

def countingDeploy : DeployThread × World :=
  (deployThread ⟨2⟩).after (database oneDeployment).session 3 createdApp

def overtakingDeploy : DeployThread × World :=
  (deployThread ⟨3⟩).after (database oneDeployment).session 5 countingDeploy.2

def overtakenDeploy : DeployThread × World :=
  countingDeploy.1.after (database oneDeployment).session 2 overtakingDeploy.2

def filledApp : DeployCrew := ⟨overtakenDeploy.2, [overtakingDeploy.1, overtakenDeploy.1]⟩

theorem filledApp_reached :
    DeployCrew.Reaches oneDeployment demoLibrary ⟨createdApp, []⟩ filledApp := by
  refine .head (.arrive (.createDeployment ⟨1⟩ (build ⟨2⟩))) ?_
  refine (Crew.Reaches.after 3 (deployThread ⟨2⟩) createdApp [] []).trans ?_
  refine .head (.arrive (.createDeployment ⟨1⟩ (build ⟨3⟩))) ?_
  refine (Crew.Reaches.after 5 (deployThread ⟨3⟩) countingDeploy.2 [] [countingDeploy.1]).trans ?_
  exact Crew.Reaches.after 2 countingDeploy.1 overtakingDeploy.2 [overtakingDeploy.1] []

theorem filledApp_count : filledApp.shared.db.deploymentCount ⟨1⟩ = 2 := by decide +kernel

theorem filledApp_overtaken :
    ¬ ∀ thread ∈ filledApp.threads, CountHolds oneDeployment ⟨1⟩ thread.log := by
  intro holds
  have bounded := (deployments_within_limit oneDeployment demoLibrary createdApp ⟨1⟩
    (by decide +kernel) filledApp_reached).mpr holds
  rw [filledApp_count] at bounded
  exact absurd bounded (by decide)

theorem deployments_exceed_limit :
    ¬ ∀ (settings : Settings) (library : Library) (start : World) (app : Uuid)
        (_ : (start.db.deploymentCount app : Int) ≤ settings.hostingMaxDeploymentsPerApp)
        (crew : DeployCrew), DeployCrew.Reaches settings library ⟨start, []⟩ crew →
      (crew.shared.db.deploymentCount app : Int) ≤ settings.hostingMaxDeploymentsPerApp := by
  intro bounded
  have two := bounded oneDeployment demoLibrary createdApp ⟨1⟩ (by decide +kernel) filledApp
    filledApp_reached
  rw [filledApp_count] at two
  exact absurd two (by decide)

end HostingService
