import HostingService.Api.Emission

/-! Every change of a site with its event and its outbox rows, wherever a request stops. -/

namespace HostingService

open Program Text Storage Transaction

section
variable (settings : ApiSettings) (library : ApiLibrary) (draws : Draws)

/-- A request as it runs against the tables of both apps. -/
def Request.emitting (request : Request) : Prog EmitAction Error Unit :=
  Service.emitting settings.actions (request.service settings.hosting library.hosting)

/-- The state in which a request begins, with the outcomes of its storage calls. -/
def ApiWorld.emits (world : ApiWorld) (faults : List (Option Error)) : EmitWorld :=
  ⟨world.hosting.withFaults faults, world.actions, 0, 0⟩

/-- The change of the request is in the tables, with its events and all of their rows. -/
def Request.Complete (request : Request) (start now : EmitWorld) : Prop :=
  ∃ act news, request.Tells start.hosting.db.sites act news ∧
    now.hosting.db.sites = act.apply start.hosting.db.sites ∧
    start.Emitting now news (start.rowsOf settings draws news)

/-- What the tables hold at a point where the process of a request may stop. Only a request
without a transaction is found with a change whose event or rows are still to come. -/
inductive Request.Durable (request : Request) (start now : EmitWorld) : Prop where
  | untouched (untold : Untold start.hosting.db now.hosting.db) (actions : now.actions = start.actions)
  | complete (complete : request.Complete settings draws start now)
  | between (autocommits : request.isAtomic = false)
      (changed : request.Silent start.hosting.db now.hosting.db ∨
        request.Told start.hosting.db now.hosting.db) (lags : start.Lags settings draws now)

/-- Every state of the run is durable, and one that returns has completed its change. -/
abbrev Request.Commits (request : Request) (start : EmitWorld) (body : Prog EmitAction Error Unit)
    (now : EmitWorld) : Prop :=
  body.Safe (EmitAction.handle settings draws) (request.Durable settings draws start)
    (Prog.Returned fun _ now => request.Complete settings draws start now) now

end

section
variable {settings : ApiSettings} {library : ApiLibrary} {draws : Draws} {start now : EmitWorld}
  {request : Request} {logged : List Event}

/-- No identifier has been drawn. -/
structure EmitWorld.Fresh (start : EmitWorld) : Prop where
  eventsDrawn : start.eventsDrawn = 0
  rowsDrawn : start.rowsDrawn = 0

theorem EmitWorld.Fresh.emitted (fresh : start.Fresh) : start.Emitted settings draws start [] where
  clock := rfl
  events := (List.append_nil _).symm
  created := rfl
  eventsDrawn := fresh.eventsDrawn
  rowsDrawn := fresh.rowsDrawn

theorem Request.Durable.refl (request : Request) (start : EmitWorld) :
    request.Durable settings draws start start := .untouched (.refl _) rfl

/-- Told in full, once the rows of all recorded events are there. -/
theorem Request.Told.complete (told : request.Told start.hosting.db now.hosting.db)
    (emitted : ∃ logged, start.Emitted settings draws now logged) :
    request.Complete settings draws start now := by
  obtain ⟨act, news, tells, sites, events⟩ := told
  obtain ⟨logged, emitted⟩ := emitted
  obtain rfl : logged = news := List.append_cancel_left (emitted.events.symm.trans events)
  exact ⟨act, logged, tells, sites, emitted.toEmitting⟩

/-- Nothing recorded, nothing to make rows of. -/
theorem EmitWorld.Lags.silent (lags : start.Lags settings draws now)
    (silent : now.hosting.db.events = start.hosting.db.events) : now.actions = start.actions := by
  obtain ⟨logged, made, planned, emitting⟩ := lags
  obtain rfl : logged = [] := List.self_eq_append_right.mp (silent.symm.trans emitting.events)
  obtain rfl := List.prefix_nil.mp planned
  exact (congrArg Prod.snd emitting.created).symm

theorem Request.Underway.durable (autocommits : request.isAtomic = false)
    (recoverable : Recoverable settings draws (request.Underway start.hosting.db) start now) :
    request.Durable settings draws start now := by
  obtain ⟨untold | changed, lags⟩ := recoverable
  · exact .untouched untold (lags.silent untold.2)
  · exact .between autocommits changed lags

/-- A request without a transaction. -/
theorem commits_autocommit {body : Transaction Unit} (autocommits : request.isAtomic = false)
    (fresh : start.Fresh)
    (advances : request.Advances settings.hosting start.hosting.db body start.hosting) :
    request.Commits settings draws start
      (Service.emitting settings.actions (Service.autocommit body)) start := by
  rw [emitting_autocommit]
  have safe : Prog.Safe (EmitStatement.handle settings draws)
      (Recoverable settings draws (request.Underway start.hosting.db) start) _ _ start :=
    safe_emitting fresh.emitted advances
  have same : ∀ β (statement : EmitStatement β) now,
      EmitAction.handle settings draws _ (.autocommit statement) now =
        EmitStatement.handle settings draws _ statement now := fun _ _ _ => rfl
  refine (safe.hoist same).mono (fun now recoverable => Request.Underway.durable autocommits recoverable)
    fun result now _ ended => ?_
  cases result with
  | error error => trivial
  | ok value =>
    rcases ended with ⟨told, all⟩ | failed
    · exact told.complete all
    · contradiction

/-- A transaction that raised has left both apps as they were. -/
theorem Request.Durable.restored (request : Request) (start ended : EmitWorld) :
    request.Durable settings draws start (start.restored ended) := .untouched (.refl _) rfl

/-- A request in one transaction. -/
theorem commits_atomic {α : Type} {body : Transaction α} {next : Except Error α → Service Unit}
    (fresh : start.Fresh)
    (told : body.Ensures (Statement.handle settings.hosting)
      (Prog.Returned fun _ after => request.Told start.hosting.db after.db) start.hosting)
    (returns : ∀ value, next (.ok value) = .ret ())
    (raises : ∀ error, next (.error error) = .raise error) :
    request.Commits settings draws start (Service.emitting settings.actions (.call (.atomic body) next))
      start := by
  refine safe_emitting_atomic fresh.emitted (.refl _ _) told (fun value later meets all => ?_)
    fun error ended _ => ?_
  · rw [returns]
    exact Prog.safe_ret (.complete (meets.complete all)) (meets.complete all)
  · rw [raises]
    exact Prog.safe_raise (.restored request start ended) trivial

/-- What follows a bad archive: a transaction of its own, and then the request raises. -/
theorem commits_failure {next : Except Error Unit → Service Unit}
    (row : Deployment) (userId : Option Nat) (actorEmail : PyStr)
    (raises : ∀ answer, ∃ error, next answer = .raise error)
    (begun : start.Emitted settings draws now []) (rows : now.hosting.db = start.hosting.db)
    (actions : now.actions = start.actions) :
    (Request.finalize row.id userId actorEmail).Commits settings draws start
      (Service.emitting settings.actions (.call (.atomic (markDeploymentFailed row
        (finalizeActor row userId actorEmail))) next)) now := by
  have untold : Untold start.hosting.db now.hosting.db :=
    ⟨congrArg Db.sites rows, congrArg Db.events rows⟩
  have told : Prog.Ensures (Statement.handle settings.hosting) _ _ now.hosting :=
    ensures_markFailed_told row userId actorEmail
  rw [rows] at told
  refine safe_emitting_atomic begun (.untouched untold actions) told (fun value later meets all => ?_)
    fun error ended _ => ?_
  · obtain ⟨raised, same⟩ := raises (.ok value)
    rw [same]
    exact Prog.safe_raise (.complete (meets.complete all)) trivial
  · obtain ⟨raised, same⟩ := raises (.error error)
    rw [same]
    exact Prog.safe_raise (.untouched untold actions) trivial

/-- An activation that raised has recorded nothing, or a row of its event was refused. -/
theorem emitted_of_raise {request : Request} {error : Error} {ended : EmitWorld}
    (ends : EmitEnd settings draws start (ActivationTold request start.hosting.db) (.error error) ended) :
    start.Emitted settings draws (start.restored ended) [] ∨ error = .integrityError := by
  rcases ends with ⟨quiet, logged, emitted⟩ | failed
  · obtain rfl : logged = [] := List.self_eq_append_right.mp (quiet.symm.trans emitted.events)
    exact .inl ⟨⟨emitted.clock, (List.append_nil _).symm, rfl⟩, emitted.eventsDrawn, emitted.rowsDrawn⟩
  · exact .inr (Except.error.inj failed)

theorem commits_finalize (fresh : start.Fresh) (row : Deployment) (userId : Option Nat)
    (actorEmail : PyStr) :
    (Request.finalize row.id userId actorEmail).Commits settings draws start
      (Service.emitting settings.actions (finalizeDeployment settings.hosting library.hosting row userId
        actorEmail >>= fun _ => pure ())) start := by
  refine safe_emitting_atomic fresh.emitted (.refl _ _) (ensures_activate_told row userId actorEmail)
    (fun value later meets all => ?_) fun error ended ends => ?_
  · exact Prog.safe_ret (.complete (meets.complete all)) (meets.complete all)
  · have back : (Request.finalize row.id userId actorEmail).Durable settings draws start
        (start.restored ended) := .restored _ start ended
    rcases emitted_of_raise ends with emitted | refused
    · cases error with
      | extractError message =>
        refine commits_failure row userId actorEmail (fun answer => ?_) emitted rfl rfl
        cases answer with
        | error error => exact ⟨error, rfl⟩
        | ok value => exact ⟨.hostingError message 400 "artifact_extract_failed", rfl⟩
      | _ => exact Prog.safe_raise back trivial
    · obtain rfl := refused
      exact Prog.safe_raise back trivial

end

/-- A change of a site, the events that tell it and one outbox row for each listening rule (and
for mail, if that is configured) become durable together: wherever the process of a request
stops, the tables hold all of them or none. Only a request without a transaction can stop in
between, and then the change is there while its event or the last of its rows are not; no
event is ever there without its change and no row without its event. -/
theorem transactional_outbox (settings : ApiSettings) (library : ApiLibrary) (draws : Draws)
    (request : Request) (faults : List (Option Error)) (world : ApiWorld) :
    request.Commits settings draws (world.emits faults) (request.emitting settings library)
      (world.emits faults) := by
  have fresh : (world.emits faults).Fresh := ⟨rfl, rfl⟩
  have here : request.Durable settings draws _ _ := .refl request (world.emits faults)
  cases request with
  | createApp new => exact commits_autocommit rfl fresh (Request.advances_createApp new)
  | preparePreviewDeploy preview slug anyUser new =>
    exact commits_atomic fresh (ensures_preparePreviewDeploy_told preview slug anyUser new) (fun _ => rfl)
      fun _ => rfl
  | createDeployment id new =>
    exact commits_autocommit rfl fresh (Request.advances_createDeployment id new)
  | upload id fileobj contentLength =>
    exact commits_autocommit rfl fresh (Request.advances_upload id fileobj contentLength)
  | renew id => exact commits_autocommit rfl fresh (Request.advances_renew id)
  | finalize id userId actorEmail =>
    refine safe_emitting_loadRow here (fun _ => trivial) fun row found => ?_
    obtain ⟨_, rfl⟩ := Db.mem_of_deployment found
    exact commits_finalize fresh row userId actorEmail
  | rollback id =>
    refine safe_emitting_loadRow here (fun _ => trivial) fun row found => ?_
    obtain ⟨_, rfl⟩ := Db.mem_of_deployment found
    exact commits_atomic fresh (ensures_rollback_told row) (fun _ => rfl) fun _ => rfl
  | delete id userId actorEmail =>
    refine safe_emitting_loadRow here (fun _ => trivial) fun app found => ?_
    obtain ⟨present, rfl⟩ := Db.mem_of_app found
    exact commits_atomic fresh (ensures_deleteApp_told present userId actorEmail) (fun _ => rfl)
      fun _ => rfl

end HostingService
