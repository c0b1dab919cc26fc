import HostingService.Api.Outbox
import HostingService.Api.Recipients

/-! A request in one step against the request statement by statement: as long as no key is
given twice, rows that are made after the request are those that it emits on the way. -/

namespace HostingService

open Program Text Storage Transaction

section
variable (settings : ApiSettings) (library : ApiLibrary) (draws : Draws)

/-- The request statement by statement, where `serve` makes the rows of its events at the end. -/
def ApiWorld.serveEmitting (asked : Request) (faults : List (Option Error)) (world : ApiWorld) :
    Except Error Unit × ApiWorld :=
  let (result, ended) := (asked.emitting settings library).run (EmitAction.handle settings draws)
    (world.emits faults)
  (result, { world with hosting := ended.hosting, actions := ended.actions })

/-- Both ways a body ends alike, and the rows are those of the events, unless a constraint
refused a row on the way. -/
def EmitWorld.Agrees {α : Type} (start : EmitWorld) (emitted : Except Error α × EmitWorld)
    (plain : Except Error α × World) : Prop :=
  emitted.1 = .error .integrityError ∨
    emitted.1 = plain.1 ∧ emitted.2.hosting = plain.2 ∧
      ∃ news, start.Emitting emitted.2 news (start.rowsOf settings draws news)

/-- A service and the service with its emission, from a state on. -/
abbrev Service.Agrees {α : Type} (start now : EmitWorld) (body : Service α) : Prop :=
  start.Agrees settings draws
    ((Service.emitting settings.actions body).run (EmitAction.handle settings draws) now)
    (body.run (Action.handle settings.hosting) now.hosting)

end

section
variable {settings : ApiSettings} {library : ApiLibrary} {draws : Draws} {start now : EmitWorld}
  {logged : List Event} {α β : Type}

theorem Transaction.run_emitting (emitted : start.Emitted settings draws now logged)
    (body : Transaction α) :
    let ended := (Transaction.emitting settings.actions body).run (EmitStatement.handle settings draws) now
    let plain := body.run (Statement.handle settings.hosting) now.hosting
    ended.1 = .error .integrityError ∨ ended.1 = plain.1 ∧ ended.2.hosting = plain.2 ∧
      ∃ news, start.Emitted settings draws ended.2 news := by
  have same : body.Ensures (Statement.handle settings.hosting) (fun result world =>
      (result, world) = body.run (Statement.handle settings.hosting) now.hosting) now.hosting := rfl
  have safe : Prog.Safe _ (Recoverable settings draws (fun _ => True) start) _ _ now :=
    safe_emitting emitted ⟨Prog.throughout_true body now.hosting, same⟩
  rcases safe.2 with ⟨alike, all⟩ | refused
  · exact .inr ⟨congrArg Prod.fst alike, congrArg Prod.snd alike, all⟩
  · exact .inl refused

/-- Statements outside of transactions. -/
theorem run_emitting_autocommit (body : Transaction α) (now : EmitWorld) :
    (Service.emitting settings.actions (Service.autocommit body)).run (EmitAction.handle settings draws) now =
      (Transaction.emitting settings.actions body).run (EmitStatement.handle settings draws) now := by
  rw [emitting_autocommit]
  exact Prog.run_hoist (fun _ statement => EmitAction.autocommit statement) id (fun world _ => world)
    (fun _ _ => rfl) (fun _ => rfl) (fun _ _ _ => rfl) (fun _ _ _ => rfl) _ now

theorem agrees_autocommit (fresh : start.Fresh) (body : Transaction α) :
    (Service.autocommit body).Agrees settings draws start start := by
  rw [Service.Agrees, run_emitting_autocommit, Service.run_autocommit]
  rcases Transaction.run_emitting fresh.emitted body with refused | ⟨result, hosting, news, emitted⟩
  · exact .inl refused
  · exact .inr ⟨result, hosting, news, emitted.toEmitting⟩

/-- What a transaction that raised has left. -/
theorem EmitWorld.Emitted.restored (emitted : start.Emitted settings draws now logged)
    {ended : EmitWorld} (clock : ended.hosting.clock = start.hosting.clock) :
    start.Emitting (now.restored ended) logged (start.rowsOf settings draws logged) :=
  ⟨clock, emitted.events, emitted.created⟩

/-- One transaction, from where its rows are up to date, and what follows on its end. -/
theorem agrees_atomic {body : Transaction β} {next : Except Error β → Service α}
    (emitted : start.Emitted settings draws now logged)
    (refuses : next (.error .integrityError) = .raise .integrityError)
    (returned : ∀ value later news, body.run (Statement.handle settings.hosting) now.hosting =
        (.ok value, later.hosting) → start.Emitted settings draws later news →
      (next (.ok value)).Agrees settings draws start later)
    (raised : ∀ error ended news, body.run (Statement.handle settings.hosting) now.hosting =
        (.error error, ended.hosting) → start.Emitted settings draws ended news →
      (next (.error error)).Agrees settings draws start (now.restored ended)) :
    Service.Agrees settings draws start now (.call (.atomic body) next) := by
  have ends := Transaction.run_emitting emitted body
  rw [Service.Agrees, Service.emitting, Prog.run_call, Prog.run_call, EmitAction.handle, Action.handle]
  rcases ran : (Transaction.emitting settings.actions body).run (EmitStatement.handle settings draws) now
    with ⟨answer, ended⟩
  rw [ran] at ends
  rcases ends with refused | ⟨result, hosting, news, all⟩
  · obtain rfl : answer = .error .integrityError := refused
    simp only [refuses]
    exact .inl rfl
  · rcases plain : body.run (Statement.handle settings.hosting) now.hosting with ⟨same, world⟩
    rw [plain] at result hosting
    obtain rfl : answer = same := result
    obtain rfl : ended.hosting = world := hosting
    cases answer with
    | ok value => exact returned value ended news plain all
    | error error => exact raised error ended news plain all

/-- A transaction that is all there is left to do. -/
theorem agrees_last {body : Transaction β} {next : Except Error β → Service Unit}
    (emitted : start.Emitted settings draws now logged)
    (returns : ∀ value, next (.ok value) = .ret () ∨ ∃ error, next (.ok value) = .raise error)
    (raises : ∀ error, next (.error error) = .raise error) :
    Service.Agrees settings draws start now (.call (.atomic body) next) := by
  refine agrees_atomic emitted (raises _) (fun value later news _ all => ?_)
    fun error ended news _ all => ?_
  · rcases returns value with same | ⟨error, same⟩
    · rw [same]
      exact .inr ⟨rfl, rfl, news, all.toEmitting⟩
    · rw [same]
      exact .inr ⟨rfl, rfl, news, all.toEmitting⟩
  · rw [raises]
    exact .inr ⟨rfl, rfl, logged, emitted.restored all.clock⟩

theorem agrees_loadRow {find : Db → Option β} {rest : β → Service Unit} (fresh : start.Fresh)
    (found : ∀ row, find start.hosting.db = some row → (rest row).Agrees settings draws start start) :
    (Service.autocommit (loadRow find) >>= rest).Agrees settings draws start start := by
  show start.Agrees settings draws
    ((Service.emitting settings.actions (Prog.bind (Prog.hoist _ (Prog.ofExcept
      ((find start.hosting.db).elim (.error .doesNotExist) .ok))) rest)).run _ start)
    ((Prog.bind (Prog.hoist _ (Prog.ofExcept ((find start.hosting.db).elim (.error .doesNotExist) .ok)))
      rest).run _ start.hosting)
  rcases read : find start.hosting.db with _ | row
  · exact .inr ⟨rfl, rfl, [], fresh.emitted.toEmitting⟩
  · exact found row read

/-- An activation that raised has recorded nothing, so the failure of the deployment draws the
first keys. -/
theorem agrees_finalize (fresh : start.Fresh) (row : Deployment) (userId : Option Nat)
    (actorEmail : PyStr) :
    (finalizeDeployment settings.hosting library.hosting row userId actorEmail >>= fun _ =>
      pure ()).Agrees settings draws start start := by
  refine agrees_atomic fresh.emitted rfl (fun value later news _ all => ?_)
    fun error ended news ran all => ?_
  · exact .inr ⟨rfl, rfl, news, all.toEmitting⟩
  · have quiet : ended.hosting.db.events = start.hosting.db.events :=
      (ensures_activate_told row userId actorEmail).of_run ran
    obtain rfl : news = [] := List.self_eq_append_right.mp (quiet.symm.trans all.events)
    have begun : start.Emitted settings draws (start.restored ended) [] :=
      ⟨fresh.emitted.restored all.clock, all.eventsDrawn, all.rowsDrawn⟩
    cases error with
    | extractError message => exact agrees_last begun (fun _ => .inr ⟨_, rfl⟩) fun _ => rfl
    | _ => exact .inr ⟨rfl, rfl, [], begun.toEmitting⟩

theorem Request.agrees (fresh : start.Fresh) (request : Request) :
    (request.service settings.hosting library.hosting).Agrees settings draws start start := by
  cases request with
  | createApp | createDeployment | upload | renew => exact agrees_autocommit fresh _
  | preparePreviewDeploy => exact agrees_last fresh.emitted (fun _ => .inl rfl) fun _ => rfl
  | finalize id userId actorEmail =>
    exact agrees_loadRow fresh fun row _ => agrees_finalize fresh row userId actorEmail
  | rollback id =>
    exact agrees_loadRow fresh fun row _ =>
      agrees_last fresh.emitted (fun _ => .inl rfl) fun _ => rfl
  | delete id userId actorEmail =>
    exact agrees_loadRow fresh fun row _ =>
      agrees_last fresh.emitted (fun _ => .inl rfl) fun _ => rfl

end

/-- A request in one step is the request that makes the rows of each event at the statement that
records it: unless a constraint refuses a row, both answer alike and leave the same tables,
files and cached apps. -/
theorem serve_eq_serveEmitting (settings : ApiSettings) (library : ApiLibrary) (asked : Request)
    (faults : List (Option Error)) (draws : Draws) (world : ApiWorld)
    (accepted : (world.serveEmitting settings library draws asked faults).1 ≠ .error .integrityError) :
    world.serve settings library asked faults draws =
      world.serveEmitting settings library draws asked faults := by
  have agrees : (world.emits faults).Agrees settings draws
      ((asked.emitting settings library).run (EmitAction.handle settings draws) (world.emits faults))
      (asked.run settings.hosting library.hosting faults world.hosting) :=
    asked.agrees ⟨rfl, rfl⟩
  rw [ApiWorld.serveEmitting] at accepted ⊢
  rcases emitted : (asked.emitting settings library).run (EmitAction.handle settings draws)
    (world.emits faults) with ⟨result, ended⟩
  rcases ran : asked.run settings.hosting library.hosting faults world.hosting with ⟨answer, hosting⟩
  rw [emitted] at accepted
  rw [emitted, ran] at agrees
  rcases agrees with refused | ⟨rfl, rfl, news, emitting⟩
  · exact absurd refused accepted
  have told : ended.hosting.db.events.drop world.hosting.db.events.length = news := by
    rw [emitting.events]
    exact List.drop_left
  have created : createOutboxRows world.actions (outboxRows settings.actions world.actions.rules
      ended.hosting.clock draws news) = (true, ended.actions) := by
    have made := emitting.created
    rwa [EmitWorld.rowsOf, ← emitting.clock] at made
  rw [ApiWorld.serve, ran]
  simp only [told, created]

/-! An app whose creation a rule listens to. -/

def listeningWorld : ApiWorld := emptyApi.runs apiSettings demoApi (hookHistory.take 2)

def creation : Request := .createApp ⟨3, lit "demo", [], some 7, [], ⟨1⟩, fun _ => letterDraw 3⟩

theorem serve_eq_serveEmitting_creation :
    (listeningWorld.serve apiSettings demoApi creation [] demoDraws).2.actions.outbox.length = 1 ∧
      listeningWorld.serve apiSettings demoApi creation [] demoDraws =
        listeningWorld.serveEmitting apiSettings demoApi demoDraws creation [] := by
  have accepted : (listeningWorld.serveEmitting apiSettings demoApi demoDraws creation []).1 = .ok () := by
    decide +kernel
  refine ⟨by decide +kernel, serve_eq_serveEmitting apiSettings demoApi creation [] demoDraws _ ?_⟩
  rw [accepted]
  intro refused
  cases refused

end HostingService
