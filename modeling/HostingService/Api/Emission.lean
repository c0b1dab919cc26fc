import HostingService.Api.World
import HostingService.Hosting.News

/-! Events and their outbox rows statement by statement, and the points at which a
process may stop between two of them. -/

namespace HostingService

open Program Text Storage Transaction

/-- The tables of both apps, and how many identifiers a request has drawn. -/
structure EmitWorld where
  hosting : World
  actions : ActionsDb
  eventsDrawn : Nat
  rowsDrawn : Nat

inductive EmitStatement : Type → Type 1 where
  | hosting {α : Type} (statement : Statement α) : EmitStatement α
  /-- `uuid.uuid4()` for the event. -/
  | eventId : EmitStatement Uuid
  | rules (event : Event) : EmitStatement (List ActionRule)
  /-- `ActionOutbox.objects.create(...)`, which fills in the time and the key. -/
  | createOutbox (draft : Time → Uuid → ActionOutbox) : EmitStatement Unit

inductive EmitAction : Type → Type 1 where
  | autocommit {α : Type} (statement : EmitStatement α) : EmitAction α
  | atomic {α : Type} (body : Prog EmitStatement Error α) : EmitAction α

abbrev Emission := Prog EmitStatement Error

section
variable (settings : ApiSettings) (draws : Draws)

def EmitStatement.handle : Handler EmitStatement Error EmitWorld
  | _, .hosting statement, world =>
    ((Statement.handle settings.hosting _ statement world.hosting).1,
      { world with hosting := (Statement.handle settings.hosting _ statement world.hosting).2 })
  | _, .eventId, world =>
    (.ok (draws.eventIds world.eventsDrawn), { world with eventsDrawn := world.eventsDrawn + 1 })
  | _, .rules event, world => (.ok (world.actions.rules.filter (·.listensTo event)), world)
  | _, .createOutbox draft, world =>
    match (ActionsChange.createOutbox
      (draft world.hosting.clock (draws.outboxIds world.rowsDrawn))).apply world.actions with
    | .ok actions => (.ok (), { world with actions, rowsDrawn := world.rowsDrawn + 1 })
    | .error _ => (.error .integrityError, { world with rowsDrawn := world.rowsDrawn + 1 })

/-- An error rolls back the tables of both apps. -/
def EmitAction.handle : Handler EmitAction Error EmitWorld
  | _, .autocommit statement, world => EmitStatement.handle settings draws _ statement world
  | _, .atomic body, world =>
    match body.run (EmitStatement.handle settings draws) world with
    | (.ok value, after) => (.ok value, after)
    | (.error error, after) => (.error error, { after with
        hosting := { after.hosting with db := world.hosting.db }
        actions := world.actions })

end

namespace Emission

def createRow (draft : Time → Uuid → ActionOutbox) : Emission Unit := .perform (.createOutbox draft)

/-- `emit_event` -/
def emitEvent (settings : ActionsSettings) (event : Event) : Emission Unit := do
  .perform (.hosting (.execute (.recordEvent event)))
  let eventId ← .perform .eventId
  .when (emailServiceConfigured settings)
    (createRow fun now => newOutbox event none .email none now)
  let rules ← .perform (.rules event)
  .forEach (fun rule : ActionRule =>
    createRow fun now => newOutbox event (some rule.id) .webhook (some eventId.text) now) rules

end Emission

section
variable (settings : ActionsSettings)

/-- A transaction whose events are emitted in full. No service handles an error of that. -/
def Transaction.emitting {α : Type} : Transaction α → Emission α
  | .ret value => .ret value
  | .raise error => .raise error
  | .call (.execute (.recordEvent event)) next =>
    Emission.emitEvent settings event >>= fun _ => Transaction.emitting (next (.ok ()))
  | .call statement next =>
    .call (.hosting statement) fun answer => Transaction.emitting (next answer)

def Service.emitting {α : Type} : Service α → Prog EmitAction Error α
  | .ret value => .ret value
  | .raise error => .raise error
  | .call (.autocommit (.execute (.recordEvent event))) next =>
    (Emission.emitEvent settings event).hoist (fun _ statement => .autocommit statement) >>= fun _ =>
      Service.emitting (next (.ok ()))
  | .call (.autocommit statement) next =>
    .call (.autocommit (.hosting statement)) fun answer => Service.emitting (next answer)
  | .call (.atomic body) next =>
    .call (.atomic (Transaction.emitting settings body)) fun answer => Service.emitting (next answer)

end

/-! ### Rows in their order -/

/-- Rows from drafts, with the keys that are drawn from `first` on. -/
def numbered (draws : Draws) (drafts : List (Uuid → ActionOutbox)) (first : Nat) : List ActionOutbox :=
  (drafts.zipIdx first).map fun (draft, index) => draft (draws.outboxIds index)

section
variable {draws : Draws}

@[simp] theorem numbered_length (drafts : List (Uuid → ActionOutbox)) (first : Nat) :
    (numbered draws drafts first).length = drafts.length := by
  simp [numbered]

theorem numbered_append (drafts more : List (Uuid → ActionOutbox)) (first : Nat) :
    numbered draws (drafts ++ more) first =
      numbered draws drafts first ++ numbered draws more (first + drafts.length) := by
  rw [numbered, List.zipIdx_append, List.map_append]
  rfl

theorem numbered_cons (draft : Uuid → ActionOutbox) (more : List (Uuid → ActionOutbox)) (first : Nat) :
    numbered draws (draft :: more) first =
      draft (draws.outboxIds first) :: numbered draws more (first + 1) := rfl

/-- The rows of one more event come last. -/
theorem outboxRows_concat (settings : ActionsSettings) (rules : List ActionRule) (now : Time)
    (events : List Event) (event : Event) :
    outboxRows settings rules now draws (events ++ [event]) =
      outboxRows settings rules now draws events ++
        numbered draws (outboxDrafts settings rules now event (draws.eventIds events.length))
          (outboxRows settings rules now draws events).length := by
  have split : (events ++ [event]).zipIdx = events.zipIdx ++ [(event, events.length)] := by
    simp [List.zipIdx_append]
  simp only [outboxRows, split, List.flatMap_append, List.flatMap_singleton, List.length_map,
    List.length_zipIdx]
  exact numbered_append _ _ 0 |>.trans (by rw [Nat.zero_add]; rfl)

theorem createOutboxRows_concat {actions middle after : ActionsDb} {rows : List ActionOutbox}
    {row : ActionOutbox} (created : createOutboxRows actions rows = (true, middle))
    (applied : (ActionsChange.createOutbox row).apply middle = .ok after) :
    createOutboxRows actions (rows ++ [row]) = (true, after) := by
  induction rows generalizing actions with
  | nil =>
    obtain rfl := (Prod.mk.inj created).2
    simp [createOutboxRows, applied]
  | cons first rows ih =>
    rw [createOutboxRows] at created
    rw [List.cons_append, createOutboxRows]
    split at created
    · exact ih created
    · simp at created

theorem createOutboxRows_rules {actions after : ActionsDb} {rows : List ActionOutbox}
    (created : createOutboxRows actions rows = (true, after)) : after.rules = actions.rules := by
  obtain ⟨_, _, same, _⟩ := createOutboxRows_appends rows actions
  rw [created] at same
  change (true, after).2.rules = actions.rules
  rw [same]

end

/-! ### What has been emitted so far -/

section
variable (settings : ApiSettings) (draws : Draws)

/-- The rows of the events of a request that began in `start`. -/
def EmitWorld.rowsOf (start : EmitWorld) (events : List Event) : List ActionOutbox :=
  outboxRows settings.actions start.actions.rules start.hosting.clock draws events

/-- From `start` on these events were recorded and these rows were made. -/
structure EmitWorld.Emitting (start now : EmitWorld) (logged : List Event)
    (made : List ActionOutbox) : Prop where
  clock : now.hosting.clock = start.hosting.clock
  events : now.hosting.db.events = start.hosting.db.events ++ logged
  created : createOutboxRows start.actions made = (true, now.actions)

/-- All rows of the recorded events were made. -/
structure EmitWorld.Emitted (start now : EmitWorld) (logged : List Event) : Prop
    extends start.Emitting now logged (start.rowsOf settings draws logged) where
  eventsDrawn : now.eventsDrawn = logged.length
  rowsDrawn : now.rowsDrawn = (start.rowsOf settings draws logged).length

/-- The first rows of the recorded events were made, and no other rows. -/
def EmitWorld.Lags (start now : EmitWorld) : Prop :=
  ∃ logged made, made <+: start.rowsOf settings draws logged ∧ start.Emitting now logged made

end

section
variable {settings : ApiSettings} {draws : Draws} {start now : EmitWorld} {logged : List Event}
  {made : List ActionOutbox} {good : Db → Prop}

theorem EmitWorld.Emitted.lags (emitted : start.Emitted settings draws now logged) :
    start.Lags settings draws now := ⟨_, _, List.prefix_rfl, emitted.toEmitting⟩

/-- Good tables, and rows that only lag behind. -/
abbrev Recoverable (settings : ApiSettings) (draws : Draws) (good : Db → Prop) (start now : EmitWorld) :
    Prop :=
  good now.hosting.db ∧ start.Lags settings draws now

theorem safe_createRow (draft : Time → Uuid → ActionOutbox)
    (emitting : start.Emitting now logged made) (drawn : now.rowsDrawn = made.length)
    (planned : made ++ [draft start.hosting.clock (draws.outboxIds made.length)] <+:
      start.rowsOf settings draws logged) (here : good now.hosting.db) :
    (Emission.createRow draft).Safe (EmitStatement.handle settings draws)
      (Recoverable settings draws good start) (fun result after =>
        result = .ok () ∧ after.hosting = now.hosting ∧ after.eventsDrawn = now.eventsDrawn ∧
            after.rowsDrawn = made.length + 1 ∧ start.Emitting after logged
              (made ++ [draft start.hosting.clock (draws.outboxIds made.length)]) ∨
          result = .error .integrityError) now := by
  have before : made <+: start.rowsOf settings draws logged := (List.prefix_append _ _).trans planned
  refine Prog.safe_perform ⟨here, _, _, before, emitting⟩ ?_ ?_
  all_goals rw [EmitStatement.handle, drawn, emitting.clock]
  all_goals rcases applied : (ActionsChange.createOutbox
    (draft start.hosting.clock (draws.outboxIds made.length))).apply now.actions with error | actions
  · exact ⟨here, _, _, before, emitting.clock, emitting.events, emitting.created⟩
  · exact ⟨here, _, _, planned, emitting.clock, emitting.events,
      createOutboxRows_concat emitting.created applied⟩
  · exact .inr rfl
  · exact .inl ⟨rfl, rfl, rfl, rfl, emitting.clock, emitting.events,
      createOutboxRows_concat emitting.created applied⟩

theorem safe_createRows (drafts : List (Time → Uuid → ActionOutbox))
    (emitting : start.Emitting now logged made) (drawn : now.rowsDrawn = made.length)
    (planned : made ++ numbered draws (drafts.map (· start.hosting.clock)) made.length <+:
      start.rowsOf settings draws logged) (here : good now.hosting.db) :
    (Prog.forEach Emission.createRow drafts).Safe (EmitStatement.handle settings draws)
      (Recoverable settings draws good start) (fun result after =>
        result = .ok () ∧ after.hosting = now.hosting ∧ after.eventsDrawn = now.eventsDrawn ∧
            after.rowsDrawn = made.length + drafts.length ∧ start.Emitting after logged
              (made ++ numbered draws (drafts.map (· start.hosting.clock)) made.length) ∨
          result = .error .integrityError) now := by
  induction drafts generalizing now made with
  | nil =>
    rw [List.map_nil, numbered, List.zipIdx_nil, List.map_nil, List.append_nil] at planned ⊢
    exact Prog.safe_ret ⟨here, _, _, planned, emitting⟩ (.inl ⟨rfl, rfl, rfl, drawn, emitting⟩)
  | cons draft drafts ih =>
    have grown : made ++ numbered draws ((draft :: drafts).map (· start.hosting.clock)) made.length =
        (made ++ [draft start.hosting.clock (draws.outboxIds made.length)]) ++ numbered draws
          (drafts.map (· start.hosting.clock)) (made.length + 1) := by
      rw [List.map_cons, numbered_cons, List.append_assoc, List.singleton_append]
    rw [grown] at planned ⊢
    refine (safe_createRow draft emitting drawn ((List.prefix_append _ _).trans planned) here).bind
      (fun error after _ ended => ?_) fun _ after _ ended => ?_
    · rcases ended with ⟨_, _⟩ | ended
      · contradiction
      · exact .inr ended
    · rcases ended with ⟨_, hosting, events, rows, more⟩ | failed
      · have count : (made ++ [draft start.hosting.clock (draws.outboxIds made.length)]).length =
          made.length + 1 := by simp
        have later := ih more (rows.trans count.symm) (by rwa [count]) (by rwa [hosting])
        rw [count] at later
        refine later.mono (fun _ kept => kept) fun result last _ ended => ended.imp_left fun done => ?_
        obtain ⟨returned, same, drawnEvents, drawnRows, all⟩ := done
        refine ⟨returned, same.trans hosting, drawnEvents.trans events, ?_, all⟩
        rw [drawnRows, List.length_cons]
        omega
      · contradiction

/-- What one event leaves when nothing fails on the way. -/
def EmitWorld.recorded (now : EmitWorld) (event : Event) : World :=
  { now.hosting with db := { now.hosting.db with events := now.hosting.db.events ++ [event] } }

/-- What `emit_event` drafts of one event before the keys are drawn. -/
def mailDrafts (settings : ActionsSettings) (event : Event) : List (Time → Uuid → ActionOutbox) :=
  if emailServiceConfigured settings then [fun now => newOutbox event none .email none now] else []

def hookDrafts (event : Event) (eventId : Uuid) (rules : List ActionRule) :
    List (Time → Uuid → ActionOutbox) :=
  rules.map fun rule now => newOutbox event (some rule.id) .webhook (some eventId.text) now

theorem outboxDrafts_eq (settings : ActionsSettings) (rules : List ActionRule) (now : Time)
    (event : Event) (eventId : Uuid) :
    outboxDrafts settings rules now event eventId = (mailDrafts settings event).map (· now) ++
      (hookDrafts event eventId (rules.filter (·.listensTo event))).map (· now) := by
  rw [outboxDrafts, mailDrafts, hookDrafts, List.map_map]
  congr 1
  split <;> rfl

theorem safe_emitEvent_rows (event : Event) (emitted : start.Emitted settings draws now logged)
    (here : good now.hosting.db) (after : good (now.recorded event).db) :
    (Emission.emitEvent settings.actions event).Safe (EmitStatement.handle settings draws)
      (Recoverable settings draws good start) (fun result later =>
        result = .ok () ∧ later.hosting = now.recorded event ∧
            start.Emitted settings draws later (logged ++ [event]) ∨
          result = .error .integrityError) now := by
  -- the rows so far, the mail of the event, the hooks of the event
  have rows : start.rowsOf settings draws (logged ++ [event]) =
      start.rowsOf settings draws logged ++ numbered draws ((mailDrafts settings.actions event).map
        (· start.hosting.clock)) (start.rowsOf settings draws logged).length ++
      numbered draws ((hookDrafts event (draws.eventIds logged.length) (start.actions.rules.filter
        (·.listensTo event))).map (· start.hosting.clock)) (start.rowsOf settings draws logged ++
          numbered draws ((mailDrafts settings.actions event).map (· start.hosting.clock))
            (start.rowsOf settings draws logged).length).length := by
    rw [List.length_append, numbered_length, List.append_assoc, ← numbered_append, ← outboxDrafts_eq]
    exact outboxRows_concat _ _ _ logged event
  have mailed := rows ▸ List.prefix_append _ _
  have begun : start.Emitting { now with hosting := now.recorded event } (logged ++ [event])
      (start.rowsOf settings draws logged) :=
    ⟨emitted.clock, by rw [EmitWorld.recorded, emitted.events, List.append_assoc], emitted.created⟩
  have lagging : start.Lags settings draws { now with hosting := now.recorded event } :=
    ⟨_, _, (List.prefix_append _ _).trans mailed, begun⟩
  refine Prog.safe_call ⟨here, emitted.lags⟩ (Prog.safe_call ⟨after, lagging⟩ ?_)
  have mail : (Prog.when (emailServiceConfigured settings.actions) (Emission.createRow fun now =>
      newOutbox event none .email none now)) =
      Prog.forEach Emission.createRow (mailDrafts settings.actions event) :=
    Prog.when_perform _ EmitStatement.createOutbox _
  show Prog.Safe _ _ _ (Prog.when _ _ >>= _) _
  rw [mail]
  have drawn : start.Emitting { now with
      hosting := now.recorded event, eventsDrawn := now.eventsDrawn + 1 } (logged ++ [event])
      (start.rowsOf settings draws logged) := ⟨begun.clock, begun.events, begun.created⟩
  refine (safe_createRows _ drawn emitted.rowsDrawn mailed after).bind
    (fun error later _ ended => ?_) fun _ later kept ended => ?_
  · rcases ended with ⟨_, _⟩ | failed
    · contradiction
    · exact .inr failed
  rcases ended with ⟨_, hosting, events, count, emitting⟩ | failed
  swap
  · contradiction
  have listening : later.actions.rules = start.actions.rules := createOutboxRows_rules emitting.created
  have count : later.rowsDrawn = (start.rowsOf settings draws logged ++ numbered draws ((mailDrafts
      settings.actions event).map (· start.hosting.clock)) (start.rowsOf settings draws
        logged).length).length := by
    rw [List.length_append, numbered_length, List.length_map]
    exact count
  refine Prog.safe_call kept ?_
  have hooks : Prog.forEach (fun rule : ActionRule => Emission.createRow fun time => newOutbox event
      (some rule.id) .webhook (some (draws.eventIds now.eventsDrawn).text) time)
        (later.actions.rules.filter (·.listensTo event)) = Prog.forEach Emission.createRow
          (hookDrafts event (draws.eventIds logged.length)
            (start.actions.rules.filter (·.listensTo event))) := by
    rw [listening, emitted.eventsDrawn]
    exact (Prog.forEach_map _ Emission.createRow _).symm
  show Prog.Safe _ _ _ (Prog.forEach _ _) _
  rw [show EmitStatement.handle settings draws _ (.rules event) later =
    (.ok (later.actions.rules.filter (·.listensTo event)), later) from rfl]
  refine (hooks ▸ safe_createRows _ emitting count ⟨[], by rw [List.append_nil, rows]⟩ kept.1).mono
    (fun _ good => good) fun result last _ ended => ended.imp_left fun done => ?_
  obtain ⟨returned, same, drawnEvents, drawnRows, all⟩ := done
  refine ⟨returned, same.trans hosting, ?_, ?_, ?_⟩
  · rw [rows]
    exact all
  · rw [drawnEvents, events, emitted.eventsDrawn]
    simp
  · rw [drawnRows, rows]
    simp only [List.length_append, numbered_length, List.length_map]

/-! ### Transactions and services -/

/-- How a body with its emission ends: as the body alone, with all its rows, or because a
row was refused. -/
def EmitEnd (settings : ApiSettings) (draws : Draws) (start : EmitWorld) {α : Type}
    (post : Except Error α → World → Prop) (result : Except Error α) (later : EmitWorld) : Prop :=
  post result later.hosting ∧ (∃ logged, start.Emitted settings draws later logged) ∨
    result = .error .integrityError

theorem emitting_quiet {settings : ActionsSettings} {α β : Type} {statement : Statement β}
    (quiet : EventFree β statement) (next : Except Error β → Transaction α) :
    Transaction.emitting settings (.call statement next) =
      .call (.hosting statement) fun answer => Transaction.emitting settings (next answer) := by
  cases statement with
  | execute change =>
    cases change with
    | recordEvent event => exact quiet.elim
    | _ => rfl
  | _ => rfl

theorem handle_clock {settings : Settings} {β : Type} (statement : Statement β) (world : World) :
    (Statement.handle settings _ statement world).2.clock = world.clock := by
  cases statement with
  | execute change =>
    simp only [Statement.handle]
    split <;> rfl
  | _ => rfl

/-- A statement that records nothing leaves what was emitted. -/
theorem EmitWorld.Emitted.quiet {β : Type} {statement : Statement β}
    (emitted : start.Emitted settings draws now logged) (quiet : EventFree β statement) :
    start.Emitted settings draws
      (EmitStatement.handle settings draws _ (.hosting statement) now).2 logged where
  clock := (handle_clock statement now.hosting).trans emitted.clock
  events := (handle_quiet quiet now.hosting).trans emitted.events
  created := emitted.created
  eventsDrawn := emitted.eventsDrawn
  rowsDrawn := emitted.rowsDrawn

theorem safe_emitting {α : Type} {body : Transaction α} {post : Except Error α → World → Prop}
    (emitted : start.Emitted settings draws now logged)
    (safe : body.Safe (Statement.handle settings.hosting) (good ·.db) post now.hosting) :
    (Transaction.emitting settings.actions body).Safe (EmitStatement.handle settings draws)
      (Recoverable settings draws good start) (EmitEnd settings draws start post) now := by
  induction body generalizing now logged with
  | ret value => exact Prog.safe_ret ⟨safe.1, emitted.lags⟩ (.inl ⟨safe.2, _, emitted⟩)
  | raise error => exact Prog.safe_raise ⟨safe.1, emitted.lags⟩ (.inl ⟨safe.2, _, emitted⟩)
  | call statement next ih =>
    have silent (quiet : EventFree _ statement) : (Transaction.emitting settings.actions
        (.call statement next)).Safe (EmitStatement.handle settings draws)
          (Recoverable settings draws good start) (EmitEnd settings draws start post) now := by
      rw [emitting_quiet quiet]
      exact Prog.safe_call ⟨safe.start, emitted.lags⟩ (ih _ (emitted.quiet quiet) safe.call_next)
    cases statement with
    | execute change =>
      cases change with
      | recordEvent event =>
        refine (safe_emitEvent_rows event emitted safe.start safe.call_next.start).bind
          (fun error later _ ended => ?_) fun _ later _ ended => ?_
        · rcases ended with ⟨_, _⟩ | failed
          · contradiction
          · exact .inr (congrArg Except.error (Except.error.inj failed))
        · rcases ended with ⟨_, same, more⟩ | failed
          · refine ih _ more ?_
            rw [same]
            exact safe.call_next
          · contradiction
      | _ => exact silent trivial
    | _ => exact silent trivial

theorem emitting_autocommit (settings : ActionsSettings) {α : Type} (body : Transaction α) :
    Service.emitting settings (Service.autocommit body) =
      (Transaction.emitting settings body).hoist fun _ statement => .autocommit statement := by
  induction body with
  | ret value => rfl
  | raise error => rfl
  | call statement next ih =>
    have later : (fun answer => Service.emitting settings (Service.autocommit (next answer))) =
        fun answer => (Transaction.emitting settings (next answer)).hoist
          fun _ statement => EmitAction.autocommit statement := funext ih
    have silent (quiet : EventFree _ statement) : (Transaction.emitting settings (.call statement next)).hoist
        (fun _ statement => EmitAction.autocommit statement) =
        .call (.autocommit (.hosting statement)) fun answer =>
          Service.emitting settings (Service.autocommit (next answer)) := by
      rw [emitting_quiet quiet, later]
      rfl
    cases statement with
    | execute change =>
      cases change with
      | recordEvent event =>
        rw [Transaction.emitting, Prog.hoist_bind, ← ih]
        rfl
      | _ => exact (silent trivial).symm
    | _ => exact (silent trivial).symm

variable {α β : Type} {ok : EmitWorld → Prop} {post : Except Error α → EmitWorld → Prop}

theorem safe_emitting_loadRow {find : Db → Option β} {rest : β → Service α} (here : ok now)
    (missing : ∀ error, post (.error error) now)
    (found : ∀ row, find now.hosting.db = some row →
      (Service.emitting settings.actions (rest row)).Safe (EmitAction.handle settings draws) ok post
        now) :
    (Service.emitting settings.actions (Service.autocommit (loadRow find) >>= rest)).Safe
      (EmitAction.handle settings draws) ok post now := by
  refine Prog.safe_call here ?_
  show Prog.Safe _ _ _ (Service.emitting settings.actions (Prog.bind (Prog.hoist _ (Prog.ofExcept
    ((find now.hosting.db).elim (.error .doesNotExist) .ok))) rest)) now
  rcases read : find now.hosting.db with _ | row
  · exact Prog.safe_raise here (missing _)
  · exact found row read

/-- The state that a transaction of both apps leaves when it raises. -/
def EmitWorld.restored (now ended : EmitWorld) : EmitWorld :=
  { ended with
    hosting := { ended.hosting with db := now.hosting.db }
    actions := now.actions }

theorem safe_emitting_atomic {body : Transaction β} {next : Except Error β → Service α}
    {middle : Except Error β → World → Prop} (emitted : start.Emitted settings draws now logged)
    (here : ok now) (ends : body.Ensures (Statement.handle settings.hosting) middle now.hosting)
    (returned : ∀ value later, middle (.ok value) later.hosting →
      (∃ logged, start.Emitted settings draws later logged) →
      (Service.emitting settings.actions (next (.ok value))).Safe (EmitAction.handle settings draws) ok
        post later)
    (raised : ∀ error ended, EmitEnd settings draws start middle (.error error) ended →
      (Service.emitting settings.actions (next (.error error))).Safe (EmitAction.handle settings draws)
        ok post (now.restored ended)) :
    (Service.emitting settings.actions (.call (.atomic body) next)).Safe
      (EmitAction.handle settings draws) ok post now := by
  have safe : Prog.Safe _ (Recoverable settings draws (fun _ => True) start) _ _ now :=
    safe_emitting emitted ⟨Prog.throughout_true body now.hosting, ends⟩
  refine Prog.safe_call here ?_
  rw [EmitAction.handle]
  rcases ran : (Transaction.emitting settings.actions body).run (EmitStatement.handle settings draws) now
    with ⟨error | value, ended⟩
  · exact raised error ended (safe.2.of_run ran)
  · rcases safe.2.of_run ran with ⟨meets, all⟩ | failed
    · exact returned value ended meets all
    · contradiction

end

end HostingService
