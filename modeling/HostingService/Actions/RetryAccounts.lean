import HostingService.Actions.RetryClaims
import HostingService.Program.Stages

/-! The account of a retry run: what each of its deliveries comes to, and when the totals that
it returns are what they did. -/

namespace HostingService

open Program Text OutboxTransaction

/-! ### The stages of a worker -/

/-- The rule of the row can be loaded, if there is an open row. -/
def ActionsDb.Loads (db : ActionsDb) (id : Uuid) : Prop :=
  ∀ row, db.row id = some row → row.status.isFinal = true ∨
    (loadRuleForDelivery row (db.ruleOf row)).isOk = true

inductive WorkerStage where
  | waiting
  | attempting (count : Nat)
  /-- There was no row when the delivery began. -/
  | vanished
  /-- The row was delivered or dead when the delivery began. -/
  | settled (row : ActionOutbox)
  /-- Another attempt was recorded before this one. -/
  | overtaken (row : ActionOutbox)
  | recorded (attempt : DeliveryAttempt) (row : ActionOutbox)

namespace WorkerStage

/-- What a worker counts on where it makes its next call; at its end it makes none. -/
def holds (id : Uuid) : WorkerStage → OutboxWorld → Prop
  | .waiting, world => world.db.Loads id
  | .attempting _, world => (world.db.row id).isSome = true
  | _, _ => True

/-- What the delivery returns when it ends in the stage. -/
def returns : WorkerStage → Option (Option ActionOutbox)
  | .waiting | .attempting _ => none
  | .vanished => some none
  | .settled row | .overtaken row | .recorded _ row => some (some row)

/-- The attempts that have been recorded, each with its row. -/
def notes : WorkerStage → List Noted
  | .recorded attempt row => [(attempt, some row)]
  | _ => []

end WorkerStage

inductive WorkerMove (id : Uuid) :
    ∀ β, DeliveryCall β → WorkerStage → OutboxWorld → WorkerStage → Prop where
  | misses {world β} {call : DeliveryCall β} (absent : world.db.row id = none) (quiet : Quiet β call) :
      WorkerMove id β call .waiting world .vanished
  | settles {world β} {call : DeliveryCall β} (row : ActionOutbox) (stored : world.db.row id = some row)
      (final : row.status.isFinal = true) (quiet : Quiet β call) :
      WorkerMove id β call .waiting world (.settled row)
  | takes {world β} {call : DeliveryCall β} (row : ActionOutbox) (stored : world.db.row id = some row)
      (unsettled : row.status.isFinal = false) (quiet : Quiet β call) :
      WorkerMove id β call .waiting world (.attempting row.attemptCount)
  | works {world count β} {call : DeliveryCall β} (quiet : Quiet β call) :
      WorkerMove id β call (.attempting count) world (.attempting count)
  | overtaken {world count β} {call : DeliveryCall β} (row : ActionOutbox)
      (stored : world.db.row id = some row) (more : row.attemptCount ≠ count)
      (same : (DeliveryCall.handle β call world).2 = world) :
      WorkerMove id β call (.attempting count) world (.overtaken row)
  | records {world count β} {call : DeliveryCall β} (row : ActionOutbox)
      (stored : world.db.row id = some row) (current : row.attemptCount = count)
      (attempt : DeliveryAttempt) (columns : OutboxColumns) (own : attempt.outbox = id)
      (settled : (row.assign columns).status ≠ .pending)
      (undue : ∀ (other : ActionOutbox) (time : Time), time ≤ world.clock → (other.assign columns).isDue time = false)
      (saved : (DeliveryCall.handle β call world).2.db = world.db.record attempt columns) :
      WorkerMove id β call (.attempting count) world (.recorded attempt (row.assign columns))

def workerStaging (id : Uuid) : Staging DeliveryCall OutboxWorld WorkerStage where
  holds := WorkerStage.holds id
  moves := WorkerMove id

/-- The delivery returns what the stage says. -/
def Ended (result : Except ActionsError (Option ActionOutbox)) (stage : WorkerStage) : Prop :=
  ∃ after, stage.returns = some after ∧ result = .ok after

/-- The worker summarizes what its delivery returned. -/
def Summarized (beforeStatus : OutboxStatus) (result : Except ActionsError RetryStats)
    (stage : WorkerStage) : Prop :=
  ∃ after, stage.returns = some after ∧ result = .ok (summarizeDeliveryResult beforeStatus after)

section
variable {settings : ActionsSettings} {library : ActionsLibrary} {id : Uuid} {count : Nat}
  {world : OutboxWorld}

/-! ### A worker whose row is not deleted -/

/-- The stage stays, and nothing is raised. -/
def Unraised {α : Type} (count : Nat) (result : Except ActionsError α) (stage : WorkerStage) : Prop :=
  (∃ value, result = .ok value) ∧ stage = .attempting count

theorem quiet_follows {α : Type} {body : Delivery α} (quiet : body.All Quiet) :
    body.Follows DeliveryCall.handle (workerStaging id) (fun _ stage => stage = .attempting count)
      (.attempting count) :=
  quiet.follows (fun _ _ _ quiet _ => .works quiet) fun _ => rfl

theorem timed_unraised {perform : Delivery (Bool × AttemptMeta)}
    (follows : perform.Follows DeliveryCall.handle (workerStaging id) (Unraised count)
      (.attempting count)) :
    (timed perform).Follows DeliveryCall.handle (workerStaging id) (Unraised count)
      (.attempting count) := by
  have quiet : Quiet Time .monotonic := fun _ => rfl
  intro first _
  refine ⟨_, .works quiet, follows.bind ?_ ?_⟩
  · rintro error stage ⟨⟨value, other⟩, _⟩
    cases other
  · rintro ⟨success, found⟩ stage ⟨_, rfl⟩
    intro last _
    exact ⟨_, .works quiet, ⟨_, rfl⟩, rfl⟩

theorem caught_unraised {body : Delivery (Bool × AttemptMeta)}
    {handler : ActionsError → Delivery (Bool × AttemptMeta)} (quiet : body.All Quiet)
    (ends : ∀ error, ∃ outcome, handler error = .ret outcome) :
    (body.tryCatch handler).Follows DeliveryCall.handle (workerStaging id) (Unraised count)
      (.attempting count) := by
  refine (quiet_follows quiet).tryCatch (fun value _ same => ⟨⟨value, rfl⟩, same⟩) ?_
  intro error stage same
  obtain ⟨outcome, ended⟩ := ends error
  rw [ended]
  exact ⟨⟨outcome, rfl⟩, same⟩

theorem performDelivery_unraised (row : ActionOutbox) (rule : Option ActionRule) :
    (performDelivery settings library row rule).Follows DeliveryCall.handle (workerStaging id)
      (Unraised count) (.attempting count) := by
  unfold performDelivery
  split
  · refine timed_unraised (caught_unraised ?_ fun error => ?_)
    · exact (postEmailEvent_quiet _).bind fun _ => trivial
    · cases error <;> exact ⟨_, rfl⟩
  · refine timed_unraised (caught_unraised ?_ fun error => ?_)
    · exact (deliverWebhookAction_quiet _ _ _).bind fun _ => trivial
    · cases error <;> exact ⟨_, rfl⟩
  · exact timed_unraised ⟨⟨_, rfl⟩, rfl⟩

theorem columns_settled (outcome : Outcome) (row other : ActionOutbox)
    (retryAfterSeconds : Option Int) (now : Time) :
    (other.assign (outcome.columns settings row retryAfterSeconds now)).status ≠ .pending := by
  simp only [Outcome.columns]
  split
  · exact OutboxStatus.noConfusion
  · split <;> exact OutboxStatus.noConfusion

/-- What the last transaction of a delivery answers where its row is stored. -/
theorem recordResult_answers {terminalError : Option PyStr} {success : Bool} {found : AttemptMeta}
    {correlation : Correlation} {row : ActionOutbox} (stored : world.db.row id = some row) :
    let call : DeliveryCall ActionOutbox :=
      .atomic (recordResult settings id count terminalError success found correlation)
    ∃ after stage, (DeliveryCall.handle _ call world).1 = .ok after ∧
      stage.returns = some (some after) ∧ WorkerMove id _ call (.attempting count) world stage := by
  obtain rfl := (ActionsDb.row_mem stored).2
  by_cases current : row.attemptCount = count
  · subst current
    let outcome := outcomeOf settings terminalError success found
    let columns := outcome.columns settings row found.retryAfterSeconds world.clock
    have ended : DeliveryCall.handle _ (.atomic (recordResult settings row.id row.attemptCount
        terminalError success found correlation)) world = (.ok (row.assign columns),
          { world with db := world.db.record (outcome.attempt row correlation) columns }) := by
      rw [DeliveryCall.handle, run_recordResult stored, run_applyDeliveryResult stored]
    refine ⟨row.assign columns, .recorded (outcome.attempt row correlation) (row.assign columns), ?_, rfl,
      .records row stored rfl _ columns rfl (columns_settled outcome row row _ world.clock)
        (fun other _ passed => outcome.columns_undue row other _ passed) ?_⟩
    · rw [ended]
    · rw [ended]
  · have dropped : (recordResult settings row.id count terminalError success found correlation).run
        OutboxStatement.handle world = (.ok row, world) := by
      rw [recordResult, Prog.run_bind_ok _ (run_select _ world)]
      simp [stored, current]
    refine ⟨row, .overtaken row, ?_, rfl, .overtaken row stored current ?_⟩
    · rw [DeliveryCall.handle, dropped]
    · rw [DeliveryCall.handle, dropped]

theorem recordResult_ended {terminalError : Option PyStr} {success : Bool} {found : AttemptMeta}
    {correlation : Correlation} :
    (Delivery.atomic (recordResult settings id count terminalError success found correlation) >>=
      fun after => .ret (some after)).Follows DeliveryCall.handle (workerStaging id) Ended
        (.attempting count) := by
  refine Prog.follows_perform_bind fun world holds => ?_
  obtain ⟨row, stored⟩ := Option.isSome_iff_exists.mp (show (world.db.row id).isSome = true from holds)
  obtain ⟨after, stage, answered, returns, moved⟩ :=
    @recordResult_answers settings id count world terminalError success found correlation row stored
  refine ⟨stage, moved, fun value same => ?_, fun error same => ?_⟩
  · obtain rfl := Except.ok.inj (same.symm.trans answered)
    exact ⟨_, returns, rfl⟩
  · cases same.symm.trans answered

/-- What the first transaction of a delivery answers. -/
theorem takeSnapshot_answers (loads : world.db.Loads id) :
    let answer := (DeliveryCall.handle _ (.atomic (takeSnapshot id)) world).1
    (world.db.row id = none ∧ answer = .ok .missing) ∨
      ∃ row, world.db.row id = some row ∧
        ((row.status.isFinal = true ∧ answer = .ok (.final row)) ∨
          (row.status.isFinal = false ∧ ∃ rule terminalError, answer = .ok (.taken row rule terminalError))) := by
  have asked := run_select (fun db => (db.row id).map fun row => (row, db.ruleOf row)) world
  simp only
  rw [DeliveryCall.handle_atomic, takeSnapshot, Prog.run_bind_ok _ asked]
  rcases stored : world.db.row id with _ | row
  · exact .inl ⟨rfl, rfl⟩
  · right
    refine ⟨row, rfl, ?_⟩
    by_cases final : row.status.isFinal = true
    · left
      refine ⟨final, ?_⟩
      simp [final]
    · right
      rw [Bool.not_eq_true] at final
      refine ⟨final, ?_⟩
      rcases loads row stored with other | loads
      · rw [final] at other
        cases other
      · rcases loaded : loadRuleForDelivery row (world.db.ruleOf row) with error | ⟨rule, terminalError⟩
        · rw [loaded] at loads
          cases loads
        · exact ⟨rule, terminalError, by simp [final, loaded]⟩

/-- A delivery whose row is not deleted under it returns. -/
theorem deliverOutboxRow_ended (correlation : Correlation) :
    (deliverOutboxRow settings library id correlation).Follows DeliveryCall.handle
      (workerStaging id) Ended .waiting := by
  have quiet : Quiet _ (.atomic (takeSnapshot id)) := quiet_atomic (takeSnapshot_reads id)
  refine Prog.follows_perform_bind fun world loads => ?_
  rcases takeSnapshot_answers loads with ⟨absent, answered⟩ | ⟨row, stored,
    ⟨final, answered⟩ | ⟨unsettled, rule, terminalError, answered⟩⟩
  · refine ⟨.vanished, .misses absent quiet, fun value same => ?_, fun error same => ?_⟩
    · obtain rfl := Except.ok.inj (same.symm.trans answered)
      exact ⟨none, rfl, rfl⟩
    · cases same.symm.trans answered
  · refine ⟨.settled row, .settles row stored final quiet, fun value same => ?_, fun error same => ?_⟩
    · obtain rfl := Except.ok.inj (same.symm.trans answered)
      exact ⟨some row, rfl, rfl⟩
    · cases same.symm.trans answered
  · refine ⟨_, .takes row stored unsettled quiet, fun value same => ?_, fun error same => ?_⟩
    · obtain rfl := Except.ok.inj (same.symm.trans answered)
      cases terminalError with
      | some error => exact recordResult_ended
      | none =>
        refine (performDelivery_unraised row rule).bind ?_ ?_
        · rintro error stage ⟨⟨value, other⟩, _⟩
          cases other
        · rintro ⟨success, found⟩ stage ⟨_, rfl⟩
          exact recordResult_ended
    · cases same.symm.trans answered

theorem retryWorker_summarized (beforeStatus : OutboxStatus) (scheduledJobRunId : Option Nat) :
    (retryWorker settings library id beforeStatus scheduledJobRunId).Follows DeliveryCall.handle
      (workerStaging id) (Summarized beforeStatus) .waiting := by
  refine (deliverOutboxRow_ended _).bind ?_ ?_
  · rintro error stage ⟨after, _, same⟩
    cases same
  · rintro value stage ⟨after, returns, same⟩
    cases same
    exact ⟨_, returns, rfl⟩

/-! ### What a worker has done -/

/-- `row.attempt_count` -/
def ActionsDb.countOf (db : ActionsDb) (id : Uuid) : Option Nat := (db.row id).map (·.attemptCount)

/-- The attempts that the calls of a log have recorded. -/
def logNotes (log : List (Entry DeliveryCall OutboxWorld)) : List Noted :=
  log.flatMap fun entry => noted entry.state.db (DeliveryCall.handle _ entry.op entry.state).2.db

/-- What a stage tells of the calls that led to it. -/
def WorkerStage.Shows (id : Uuid) (log : List (Entry DeliveryCall OutboxWorld)) : WorkerStage → Prop
  | .waiting => log = []
  | .attempting count => ∃ first rest, log = first :: rest ∧ first.state.db.countOf id = some count
  | .vanished => ∃ first, log = [first] ∧ first.state.db.row id = none
  | .settled row => ∃ first, log = [first] ∧ first.state.db.row id = some row ∧ row.status.isFinal = true
  | .overtaken row => ∃ first rest last, log = first :: rest ++ [last] ∧
      last.state.db.row id = some row ∧ first.state.db.countOf id ≠ some row.attemptCount
  | .recorded attempt row => attempt.outbox = id ∧ row.status ≠ .pending ∧
      logNotes log = [(attempt, some row)]

theorem logNotes_append (log : List (Entry DeliveryCall OutboxWorld)) {β : Type} (op : DeliveryCall β)
    (world : OutboxWorld) : logNotes (log ++ [⟨op, world⟩]) =
      logNotes log ++ noted world.db (DeliveryCall.handle β op world).2.db := by
  simp [logNotes]

theorem noted_same (db : ActionsDb) : noted db db = [] := by
  simp [noted]

theorem noted_record {db : ActionsDb} {row : ActionOutbox} {attempt : DeliveryAttempt}
    (columns : OutboxColumns) (stored : db.row attempt.outbox = some row) :
    noted db (db.record attempt columns) = [(attempt, some (row.assign columns))] := by
  have after : (db.record attempt columns).row attempt.outbox = some (row.assign columns) := by
    rw [ActionsDb.row_record, stored, Option.map_some, if_pos (ActionsDb.row_mem stored).2]
  have attempts : (db.record attempt columns).attempts = db.attempts ++ [attempt] := rfl
  simp only [noted, attempts, List.drop_left', List.map_cons, List.map_nil, after]

/-- A move keeps the account of the log. -/
theorem WorkerMove.shows {β : Type} {call : DeliveryCall β} {stage later : WorkerStage}
    {log : List (Entry DeliveryCall OutboxWorld)} (moved : WorkerMove id β call stage world later)
    (shows' : stage.Shows id log) (notes : logNotes log = stage.notes) :
    later.Shows id (log ++ [⟨call, world⟩]) ∧ logNotes (log ++ [⟨call, world⟩]) = later.notes := by
  have silent (quiet : Quiet β call) : logNotes (log ++ [⟨call, world⟩]) = logNotes log := by
    rw [logNotes_append, quiet world, noted_same, List.append_nil]
  cases moved with
  | misses absent quiet =>
    obtain rfl := shows'
    exact ⟨⟨_, rfl, absent⟩, silent quiet⟩
  | settles row stored final quiet =>
    obtain rfl := shows'
    exact ⟨⟨_, rfl, stored, final⟩, silent quiet⟩
  | takes row stored unsettled quiet =>
    obtain rfl := shows'
    refine ⟨⟨⟨call, world⟩, [], rfl, ?_⟩, silent quiet⟩
    rw [ActionsDb.countOf, stored]
    rfl
  | works quiet =>
    obtain ⟨first, rest, rfl, counted⟩ := shows'
    exact ⟨⟨first, rest ++ [⟨call, world⟩], rfl, counted⟩, (silent quiet).trans notes⟩
  | overtaken row stored more same =>
    obtain ⟨first, rest, rfl, counted⟩ := shows'
    refine ⟨⟨first, rest, ⟨call, world⟩, rfl, stored, fun equal => ?_⟩, ?_⟩
    · exact more (Option.some.inj (equal.symm.trans counted))
    · rw [logNotes_append, same, noted_same, List.append_nil]
      exact notes
  | records row stored current attempt columns own settled undue saved =>
    have recorded : logNotes (log ++ [⟨call, world⟩]) = [(attempt, some (row.assign columns))] := by
      rw [logNotes_append, notes, saved, noted_record columns (own ▸ stored)]
      rfl
    exact ⟨⟨own, settled, recorded⟩, recorded⟩

/-! ### The futures of a call -/

namespace RetryFuture

def rowId (future : RetryFuture) : Uuid := future.thread.task.1

/-- The delivery has begun, and has not ended. -/
def UnderWay (future : RetryFuture) : Prop := future.thread.log ≠ [] ∧ ¬ future.Finished

def notes (future : RetryFuture) : List Noted := logNotes future.thread.log

/-- What the worker does next, and what it has done. -/
def InStage (future : RetryFuture) (stage : WorkerStage) : Prop :=
  future.thread.rest.Follows DeliveryCall.handle (workerStaging future.rowId)
      (Summarized future.thread.task.2) stage ∧
    stage.Shows future.rowId future.thread.log ∧ future.notes = stage.notes

/-- The future is in a stage, and while it attempts its row is there. -/
structure Sound (world : OutboxWorld) (future : RetryFuture) : Prop where
  collected : future.collected = true → future.Finished
  staged : ∃ stage, future.InStage stage ∧
    ((∃ count, stage = .attempting count) → (world.db.row future.rowId).isSome = true)

/-- What a delivery that has ended was: its row was gone when it began, or it returns the row
as it found it settled, as others left it, or as its own attempt left it. -/
def Counted (future : RetryFuture) : Prop :=
  ∃ (stage : WorkerStage) (after : Option ActionOutbox),
    stage.Shows future.rowId future.thread.log ∧ stage.returns = some after ∧
      future.notes = stage.notes ∧ future.result = summarizeDeliveryResult future.thread.task.2 after

end RetryFuture

/-- A worker that has ended returned what its stage says. -/
theorem follows_finished {rest : Delivery RetryStats} {status : OutboxStatus} {stage : WorkerStage}
    (follows : rest.Follows DeliveryCall.handle (workerStaging id) (Summarized status) stage)
    (finished : rest.Finished) :
    ∃ after, stage.returns = some after ∧ rest = .ret (summarizeDeliveryResult status after) := by
  cases rest with
  | ret value =>
    obtain ⟨after, returns, same⟩ := follows
    exact ⟨after, returns, congrArg Prog.ret (Except.ok.inj same)⟩
  | raise error =>
    obtain ⟨after, _, same⟩ := follows
    cases same
  | call op next => exact finished.elim

theorem RetryFuture.InStage.attempting_underWay {future : RetryFuture}
    (staged : future.InStage (.attempting count)) : future.UnderWay := by
  obtain ⟨follows, ⟨first, rest, same, _⟩, _⟩ := staged
  constructor
  · rw [same]
    exact List.cons_ne_nil first rest
  · intro finished
    obtain ⟨after, returns, _⟩ := follows_finished follows finished
    cases returns

/-- A worker that has ended did not raise, and its result tells what its delivery was. -/
theorem RetryFuture.Sound.finished {future : RetryFuture} (sound : future.Sound world)
    (finished : future.Finished) : future.raised = false ∧ future.Counted := by
  obtain ⟨stage, ⟨follows, shown, notes⟩, _⟩ := sound.staged
  obtain ⟨after, returns, ended⟩ := follows_finished follows finished
  refine ⟨by rw [RetryFuture.raised, ended], stage, after, shown, returns, notes, ?_⟩
  rw [RetryFuture.result, ended]

theorem RetryFuture.submit_sound (scheduledJobRunId : Option Nat) (row : ActionOutbox) :
    (RetryFuture.submit settings library scheduledJobRunId row).Sound world where
  collected other := by cases other
  staged := by
    refine ⟨.waiting, ⟨retryWorker_summarized row.status scheduledJobRunId, rfl, rfl⟩, ?_⟩
    rintro ⟨count, other⟩
    cases other

/-- A worker makes its next call in a world where its row is as it counts on. -/
theorem RetryFuture.Sound.delivers {future : RetryFuture} (sound : future.Sound world)
    (loads : world.db.Loads future.rowId) {β : Type} {op : DeliveryCall β}
    {next : Except ActionsError β → Delivery RetryStats} (waiting : future.thread.rest = .call op next)
    (stays : (world.db.row future.rowId).isSome = true →
      ((DeliveryCall.handle β op world).2.db.row future.rowId).isSome = true) :
    ({ future with thread := (future.thread.after DeliveryCall.handle 1 world).1 } : RetryFuture).Sound
      (DeliveryCall.handle β op world).2 := by
  obtain ⟨stage, ⟨follows, shown, notes⟩, present⟩ := sound.staged
  rw [waiting] at follows
  obtain ⟨⟨task, rest, log⟩, collected⟩ := future
  obtain rfl := waiting
  have holds : stage.holds task.1 world := by
    cases stage with
    | waiting => exact loads
    | attempting count => exact present ⟨count, rfl⟩
    | _ => trivial
  obtain ⟨later, moved, rest⟩ := follows world holds
  obtain ⟨shown, noted⟩ := moved.shows shown notes
  refine ⟨fun taken => (sound.collected taken).elim, later, ⟨rest, shown, noted⟩, ?_⟩
  rintro ⟨count, rfl⟩
  cases moved with
  | takes row stored unsettled quiet =>
    refine stays ?_
    rw [show world.db.row _ = some row from stored]
    rfl
  | works quiet => exact stays (present ⟨count, rfl⟩)

theorem RetryFuture.Sound.keeps {future : RetryFuture} (sound : future.Sound world)
    {later : OutboxWorld} (stays : future.UnderWay → (world.db.row future.rowId).isSome = true →
      (later.db.row future.rowId).isSome = true) : future.Sound later where
  collected := sound.collected
  staged := by
    obtain ⟨stage, staged, present⟩ := sound.staged
    refine ⟨stage, staged, ?_⟩
    rintro ⟨count, rfl⟩
    exact stays staged.attempting_underWay (present ⟨count, rfl⟩)

theorem RetryFuture.Sound.collect {future : RetryFuture} (sound : future.Sound world) :
    future.collect.Sound world := by
  rw [RetryFuture.collect]
  split
  · next finished => exact ⟨fun _ => finished, sound.staged⟩
  · exact sound

/-! ### Rows that stay -/

/-- Every webhook row names a stored rule. -/
def ActionsDb.Linked (db : ActionsDb) : Prop :=
  ∀ row ∈ db.outbox, row.deliveryKind = .webhook → (db.ruleOf row).isSome = true

theorem ActionsDb.Linked.loads {db : ActionsDb} (linked : db.Linked) (id : Uuid) : db.Loads id := by
  intro row stored
  right
  unfold loadRuleForDelivery
  cases kind : row.deliveryKind with
  | email => rfl
  | webhook =>
    obtain ⟨rule, found⟩ := Option.isSome_iff_exists.mp (linked row (ActionsDb.row_mem stored).1 kind)
    rw [found, if_neg DeliveryKind.noConfusion]
    simp only
    split
    · rfl
    · split <;> rfl

/-- A change of the columns that keeps what the row is about. -/
structure KeepsSubject (change : ActionOutbox → ActionOutbox) : Prop where
  id : ∀ row, (change row).id = row.id
  deliveryKind : ∀ row, (change row).deliveryKind = row.deliveryKind
  actionRule : ∀ row, (change row).actionRule = row.actionRule

/-- Rules and rows stay. -/
def ActionsDb.KeepsRows (before after : ActionsDb) : Prop :=
  after.rules = before.rules ∧ ∃ change, KeepsSubject change ∧ after.outbox = before.outbox.map change

namespace ActionsDb.KeepsRows

theorem refl (db : ActionsDb) : db.KeepsRows db :=
  ⟨rfl, fun row => row, ⟨fun _ => rfl, fun _ => rfl, fun _ => rfl⟩, (List.map_id' _).symm⟩

theorem assign (db : ActionsDb) (id : Uuid) (columns : OutboxColumns) :
    db.KeepsRows (db.assign id columns) := by
  refine ⟨rfl, _, ⟨fun row => ?_, fun row => ?_, fun row => ?_⟩, rfl⟩
  · split <;> simp
  · split <;> cases columns <;> rfl
  · split <;> cases columns <;> rfl

theorem row_isSome {before after : ActionsDb} (keeps : before.KeepsRows after) (id : Uuid) :
    (after.row id).isSome = (before.row id).isSome := by
  obtain ⟨_, change, same, mapped⟩ := keeps
  have key : ((fun row : ActionOutbox => decide (row.id = id)) ∘ change) =
      fun row => decide (row.id = id) := by
    funext row
    simp only [Function.comp_apply, same.id]
  rw [ActionsDb.row, mapped, List.find?_map, key, Option.isSome_map]
  rfl

theorem ids {before after : ActionsDb} (keeps : before.KeepsRows after) :
    after.outbox.map (·.id) = before.outbox.map (·.id) := by
  obtain ⟨_, change, same, mapped⟩ := keeps
  rw [mapped]
  exact map_key_of_kept same.id

theorem linked {before after : ActionsDb} (keeps : before.KeepsRows after) (linked : before.Linked) :
    after.Linked := by
  obtain ⟨rules, change, same, mapped⟩ := keeps
  intro row member kind
  rw [mapped] at member
  obtain ⟨old, present, rfl⟩ := List.mem_map.mp member
  have found := linked old present ((same.deliveryKind old).symm.trans kind)
  rw [ActionsDb.ruleOf] at found ⊢
  rw [same.actionRule, rules]
  exact found

end ActionsDb.KeepsRows

def CallKeepsRows (β : Type) (call : DeliveryCall β) : Prop :=
  ∀ world : OutboxWorld, world.db.KeepsRows (DeliveryCall.handle β call world).2.db

theorem Quiet.keepsRows {β : Type} {call : DeliveryCall β} (quiet : Quiet β call) :
    CallKeepsRows β call := by
  intro world
  rw [quiet world]
  exact .refl _

theorem recordResult_keepsRows {terminalError : Option PyStr} {success : Bool} {found : AttemptMeta}
    {correlation : Correlation} : CallKeepsRows _
      (.atomic (recordResult settings id count terminalError success found correlation)) := by
  intro world
  rcases stored : world.db.row id with _ | row
  · rw [recordResult_gone stored]
    exact .refl _
  · by_cases current : row.attemptCount = count
    · subst current
      obtain rfl := (ActionsDb.row_mem stored).2
      rw [DeliveryCall.handle, run_recordResult stored, run_applyDeliveryResult stored]
      exact .assign _ _ _
    · rw [recordResult_overtaken stored current]
      exact .refl _

theorem deliverOutboxRow_keepsRows (id : Uuid) (correlation : Correlation) :
    (deliverOutboxRow settings library id correlation).All CallKeepsRows :=
  deliverOutboxRow_all (fun _ _ quiet => quiet.keepsRows) fun _ _ _ _ => recordResult_keepsRows

theorem claim_keepsRows (now : Time) (view : ClaimView) :
    CallKeepsRows _ (.atomic (claimNextPendingOutbox settings now view)) := by
  intro world
  rcases claim_ends settings now view world with same | ⟨row, _, _, leased⟩
  · rw [same]
    exact .refl _
  · rw [leased]
    exact .assign _ _ _

/-! ### The steps of a call -/

section
variable {later : OutboxWorld} {call after : RetryCall} {event : RetrySystemEvent}

theorem RetryCall.Step.keepsRows (stepped : RetryCall.Step settings library world call event later after)
    (every : ∀ future ∈ call.futures, future.thread.rest.All CallKeepsRows) :
    world.db.KeepsRows later.db := by
  cases stepped with
  | idles view choosing free nothing =>
    have kept : world.db.KeepsRows (call.claim settings view world).2.db := claim_keepsRows call.now view world
    rw [nothing] at kept
    exact kept
  | claims view row choosing free found =>
    have kept : world.db.KeepsRows (call.claim settings view world).2.db := claim_keepsRows call.now view world
    rw [found] at kept
    exact kept
  | releases row holding => exact .assign _ _ _
  | delivers future op next waiting present =>
    have allowed := every future (present ▸ mem_middle.mpr (.inl rfl))
    rw [waiting] at allowed
    exact allowed.1 world
  | _ => exact .refl _

theorem RetryCall.Step.sound (stepped : RetryCall.Step settings library world call event later after)
    (linked : world.db.Linked) (keeps : world.db.KeepsRows later.db)
    (sound : ∀ future ∈ call.futures, future.Sound world) : ∀ future ∈ after.futures, future.Sound later := by
  have stays (future : RetryFuture) (member : future ∈ call.futures) : future.Sound later :=
    (sound future member).keeps fun _ here => (keeps.row_isSome _).trans here
  cases stepped with
  | claims view row choosing free found =>
    intro future member
    split at member
    · exact stays future member
    · rcases List.mem_append.mp member with old | new
      · exact stays future old
      · obtain rfl := List.mem_singleton.mp new
        exact RetryFuture.submit_sound _ row
  | delivers moved op next waiting present =>
    have own : moved ∈ call.futures := present ▸ mem_middle.mpr (.inl rfl)
    intro future member
    rcases mem_middle.mp member with rfl | other
    · exact (sound moved own).delivers (linked.loads _) waiting fun here => (keeps.row_isSome _).trans here
    · exact stays future (present ▸ mem_middle.mpr (.inr other))
  | collects ready returned goesOn =>
    intro future member
    obtain ⟨old, present, rfl⟩ := List.mem_map.mp member
    exact (stays old present).collect
  | _ => exact stays

/-- No exception is on its way out. -/
def RetryCall.Unfailed (call : RetryCall) : Prop := call.phase ≠ .joining true ∧ call.phase ≠ .failed

theorem RetryCall.Step.unfailed (stepped : RetryCall.Step settings library world call event later after)
    (sound : ∀ future ∈ call.futures, future.Sound world) (unfailed : call.Unfailed) : after.Unfailed := by
  cases stepped with
  | idles view choosing free nothing =>
    rw [RetryCall.Unfailed]
    simp only
    split <;> exact ⟨RetryCallPhase.noConfusion, RetryCallPhase.noConfusion⟩
  | claims view row choosing free found =>
    split
    · exact ⟨RetryCallPhase.noConfusion, RetryCallPhase.noConfusion⟩
    · rw [RetryCall.Unfailed, RetryCall.submits]
      simp only
      split <;> exact ⟨RetryCallPhase.noConfusion, RetryCallPhase.noConfusion⟩
  | delivers future op next waiting present => exact unfailed
  | collects ready returned goesOn =>
    rw [RetryCall.Unfailed, RetryCall.next]
    simp only
    split
    · split
      · exact ⟨by simp, RetryCallPhase.noConfusion⟩
      · exact ⟨RetryCallPhase.noConfusion, RetryCallPhase.noConfusion⟩
    · exact ⟨RetryCallPhase.noConfusion, RetryCallPhase.noConfusion⟩
  | raises ready raised =>
    obtain ⟨future, member, raised⟩ := raised
    obtain ⟨flying, finished⟩ := List.mem_filter.mp member
    have quiet := ((sound future (List.mem_filter.mp flying).1).finished (of_decide_eq_true finished)).1
    rw [quiet] at raised
    cases raised
  | stops beyond => exact ⟨by simp, RetryCallPhase.noConfusion⟩
  | joins raised joining beyond =>
    cases raised with
    | true => exact (unfailed.1 joining).elim
    | false => exact ⟨RetryCallPhase.noConfusion, RetryCallPhase.noConfusion⟩
  | _ => exact ⟨RetryCallPhase.noConfusion, RetryCallPhase.noConfusion⟩

/-! ### Totals -/

/-- The totals of the results. -/
def RetryStats.TotalOf (stats : RetryStats) (results : List RetryStats) : Prop :=
  ∀ key, stats.total key = (results.map (·.total key)).sum ∧ stats.email key = (results.map (·.email key)).sum

theorem RetryStats.TotalOf.perm {stats : RetryStats} {left right : List RetryStats}
    (total : stats.TotalOf left) (perm : left.Perm right) : stats.TotalOf right := by
  intro key
  obtain ⟨all, emails⟩ := total key
  exact ⟨all.trans (perm.map _).sum_nat, emails.trans (perm.map _).sum_nat⟩

theorem RetryStats.TotalOf.merges {stats : RetryStats} {taken : List RetryStats}
    (total : stats.TotalOf taken) (futures : List RetryFuture) :
    (futures.foldl (fun stats future => stats.merge future.result) stats).TotalOf
      (taken ++ futures.map (·.result)) := by
  induction futures generalizing stats taken with
  | nil => simpa using total
  | cons future futures ih =>
    have more : (stats.merge future.result).TotalOf (taken ++ [future.result]) := by
      intro key
      obtain ⟨all, emails⟩ := total key
      simp [RetryStats.merge, all, emails]
    have rest := ih more
    rw [List.append_assoc, List.singleton_append] at rest
    exact rest

theorem RetryFuture.collect_result (future : RetryFuture) : future.collect.result = future.result := by
  rw [RetryFuture.collect]
  split <;> rfl

/-- What is collected afterwards was collected before, or was done. -/
theorem collect_results (futures : List RetryFuture) :
    (((futures.map (·.collect)).filter (·.collected)).map (·.result)).Perm
      ((futures.filter (·.collected)).map (·.result) ++
        ((futures.filter (!·.collected)).filter (·.Finished)).map (·.result)) := by
  induction futures with
  | nil => exact .nil
  | cons future futures ih =>
    by_cases collected : future.collected = true
    · have still : future.collect.collected = true := by
        rw [RetryFuture.collect]
        split
        · rfl
        · exact collected
      simpa [collected, still, RetryFuture.collect_result] using ih
    · by_cases finished : future.Finished
      · have now : future.collect.collected = true := by simp [RetryFuture.collect, finished]
        have moved := (ih.cons future.result).trans List.perm_middle.symm
        simpa [collected, finished, now, RetryFuture.collect_result] using moved
      · have still : future.collect = future := by simp [RetryFuture.collect, finished]
        simpa [collected, finished, still] using ih

/-- The totals are those of the deliveries that have been collected. -/
def RetryCall.Totaled (call : RetryCall) : Prop :=
  call.options.dryRun = false → call.stats.TotalOf ((call.futures.filter (·.collected)).map (·.result))

/-- The call ends with no delivery in flight. -/
def RetryCall.Drained (call : RetryCall) : Prop :=
  call.phase = .joining false ∨ call.phase = .returned → call.inFlight = []

/-- A delivery that makes a call has not been collected. -/
theorem RetryFuture.flying {future : RetryFuture} (collected : future.collected = true → future.Finished)
    {β : Type} {op : DeliveryCall β} {next : Except ActionsError β → Delivery RetryStats}
    (waiting : future.thread.rest = .call op next) : future.collected = false := by
  by_contra taken
  have finished := collected (Bool.eq_true_of_not_eq_false taken)
  rw [RetryFuture.Finished, waiting] at finished
  exact finished

theorem RetryCall.Step.totaled (stepped : RetryCall.Step settings library world call event later after)
    (collected : ∀ future ∈ call.futures, future.collected = true → future.Finished)
    (totaled : call.Totaled) : after.Totaled := by
  cases stepped with
  | claims view row choosing free found =>
    split
    · next dry =>
      intro wet
      rw [show call.options.dryRun = false from wet] at dry
      cases dry
    · intro wet
      simpa [RetryCall.submits, RetryFuture.submit, List.filter_append] using totaled wet
  | delivers moved op next waiting present =>
    have flying := RetryFuture.flying (collected moved (present ▸ mem_middle.mpr (.inl rfl))) waiting
    intro wet
    have totals := totaled wet
    rw [present] at totals
    simpa [List.filter_append, flying] using totals
  | collects ready returned goesOn =>
    exact fun wet => ((totaled wet).merges call.done).perm (collect_results call.futures).symm
  | _ => exact totaled

theorem RetryCall.Step.drained (stepped : RetryCall.Step settings library world call event later after)
    (collected : ∀ future ∈ call.futures, future.collected = true → future.Finished)
    (leaves : ∀ leaving, event = .leaves leaving → leaving.inFlight = []) (drained : call.Drained) :
    after.Drained := by
  cases stepped with
  | idles view choosing free nothing =>
    intro ended
    simp only at ended
    split at ended <;> rcases ended with other | other <;> cases other
  | claims view row choosing free found =>
    split
    · intro ended
      rcases ended with other | other <;> cases other
    · intro ended
      simp only [RetryCall.submits] at ended
      split at ended <;> rcases ended with other | other <;> cases other
  | delivers moved op next waiting present =>
    have own : moved ∈ call.futures := present ▸ mem_middle.mpr (.inl rfl)
    have flying := RetryFuture.flying (collected moved own) waiting
    intro ended
    have nothing : moved ∈ call.inFlight := List.mem_filter.mpr ⟨own, by simp [flying]⟩
    rw [drained ended] at nothing
    cases nothing
  | collects ready returned goesOn =>
    intro ended
    rcases ended with other | other
    · exact (goesOn other).elim
    · have next : call.next = .returned := other
      rw [RetryCall.next] at next
      split at next
      · split at next <;> cases next
      · cases next
  | stops beyond => exact fun _ => leaves call rfl
  | joins raised joining beyond =>
    intro ended
    cases raised with
    | true => rcases ended with other | other <;> cases other
    | false => exact drained (.inl joining)
  | _ =>
    intro ended
    rcases ended with other | other <;> cases other

/-- The totals that a call returns are those of all its deliveries. -/
theorem RetryCall.Totaled.returned (totaled : call.Totaled) (drained : call.Drained)
    (returned : call.phase = .returned) (wet : call.options.dryRun = false) :
    call.stats.TotalOf (call.futures.map (·.result)) ∧ ∀ future ∈ call.futures, future.collected = true := by
  have every : ∀ future ∈ call.futures, future.collected = true := by
    intro future member
    by_contra flying
    have nothing : future ∈ call.inFlight := List.mem_filter.mpr ⟨member, by simp [flying]⟩
    rw [drained (.inr returned)] at nothing
    cases nothing
  have totals := totaled wet
  rw [List.filter_eq_self.mpr every] at totals
  exact ⟨totals, every⟩

end

end

theorem claimWorld_linked : claimWorld.db.Linked := by
  intro row member kind
  rcases List.mem_cons.mp member with rfl | other
  · rfl
  · obtain rfl := List.mem_singleton.mp other
    cases kind

end HostingService
