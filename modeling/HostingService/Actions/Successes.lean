import HostingService.Actions.Bookkeeping

/-! When a success that an endpoint has answered is kept. -/

namespace HostingService

open Program Text Storage OutboxTransaction

/-- The endpoint answered with a success, and the answer can be read. -/
def Exchange.Success : Exchange → Prop
  | .answered response => response.legible = true ∧ 200 ≤ response.status ∧ response.status < 300
  | _ => False

instance : ∀ exchange : Exchange, Decidable exchange.Success
  | .answered _ => inferInstanceAs (Decidable (_ ∧ _))
  | .blocked _ | .osError _ | .exception _ => .isFalse id

/-- A call that was a POST, and was answered with a success. -/
def IsSuccess : Entry DeliveryCall OutboxWorld → Prop
  | ⟨.post request, state⟩ => (state.network request).Success
  | _ => False

instance : ∀ entry, Decidable (IsSuccess entry)
  | ⟨.post request, state⟩ => inferInstanceAs (Decidable (state.network request).Success)
  | ⟨.atomic _, _⟩ | ⟨.autocommit _, _⟩ | ⟨.monotonic, _⟩ => .isFalse id

/-- A POST of the call was answered with a success. -/
def Received (log : List (Entry DeliveryCall OutboxWorld)) : Prop := ∃ entry ∈ log, IsSuccess entry

/-- No attempt was recorded for the row between the first and the last call. -/
def Undisturbed (id : Uuid) (log : List (Entry DeliveryCall OutboxWorld)) : Prop :=
  log.getLast?.map (·.state.db.attemptsOf id) = log.head?.map (·.state.db.attemptsOf id)

/-- The row is delivered, by an attempt that is the last one. -/
def KeptSuccess (id : Uuid) (log : List (Entry DeliveryCall OutboxWorld)) (db : ActionsDb) : Prop :=
  ∃ last, log.getLast? = some last ∧ ∃ row attempt, db.row id = some row ∧ row.status = .delivered ∧
    attempt.status = .success ∧ db.attemptsOf id = last.state.db.attemptsOf id ++ [attempt]

section
variable {settings : ActionsSettings} {library : ActionsLibrary}
  {lasting : ActionsDb → ActionsDb → Prop} {log : List (Entry DeliveryCall OutboxWorld)}
  {world : OutboxWorld}

/-! ### What counts as received -/

theorem received_append {entry : Entry DeliveryCall OutboxWorld} :
    Received (log ++ [entry]) ↔ Received log ∨ IsSuccess entry := by
  simp [Received, or_and_right, exists_or]

/-! ### A success is seen -/

theorem parseRetryAfterHeader_relies (value : Option PyStr) :
    (parseRetryAfterHeader library value).Relies DeliveryCall.handle (deliveryConduct lasting)
      (fun later result _ => (Received later → Received log) ∧
        ((!(strip (value.getD [])).all isLatinDigit || (intOfDigits (strip (value.getD []))).isOk) = true →
          ∃ seconds, result = .ok seconds)) log world := by
  simp only [parseRetryAfterHeader]
  by_cases blank : strip (value.getD []) = []
  · rw [if_pos blank]
    exact ⟨fun got => got, fun _ => ⟨none, rfl⟩⟩
  · rw [if_neg blank]
    by_cases numeric : (strip (value.getD [])).all isLatinDigit = true
    · rw [if_pos numeric, numeric]
      rcases intOfDigits (strip (value.getD [])) with error | seconds
      · exact ⟨fun got => got, fun legible => by cases legible⟩
      · exact ⟨fun got => got, fun _ => ⟨_, rfl⟩⟩
    · rw [if_neg numeric]
      rcases library.parseDate (strip (value.getD [])) with _ | target
      · exact ⟨fun got => got, fun _ => ⟨none, rfl⟩⟩
      · intro later accounted _
        have quiet : Quiet _ (.autocommit .now) := fun _ => rfl
        refine ⟨quiet.good accounted, fun got => ?_, fun _ => ⟨_, rfl⟩⟩
        rcases received_append.mp got with old | fresh
        · exact old
        · exact fresh.elim

theorem postWebhookUrl_relies {request : Post} (fresh : ¬ Received log) :
    (postWebhookUrl library request).Relies DeliveryCall.handle (deliveryConduct lasting)
      (fun later result _ => Received later → ∃ found, result = .ok (.result found) ∧
        200 ≤ found.status ∧ found.status < 300) log world := by
  have asked : (Prog.perform (.post request) : Delivery Exchange).Relies DeliveryCall.handle
      (deliveryConduct lasting) (fun later result _ => ∃ exchange, result = .ok exchange ∧
        (Received later → exchange.Success)) log world := by
    refine Prog.relies_perform.mpr fun later accounted _ => ?_
    have quiet : Quiet _ (.post request) := fun _ => rfl
    refine ⟨quiet.good accounted, later.network request, rfl, fun got => ?_⟩
    rcases received_append.mp got with old | success
    · exact absurd old fresh
    · exact success
  refine asked.bind ?_ ?_
  · rintro later error after ⟨exchange, same, _⟩
    cases same
  · rintro later exchange after ⟨_, same, success⟩
    cases same
    cases exchange with
    | answered response =>
      simp only
      rcases body : readResponseExcerpt response with error | excerpt
      · intro got
        have read := (success got).1
        simp only [HttpResponse.legible, body] at read
        cases read
      · refine (parseRetryAfterHeader_relies response.retryAfter).bind ?_ ?_
        · rintro last error done ⟨unread, parsed⟩ got
          have read := (success (unread got)).1
          simp only [HttpResponse.legible, Bool.and_eq_true] at read
          obtain ⟨_, equal⟩ := parsed read.2
          cases equal
        · rintro last seconds done ⟨unread, _⟩ got
          exact ⟨_, rfl, (success (unread got)).2⟩
    | _ => exact fun got => (success got).elim

theorem deliverWebhookAction_relies {config : WebhookConfig} {envelope : Envelope} {attempt : Nat}
    (fresh : ¬ Received log) :
    (deliverWebhookAction settings library config envelope attempt).Relies DeliveryCall.handle
      (deliveryConduct lasting) (fun later result _ => Received later → result = .ok ()) log world := by
  refine Prog.relies_check (fun _ got => absurd got fresh) fun _ => ?_
  refine Prog.relies_check (fun _ got => absurd got fresh) fun _ => ?_
  refine Prog.relies_check (fun _ got => absurd got fresh) fun _ => ?_
  rcases normalizeWebhookSigningSecret library (strip config.secret) with error | key
  · exact fun got => absurd got fresh
  · refine (postWebhookUrl_relies fresh).bind ?_ ?_
    · intro later error after received got
      obtain ⟨_, same, _⟩ := received got
      cases same
    · intro later ended after received
      cases ended with
      | result result =>
        simp only
        by_cases refused : result.status ≥ 400
        · rw [decide_eq_true refused]
          intro got
          obtain ⟨_, same, _, below⟩ := received got
          cases same
          omega
        · rw [decide_eq_false refused]
          exact fun _ => rfl
      | webhookHttpError failure =>
        intro got
        obtain ⟨_, same, _⟩ := received got
        cases same
      | osError message =>
        intro got
        obtain ⟨_, same, _⟩ := received got
        cases same

theorem postEmailEvent_relies {body : Envelope} (fresh : ¬ Received log) :
    (postEmailEvent settings library body).Relies DeliveryCall.handle (deliveryConduct lasting)
      (fun later result _ => Received later → ∃ status, result = .ok status) log world := by
  refine Prog.relies_check (fun _ got => absurd got fresh) fun _ => ?_
  refine Prog.relies_check (fun _ got => absurd got fresh) fun _ => ?_
  refine (postWebhookUrl_relies fresh).bind ?_ ?_
  · intro later error after received got
    obtain ⟨_, same, _⟩ := received got
    cases same
  · intro later ended after received
    cases ended with
    | result result =>
      simp only
      by_cases accepted : 200 ≤ result.status ∧ result.status < 300
      · rw [if_pos accepted]
        exact fun _ => ⟨_, rfl⟩
      · rw [if_neg accepted]
        intro got
        obtain ⟨_, same, range⟩ := received got
        cases same
        exact absurd range accepted
    | webhookHttpError failure =>
      intro got
      obtain ⟨_, same, _⟩ := received got
      cases same
    | osError message =>
      intro got
      obtain ⟨_, same, _⟩ := received got
      cases same

/-- The attempt succeeds if it received a success. -/
def SeesSuccess (log : List (Entry DeliveryCall OutboxWorld))
    (result : Except ActionsError (Bool × AttemptMeta)) : Prop :=
  Received log → ∃ found, result = .ok (true, found)

theorem timed_relies {perform : Delivery (Bool × AttemptMeta)} (fresh : ¬ Received log)
    (sees : ∀ log state, ¬ Received log → perform.Relies DeliveryCall.handle
      (deliveryConduct lasting) (fun later result _ => SeesSuccess later result) log state) :
    (timed perform).Relies DeliveryCall.handle (deliveryConduct lasting)
      (fun later result _ => SeesSuccess later result) log world := by
  have quiet : Quiet _ .monotonic := fun _ => rfl
  intro later accounted _
  refine ⟨quiet.good accounted, ?_⟩
  have unread : ¬ Received (log ++ [⟨.monotonic, later⟩]) := fun got =>
    (received_append.mp got).elim fresh id
  refine (sees _ later unread).bind (fun _ _ _ seen got => ?_) fun last ended after seen => ?_
  · obtain ⟨_, same⟩ := seen got
    cases same
  · intro done accounted _
    refine ⟨quiet.good accounted, fun got => ?_⟩
    obtain ⟨found, same⟩ := seen ((received_append.mp got).elim id False.elim)
    cases same
    exact ⟨_, rfl⟩

/-- An attempt that catches what its exchange raises, and turns it into a failure. -/
theorem caught_relies {body : Delivery (Bool × AttemptMeta)}
    {handler : ActionsError → Delivery (Bool × AttemptMeta)}
    (sees : body.Relies DeliveryCall.handle (deliveryConduct lasting)
      (fun later result _ => SeesSuccess later result) log world)
    (ends : ∀ error, ∃ outcome, handler error = .ret outcome) :
    (body.tryCatch handler).Relies DeliveryCall.handle (deliveryConduct lasting)
      (fun later result _ => SeesSuccess later result) log world := by
  refine sees.tryCatch (fun _ _ _ seen => seen) fun later error after seen => ?_
  obtain ⟨outcome, same⟩ := ends error
  rw [same]
  intro got
  obtain ⟨_, other⟩ := seen got
  cases other

theorem performDelivery_relies (row : ActionOutbox) (rule : Option ActionRule)
    (fresh : ¬ Received log) :
    (performDelivery settings library row rule).Relies DeliveryCall.handle (deliveryConduct lasting)
      (fun later result _ => SeesSuccess later result) log world := by
  unfold performDelivery
  split
  · refine timed_relies fresh fun log state fresh => caught_relies ?_ fun error => ?_
    · refine (postEmailEvent_relies fresh).bind (fun later error after seen got => ?_)
        fun later status after _ _ => ⟨_, rfl⟩
      obtain ⟨_, same⟩ := seen got
      cases same
    · cases error <;> exact ⟨_, rfl⟩
  · refine timed_relies fresh fun log state fresh => caught_relies ?_ fun error => ?_
    · refine (deliverWebhookAction_relies fresh).bind (fun later error after seen got => ?_)
        fun later status after _ _ => ⟨_, rfl⟩
      cases seen got
    · cases error <;> exact ⟨_, rfl⟩
  · exact timed_relies fresh fun log state fresh got => absurd got fresh

/-! ### A success is kept -/

theorem attemptsOf_length {db : ActionsDb} (accounted : db.Accounted) {other : ActionsDb}
    (kept : other.Accounted) {id : Uuid} {row old : ActionOutbox} (stored : db.row id = some row)
    (found : other.row id = some old) (same : db.attemptsOf id = other.attemptsOf id) :
    row.attemptCount = old.attemptCount := by
  rw [← accounted.length stored, ← kept.length found, same]

/-- The recorded success of an undisturbed call is the last attempt of its row. -/
theorem Recorded.keptSuccess {id : Uuid} {first last after : OutboxWorld} {row : ActionOutbox}
    (recorded : Recorded id row.attemptCount true last.db after.db) (was : first.db.Accounted)
    (accounted : last.db.Accounted) (stored : first.db.row id = some row)
    (same : last.db.attemptsOf id = first.db.attemptsOf id) :
    ∃ row attempt, after.db.row id = some row ∧ row.status = .delivered ∧
      attempt.status = .success ∧ after.db.attemptsOf id = last.db.attemptsOf id ++ [attempt] := by
  cases recorded with
  | dropped other found overtaken unchanged =>
    exact absurd (attemptsOf_length accounted was found stored same) overtaken
  | saved other attempt columns found current unsettled own next counted delivered saved =>
    obtain ⟨succeeded, delivered⟩ := delivered rfl
    refine ⟨other.assign columns, attempt, ?_, delivered other, succeeded, ?_⟩
    · rw [saved, ActionsDb.row_record, found, Option.map_some, if_pos]
      rw [own, (ActionsDb.row_mem found).2]
    · rw [saved, ActionsDb.attemptsOf_record, if_pos own]

/-- What a delivery that has returned leaves behind. -/
def SuccessKept (task : Uuid × Correlation) (log : List (Entry DeliveryCall OutboxWorld))
    (_ : Except ActionsError (Option ActionOutbox)) (world : OutboxWorld) : Prop :=
  Received log → Undisturbed task.1 log → KeptSuccess task.1 log world.db

theorem SuccessKept.later {task : Uuid × Correlation} {result : Except ActionsError (Option ActionOutbox)}
    {before after : OutboxWorld} (kept : SuccessKept task log result before)
    (still : before.db.KeepsFinal after.db) : SuccessKept task log result after := by
  intro got undisturbed
  obtain ⟨last, ended, row, attempt, stored, delivered, succeeded, attempts⟩ := kept got undisturbed
  obtain ⟨present, same⟩ := still task.1 row stored (by rw [delivered]; rfl)
  exact ⟨last, ended, row, attempt, present, delivered, succeeded, same.trans attempts⟩

theorem deliveryOf_keepsSuccess (task : Uuid × Correlation) (world : OutboxWorld) :
    (deliveryOf settings library task).Relies DeliveryCall.handle (deliveryConduct lasting)
      (SuccessKept task) [] world := by
  have unread (id : Uuid) (first : OutboxWorld) : ¬ Received [snapshotEntry id first] := by
    simp [Received, snapshotEntry, IsSuccess]
  refine deliverOutboxRow_relies
    (fun first later result _ => [snapshotEntry task.1 first] <+: later ∧ SeesSuccess later result)
    (fun first result after got => absurd got (unread _ _)) ?_ ?_ ?_ ?_
  · intro first last count error result after got
    simp [Received, snapshotEntry, resultEntry, IsSuccess] at got
  · intro first row rule
    exact ((performDelivery_quiet row rule).relies_log fun _ _ _ quiet => quiet.good).and
      (performDelivery_relies row rule (unread _ _))
  · intro first log error after ⟨_, seen⟩ got
    obtain ⟨_, same⟩ := seen got
    cases same
  · intro first row log success found last middle after result was stored ⟨grown, seen⟩ accounted
      recorded got undisturbed
    have received : Received log := (received_append.mp got).elim id False.elim
    obtain ⟨_, same⟩ := seen received
    cases same
    obtain ⟨rest, rfl⟩ := grown
    have ended : ([snapshotEntry task.1 first] ++ rest ++ [resultEntry settings task.1 row.attemptCount
        none true found task.2 last]).getLast? = some (resultEntry settings task.1 row.attemptCount
          none true found task.2 last) := List.getLast?_concat
    rw [Undisturbed, ended] at undisturbed
    exact ⟨_, ended, recorded.keptSuccess was accounted stored (Option.some.inj undisturbed)⟩

/-- Once a call has returned whose POST was answered with a success, and no other attempt
was recorded meanwhile, the row is delivered and gets no further attempt. -/
theorem received_success_kept
    {start crew : Crew DeliveryCall ActionsError OutboxWorld (Uuid × Correlation) (Option ActionOutbox)}
    (initial : start.shared.Initial) (idle : start.threads = [])
    (path : Crew.Reaches DeliveryCall.handle (deliveryOf settings library) (Surroundings settings)
      start crew)
    {thread : Thread DeliveryCall ActionsError OutboxWorld (Uuid × Correlation) (Option ActionOutbox)}
    (member : thread ∈ crew.threads) (returned : thread.rest.Finished)
    (received : Received thread.log) (undisturbed : Undisturbed thread.task.1 thread.log) :
    KeptSuccess thread.task.1 thread.log crew.shared.db := by
  have kept : crew.shared.db.Accounted ∧ ∀ thread ∈ crew.threads,
      thread.rest.Relies DeliveryCall.handle (deliveryConduct ActionsDb.KeepsFinal)
        (SuccessKept thread.task) thread.log crew.shared :=
    Crew.Reaches.relies (deliveryConduct ActionsDb.KeepsFinal)
      (fun world => ⟨.refl world.db, .refl world.db⟩)
      (fun left right => ⟨left.1.trans right.1, left.2.trans right.2⟩)
      (fun _ _ _ good _ => ⟨good.accounted, good.evolves, good.keepsFinal⟩)
      (fun before after around accounted => by
        have delivers := around.delivers accounted
        exact ⟨delivers.accounted, delivers.evolves, delivers.keepsFinal⟩)
      (fun _ _ _ _ _ evolved kept => kept.later evolved.2) deliveryOf_keepsSuccess idle
      initial.accounted path
  have relies := kept.2 thread member
  rcases ended : thread.rest with value | error | ⟨call, next⟩
  · rw [ended] at relies
    exact relies received undisturbed
  · rw [ended] at relies
    exact relies received undisturbed
  · rw [ended] at returned
    exact returned.elim

end

/-- The world in which the endpoint gives another answer. -/
def OutboxWorld.reroute (world : OutboxWorld) (response : HttpResponse) : OutboxWorld :=
  { world with network := fun _ => .answered response }

/-- The failing delivery, after its POST was answered with 503. -/
def failingDelivery :
    Thread DeliveryCall ActionsError OutboxWorld (Uuid × Correlation) (Option ActionOutbox) × OutboxWorld :=
  hookThread.after DeliveryCall.handle 3 hookEmitted

/-- A delivery that receives a success meanwhile. -/
def acceptedDelivery :
    Thread DeliveryCall ActionsError OutboxWorld (Uuid × Correlation) (Option ActionOutbox) × OutboxWorld :=
  hookThread.after DeliveryCall.handle 9 (failingDelivery.2.reroute (plainAnswer 204))

/-- The failing delivery comes too late to record its result. -/
def lateFailure :
    Thread DeliveryCall ActionsError OutboxWorld (Uuid × Correlation) (Option ActionOutbox) × OutboxWorld :=
  failingDelivery.1.after DeliveryCall.handle 6 acceptedDelivery.2

theorem received_success_kept_overlapping :
    KeptSuccess hookTask.1 acceptedDelivery.1.log lateFailure.2.db := by
  have path : Crew.Reaches DeliveryCall.handle (deliveryOf mailSettings plainLibrary)
      (Surroundings mailSettings) ⟨hookStart, []⟩
      ⟨lateFailure.2, [acceptedDelivery.1, lateFailure.1]⟩ :=
    have waits := Crew.Reaches.joins hookTask 3 hookEmitted []
    have accepts := Crew.Reaches.joins hookTask 9 (failingDelivery.2.reroute (plainAnswer 204))
      [failingDelivery.1]
    .head (.change _ (.emits hookRow rfl)) (waits.trans (.head (.change _ (.reroutes _))
      (accepts.trans (Crew.Reaches.after 6 failingDelivery.1 _ [acceptedDelivery.1] []))))
  have received : Received acceptedDelivery.1.log := by
    unfold Received
    decide +kernel
  have undisturbed : Undisturbed hookTask.1 acceptedDelivery.1.log := by
    unfold Undisturbed
    decide +kernel
  exact received_success_kept ⟨rfl, rfl⟩ rfl path List.mem_cons_self trivial received undisturbed

/-! The same in another order: the first to record its result fails. -/

/-- The succeeding delivery, after its POST was answered with 200. -/
def succeedingDelivery :
    Thread DeliveryCall ActionsError OutboxWorld (Uuid × Correlation) (Option ActionOutbox) × OutboxWorld :=
  hookThread.after DeliveryCall.handle 3 (failingDelivery.2.reroute (plainAnswer 200))

def failureRecorded :
    Thread DeliveryCall ActionsError OutboxWorld (Uuid × Correlation) (Option ActionOutbox) × OutboxWorld :=
  failingDelivery.1.after DeliveryCall.handle 9 succeedingDelivery.2

def successDropped :
    Thread DeliveryCall ActionsError OutboxWorld (Uuid × Correlation) (Option ActionOutbox) × OutboxWorld :=
  succeedingDelivery.1.after DeliveryCall.handle 9 failureRecorded.2

/-- The call that received the success has returned, and the row is to be retried. -/
theorem overlapping_success_dropped :
    Crew.Reaches DeliveryCall.handle (deliveryOf mailSettings plainLibrary)
      (Surroundings mailSettings) ⟨hookStart, []⟩
      ⟨successDropped.2, [successDropped.1, failureRecorded.1]⟩ ∧
    successDropped.1.rest.Finished ∧ Received successDropped.1.log ∧
    (successDropped.2.db.row hookRow.id).map (·.status) = some .failed := by
  refine ⟨?_, trivial, ?_, by decide +kernel⟩
  · refine .head (.change _ (.emits hookRow rfl)) (.head (.arrive hookTask) ?_)
    refine (Crew.Reaches.after 3 hookThread hookEmitted [] []).trans ?_
    refine .head (.change _ (.reroutes fun _ => .answered (plainAnswer 200)))
      (.head (.arrive hookTask) ?_)
    refine (Crew.Reaches.after 3 hookThread _ [] [failingDelivery.1]).trans ?_
    refine (Crew.Reaches.after 9 failingDelivery.1 _ [succeedingDelivery.1] []).trans ?_
    exact Crew.Reaches.after 9 succeedingDelivery.1 _ [] [failureRecorded.1]
  · unfold Received
    decide +kernel

end HostingService
