import HostingService.Actions.Retries
import HostingService.Program.Stages

/-! When at most one call delivers a row at a time. -/

namespace HostingService

open Program Text Storage OutboxTransaction

/-! ### The stages of a delivery -/

/-- How far a call of `deliver_outbox_row` has got; an attempt keeps the count that it saw. -/
inductive Stage where
  | waiting
  | attempting (count : Nat) (posted : Bool)
  | ended

/-- An attempt counts on its row: nobody else records an attempt or settles it. -/
def Stage.holds (id : Uuid) : Stage → OutboxWorld → Prop
  | .attempting count _, world =>
    ∃ row, world.db.row id = some row ∧ row.attemptCount = count ∧ row.status.isFinal = false
  | _, _ => True

inductive DeliveryMove (id : Uuid) : ∀ β, DeliveryCall β → Stage → OutboxWorld → Stage → Prop where
  | leaves {world} : DeliveryMove id _ (.atomic (takeSnapshot id)) .waiting world .ended
  | takes {world} (row : ActionOutbox) (stored : world.db.row id = some row)
      (unsettled : row.status.isFinal = false) :
      DeliveryMove id _ (.atomic (takeSnapshot id)) .waiting world
        (.attempting row.attemptCount false)
  | works {world count posted} {β : Type} {call : DeliveryCall β} (silent : Silent β call) :
      DeliveryMove id β call (.attempting count posted) world (.attempting count posted)
  | posts {world count} (request : Post) :
      DeliveryMove id _ (.post request) (.attempting count false) world (.attempting count true)
  | records {world count posted} {β : Type} {call : DeliveryCall β} (attempt : DeliveryAttempt)
      (columns : OutboxColumns) (own : attempt.outbox = id) (unposted : call.isPost = false)
      (counted : ∀ row : ActionOutbox, (row.assign columns).attemptCount = count + 1)
      (saved : (DeliveryCall.handle β call world).2.db = world.db.record attempt columns) :
      DeliveryMove id β call (.attempting count posted) world .ended

def deliveryStaging (id : Uuid) : Staging DeliveryCall OutboxWorld Stage where
  holds := Stage.holds id
  moves := DeliveryMove id

/-- The attempt goes on, whatever it found out. -/
def Attempting {α : Type} (count : Nat) (_ : Except ActionsError α) (stage : Stage) : Prop :=
  ∃ posted, stage = .attempting count posted

/-- The attempt goes on, and nothing was raised. -/
def Attempted {α : Type} (count : Nat) (result : Except ActionsError α) (stage : Stage) : Prop :=
  (∃ value, result = .ok value) ∧ ∃ posted, stage = .attempting count posted

def Over {α : Type} (_ : Except ActionsError α) (stage : Stage) : Prop := stage = .ended

section
variable {settings : ActionsSettings} {library : ActionsLibrary} {id : Uuid} {count : Nat}

theorem silent_follows {α : Type} {body : Delivery α} (silent : body.All Silent) (posted : Bool) :
    body.Follows DeliveryCall.handle (deliveryStaging id) (Attempting count)
      (.attempting count posted) :=
  silent.follows (fun _ _ _ quiet _ => .works quiet) fun _ => ⟨posted, rfl⟩

theorem postWebhookUrl_follows (request : Post) :
    (postWebhookUrl library request).Follows DeliveryCall.handle (deliveryStaging id)
      (Attempting count) (.attempting count false) := by
  have asked : (Prog.perform (.post request) : Delivery Exchange).Follows DeliveryCall.handle
      (deliveryStaging id) (fun _ stage => stage = .attempting count true)
      (.attempting count false) :=
    Prog.follows_perform.mpr fun world _ => ⟨_, .posts request, rfl⟩
  refine asked.bind (fun _ _ same => ⟨true, same⟩) fun exchange stage same => ?_
  subst same
  cases exchange with
  | answered response =>
    refine silent_follows ?_ true
    exact Prog.all_ofExcept_bind.mpr fun _ _ =>
      (parseRetryAfterHeader_silent response.retryAfter).bind fun _ => trivial
  | _ => exact ⟨true, rfl⟩

theorem deliverWebhookAction_follows (config : WebhookConfig) (envelope : Envelope) (attempt : Nat) :
    (deliverWebhookAction settings library config envelope attempt).Follows DeliveryCall.handle
      (deliveryStaging id) (Attempting count) (.attempting count false) := by
  refine Prog.follows_check ⟨false, rfl⟩ (Prog.follows_check ⟨false, rfl⟩
    (Prog.follows_check ⟨false, rfl⟩ ?_))
  rcases normalizeWebhookSigningSecret library (strip config.secret) with error | key
  · exact ⟨false, rfl⟩
  · refine (postWebhookUrl_follows _).bind (fun _ _ attempting => attempting) ?_
    rintro ended stage ⟨posted, rfl⟩
    cases ended with
    | result result =>
      refine silent_follows ?_ posted
      exact Prog.All.when fun _ => trivial
    | _ => exact ⟨posted, rfl⟩

theorem postEmailEvent_follows (body : Envelope) :
    (postEmailEvent settings library body).Follows DeliveryCall.handle (deliveryStaging id)
      (Attempting count) (.attempting count false) := by
  refine Prog.follows_check ⟨false, rfl⟩ (Prog.follows_check ⟨false, rfl⟩ ?_)
  refine (postWebhookUrl_follows _).bind (fun _ _ attempting => attempting) ?_
  rintro ended stage ⟨posted, rfl⟩
  cases ended with
  | result result =>
    simp only
    split <;> exact ⟨posted, rfl⟩
  | _ => exact ⟨posted, rfl⟩

theorem timed_follows {perform : Delivery (Bool × AttemptMeta)}
    (follows : perform.Follows DeliveryCall.handle (deliveryStaging id) (Attempted count)
      (.attempting count false)) :
    (timed perform).Follows DeliveryCall.handle (deliveryStaging id) (Attempted count)
      (.attempting count false) := by
  have silent : Silent Time .monotonic := ⟨fun _ => rfl, rfl⟩
  intro world _
  refine ⟨_, .works silent, ?_⟩
  refine follows.bind ?_ ?_
  · rintro error stage ⟨⟨value, other⟩, _⟩
    cases other
  · rintro ⟨success, found⟩ stage ⟨_, posted, rfl⟩
    intro later _
    exact ⟨_, .works silent, ⟨_, rfl⟩, posted, rfl⟩

/-- What an attempt raises is caught, and turned into a failure. -/
theorem caught_follows {body : Delivery (Bool × AttemptMeta)}
    {handler : ActionsError → Delivery (Bool × AttemptMeta)}
    (follows : body.Follows DeliveryCall.handle (deliveryStaging id) (Attempting count)
      (.attempting count false))
    (ends : ∀ error, ∃ outcome, handler error = .ret outcome) :
    (body.tryCatch handler).Follows DeliveryCall.handle (deliveryStaging id) (Attempted count)
      (.attempting count false) := by
  refine follows.tryCatch (fun value _ attempting => ⟨⟨value, rfl⟩, attempting⟩)
    fun error stage attempting => ?_
  obtain ⟨outcome, same⟩ := ends error
  rw [same]
  exact ⟨⟨outcome, rfl⟩, attempting⟩

theorem performDelivery_follows (row : ActionOutbox) (rule : Option ActionRule) :
    (performDelivery settings library row rule).Follows DeliveryCall.handle (deliveryStaging id)
      (Attempted count) (.attempting count false) := by
  unfold performDelivery
  split
  · refine timed_follows (caught_follows ?_ fun error => ?_)
    · exact (postEmailEvent_follows _).bind (fun _ _ attempting => attempting)
        fun _ _ attempting => attempting
    · cases error <;> exact ⟨_, rfl⟩
  · refine timed_follows (caught_follows ?_ fun error => ?_)
    · exact (deliverWebhookAction_follows _ _ _).bind (fun _ _ attempting => attempting)
        fun _ _ attempting => attempting
    · cases error <;> exact ⟨_, rfl⟩
  · exact timed_follows ⟨⟨_, rfl⟩, false, rfl⟩

theorem recordResult_follows {terminalError : Option PyStr} {success : Bool} {found : AttemptMeta}
    {correlation : Correlation} (posted : Bool) :
    (Delivery.atomic (recordResult settings id count terminalError success found correlation) >>=
      fun after => .ret (some after)).Follows DeliveryCall.handle (deliveryStaging id) Over
        (.attempting count posted) := by
  have recorded : (Delivery.atomic (recordResult settings id count terminalError success found
      correlation)).Follows DeliveryCall.handle (deliveryStaging id) Over
        (.attempting count posted) := by
    refine Prog.follows_perform.mpr fun world holds => ?_
    obtain ⟨row, stored, rfl, unsettled⟩ := holds
    have opened : OpenAt id row.attemptCount world.db := ⟨row, stored, le_rfl, fun _ => unsettled⟩
    have recorded : Recorded id row.attemptCount (success && terminalError.isNone) world.db
        (DeliveryCall.handle _ (.atomic (recordResult settings id row.attemptCount terminalError
          success found correlation)) world).2.db := recordResult_recorded opened
    cases recorded with
    | dropped other present overtaken same =>
      rw [stored] at present
      obtain rfl := Option.some.inj present
      exact absurd rfl overtaken
    | saved other attempt columns present current unsettled own next counted delivered same =>
      exact ⟨.ended, .records attempt columns own rfl counted same, rfl⟩
  exact recorded.bind (fun _ _ beyond => beyond) fun _ _ beyond => beyond

/-- The stage after the snapshot. -/
def Snapshot.stage : Except ActionsError Snapshot → Stage
  | .ok (.taken row _ _) => .attempting row.attemptCount false
  | _ => .ended

/-- A delivery takes a snapshot, attempts with one POST at most, and records the result. -/
theorem deliverOutboxRow_follows (correlation : Correlation) :
    (deliverOutboxRow settings library id correlation).Follows DeliveryCall.handle
      (deliveryStaging id) Over .waiting := by
  have snapshot : (Delivery.atomic (takeSnapshot id)).Follows DeliveryCall.handle
      (deliveryStaging id) (fun result stage => stage = Snapshot.stage result) .waiting := by
    refine Prog.follows_perform.mpr fun world _ => ?_
    rcases seen : (DeliveryCall.handle _ (.atomic (takeSnapshot id)) world).1 with error | found
    · exact ⟨.ended, .leaves, rfl⟩
    · cases found with
      | taken row rule terminalError =>
        obtain ⟨stored, unsettled⟩ := takeSnapshot_taken seen
        exact ⟨_, .takes row stored unsettled, rfl⟩
      | _ => exact ⟨.ended, .leaves, rfl⟩
  refine snapshot.bind (fun _ _ beyond => beyond) fun found stage reached => ?_
  cases found with
  | missing => exact reached
  | final row => exact reached
  | taken row rule terminalError =>
    subst reached
    cases terminalError with
    | some error => exact recordResult_follows false
    | none =>
      refine (performDelivery_follows row rule).bind ?_ ?_
      · rintro error stage ⟨⟨value, other⟩, _⟩
        cases other
      · rintro ⟨success, found⟩ stage ⟨_, posted, rfl⟩
        exact recordResult_follows posted

end

/-! ### One call among the others -/

namespace ActionsDb

/-- Only the row changes, and its count does not fall. -/
structure Touches (id : Uuid) (before after : ActionsDb) : Prop where
  others : ∀ other, other ≠ id → after.row other = before.row other
  grows : ∀ row, before.row id = some row →
    ∃ later, after.row id = some later ∧ row.attemptCount ≤ later.attemptCount

theorem Touches.refl (id : Uuid) (db : ActionsDb) : db.Touches id db :=
  ⟨fun _ _ => rfl, fun row stored => ⟨row, stored, le_rfl⟩⟩

theorem row_assign_other (db : ActionsDb) {id other : Uuid} (different : other ≠ id)
    (columns : OutboxColumns) : (db.assign id columns).row other = db.row other := by
  rw [row_assign]
  rcases stored : db.row other with _ | row
  · rfl
  · have apart : row.id ≠ id := by rwa [(row_mem stored).2]
    rw [Option.map_some, if_neg apart]

theorem row_assign_self {db : ActionsDb} {id : Uuid} {row : ActionOutbox}
    (stored : db.row id = some row) (columns : OutboxColumns) :
    (db.assign id columns).row id = some (row.assign columns) := by
  rw [row_assign, stored, Option.map_some, if_pos (row_mem stored).2]

theorem Touches.assign (db : ActionsDb) (id : Uuid) {columns : OutboxColumns}
    (grown : ∀ row, db.row id = some row → row.attemptCount ≤ (row.assign columns).attemptCount) :
    db.Touches id (db.assign id columns) where
  others _ different := row_assign_other db different columns
  grows row stored := ⟨_, row_assign_self stored columns, grown row stored⟩

theorem Touches.insert (db : ActionsDb) {row : ActionOutbox} :
    db.Touches row.id { db with outbox := db.outbox ++ [row] } where
  others _ different := row_append db different
  grows old stored := ⟨old, row_insert stored row, le_rfl⟩

theorem ids_assign (db : ActionsDb) (id : Uuid) (columns : OutboxColumns) :
    (db.assign id columns).outbox.map (·.id) = db.outbox.map (·.id) := by
  refine map_key_of_kept fun row => ?_
  split <;> simp

theorem ids_record (db : ActionsDb) (attempt : DeliveryAttempt) (columns : OutboxColumns) :
    (db.record attempt columns).outbox.map (·.id) = db.outbox.map (·.id) :=
  ids_assign { db with attempts := db.attempts ++ [attempt] } attempt.outbox columns

theorem Touches.record (db : ActionsDb) (attempt : DeliveryAttempt) {columns : OutboxColumns}
    (grown : ∀ row, db.row attempt.outbox = some row →
      row.attemptCount ≤ (row.assign columns).attemptCount) :
    db.Touches attempt.outbox (db.record attempt columns) := by
  obtain ⟨others, grows⟩ :=
    Touches.assign { db with attempts := db.attempts ++ [attempt] } attempt.outbox grown
  exact ⟨others, grows⟩

end ActionsDb

/-- What the log and the row of a call show of its stage. -/
def Stage.Fits (job : DeliveryJob) (row : ActionOutbox) : Stage → Prop
  | .waiting => job.thread.log = []
  | .attempting count posted => job.thread.log ≠ [] ∧ job.attemptNumber = count + 1 ∧
      row.attemptCount = count ∧ row.status.isFinal = false ∧
      job.posted = if posted then [(job.outboxId, count + 1)] else []
  | .ended => job.posted.length ≤ 1 ∧ ∀ attempt ∈ job.posted, attempt.2 ≤ row.attemptCount

/-- The call has a row, and is in a stage that its log and the row show. -/
def DeliveryJob.Kept (job : DeliveryJob) (db : ActionsDb) : Prop :=
  ∃ row stage, db.row job.outboxId = some row ∧
    job.thread.rest.Follows DeliveryCall.handle (deliveryStaging job.outboxId) Over stage ∧
    stage.Fits job row

namespace DeliveryJob

variable {job : DeliveryJob} {world : OutboxWorld} {db after : ActionsDb}

theorem stage_of_finished {stage : Stage} (finished : job.Finished)
    (follows : job.thread.rest.Follows DeliveryCall.handle (deliveryStaging job.outboxId) Over stage) :
    stage = .ended := by
  rw [Finished] at finished
  rcases left : job.thread.rest with value | error | ⟨call, next⟩
  · rwa [left] at follows
  · rwa [left] at follows
  · rw [left] at finished
    exact finished.elim

/-- A program that is over has no call to make. -/
theorem finished_of_over
    (follows : job.thread.rest.Follows DeliveryCall.handle (deliveryStaging job.outboxId) Over .ended) :
    job.Finished := by
  rw [Finished]
  rcases left : job.thread.rest with value | error | ⟨call, next⟩
  · trivial
  · trivial
  · rw [left] at follows
    obtain ⟨later, moved, _⟩ := follows ⟨⟨[], [], []⟩, 0, 0, fun _ => .osError []⟩ trivial
    cases moved

theorem Kept.of_same (kept : job.Kept db) (same : after.row job.outboxId = db.row job.outboxId) :
    job.Kept after := by
  obtain ⟨row, stage, stored, follows, fits⟩ := kept
  exact ⟨row, stage, same.trans stored, follows, fits⟩

/-- A call that is over minds nothing but the count of its row. -/
theorem Kept.of_finished (kept : job.Kept db) (finished : job.Finished) {id : Uuid}
    (touches : db.Touches id after) : job.Kept after := by
  by_cases own : job.outboxId = id
  · obtain ⟨row, stage, stored, follows, fits⟩ := kept
    obtain rfl := stage_of_finished finished follows
    obtain ⟨single, counted⟩ := fits
    obtain ⟨later, found, grown⟩ := touches.grows row (own ▸ stored)
    exact ⟨later, .ended, own ▸ found, follows, single,
      fun attempt member => (counted attempt member).trans grown⟩
  · exact kept.of_same (touches.others _ own)

theorem posted_id {attempt : Uuid × Nat} (member : attempt ∈ job.posted) :
    attempt.1 = job.outboxId := by
  obtain ⟨_, _, rfl⟩ := List.mem_map.mp member
  rfl

theorem posted_of_unread (unread : job.thread.log = []) : job.posted = [] := by
  simp [posted, unread]

theorem Kept.posted_le (kept : job.Kept db) (finished : job.Finished) {row : ActionOutbox}
    (stored : db.row job.outboxId = some row) {attempt : Uuid × Nat}
    (member : attempt ∈ job.posted) : attempt.2 ≤ row.attemptCount := by
  obtain ⟨other, stage, present, follows, fits⟩ := kept
  obtain rfl := stage_of_finished finished follows
  rw [stored] at present
  obtain rfl := Option.some.inj present
  exact fits.2 attempt member

theorem Kept.posted_nodup (kept : job.Kept db) : job.posted.Nodup := by
  obtain ⟨row, stage, stored, follows, fits⟩ := kept
  cases stage with
  | waiting =>
    rw [posted_of_unread fits]
    exact List.nodup_nil
  | attempting count posted =>
    rw [fits.2.2.2.2]
    cases posted <;> simp
  | ended =>
    obtain ⟨single, _⟩ := fits
    rcases recorded : job.posted with _ | ⟨attempt, _ | ⟨other, rest⟩⟩
    · exact List.nodup_nil
    · exact List.nodup_singleton attempt
    · simp [recorded] at single

/-! ### The next call -/

section
variable {β : Type} {call : DeliveryCall β}
  {next : Except ActionsError β → Delivery (Option ActionOutbox)}

theorem advance_thread (waiting : job.thread.rest = .call call next) (world : OutboxWorld) :
    (job.advance world).thread = ⟨job.thread.task, next (DeliveryCall.handle β call world).1,
      job.thread.log ++ [⟨call, world⟩]⟩ := by
  obtain ⟨_, _, _, _, task, rest, log⟩ := job
  cases waiting
  rfl

theorem advance_outboxId (waiting : job.thread.rest = .call call next) (world : OutboxWorld) :
    (job.advance world).outboxId = job.outboxId := by
  rw [outboxId, advance_thread waiting]
  rfl

/-- Later calls do not change the number of the attempt. -/
theorem advance_attemptNumber (waiting : job.thread.rest = .call call next)
    (begun : job.thread.log ≠ []) (world : OutboxWorld) :
    (job.advance world).attemptNumber = job.attemptNumber := by
  rw [attemptNumber, advance_outboxId waiting, advance_thread waiting]
  obtain ⟨first, rest, same⟩ := List.exists_cons_of_ne_nil begun
  simp [attemptNumber, same]

theorem advance_posted (waiting : job.thread.rest = .call call next)
    (begun : job.thread.log ≠ []) (world : OutboxWorld) :
    (job.advance world).posted =
      job.posted ++ if call.isPost then [(job.outboxId, job.attemptNumber)] else [] := by
  rw [posted, advance_outboxId waiting, advance_attemptNumber waiting begun,
    advance_thread waiting, List.filter_append, List.map_append]
  cases posts : call.isPost <;> simp [posted, posts]

theorem advance_unposted (waiting : job.thread.rest = .call call next)
    (unread : job.thread.log = []) (silent : call.isPost = false) (world : OutboxWorld) :
    (job.advance world).posted = [] := by
  rw [posted, advance_thread waiting, unread]
  simp [silent]

/-- What the next call of a kept call leads to. -/
structure Advanced (job later : DeliveryJob) (before after : ActionsDb) : Prop where
  ids : after.outbox.map (·.id) = before.outbox.map (·.id)
  kept : later.Kept after
  effect : after = before ∨ later.Finished ∧ before.Touches job.outboxId after
  numbers : ∀ row, before.row job.outboxId = some row → ∀ attempt ∈ later.posted,
    attempt ∈ job.posted ∨ row.attemptCount < attempt.2

theorem Kept.advance (kept : job.Kept world.db) (waiting : job.thread.rest = .call call next) :
    Advanced job (job.advance world) world.db (DeliveryCall.handle β call world).2.db := by
  obtain ⟨row, stage, stored, follows, fits⟩ := kept
  have holds : stage.holds job.outboxId world := by
    cases stage with
    | attempting count posted => exact ⟨row, stored, fits.2.2.1, fits.2.2.2.1⟩
    | _ => trivial
  rw [waiting] at follows
  obtain ⟨later, moved, further⟩ := follows world holds
  have left : (job.advance world).thread.rest = next (DeliveryCall.handle β call world).1 := by
    rw [advance_thread waiting]
  have begun : (job.advance world).thread.log ≠ [] := by
    rw [advance_thread waiting]
    simp
  have own := advance_outboxId waiting world
  rw [← left, ← own] at further
  have quiet : Quiet _ (.atomic (takeSnapshot job.outboxId)) :=
    quiet_atomic (takeSnapshot_reads job.outboxId)
  cases moved with
  | leaves =>
    have unposted := advance_unposted waiting fits rfl world
    rw [quiet world]
    refine ⟨rfl, ⟨row, .ended, own ▸ stored, further, ?_⟩, .inl rfl, ?_⟩
    · simp [Stage.Fits, unposted]
    · simp [unposted]
  | takes found present unsettled =>
    have unposted := advance_unposted waiting fits rfl world
    have number : (job.advance world).attemptNumber = found.attemptCount + 1 := by
      rw [attemptNumber, own, advance_thread waiting, show job.thread.log = [] from fits]
      simp [present]
    rw [quiet world]
    refine ⟨rfl, ⟨found, _, own ▸ present, further, begun, number, rfl, unsettled, ?_⟩, .inl rfl, ?_⟩
    · simp [unposted]
    · simp [unposted]
  | @works _ count posted _ _ silent =>
    obtain ⟨started, number, counted, unsettled, listed⟩ := fits
    have same := advance_posted waiting started world
    rw [silent.2, if_neg Bool.false_ne_true, List.append_nil] at same
    rw [silent.1 world]
    refine ⟨rfl, ⟨row, _, own ▸ stored, further, begun, ?_, counted, unsettled, ?_⟩, .inl rfl, ?_⟩
    · rw [advance_attemptNumber waiting started, number]
    · rw [same, listed, own]
    · intro _ _ attempt member
      exact .inl (same ▸ member)
  | posts request =>
    obtain ⟨started, number, counted, unsettled, listed⟩ := fits
    have same := advance_posted waiting started world
    rw [listed, number] at same
    refine ⟨rfl, ⟨row, _, own ▸ stored, further, begun, ?_, counted, unsettled, ?_⟩, .inl rfl, ?_⟩
    · rw [advance_attemptNumber waiting started, number]
    · rw [same, own]
      rfl
    · intro other present attempt member
      rw [stored] at present
      obtain rfl := Option.some.inj present
      rw [same] at member
      obtain rfl := List.mem_singleton.mp member
      right
      rw [← counted]
      exact Nat.lt_succ_self _
  | @records _ count posted _ _ attempt columns owned unposted counted saved =>
    obtain ⟨started, number, current, unsettled, listed⟩ := fits
    have same := advance_posted waiting started world
    rw [unposted, if_neg Bool.false_ne_true, List.append_nil] at same
    have touches : world.db.Touches job.outboxId (world.db.record attempt columns) := by
      rw [← owned]
      refine .record world.db attempt fun found present => ?_
      rw [owned, stored] at present
      obtain rfl := Option.some.inj present
      rw [counted]
      omega
    have present : (world.db.record attempt columns).row job.outboxId = some (row.assign columns) := by
      rw [ActionsDb.row_record, stored, Option.map_some, if_pos]
      rw [owned, (ActionsDb.row_mem stored).2]
    have finished : (job.advance world).Finished := finished_of_over further
    rw [saved]
    refine ⟨ActionsDb.ids_record .., ⟨_, .ended, own ▸ present, further, ?_, ?_⟩, .inr ⟨finished, touches⟩, ?_⟩
    · rw [same, listed]
      cases posted <;> simp
    · intro other member
      rw [same, listed] at member
      rw [counted]
      cases posted with
      | false => simp at member
      | true =>
        obtain rfl := List.mem_singleton.mp member
        exact le_rfl
    · intro _ _ other member
      exact .inl (same ▸ member)

end

end DeliveryJob

/-! ### All calls and runs -/

/-- The row has the lease that its claim wrote, and the lease has not ended. -/
def LeasedUntil (world : OutboxWorld) (id : Uuid) (leaseUntil : Time) : Prop :=
  world.clock < leaseUntil ∧ ∃ row, world.db.row id = some row ∧ row.lockedUntil = some leaseUntil

/-- Two calls for one row: one of them is over, and they POSTed different attempts. -/
def Apart (left right : DeliveryJob) : Prop :=
  left.outboxId = right.outboxId → (left.Finished ∨ right.Finished) ∧ left.posted.Disjoint right.posted

theorem Apart.symm {left right : DeliveryJob} (apart : Apart left right) : Apart right left :=
  fun same => ⟨(apart same.symm).1.symm, (apart same.symm).2.symm⟩

/-- No two runs hold one row. -/
def HoldApart (left right : RetryRun) : Prop :=
  ∀ id, left.phase = .releasing id → right.phase ≠ .releasing id

theorem HoldApart.symm {left right : RetryRun} (apart : HoldApart left right) :
    HoldApart right left :=
  fun id holding other => apart id other holding

/-- A row is held by an open call or by a dry run, under a lease once it was claimed. -/
structure Retrying.Exclusive (settings : ActionsSettings) (state : Retrying) : Prop where
  ids : (state.world.db.outbox.map (·.id)).Nodup
  kept : ∀ job ∈ state.jobs, job.Kept state.world.db
  leased : ∀ job ∈ state.jobs, ∀ run leaseUntil, job.origin = .retry run leaseUntil →
    ¬ job.Finished → LeasedUntil state.world job.outboxId leaseUntil
  apart : state.jobs.Pairwise Apart
  started : ∀ run ∈ state.runs, run.now ≤ state.world.clock
  held : ∀ run ∈ state.runs, ∀ id, run.phase = .releasing id →
    LeasedUntil state.world id (run.leaseUntil settings) ∧
      ∀ job ∈ state.jobs, job.outboxId = id → job.Finished
  heldApart : state.runs.Pairwise HoldApart

namespace Retrying.Exclusive

variable {settings : ActionsSettings} {world after : OutboxWorld} {runs : List RetryRun}
  {jobs first last : List DeliveryJob} {job : DeliveryJob} {id : Uuid}

/-- A change of one row that no open call and no run holds. -/
theorem touched (exclusive : (⟨world, runs, jobs⟩ : Retrying).Exclusive settings)
    (touches : world.db.Touches id after.db) (ids : (after.db.outbox.map (·.id)).Nodup)
    (clock : after.clock = world.clock)
    (idle : ∀ job ∈ jobs, job.outboxId = id → job.Finished)
    (unheld : ∀ run ∈ runs, run.phase ≠ .releasing id) :
    (⟨after, runs, jobs⟩ : Retrying).Exclusive settings := by
  have lasts {other : Uuid} {leaseUntil : Time} (different : other ≠ id)
      (leased : LeasedUntil world other leaseUntil) : LeasedUntil after other leaseUntil := by
    obtain ⟨early, row, stored, locked⟩ := leased
    exact ⟨clock ▸ early, row, (touches.others other different).trans stored, locked⟩
  refine ⟨ids, fun job member => ?_, fun job member run leaseUntil claimed unfinished => ?_,
    exclusive.apart, fun run member => ?_, fun run member other holding => ?_, exclusive.heldApart⟩
  · have kept := exclusive.kept job member
    by_cases own : job.outboxId = id
    · exact kept.of_finished (idle job member own) touches
    · exact kept.of_same (touches.others _ own)
  · refine lasts (fun own => unfinished (idle job member own)) ?_
    exact exclusive.leased job member run leaseUntil claimed unfinished
  · show run.now ≤ after.clock
    rw [clock]
    exact exclusive.started run member
  · obtain ⟨leased, beyond⟩ := exclusive.held run member other holding
    exact ⟨lasts (fun own => unheld run member (own ▸ holding)) leased, beyond⟩

/-- Another lease on a row that no open call and no run holds. -/
theorem relocked (exclusive : (⟨world, runs, jobs⟩ : Retrying).Exclusive settings)
    (value : Option Time) (idle : ∀ job ∈ jobs, job.outboxId = id → job.Finished)
    (unheld : ∀ run ∈ runs, run.phase ≠ .releasing id) :
    (⟨{ world with db := world.db.assign id (.lockedUntil value) }, runs, jobs⟩ :
      Retrying).Exclusive settings := by
  refine exclusive.touched (.assign world.db id fun _ _ => le_rfl) ?_ rfl idle unheld
  rw [ActionsDb.ids_assign]
  exact exclusive.ids

theorem drop (exclusive : (⟨world, runs, first ++ job :: last⟩ : Retrying).Exclusive settings) :
    (⟨world, runs, first ++ last⟩ : Retrying).Exclusive settings where
  ids := exclusive.ids
  kept other member := exclusive.kept other (mem_middle.mpr (.inr member))
  leased other member := exclusive.leased other (mem_middle.mpr (.inr member))
  apart := ((List.pairwise_middle Apart.symm).mp exclusive.apart).tail
  started := exclusive.started
  held run member id holding := by
    obtain ⟨leased, beyond⟩ := exclusive.held run member id holding
    exact ⟨leased, fun other member => beyond other (mem_middle.mpr (.inr member))⟩
  heldApart := exclusive.heldApart

theorem insert (exclusive : (⟨world, runs, first ++ last⟩ : Retrying).Exclusive settings)
    (kept : job.Kept world.db)
    (leased : ∀ run leaseUntil, job.origin = .retry run leaseUntil → ¬ job.Finished →
      LeasedUntil world job.outboxId leaseUntil)
    (apart : ∀ other ∈ first ++ last, Apart job other)
    (unheld : ∀ run ∈ runs, run.phase = .releasing job.outboxId → job.Finished) :
    (⟨world, runs, first ++ job :: last⟩ : Retrying).Exclusive settings where
  ids := exclusive.ids
  kept other member := by
    rcases mem_middle.mp member with rfl | old
    · exact kept
    · exact exclusive.kept other old
  leased other member := by
    rcases mem_middle.mp member with rfl | old
    · exact leased
    · exact exclusive.leased other old
  apart := (List.pairwise_middle Apart.symm).mpr (List.pairwise_cons.mpr ⟨apart, exclusive.apart⟩)
  started := exclusive.started
  held run member id holding := by
    obtain ⟨leased, beyond⟩ := exclusive.held run member id holding
    refine ⟨leased, fun other member own => ?_⟩
    rcases mem_middle.mp member with rfl | old
    · exact unheld run ‹_› (own ▸ holding)
    · exact beyond other old own
  heldApart := exclusive.heldApart

variable {before rest : List RetryRun} {run : RetryRun}

/-- A run moves on, and may take hold of a row that is free. -/
theorem replaceRun (exclusive : (⟨world, before ++ run :: rest, jobs⟩ : Retrying).Exclusive settings)
    {next : RetryRun} (started : next.now ≤ world.clock)
    (held : ∀ id, next.phase = .releasing id → LeasedUntil world id (next.leaseUntil settings) ∧
      (∀ job ∈ jobs, job.outboxId = id → job.Finished) ∧
      ∀ other ∈ before ++ rest, other.phase ≠ .releasing id) :
    (⟨world, before ++ next :: rest, jobs⟩ : Retrying).Exclusive settings where
  ids := exclusive.ids
  kept := exclusive.kept
  leased := exclusive.leased
  apart := exclusive.apart
  started other member := by
    rcases mem_middle.mp member with rfl | old
    · exact started
    · exact exclusive.started other (mem_middle.mpr (.inr old))
  held other member id holding := by
    rcases mem_middle.mp member with rfl | old
    · exact ⟨(held id holding).1, (held id holding).2.1⟩
    · exact exclusive.held other (mem_middle.mpr (.inr old)) id holding
  heldApart := by
    obtain ⟨_, others⟩ :=
      List.pairwise_cons.mp ((List.pairwise_middle HoldApart.symm).mp exclusive.heldApart)
    refine (List.pairwise_middle HoldApart.symm).mpr (List.pairwise_cons.mpr ⟨?_, others⟩)
    exact fun other member id holding => (held id holding).2.2 other member

/-- A row that is due at the start of a run is held by no open claim. -/
theorem free_of_due (exclusive : (⟨world, runs, jobs⟩ : Retrying).Exclusive settings)
    (member : run ∈ runs) {row : ActionOutbox} (stored : world.db.row id = some row)
    (due : row.isDue run.now = true) {leaseUntil : Time} : ¬ LeasedUntil world id leaseUntil := by
  rintro ⟨early, other, present, locked⟩
  rw [stored] at present
  obtain rfl := Option.some.inj present
  simp only [ActionOutbox.isDue, locked, Option.all_some, Bool.and_eq_true, decide_eq_true_eq] at due
  have begun : run.now ≤ world.clock := exclusive.started run member
  exact absurd early (not_lt.mpr (due.2.trans begun))

/-! ### Events -/

section
variable {library : ActionsLibrary}

/-- A call that has just been submitted. -/
theorem submit_kept {db : ActionsDb} {future : Nat} {origin : Origin} {since : Time}
    {correlation : Correlation} {row : ActionOutbox} (stored : db.row id = some row) :
    (DeliveryJob.submit settings library future origin since id correlation).Kept db :=
  ⟨row, .waiting, stored, deliverOutboxRow_follows correlation, rfl⟩

theorem submit_apart {future : Nat} {origin : Origin} {since : Time} {correlation : Correlation}
    (idle : ∀ other ∈ jobs, other.outboxId = id → other.Finished) :
    ∀ other ∈ jobs,
      Apart (.submit settings library future origin since id correlation) other := by
  intro other member own
  exact ⟨.inr (idle other member own.symm), by simp [DeliveryJob.posted, DeliveryJob.submit]⟩

/-- A new call for a row that no other call or run holds. -/
theorem submit (exclusive : (⟨world, runs, jobs⟩ : Retrying).Exclusive settings)
    {future : Nat} {origin : Origin} {since : Time} {correlation : Correlation} {row : ActionOutbox}
    (stored : world.db.row id = some row)
    (leased : ∀ run leaseUntil, origin = .retry run leaseUntil → LeasedUntil world id leaseUntil)
    (idle : ∀ other ∈ jobs, other.outboxId = id → other.Finished)
    (unheld : ∀ run ∈ runs, run.phase ≠ .releasing id) :
    (⟨world, runs, jobs ++ [.submit settings library future origin since id correlation]⟩ :
      Retrying).Exclusive settings := by
  have before : (⟨world, runs, jobs ++ []⟩ : Retrying).Exclusive settings := by
    rwa [List.append_nil]
  refine before.insert (submit_kept stored) (fun run leaseUntil same _ => leased run leaseUntil same)
    ?_ fun run member holding => absurd holding (unheld run member)
  rw [List.append_nil]
  exact submit_apart idle

theorem emits (exclusive : (⟨world, runs, jobs⟩ : Retrying).Exclusive settings)
    {row : ActionOutbox} {db : ActionsDb}
    (created : (ActionsChange.createOutbox row).apply world.db = .ok db) :
    (⟨{ world with db }, runs, jobs ++ [.dispatched settings library world jobs.length row]⟩ :
      Retrying).Exclusive settings := by
  obtain ⟨fresh, rfl⟩ := createOutbox_ends created
  have absent : world.db.row row.id = none := by
    refine List.find?_eq_none.mpr fun other member => ?_
    simpa using fresh other member
  have idle : ∀ job ∈ jobs, job.outboxId = row.id → job.Finished := by
    intro job member own
    obtain ⟨other, _, stored, _⟩ := exclusive.kept job member
    rw [own, absent] at stored
    cases stored
  have unheld : ∀ run ∈ runs, run.phase ≠ .releasing row.id := by
    intro run member holding
    obtain ⟨⟨_, other, stored, _⟩, _⟩ := exclusive.held run member row.id holding
    rw [absent] at stored
    cases stored
  have touched : (⟨{ world with db := { world.db with outbox := world.db.outbox ++ [row] } }, runs,
      jobs⟩ : Retrying).Exclusive settings :=
    exclusive.touched (.insert world.db) (nodup_concat exclusive.ids fresh) rfl idle unheld
  have stored : ({ world.db with outbox := world.db.outbox ++ [row] } : ActionsDb).row row.id =
      some row := by
    show (world.db.outbox ++ [row]).find? _ = _
    rw [List.find?_append, show world.db.outbox.find? _ = none from absent]
    simp
  exact touched.submit stored (fun _ _ other => by cases other) idle unheld

/-- A claim of a row that is due at the start of the run and whose dispatch is over. -/
theorem claims {before rest : List RetryRun} {run : RetryRun} {row : ActionOutbox} {view : ClaimView}
    (exclusive : (⟨world, before ++ run :: rest, jobs⟩ : Retrying).Exclusive settings)
    (found : run.claim settings view world = (.ok (some row), after))
    (early : world.clock < run.leaseUntil settings)
    (dispatched : ∀ job ∈ jobs, job.outboxId = row.id → job.origin = .dispatch → job.Finished) :
    (⟨after, before ++ run.claimed row :: rest,
      jobs ++ run.submits settings library world jobs.length row⟩ : Retrying).Exclusive settings := by
  have member : run ∈ before ++ run :: rest := mem_middle.mpr (.inl rfl)
  rcases claim_ends settings run.now view world with same | ⟨old, present, due, same⟩
  · rw [RetryRun.claim, same] at found
    cases found
  · rw [RetryRun.claim, same] at found
    cases found
    have stored : world.db.row old.id = some old := find?_of_unique exclusive.ids present
    have idle : ∀ job ∈ jobs, job.outboxId = old.id → job.Finished := by
      intro job listed own
      by_contra unfinished
      cases origin : job.origin with
      | dispatch => exact unfinished (dispatched job listed own origin)
      | retry owner leaseUntil =>
        have leased := exclusive.leased job listed owner leaseUntil origin unfinished
        exact exclusive.free_of_due member (own ▸ stored) due leased
    have unheld : ∀ other ∈ before ++ run :: rest, other.phase ≠ .releasing old.id := by
      intro other listed holding
      exact exclusive.free_of_due member stored due (exclusive.held other listed old.id holding).1
    have locked := exclusive.relocked (some (run.leaseUntil settings)) idle unheld
    have leased : LeasedUntil
        { world with db := (world.db.assign old.id (.lockedUntil (some (run.leaseUntil settings)))) }
        old.id (run.leaseUntil settings) :=
      ⟨early, _, ActionsDb.row_assign_self stored _, rfl⟩
    have started : run.now ≤ world.clock := exclusive.started run member
    by_cases dry : run.options.dryRun = true
    · rw [RetryRun.claimed, if_pos dry, RetryRun.submits, if_pos dry, List.append_nil]
      refine locked.replaceRun started fun id holding => ?_
      obtain rfl := RetryPhase.releasing.inj holding
      exact ⟨leased, idle, fun other listed => unheld other (mem_middle.mpr (.inr listed))⟩
    · rw [RetryRun.claimed, if_neg dry, RetryRun.submits, if_neg dry]
      refine locked.submit (ActionsDb.row_assign_self stored _) (fun owner leaseUntil same => ?_)
        idle unheld
      obtain ⟨rfl, rfl⟩ := Origin.retry.inj same
      exact leased

/-- A dry run gives its row back. -/
theorem releases {before rest : List RetryRun} {run : RetryRun}
    (exclusive : (⟨world, before ++ run :: rest, jobs⟩ : Retrying).Exclusive settings)
    (holding : run.phase = .releasing id) :
    (⟨{ world with db := world.db.assign id (.lockedUntil none) },
      before ++ { run with phase := .looping } :: rest, jobs⟩ : Retrying).Exclusive settings := by
  have member : run ∈ before ++ run :: rest := mem_middle.mpr (.inl rfl)
  have idle := (exclusive.held run member id holding).2
  obtain ⟨others, _⟩ :=
    List.pairwise_cons.mp ((List.pairwise_middle HoldApart.symm).mp exclusive.heldApart)
  have resumed : (⟨world, before ++ { run with phase := .looping } :: rest, jobs⟩ :
      Retrying).Exclusive settings :=
    exclusive.replaceRun (exclusive.started run member) fun _ other => by cases other
  refine resumed.relocked none idle fun other listed holds => ?_
  rcases mem_middle.mp listed with rfl | listed
  · cases holds
  · exact others other listed id holding holds

/-- The next call of a delivery. -/
theorem advances {β : Type} {call : DeliveryCall β}
    {next : Except ActionsError β → Delivery (Option ActionOutbox)}
    (exclusive : (⟨world, runs, first ++ job :: last⟩ : Retrying).Exclusive settings)
    (waiting : job.thread.rest = .call call next) :
    (⟨(DeliveryCall.handle β call world).2, runs, first ++ job.advance world :: last⟩ :
      Retrying).Exclusive settings := by
  have member : job ∈ first ++ job :: last := mem_middle.mpr (.inl rfl)
  have unfinished : ¬ job.Finished := by
    rw [DeliveryJob.Finished, waiting]
    exact id
  have own := DeliveryJob.advance_outboxId waiting world
  have clock := DeliveryCall.handle_clock call world
  obtain ⟨ids, kept, effect, numbers⟩ := (exclusive.kept job member).advance waiting
  obtain ⟨row, _, stored, _⟩ := exclusive.kept job member
  obtain ⟨apart, _⟩ := List.pairwise_cons.mp ((List.pairwise_middle Apart.symm).mp exclusive.apart)
  have idle : ∀ other ∈ first ++ last, other.outboxId = job.outboxId → other.Finished := by
    intro other listed same
    exact (apart other listed same.symm).1.resolve_left unfinished
  have unheld : ∀ run ∈ runs, run.phase ≠ .releasing job.outboxId := by
    intro run listed holding
    exact unfinished ((exclusive.held run listed _ holding).2 job member rfl)
  have touches : world.db.Touches job.outboxId (DeliveryCall.handle β call world).2.db := by
    rcases effect with same | ⟨_, touches⟩
    · rw [same]
      exact .refl _ _
    · exact touches
  have rest : (⟨(DeliveryCall.handle β call world).2, runs, first ++ last⟩ :
      Retrying).Exclusive settings :=
    exclusive.drop.touched touches (ids ▸ exclusive.ids) clock idle unheld
  refine rest.insert kept ?_ ?_ fun run listed holding => ?_
  · intro run leaseUntil claimed still
    have same : (DeliveryCall.handle β call world).2.db = world.db :=
      effect.resolve_right fun ended => still ended.1
    rw [own, LeasedUntil, clock, same]
    exact exclusive.leased job member run leaseUntil claimed unfinished
  · intro other listed same
    have beyond := idle other listed (same.symm.trans own)
    refine ⟨.inr beyond, fun attempt posted there => ?_⟩
    rcases numbers row stored attempt posted with old | fresh
    · exact (apart other listed (own.symm.trans same)).2 old there
    · have below := (exclusive.drop.kept other listed).posted_le beyond
        ((same.symm.trans own) ▸ stored) there
      omega
  · rw [own] at holding
    exact absurd holding (unheld run listed)

/-- Time passes, or something beside the outbox changes. -/
theorem passes (exclusive : (⟨world, runs, jobs⟩ : Retrying).Exclusive settings)
    (rows : after.db.outbox = world.db.outbox) (clock : world.clock ≤ after.clock)
    (delivered : ∀ job ∈ jobs, ¬ job.Finished → ∀ run leaseUntil, job.origin = .retry run leaseUntil →
      after.clock < leaseUntil)
    (released : ∀ run ∈ runs, ∀ id, run.phase = .releasing id →
      after.clock < run.leaseUntil settings) :
    (⟨after, runs, jobs⟩ : Retrying).Exclusive settings := by
  have same (id : Uuid) : after.db.row id = world.db.row id := by
    rw [ActionsDb.row, rows]
    rfl
  refine ⟨?_, fun job member => (exclusive.kept job member).of_same (same _),
    fun job member run leaseUntil claimed unfinished => ?_, exclusive.apart,
    fun run member => (exclusive.started run member).trans clock,
    fun run member id holding => ?_, exclusive.heldApart⟩
  · rw [rows]
    exact exclusive.ids
  · obtain ⟨_, leased⟩ := exclusive.leased job member run leaseUntil claimed unfinished
    exact ⟨delivered job member unfinished run leaseUntil claimed, (same job.outboxId).symm ▸ leased⟩
  · obtain ⟨⟨_, leased⟩, beyond⟩ := exclusive.held run member id holding
    exact ⟨⟨released run member id holding, (same id).symm ▸ leased⟩, beyond⟩

/-- A change beside the outbox that takes no time. -/
theorem beside (exclusive : (⟨world, runs, jobs⟩ : Retrying).Exclusive settings)
    (rows : after.db.outbox = world.db.outbox) (clock : after.clock = world.clock) :
    (⟨after, runs, jobs⟩ : Retrying).Exclusive settings := by
  refine exclusive.passes rows clock.ge (fun job member unfinished run leaseUntil claimed => ?_)
    fun run member id holding => ?_
  · rw [clock]
    exact (exclusive.leased job member run leaseUntil claimed unfinished).1
  · rw [clock]
    exact (exclusive.held run member id holding).1.1

theorem starts (exclusive : (⟨world, runs, jobs⟩ : Retrying).Exclusive settings)
    (options : RetryOptions) :
    (⟨world, runs ++ [.start runs.length options world], jobs⟩ : Retrying).Exclusive settings where
  ids := exclusive.ids
  kept := exclusive.kept
  leased := exclusive.leased
  apart := exclusive.apart
  started run member := by
    rcases List.mem_append.mp member with old | new
    · exact exclusive.started run old
    · obtain rfl := List.mem_singleton.mp new
      exact le_rfl
  held run member id holding := by
    rcases List.mem_append.mp member with old | new
    · exact exclusive.held run old id holding
    · obtain rfl := List.mem_singleton.mp new
      cases holding
  heldApart := by
    refine List.pairwise_append.mpr ⟨exclusive.heldApart, List.pairwise_singleton _ _, ?_⟩
    intro run member new last id holding other
    obtain rfl := List.mem_singleton.mp last
    cases other

/-- Collecting a result changes nothing else about its call. -/
theorem waits (exclusive : (⟨world, runs, jobs⟩ : Retrying).Exclusive settings)
    (done : Nat → Bool) :
    (⟨world, runs, jobs.map (·.merge done)⟩ : Retrying).Exclusive settings where
  ids := exclusive.ids
  kept job member := by
    obtain ⟨old, present, rfl⟩ := List.mem_map.mp member
    rcases old.merge_cases done with same | same
    · exact same.symm ▸ exclusive.kept old present
    · exact same.symm ▸ exclusive.kept old present
  leased job member run leaseUntil claimed unfinished := by
    obtain ⟨old, present, rfl⟩ := List.mem_map.mp member
    rcases old.merge_cases done with same | same
    · rw [same] at claimed unfinished ⊢
      exact exclusive.leased old present run leaseUntil claimed unfinished
    · rw [same] at claimed unfinished ⊢
      exact exclusive.leased old present run leaseUntil claimed unfinished
  apart := by
    refine List.pairwise_map.mpr (exclusive.apart.imp fun {left right} apart => ?_)
    rcases left.merge_cases done with same | same <;> rcases right.merge_cases done with other | other
    all_goals
      rw [same, other]
      exact apart
  started := exclusive.started
  held run member id holding := by
    obtain ⟨leased, beyond⟩ := exclusive.held run member id holding
    refine ⟨leased, fun job listed own => ?_⟩
    obtain ⟨old, present, rfl⟩ := List.mem_map.mp listed
    rcases old.merge_cases done with same | same
    · rw [same] at own ⊢
      exact beyond old present own
    · rw [same] at own ⊢
      exact beyond old present own
  heldApart := exclusive.heldApart

theorem step {state later : Retrying} {event : RetryEvent} (exclusive : state.Exclusive settings)
    (stepped : Retrying.Step settings library state event later)
    (orderly : state.Orderly settings event) : later.Exclusive settings := by
  cases stepped with
  | emits row db created => exact exclusive.emits created
  | starts options => exact exclusive.starts options
  | claims view row running free found => exact exclusive.claims found orderly.1 orderly.2
  | releases row holding => exact exclusive.releases holding
  | waits view done running idle finished => exact exclusive.waits done
  | breaks view running alone nothing =>
    have started := exclusive.started _ (mem_middle.mpr (.inl rfl))
    exact exclusive.replaceRun started fun _ other => by cases other
  | advances call next waiting => exact exclusive.advances waiting
  | passes span =>
    refine exclusive.passes rfl (Int.le_add_of_nonneg_right (Int.natCast_nonneg span)) orderly.1
      orderly.2
  | administers rules => exact exclusive.beside rfl rfl
  | reroutes network => exact exclusive.beside rfl rfl

end

/-- Within an exclusive state no two calls are in flight for one row. -/
theorem inFlight {state : Retrying} (exclusive : state.Exclusive settings) :
    state.jobs.Pairwise fun left right =>
      left.outboxId = right.outboxId → ¬ (left.InFlight ∧ right.InFlight) := by
  refine exclusive.apart.imp fun apart same => ?_
  rintro ⟨⟨_, first⟩, ⟨_, second⟩⟩
  rcases (apart same).1 with beyond | beyond
  · exact first beyond
  · exact second beyond

theorem posted_nodup {state : Retrying} (exclusive : state.Exclusive settings) :
    state.posted.Nodup := by
  refine List.nodup_flatMap.mpr ⟨fun job member => (exclusive.kept job member).posted_nodup, ?_⟩
  refine exclusive.apart.imp fun {left right} apart attempt first second => ?_
  have same : left.outboxId = right.outboxId :=
    (DeliveryJob.posted_id first).symm.trans (DeliveryJob.posted_id second)
  exact (apart same).2 first second

end Retrying.Exclusive

/-- In runs whose claims follow the dispatch of their rows, and whose deliveries end within the
leases that the claims wrote, at most one call is in flight for a row, and no attempt is
POSTed twice. -/
theorem deliveries_exclusive {settings : ActionsSettings} {library : ActionsLibrary}
    {start state : Retrying} (initial : start.Initial)
    (path : Retrying.Reaches settings library (Retrying.Orderly settings) start state) :
    (state.jobs.Pairwise fun left right =>
      left.outboxId = right.outboxId → ¬ (left.InFlight ∧ right.InFlight)) ∧
    state.posted.Nodup := by
  have exclusive : state.Exclusive settings := by
    induction path with
    | refl =>
      obtain ⟨world, runs, jobs⟩ := start
      obtain ⟨ids, rfl, rfl⟩ := initial
      refine ⟨ids, ?_, ?_, .nil, ?_, ?_, .nil⟩
      all_goals
        intro _ listed
        cases listed
    | tail _ last ih =>
      obtain ⟨event, stepped, orderly⟩ := last
      exact ih.step stepped orderly
  exact ⟨exclusive.inFlight, exclusive.posted_nodup⟩

/-! Runs of the outbox with one row. -/

theorem Retrying.Reaches.advances {settings : ActionsSettings} {library : ActionsLibrary}
    {permits : Retrying → RetryEvent → Prop} (free : ∀ state job, permits state (.advances job))
    (calls : Nat) (world : OutboxWorld) (runs : List RetryRun) (before after : List DeliveryJob)
    (job : DeliveryJob) :
    Retrying.Reaches settings library permits ⟨world, runs, before ++ job :: after⟩
      ⟨(job.advances calls world).2, runs, before ++ (job.advances calls world).1 :: after⟩ := by
  induction calls generalizing job world with
  | zero => exact .refl
  | succ calls ih =>
    obtain ⟨future, origin, since, merged, task, rest, log⟩ := job
    cases rest with
    | ret value => exact .refl
    | raise error => exact .refl
    | call call next =>
      exact .head ⟨_, .advances call next rfl, free _ _⟩ (ih _ _)

/-- Two calls are in flight for one row, and one attempt was POSTed by both. -/
def Retrying.Overlaps (state : Retrying) : Prop :=
  ¬ (state.jobs.Pairwise fun left right =>
    left.outboxId = right.outboxId → ¬ (left.InFlight ∧ right.InFlight)) ∧ ¬ state.posted.Nodup

instance (job : DeliveryJob) : Decidable job.Finished :=
  inferInstanceAs (Decidable job.thread.rest.Finished)

instance (job : DeliveryJob) : Decidable job.InFlight :=
  inferInstanceAs (Decidable (_ ∧ _))

instance (state : Retrying) : Decidable state.Overlaps :=
  inferInstanceAs (Decidable (_ ∧ _))

def plainView : ClaimView := ⟨fun _ => false, true⟩

def plainOptions : RetryOptions where
  batchSize := 50
  maxSeconds := 300000000
  concurrency := 4
  dryRun := false
  scheduledJobRunId := none

def OutboxWorld.wait (span : Nat) (world : OutboxWorld) : OutboxWorld :=
  { world with clock := world.clock + span, monotonic := world.monotonic + span }

/-- The row that the run claims. -/
def RetryRun.takes (run : RetryRun) (world : OutboxWorld) : ActionOutbox :=
  ((run.claim mailSettings plainView world).1.toOption.join).getD hookRow

/-- The call that the run submits for the row, after its POST. -/
def RetryRun.posts (run : RetryRun) (future : Nat) (world : OutboxWorld) :
    DeliveryJob × OutboxWorld :=
  (DeliveryJob.submit mailSettings plainLibrary future
    (.retry run.id (run.leaseUntil mailSettings)) world.clock (run.takes world).id
    ⟨.automaticRetry, none⟩).advances 3 (run.claim mailSettings plainView world).2

def dispatchedHook : DeliveryJob := .dispatched mailSettings plainLibrary hookStart 0 hookRow

/-- The dispatch has POSTed and waits for the answer. -/
def dispatchPosted : DeliveryJob × OutboxWorld := dispatchedHook.advances 3 hookEmitted

def hastyRun : RetryRun := .start 0 plainOptions dispatchPosted.2

/-- A run claims the row while its dispatch waits for the answer. -/
def dispatchOverlap : Retrying where
  world := (hastyRun.posts 1 dispatchPosted.2).2
  runs := [hastyRun]
  jobs := [dispatchPosted.1, (hastyRun.posts 1 dispatchPosted.2).1]

/-- The dispatch has failed, and the row is due after 30 seconds. -/
def dispatchFailed : DeliveryJob × OutboxWorld := dispatchedHook.advances 9 hookEmitted

def firstRun : RetryRun := .start 0 plainOptions (dispatchFailed.2.wait 30000000)

/-- The first run POSTs 70 seconds after its start. -/
def firstPosted : DeliveryJob × OutboxWorld :=
  firstRun.posts 1 ((dispatchFailed.2.wait 30000000).wait 70000000)

def secondRun : RetryRun := .start 1 plainOptions (firstPosted.2.wait 60000000)

/-- The lease of the first run ends 50 seconds after the claim, and the second run claims the
row 10 seconds later. -/
def leaseOverlap : Retrying where
  world := (secondRun.posts 2 (firstPosted.2.wait 60000000)).2
  runs := [firstRun, secondRun]
  jobs := [dispatchFailed.1, firstPosted.1, (secondRun.posts 2 (firstPosted.2.wait 60000000)).1]

/-- A claim of a wet run, and the first calls of the delivery that it submits. -/
theorem Retrying.Reaches.posts {permits : Retrying → RetryEvent → Prop} {run : RetryRun}
    {world : OutboxWorld} {before after : List RetryRun} {jobs : List DeliveryJob}
    (free : ∀ state job, permits state (.advances job))
    (running : run.Continues world jobs) (idle : (run.inFlight jobs : Int) < run.workers)
    (found : run.claim mailSettings plainView world =
      (.ok (some (run.takes world)), (run.claim mailSettings plainView world).2))
    (wet : run.options = plainOptions)
    (permitted : permits ⟨world, before ++ run :: after, jobs⟩ (.claims run (run.takes world))) :
    Retrying.Reaches mailSettings plainLibrary permits ⟨world, before ++ run :: after, jobs⟩
      ⟨(run.posts jobs.length world).2, before ++ run :: after,
        jobs ++ [(run.posts jobs.length world).1]⟩ := by
  have claimed : Retrying.Step mailSettings plainLibrary ⟨world, before ++ run :: after, jobs⟩
      (.claims run (run.takes world)) ⟨(run.claim mailSettings plainView world).2,
        before ++ run.claimed (run.takes world) :: after,
        jobs ++ run.submits mailSettings plainLibrary world jobs.length (run.takes world)⟩ :=
    .claims plainView (run.takes world) running idle found
  rw [RetryRun.claimed, RetryRun.submits, wet] at claimed
  exact .head ⟨_, claimed, permitted⟩ (Retrying.Reaches.advances free 3 _ _ jobs [] _)

theorem Retrying.Reaches.mono {settings : ActionsSettings} {library : ActionsLibrary}
    {permits other : Retrying → RetryEvent → Prop} {start state : Retrying}
    (path : Retrying.Reaches settings library permits start state)
    (weaker : ∀ state event, permits state event → other state event) :
    Retrying.Reaches settings library other start state := by
  refine Relation.ReflTransGen.mono (fun before after => ?_) _ _ path
  rintro ⟨event, stepped, permitted⟩
  exact ⟨event, stepped, weaker _ _ permitted⟩

theorem dispatchOverlap_reached :
    Retrying.Reaches mailSettings plainLibrary (Retrying.Prompt mailSettings) ⟨hookStart, [], []⟩
      dispatchOverlap := by
  refine .head ⟨_, .emits hookRow hookEmitted.db rfl, trivial⟩ ?_
  refine (Retrying.Reaches.advances (fun _ _ => trivial) 3 hookEmitted [] [] [] dispatchedHook).trans ?_
  refine .head ⟨_, .starts plainOptions, trivial⟩ ?_
  have running : hastyRun.Continues dispatchPosted.2 [dispatchPosted.1] := by decide +kernel
  have claimed : Retrying.Reaches mailSettings plainLibrary (Retrying.Prompt mailSettings)
      ⟨dispatchPosted.2, [] ++ hastyRun :: [], [dispatchPosted.1]⟩ dispatchOverlap :=
    .posts (fun _ _ => trivial) running (by decide +kernel) rfl rfl trivial
  exact claimed

/-- The row is dispatched, fails, and is claimed within the lease of the first run. -/
def firstClaimed : Retrying := ⟨firstPosted.2, [firstRun], [dispatchFailed.1, firstPosted.1]⟩

theorem firstClaimed_reached :
    Retrying.Reaches mailSettings plainLibrary
      (fun state event => state.Prompt mailSettings event ∧ state.Orderly mailSettings event)
      ⟨hookStart, [], []⟩ firstClaimed := by
  have beyond : ∀ job ∈ [dispatchFailed.1], job.Finished := by decide +kernel
  have late (job : DeliveryJob) (member : job ∈ [dispatchFailed.1]) (unfinished : ¬ job.Finished) :
      False := unfinished (beyond job member)
  refine .head ⟨_, .emits hookRow hookEmitted.db rfl, trivial, trivial⟩ ?_
  refine (Retrying.Reaches.advances (fun _ _ => ⟨trivial, trivial⟩) 9 hookEmitted [] [] []
    dispatchedHook).trans ?_
  refine .head ⟨_, .passes 30000000, fun job member unfinished => (late job member unfinished).elim,
    fun job member unfinished => (late job member unfinished).elim, fun _ none => by cases none⟩ ?_
  refine .head ⟨_, .starts plainOptions, trivial, trivial⟩ ?_
  refine .head ⟨_, .passes 70000000, fun job member unfinished => (late job member unfinished).elim,
    fun job member unfinished => (late job member unfinished).elim, ?_⟩ ?_
  · intro run member row holding
    obtain rfl := List.mem_singleton.mp member
    cases holding
  · have running : firstRun.Continues ((dispatchFailed.2.wait 30000000).wait 70000000)
        [dispatchFailed.1] := by decide +kernel
    have claimed : Retrying.Reaches mailSettings plainLibrary
        (fun state event => state.Prompt mailSettings event ∧ state.Orderly mailSettings event)
        ⟨(dispatchFailed.2.wait 30000000).wait 70000000, [] ++ firstRun :: [], [dispatchFailed.1]⟩
        firstClaimed :=
      .posts (fun _ _ => ⟨trivial, trivial⟩) running (by decide +kernel) rfl rfl
        ⟨trivial, by decide +kernel, fun job member _ _ => beyond job member⟩
    exact claimed

theorem leaseOverlap_reached :
    Retrying.Reaches mailSettings plainLibrary (Retrying.Prompt mailSettings) ⟨hookStart, [], []⟩
      leaseOverlap := by
  refine (firstClaimed_reached.mono fun _ _ => And.left).trans ?_
  refine .head ⟨_, .passes 60000000, ?_⟩ ?_
  · show ∀ job ∈ [dispatchFailed.1, firstPosted.1], _
    decide +kernel
  refine .head ⟨_, .starts plainOptions, trivial⟩ ?_
  have running : secondRun.Continues (firstPosted.2.wait 60000000)
      [dispatchFailed.1, firstPosted.1] := by decide +kernel
  have claimed : Retrying.Reaches mailSettings plainLibrary (Retrying.Prompt mailSettings)
      ⟨firstPosted.2.wait 60000000, [firstRun] ++ secondRun :: [], [dispatchFailed.1, firstPosted.1]⟩
      leaseOverlap :=
    .posts (fun _ _ => trivial) running (by decide +kernel) rfl rfl trivial
  exact claimed

theorem deliveries_exclusive_first :
    (firstClaimed.jobs.Pairwise fun left right =>
      left.outboxId = right.outboxId → ¬ (left.InFlight ∧ right.InFlight)) ∧
    firstClaimed.posted.Nodup :=
  have initial : (⟨hookStart, [], []⟩ : Retrying).Initial := ⟨List.nodup_nil, rfl, rfl⟩
  deliveries_exclusive initial (firstClaimed_reached.mono fun _ _ => And.right)

/-- A run claims a row during its dispatch; and one claims a row whose lease, counted from the
start of another run, ends before its delivery. -/
theorem deliveries_overlap :
    (Retrying.Reaches mailSettings plainLibrary (Retrying.Prompt mailSettings) ⟨hookStart, [], []⟩
      dispatchOverlap ∧ dispatchOverlap.Overlaps) ∧
    Retrying.Reaches mailSettings plainLibrary (Retrying.Prompt mailSettings) ⟨hookStart, [], []⟩
      leaseOverlap ∧ leaseOverlap.Overlaps :=
  ⟨⟨dispatchOverlap_reached, by decide +kernel⟩, leaseOverlap_reached, by decide +kernel⟩

end HostingService
