import HostingService.Actions.Classification
import HostingService.Hosting.Sites
import HostingService.Program.Rely

/-! The books of the outbox under any interleaving of deliveries, claims, requeues and
time: attempts are numbered without gaps, and final rows are left alone. -/

namespace HostingService

open Program Text Storage OutboxTransaction

/-! ### The books of the tables -/

namespace ActionsDb

/-- Every attempt belongs to a row, and the attempts of a row are numbered 1, 2, ... up to
its count. -/
structure Accounted (db : ActionsDb) : Prop where
  ids : (db.outbox.map (·.id)).Nodup
  numbers : ∀ row ∈ db.outbox,
    (db.attemptsOf row.id).map (·.attemptNumber) = List.range' 1 row.attemptCount
  owned : ∀ attempt ∈ db.attempts, ∃ row ∈ db.outbox, row.id = attempt.outbox

/-- Rows stay and their counts grow; at one count an open row is not settled. -/
def Evolves (before after : ActionsDb) : Prop :=
  ∀ id row, before.row id = some row → ∃ later, after.row id = some later ∧
    row.attemptCount ≤ later.attemptCount ∧
      (later.attemptCount = row.attemptCount → row.status.isFinal = false →
        later.status.isFinal = false)

/-- Delivered and dead rows and their attempts stay as they are. -/
def KeepsFinal (before after : ActionsDb) : Prop :=
  ∀ id row, before.row id = some row → row.status.isFinal = true →
    after.row id = some row ∧ after.attemptsOf id = before.attemptsOf id

theorem Evolves.refl (db : ActionsDb) : db.Evolves db :=
  fun _ row stored => ⟨row, stored, le_rfl, fun _ unsettled => unsettled⟩

theorem Evolves.trans {first second third : ActionsDb} (left : first.Evolves second)
    (right : second.Evolves third) : first.Evolves third := by
  intro id row stored
  obtain ⟨middle, found, grown, opened⟩ := left id row stored
  obtain ⟨last, present, further, still⟩ := right id middle found
  refine ⟨last, present, grown.trans further, fun same unsettled => ?_⟩
  exact still (by omega) (opened (by omega) unsettled)

theorem KeepsFinal.refl (db : ActionsDb) : db.KeepsFinal db := fun _ _ stored _ => ⟨stored, rfl⟩

theorem KeepsFinal.trans {first second third : ActionsDb} (left : first.KeepsFinal second)
    (right : second.KeepsFinal third) : first.KeepsFinal third := by
  intro id row stored final
  obtain ⟨kept, attempts⟩ := left id row stored final
  obtain ⟨still, same⟩ := right id row kept final
  exact ⟨still, same.trans attempts⟩

theorem row_of_mem {db : ActionsDb} (accounted : db.Accounted) {row : ActionOutbox}
    (member : row ∈ db.outbox) : db.row row.id = some row :=
  find?_of_unique accounted.ids member

/-- Attempts equal, counts equal. -/
theorem Accounted.length {db : ActionsDb} (accounted : db.Accounted) {id : Uuid} {row : ActionOutbox}
    (stored : db.row id = some row) : (db.attemptsOf id).length = row.attemptCount := by
  obtain ⟨member, rfl⟩ := row_mem stored
  have numbered := congrArg List.length (accounted.numbers row member)
  simpa using numbered

/-- A change of the columns that keeps the counts. -/
structure KeepsCounts (change : ActionOutbox → ActionOutbox) : Prop where
  id : ∀ row, (change row).id = row.id
  attemptCount : ∀ row, (change row).attemptCount = row.attemptCount

theorem Accounted.mapRows {db : ActionsDb} (accounted : db.Accounted)
    {change : ActionOutbox → ActionOutbox} (keeps : KeepsCounts change) :
    ({ db with outbox := db.outbox.map change } : ActionsDb).Accounted where
  ids := by
    rw [map_key_of_kept keeps.id]
    exact accounted.ids
  numbers := by
    intro row member
    obtain ⟨old, present, rfl⟩ := List.mem_map.mp member
    rw [keeps.id, keeps.attemptCount]
    exact accounted.numbers old present
  owned := by
    intro attempt member
    obtain ⟨row, present, same⟩ := accounted.owned attempt member
    exact ⟨change row, List.mem_map_of_mem present, by rw [keeps.id, same]⟩

theorem attemptsOf_append (db : ActionsDb) (attempt : DeliveryAttempt) (id : Uuid) :
    ({ db with attempts := db.attempts ++ [attempt] } : ActionsDb).attemptsOf id =
      db.attemptsOf id ++ if attempt.outbox = id then [attempt] else [] := by
  simp only [attemptsOf, List.filter_append]
  by_cases own : attempt.outbox = id <;> simp [own]

theorem attemptsOf_record (db : ActionsDb) (attempt : DeliveryAttempt) (columns : OutboxColumns)
    (id : Uuid) : (db.record attempt columns).attemptsOf id =
      db.attemptsOf id ++ if attempt.outbox = id then [attempt] else [] :=
  attemptsOf_append db attempt id

/-- An attempt with the next number, recorded with the count raised to it. -/
theorem Accounted.record {db : ActionsDb} (accounted : db.Accounted) {row : ActionOutbox}
    (stored : db.row row.id = some row) {attempt : DeliveryAttempt} {columns : OutboxColumns}
    (own : attempt.outbox = row.id) (next : attempt.attemptNumber = row.attemptCount + 1)
    (counted : ∀ other : ActionOutbox, (other.assign columns).attemptCount = row.attemptCount + 1) :
    (db.record attempt columns).Accounted where
  ids := by
    have kept : ∀ other : ActionOutbox,
        (if other.id = attempt.outbox then other.assign columns else other).id = other.id := by
      intro other
      split <;> simp
    show ((db.outbox.map fun other => if other.id = attempt.outbox then other.assign columns
      else other).map (·.id)).Nodup
    rw [map_key_of_kept kept]
    exact accounted.ids
  numbers := by
    intro other member
    obtain ⟨old, present, rfl⟩ := List.mem_map.mp member
    rw [attemptsOf_record]
    by_cases same : old.id = attempt.outbox
    · obtain rfl : old = row := by
        have found := row_of_mem accounted present
        rw [same, own, stored] at found
        exact (Option.some.inj found).symm
      simp only [same, if_true, ActionOutbox.assign_id, List.map_append, List.map_cons,
        List.map_nil, counted, next]
      rw [own, accounted.numbers old present, List.range'_concat]
      simp [Nat.add_comm]
    · have different : attempt.outbox ≠ old.id := Ne.symm same
      simp only [same, different, if_false, List.append_nil]
      exact accounted.numbers old present
  owned := by
    intro found member
    have kept (other : ActionOutbox) (present : other ∈ db.outbox) :
        ∃ later ∈ (db.record attempt columns).outbox, later.id = other.id :=
      ⟨_, List.mem_map_of_mem present, by split <;> simp⟩
    rcases List.mem_append.mp member with old | fresh
    · obtain ⟨other, present, same⟩ := accounted.owned found old
      obtain ⟨later, after, equal⟩ := kept other present
      exact ⟨later, after, equal.trans same⟩
    · obtain rfl := List.mem_singleton.mp fresh
      obtain ⟨later, after, equal⟩ := kept row (row_mem stored).1
      exact ⟨later, after, equal.trans own.symm⟩

theorem Evolves.record {db : ActionsDb} {row : ActionOutbox} (stored : db.row row.id = some row)
    {attempt : DeliveryAttempt} {columns : OutboxColumns} (own : attempt.outbox = row.id)
    (counted : ∀ other : ActionOutbox, (other.assign columns).attemptCount = row.attemptCount + 1) :
    db.Evolves (db.record attempt columns) := by
  intro id other found
  rw [row_record, found]
  by_cases same : other.id = attempt.outbox
  · obtain rfl : other = row := by
      have key : id = row.id := by rw [← (row_mem found).2, same, own]
      rw [key, stored] at found
      exact (Option.some.inj found).symm
    refine ⟨other.assign columns, by rw [Option.map_some, if_pos same], ?_, fun equal => ?_⟩
    · rw [counted]
      omega
    · rw [counted] at equal
      omega
  · exact ⟨other, by rw [Option.map_some, if_neg same], le_rfl, fun _ unsettled => unsettled⟩

theorem KeepsFinal.record {db : ActionsDb} {row : ActionOutbox} (stored : db.row row.id = some row)
    {attempt : DeliveryAttempt} {columns : OutboxColumns} (own : attempt.outbox = row.id)
    (unsettled : row.status.isFinal = false) : db.KeepsFinal (db.record attempt columns) := by
  intro id other found final
  have different : other.id ≠ attempt.outbox := by
    intro same
    have key : id = row.id := by rw [← (row_mem found).2, same, own]
    rw [key, stored] at found
    cases found
    rw [unsettled] at final
    contradiction
  refine ⟨?_, ?_⟩
  · rw [row_record, found, Option.map_some, if_neg different]
  · have apart : attempt.outbox ≠ id := by
      rw [← (row_mem found).2]
      exact Ne.symm different
    rw [attemptsOf_record, if_neg apart, List.append_nil]

/-- Columns beside the count. -/
theorem Accounted.assign {db : ActionsDb} (accounted : db.Accounted) (id : Uuid)
    {columns : OutboxColumns}
    (kept : ∀ row : ActionOutbox, (row.assign columns).attemptCount = row.attemptCount) :
    (db.assign id columns).Accounted := by
  refine accounted.mapRows ⟨fun row => ?_, fun row => ?_⟩
  · split <;> simp
  · split
    · exact kept row
    · rfl

theorem Evolves.assign (db : ActionsDb) (id : Uuid) {columns : OutboxColumns}
    (kept : ∀ row : ActionOutbox, (row.assign columns).attemptCount = row.attemptCount)
    (opened : ∀ row : ActionOutbox, row.status.isFinal = false →
      (row.assign columns).status.isFinal = false) : db.Evolves (db.assign id columns) := by
  intro other row stored
  by_cases same : row.id = id
  · exact ⟨row.assign columns, by rw [row_assign, stored, Option.map_some, if_pos same],
      (kept row).ge, fun _ => opened row⟩
  · exact ⟨row, by rw [row_assign, stored, Option.map_some, if_neg same], le_rfl,
      fun _ unsettled => unsettled⟩

theorem KeepsFinal.assign (db : ActionsDb) {id : Uuid} (columns : OutboxColumns)
    (unsettled : ∀ row, db.row id = some row → row.status.isFinal = false) :
    db.KeepsFinal (db.assign id columns) := by
  intro other row stored final
  have different : row.id ≠ id := by
    intro same
    have key : id = other := by rw [← same, (row_mem stored).2]
    rw [unsettled row (key ▸ stored)] at final
    contradiction
  exact ⟨by rw [row_assign, stored, Option.map_some, if_neg different], rfl⟩

/-- A new row has no attempts yet. -/
theorem Accounted.insert {db : ActionsDb} (accounted : db.Accounted) {row : ActionOutbox}
    (fresh : ∀ other ∈ db.outbox, other.id ≠ row.id) (unattempted : row.attemptCount = 0) :
    ({ db with outbox := db.outbox ++ [row] } : ActionsDb).Accounted where
  ids := nodup_concat accounted.ids fresh
  numbers := by
    intro other member
    rcases List.mem_append.mp member with old | new
    · exact accounted.numbers other old
    · obtain rfl := List.mem_singleton.mp new
      have none : db.attemptsOf other.id = [] := by
        refine List.filter_eq_nil_iff.mpr fun attempt present => ?_
        obtain ⟨owner, stored, same⟩ := accounted.owned attempt present
        have different := fresh owner stored
        simpa [← same] using different
      show (db.attemptsOf other.id).map _ = _
      rw [none, unattempted]
      rfl
  owned := by
    intro attempt member
    obtain ⟨owner, stored, same⟩ := accounted.owned attempt member
    exact ⟨owner, List.mem_append_left _ stored, same⟩

theorem row_insert {db : ActionsDb} {id : Uuid} {row : ActionOutbox} (stored : db.row id = some row)
    (new : ActionOutbox) :
    ({ db with outbox := db.outbox ++ [new] } : ActionsDb).row id = some row := by
  show (db.outbox ++ [new]).find? _ = _
  rw [List.find?_append, show db.outbox.find? _ = some row from stored]
  rfl

theorem row_append (db : ActionsDb) {id : Uuid} {row : ActionOutbox} (different : id ≠ row.id) :
    ({ db with outbox := db.outbox ++ [row] } : ActionsDb).row id = db.row id := by
  show (db.outbox ++ [row]).find? _ = db.outbox.find? _
  rw [List.find?_append]
  simp [Ne.symm different]

end ActionsDb

/-! ### What one call of a delivery may do -/

structure Delivers (before after : ActionsDb) : Prop where
  accounted : after.Accounted
  evolves : before.Evolves after
  keepsFinal : before.KeepsFinal after

theorem Delivers.of_same {db : ActionsDb} (accounted : db.Accounted) : Delivers db db :=
  ⟨accounted, .refl db, .refl db⟩

/-- The conduct of deliveries; `lasting` is what else the others guarantee. -/
def deliveryConduct (lasting : ActionsDb → ActionsDb → Prop) : Conduct DeliveryCall OutboxWorld where
  holds world := world.db.Accounted
  evolves before after := before.db.Evolves after.db ∧ lasting before.db after.db
  good _ call world := Delivers world.db (call.handle _ world).2.db

/-- The row still has an attempt to record, or had one recorded since. -/
def OpenAt (id : Uuid) (count : Nat) (db : ActionsDb) : Prop :=
  ∃ row, db.row id = some row ∧ count ≤ row.attemptCount ∧
    (row.attemptCount = count → row.status.isFinal = false)

theorem OpenAt.evolves {id : Uuid} {count : Nat} {before after : ActionsDb}
    (now : OpenAt id count before) (evolves : before.Evolves after) : OpenAt id count after := by
  obtain ⟨row, stored, grown, opened⟩ := now
  obtain ⟨later, found, further, still⟩ := evolves id row stored
  refine ⟨later, found, grown.trans further, fun same => ?_⟩
  exact still (by omega) (opened (by omega))

/-- Calls that leave the world as it is. -/
def Quiet (β : Type) (call : DeliveryCall β) : Prop :=
  ∀ world, (DeliveryCall.handle β call world).2 = world

def DeliveryCall.isPost : ∀ {β : Type}, DeliveryCall β → Bool
  | _, .post _ => true
  | _, _ => false

/-- Quiet calls, POSTs apart. -/
def Silent (β : Type) (call : DeliveryCall β) : Prop := Quiet β call ∧ call.isPost = false

section
variable {settings : ActionsSettings} {library : ActionsLibrary}
  {lasting : ActionsDb → ActionsDb → Prop} {log : List (Entry DeliveryCall OutboxWorld)}
  {world : OutboxWorld}

theorem Quiet.good {β : Type} {call : DeliveryCall β} (quiet : Quiet β call)
    (now : (deliveryConduct lasting).holds world) : (deliveryConduct lasting).good β call world := by
  show Delivers world.db (DeliveryCall.handle β call world).2.db
  rw [quiet world]
  exact .of_same now

/-- Statements that write nothing. -/
def ReadsOnly : ∀ β, OutboxStatement β → Prop
  | _, .execute _ => False
  | _, _ => True

theorem quiet_atomic {α : Type} {body : OutboxTransaction α} (reads : body.All ReadsOnly) :
    Quiet α (.atomic body) := by
  intro world
  have same : world = (body.run OutboxStatement.handle world).2 := by
    refine Prog.All.run_related (fun before after => before = after) (fun _ => rfl)
      (fun left right => left.trans right) (fun β statement allowed state => ?_) reads world
    cases statement with
    | execute change => exact allowed.elim
    | _ => rfl
  rw [DeliveryCall.handle]
  rcases ended : body.run OutboxStatement.handle world with ⟨error | value, after⟩
  · rw [ended] at same
    cases same
    rfl
  · rw [ended] at same
    cases same
    rfl

theorem takeSnapshot_reads (id : Uuid) : (takeSnapshot id).All ReadsOnly := by
  refine Prog.all_perform_bind.mpr ⟨trivial, fun found => ?_⟩
  rcases found with _ | ⟨row, rule⟩
  · trivial
  · by_cases final : row.status.isFinal = true
    · simp [final]
    · simp only [final, Bool.false_eq_true, if_false]
      exact Prog.all_ofExcept_bind.mpr fun _ _ => trivial

/-! ### Attempts are quiet -/

theorem parseRetryAfterHeader_silent (value : Option PyStr) :
    (parseRetryAfterHeader library value).All Silent := by
  simp only [parseRetryAfterHeader]
  split
  · trivial
  · split
    · exact Prog.all_ofExcept_bind.mpr fun _ _ => trivial
    · split
      · trivial
      · exact Prog.all_perform_bind.mpr ⟨⟨fun _ => rfl, rfl⟩, fun _ => trivial⟩

theorem parseRetryAfterHeader_quiet (value : Option PyStr) :
    (parseRetryAfterHeader library value).All Quiet :=
  (parseRetryAfterHeader_silent value).mono fun _ _ => And.left

theorem postWebhookUrl_quiet (request : Post) : (postWebhookUrl library request).All Quiet := by
  refine Prog.all_perform_bind.mpr ⟨fun _ => rfl, fun exchange => ?_⟩
  cases exchange with
  | answered response =>
    exact Prog.all_ofExcept_bind.mpr fun _ _ =>
      (parseRetryAfterHeader_quiet response.retryAfter).bind fun _ => trivial
  | _ => trivial

theorem deliverWebhookAction_quiet (config : WebhookConfig) (envelope : Envelope) (attempt : Nat) :
    (deliverWebhookAction settings library config envelope attempt).All Quiet := by
  refine .check (.check (.check (Prog.all_ofExcept_bind.mpr fun key _ => ?_)))
  refine (postWebhookUrl_quiet _).bind fun ended => ?_
  cases ended with
  | result result => exact Prog.All.when fun _ => trivial
  | _ => trivial

theorem postEmailEvent_quiet (body : Envelope) : (postEmailEvent settings library body).All Quiet := by
  refine .check (.check ((postWebhookUrl_quiet _).bind fun ended => ?_))
  cases ended with
  | result result =>
    simp only
    split <;> trivial
  | _ => trivial

theorem timed_quiet {perform : Delivery (Bool × AttemptMeta)} (quiet : perform.All Quiet) :
    (timed perform).All Quiet := by
  refine Prog.all_perform_bind.mpr ⟨fun _ => rfl, fun _ => quiet.bind fun _ => ?_⟩
  exact Prog.all_perform_bind.mpr ⟨fun _ => rfl, fun _ => trivial⟩

theorem performDelivery_quiet (row : ActionOutbox) (rule : Option ActionRule) :
    (performDelivery settings library row rule).All Quiet := by
  unfold performDelivery
  split
  · refine timed_quiet (((postEmailEvent_quiet _).bind fun _ => Prog.all_ret _).tryCatch fun error => ?_)
    cases error <;> trivial
  · refine timed_quiet (((deliverWebhookAction_quiet _ _ _).bind fun _ => Prog.all_ret _).tryCatch
      fun error => ?_)
    cases error <;> trivial
  · exact timed_quiet trivial

/-! ### The transactions of a delivery -/

theorem takeSnapshot_loaded {id : Uuid} {row : ActionOutbox} {rule : Option ActionRule}
    {terminalError : Option PyStr}
    (taken : (DeliveryCall.handle _ (.atomic (takeSnapshot id)) world).1 =
      .ok (.taken row rule terminalError)) :
    world.db.row id = some row ∧ row.status.isFinal = false ∧
      loadRuleForDelivery row (world.db.ruleOf row) = .ok (rule, terminalError) := by
  have asked := run_select (fun db => (db.row id).map fun row => (row, db.ruleOf row)) world
  rw [DeliveryCall.handle_atomic, takeSnapshot, Prog.run_bind_ok _ asked] at taken
  rcases stored : world.db.row id with _ | found
  · rw [stored] at taken
    cases taken
  · rw [stored] at taken
    by_cases final : found.status.isFinal = true
    · simp [final] at taken
    · have opened : found.status.isFinal = false := Bool.eq_false_iff.mpr final
      simp only [Option.map_some, opened, Bool.false_eq_true, if_false, Prog.run_bind,
        Prog.run_ofExcept] at taken
      rcases loaded : loadRuleForDelivery found (world.db.ruleOf found) with error | ⟨read, failed⟩
      · rw [loaded] at taken
        cases taken
      · rw [loaded] at taken
        cases taken
        exact ⟨rfl, opened, loaded⟩

/-- A snapshot that is taken shows an open row. -/
theorem takeSnapshot_taken {id : Uuid} {row : ActionOutbox} {rule : Option ActionRule}
    {terminalError : Option PyStr}
    (taken : (DeliveryCall.handle _ (.atomic (takeSnapshot id)) world).1 =
      .ok (.taken row rule terminalError)) :
    world.db.row id = some row ∧ row.status.isFinal = false := by
  obtain ⟨stored, unsettled, _⟩ := takeSnapshot_loaded taken
  exact ⟨stored, unsettled⟩

theorem columns_attemptCount (outcome : Outcome) (row other : ActionOutbox)
    (retryAfterSeconds : Option Int) (now : Time) :
    (other.assign (outcome.columns settings row retryAfterSeconds now)).attemptCount =
      row.attemptCount + 1 := by
  simp only [Outcome.columns]
  split
  · rfl
  · split <;> rfl

/-- The result of a delivery whose row is gone is not recorded. -/
theorem recordResult_gone {id : Uuid} {count : Nat} {terminalError : Option PyStr} {success : Bool}
    {found : AttemptMeta} {correlation : Correlation} (gone : world.db.row id = none) :
    (DeliveryCall.handle _ (.atomic (recordResult settings id count terminalError success found
      correlation)) world).2 = world := by
  have raised : (recordResult settings id count terminalError success found correlation).run
      OutboxStatement.handle world = (.error .doesNotExist, world) := by
    rw [recordResult, Prog.run_bind_ok _ (run_select _ world), gone]
    rfl
  rw [DeliveryCall.handle, raised]

theorem recordResult_overtaken {id : Uuid} {count : Nat} {terminalError : Option PyStr}
    {success : Bool} {found : AttemptMeta} {correlation : Correlation} {row : ActionOutbox}
    (stored : world.db.row id = some row) (overtaken : row.attemptCount ≠ count) :
    (DeliveryCall.handle _ (.atomic (recordResult settings id count terminalError success found
      correlation)) world).2 = world := by
  have dropped : (recordResult settings id count terminalError success found correlation).run
      OutboxStatement.handle world = (.ok row, world) := by
    rw [recordResult, Prog.run_bind_ok _ (run_select _ world)]
    simp [stored, overtaken]
  rw [DeliveryCall.handle, dropped]

/-- The result is dropped if another attempt was recorded, and recorded otherwise. -/
theorem recordResult_ends {id : Uuid} {count : Nat} {terminalError : Option PyStr} {success : Bool}
    {found : AttemptMeta} {correlation : Correlation} (opened : OpenAt id count world.db) :
    let after := (DeliveryCall.handle _
      (.atomic (recordResult settings id count terminalError success found correlation)) world).2
    ∃ row, world.db.row id = some row ∧
      ((row.attemptCount ≠ count ∧ after.db = world.db) ∨
        (row.attemptCount = count ∧ row.status.isFinal = false ∧
          after.db = world.db.record
            ((outcomeOf settings terminalError success found).attempt row correlation)
            ((outcomeOf settings terminalError success found).columns settings row
              found.retryAfterSeconds world.clock))) := by
  obtain ⟨row, stored, grown, unsettled⟩ := opened
  refine ⟨row, stored, ?_⟩
  obtain rfl := (ActionsDb.row_mem stored).2
  by_cases same : row.attemptCount = count
  · subst same
    right
    refine ⟨rfl, unsettled rfl, ?_⟩
    rw [DeliveryCall.handle, run_recordResult stored, run_applyDeliveryResult stored]
  · left
    refine ⟨same, ?_⟩
    rw [recordResult_overtaken stored same]

/-- What the last transaction of a delivery makes of the tables. -/
inductive Recorded (id : Uuid) (count : Nat) (success : Bool) (before after : ActionsDb) : Prop where
  | dropped (row : ActionOutbox) (stored : before.row id = some row)
      (overtaken : row.attemptCount ≠ count) (same : after = before)
  | saved (row : ActionOutbox) (attempt : DeliveryAttempt) (columns : OutboxColumns)
      (stored : before.row id = some row) (current : row.attemptCount = count)
      (unsettled : row.status.isFinal = false) (own : attempt.outbox = id)
      (next : attempt.attemptNumber = count + 1)
      (counted : ∀ other : ActionOutbox, (other.assign columns).attemptCount = count + 1)
      (delivered : success = true → attempt.status = .success ∧
        ∀ other : ActionOutbox, (other.assign columns).status = .delivered)
      (same : after = before.record attempt columns)

theorem Recorded.delivers {id : Uuid} {count : Nat} {success : Bool} {before after : ActionsDb}
    (recorded : Recorded id count success before after) (accounted : before.Accounted) :
    Delivers before after := by
  cases recorded with
  | dropped row stored overtaken same =>
    subst same
    exact .of_same accounted
  | saved row attempt columns stored current unsettled own next counted delivered same =>
    obtain rfl := (ActionsDb.row_mem stored).2
    subst current
    subst same
    exact ⟨accounted.record stored own next counted, .record stored own counted,
      .record stored own unsettled⟩

theorem recordResult_recorded {id : Uuid} {count : Nat} {terminalError : Option PyStr}
    {success : Bool} {found : AttemptMeta} {correlation : Correlation}
    (opened : OpenAt id count world.db) :
    Recorded id count (success && terminalError.isNone) world.db (DeliveryCall.handle _
      (.atomic (recordResult settings id count terminalError success found correlation)) world).2.db := by
  obtain ⟨row, stored, ⟨overtaken, same⟩ | ⟨current, unsettled, same⟩⟩ := recordResult_ends opened
  · exact .dropped row stored overtaken same
  · subst current
    refine .saved row _ _ stored rfl unsettled (ActionsDb.row_mem stored).2 rfl
      (fun other => columns_attemptCount ..) (fun succeeded => ?_) same
    obtain ⟨rfl, deliverable⟩ := Bool.and_eq_true_iff.mp succeeded
    obtain rfl := Option.isNone_iff_eq_none.mp deliverable
    exact ⟨rfl, fun other => rfl⟩

/-- A delivery takes a snapshot, works quietly and records its result. -/
theorem deliverOutboxRow_all {allowed : ∀ β, DeliveryCall β → Prop} {id : Uuid} {correlation : Correlation}
    (quiets : ∀ β (call : DeliveryCall β), Quiet β call → allowed β call)
    (records : ∀ count terminalError success found, allowed _
      (.atomic (recordResult settings id count terminalError success found correlation))) :
    (deliverOutboxRow settings library id correlation).All allowed := by
  have snapshot : Quiet _ (.atomic (takeSnapshot id)) := quiet_atomic (takeSnapshot_reads id)
  refine Prog.all_perform_bind.mpr ⟨quiets _ _ snapshot, fun found => ?_⟩
  cases found with
  | missing => trivial
  | final row => trivial
  | taken row rule terminalError =>
    cases terminalError with
    | some error =>
      exact Prog.all_perform_bind.mpr ⟨records row.attemptCount (some error) false .empty, fun _ => trivial⟩
    | none =>
      refine ((performDelivery_quiet row rule).mono quiets).bind ?_
      rintro ⟨success, found⟩
      exact Prog.all_perform_bind.mpr ⟨records row.attemptCount none success found, fun _ => trivial⟩

/-! ### A delivery beside others -/

variable {correlation : Correlation} {id : Uuid}
  {post : List (Entry DeliveryCall OutboxWorld) → Except ActionsError (Option ActionOutbox) →
    OutboxWorld → Prop}

/-- The first call of a delivery, in the world that it met. -/
def snapshotEntry (id : Uuid) (world : OutboxWorld) : Entry DeliveryCall OutboxWorld :=
  ⟨.atomic (takeSnapshot id), world⟩

/-- The last call of a delivery, in the world that it met. -/
def resultEntry (settings : ActionsSettings) (id : Uuid) (count : Nat) (terminalError : Option PyStr)
    (success : Bool) (found : AttemptMeta) (correlation : Correlation) (world : OutboxWorld) :
    Entry DeliveryCall OutboxWorld :=
  ⟨.atomic (recordResult settings id count terminalError success found correlation), world⟩

theorem recordResult_relies {count : Nat} {terminalError : Option PyStr} {success : Bool}
    {found : AttemptMeta} {log : List (Entry DeliveryCall OutboxWorld)}
    (opened : OpenAt id count world.db)
    (ends : ∀ last after result, last.db.Accounted →
      Recorded id count (success && terminalError.isNone) last.db after.db →
      post (log ++ [resultEntry settings id count terminalError success found correlation last])
        result after) :
    (Delivery.atomic (recordResult settings id count terminalError success found correlation) >>=
      fun after => .ret (some after)).Relies DeliveryCall.handle (deliveryConduct lasting) post log
        world := by
  have ended : (Delivery.atomic (recordResult settings id count terminalError success found
      correlation)).Relies DeliveryCall.handle (deliveryConduct lasting)
        (fun log _ after => ∀ result, post log result after) log world := by
    refine Prog.relies_perform.mpr fun last accounted evolved => ?_
    have recorded : Recorded id count (success && terminalError.isNone) last.db
        (DeliveryCall.handle _ (.atomic (recordResult settings id count terminalError success found
          correlation)) last).2.db := recordResult_recorded (opened.evolves evolved.1)
    exact ⟨recorded.delivers accounted, fun result => ends last _ result accounted recorded⟩
  exact ended.bind (fun _ error _ every => every (.error error)) fun _ after _ every =>
    every (.ok (some after))

theorem performDelivery_open (row : ActionOutbox) (rule : Option ActionRule) {count : Nat}
    {log : List (Entry DeliveryCall OutboxWorld)} (opened : OpenAt id count world.db) :
    (performDelivery settings library row rule).Relies DeliveryCall.handle (deliveryConduct lasting)
      (fun _ _ after => OpenAt id count after.db) log world := by
  refine (performDelivery_quiet row rule).relies (fun _ _ _ quiet => quiet.good) (fun _ _ state quiet now => ?_)
    (fun _ _ evolved now => now.evolves evolved.1) opened
  rw [quiet state]
  exact now

/-- A delivery in company: it takes a snapshot, attempts, and records or drops the result. -/
theorem deliverOutboxRow_relies
    (performed : OutboxWorld → List (Entry DeliveryCall OutboxWorld) →
      Except ActionsError (Bool × AttemptMeta) → OutboxWorld → Prop)
    (idle : ∀ first result after, post [snapshotEntry id first] result after)
    (refused : ∀ first last count error result after, post [snapshotEntry id first,
      resultEntry settings id count (some error) false .empty correlation last] result after)
    (performs : ∀ first row rule,
      (performDelivery settings library row rule).Relies DeliveryCall.handle (deliveryConduct lasting)
        (performed first) [snapshotEntry id first] first)
    (raises : ∀ first log error after, performed first log (.error error) after →
      post log (.error error) after)
    (records : ∀ first row log success found last middle after result, first.db.Accounted →
      first.db.row id = some row → performed first log (.ok (success, found)) middle →
      last.db.Accounted → Recorded id row.attemptCount success last.db after.db →
      post (log ++ [resultEntry settings id row.attemptCount none success found correlation last])
        result after) :
    (deliverOutboxRow settings library id correlation).Relies DeliveryCall.handle
      (deliveryConduct lasting) post [] world := by
  have snapshot : (Delivery.atomic (takeSnapshot id)).Relies DeliveryCall.handle
      (deliveryConduct lasting) (fun log result first => log = [snapshotEntry id first] ∧
        first.db.Accounted ∧ ∀ row rule terminalError, result = .ok (.taken row rule terminalError) →
          first.db.row id = some row ∧ row.status.isFinal = false) [] world := by
    refine Prog.relies_perform.mpr fun first accounted _ => ?_
    have quiet : Quiet _ (.atomic (takeSnapshot id)) := quiet_atomic (takeSnapshot_reads id)
    refine ⟨quiet.good accounted, ?_⟩
    rw [quiet first]
    exact ⟨rfl, accounted, fun _ _ _ taken => takeSnapshot_taken taken⟩
  refine snapshot.bind ?_ ?_
  · intro log error first ⟨same, _⟩
    subst same
    exact idle first _ first
  · intro log found first ⟨same, accounted, taken⟩
    subst same
    cases found with
    | missing => exact idle first _ first
    | final row => exact idle first _ first
    | taken row rule terminalError =>
      obtain ⟨stored, unsettled⟩ := taken row rule terminalError rfl
      have opened : OpenAt id row.attemptCount first.db := ⟨row, stored, le_rfl, fun _ => unsettled⟩
      cases terminalError with
      | some error =>
        exact recordResult_relies opened fun last after result _ _ =>
          refused first last row.attemptCount error result after
      | none =>
        refine ((performs first row rule).and (performDelivery_open row rule opened)).bind ?_ ?_
        · intro log error after ⟨ended, _⟩
          exact raises first log error after ended
        · rintro log ⟨success, found⟩ middle ⟨ended, still⟩
          refine recordResult_relies still fun last after result kept recorded => ?_
          exact records first row log success found last middle after result accounted stored ended
            kept (by simpa using recorded)

end

/-! ### What happens around deliveries -/

/-- Claims, time, events with new rows, and changes of the rules and of the network. -/
inductive Surroundings (settings : ActionsSettings) : OutboxWorld → OutboxWorld → Prop where
  | claims {world} (now : Time) (view : ClaimView) :
      Surroundings settings world
        (DeliveryCall.handle _ (.atomic (claimNextPendingOutbox settings now view)) world).2
  | passes {world} (span : Nat) :
      Surroundings settings world
        { world with clock := world.clock + span, monotonic := world.monotonic + span }
  | emits {world} (row : ActionOutbox) (fresh : row.attemptCount = 0) :
      Surroundings settings world
        (DeliveryCall.handle _ (.autocommit (.execute (.createOutbox row))) world).2
  | administers {world} (rules : List ActionRule) :
      Surroundings settings world { world with db := { world.db with rules } }
  | reroutes {world} (network : Post → Exchange) :
      Surroundings settings world { world with network }

/-- The update of a requeue. -/
inductive Requeues : OutboxWorld → OutboxWorld → Prop where
  | requeues {world} (id : Uuid) :
      Requeues world (DeliveryCall.handle _ (.autocommit (.execute (.updateOutbox id .requeued))) world).2

theorem firstRow_mem {nullsFirst : Bool} {rows : List ActionOutbox} {row : ActionOutbox}
    (first : firstRow nullsFirst rows = some row) : row ∈ rows := by
  induction rows generalizing row with
  | nil => cases first
  | cons head rest ih =>
    rw [firstRow] at first
    rcases found : firstRow nullsFirst rest with _ | other
    · rw [found] at first
      obtain rfl := Option.some.inj first
      exact List.mem_cons_self
    · rw [found] at first
      simp only at first
      split at first
      · exact List.mem_cons_of_mem _ (ih (found.trans first))
      · obtain rfl := Option.some.inj first
        exact List.mem_cons_self

theorem firstRow_isSome {nullsFirst : Bool} {rows : List ActionOutbox} (some : rows ≠ []) :
    (firstRow nullsFirst rows).isSome = true := by
  cases rows with
  | nil => exact (some rfl).elim
  | cons row rows =>
    rw [firstRow]
    cases firstRow nullsFirst rows with
    | none => rfl
    | some other =>
      simp only
      split <;> rfl

/-- A claim takes the first row that it finds. -/
theorem claim_first (settings : ActionsSettings) (now : Time) (view : ClaimView) (world : OutboxWorld) :
    let lease : OutboxColumns :=
      .lockedUntil (some (now + settings.webhookRetryLeaseSeconds * microsecondsPerSecond))
    DeliveryCall.handle _ (.atomic (claimNextPendingOutbox settings now view)) world =
      match firstRow view.nullsFirst
        (world.db.outbox.filter fun row => row.isDue now && !view.locked row.id) with
      | none => (.ok none, world)
      | some row =>
        (.ok (some (row.assign lease)), { world with db := world.db.assign row.id lease }) := by
  have asked := run_select (fun db => firstRow view.nullsFirst
    (db.outbox.filter fun row => row.isDue now && !view.locked row.id)) world
  rcases found : firstRow view.nullsFirst
    (world.db.outbox.filter fun row => row.isDue now && !view.locked row.id) with _ | row
  · rw [DeliveryCall.handle, claimNextPendingOutbox, Prog.run_bind_ok _ asked, found]
    rfl
  · obtain ⟨member, _⟩ := List.mem_filter.mp (firstRow_mem found)
    have present : world.db.outbox.any (·.id = row.id) = true :=
      List.any_eq_true.mpr ⟨row, member, by simp⟩
    have leased : (ActionsChange.saveOutbox row.id (.lockedUntil (some
        (now + settings.webhookRetryLeaseSeconds * microsecondsPerSecond)))).apply world.db = .ok _ :=
      if_pos present
    rw [DeliveryCall.handle, claimNextPendingOutbox, Prog.run_bind_ok _ asked, found]
    simp only
    rw [Prog.run_bind_ok _ (run_execute leased)]
    rfl

/-- A claim leases one due row, or does nothing. -/
theorem claim_ends (settings : ActionsSettings) (now : Time) (view : ClaimView) (world : OutboxWorld) :
    let lease : OutboxColumns :=
      .lockedUntil (some (now + settings.webhookRetryLeaseSeconds * microsecondsPerSecond))
    let ended := DeliveryCall.handle _ (.atomic (claimNextPendingOutbox settings now view)) world
    ended = (.ok none, world) ∨ ∃ row ∈ world.db.outbox, row.isDue now = true ∧
      ended = (.ok (some (row.assign lease)), { world with db := world.db.assign row.id lease }) := by
  have first := claim_first settings now view world
  rcases found : firstRow view.nullsFirst
    (world.db.outbox.filter fun row => row.isDue now && !view.locked row.id) with _ | row
  · rw [found] at first
    exact .inl first
  · rw [found] at first
    obtain ⟨member, due⟩ := List.mem_filter.mp (firstRow_mem found)
    exact .inr ⟨row, member, (Bool.and_eq_true_iff.mp due).1, first⟩

/-- A row is created under a new id. -/
theorem createOutbox_ends {db after : ActionsDb} {row : ActionOutbox}
    (created : (ActionsChange.createOutbox row).apply db = .ok after) :
    (∀ other ∈ db.outbox, other.id ≠ row.id) ∧ after = { db with outbox := db.outbox ++ [row] } := by
  rw [ActionsChange.apply] at created
  split at created
  · cases created
  · next free =>
    obtain ⟨absent, _⟩ := not_or.mp free
    cases created
    refine ⟨fun other member same => ?_, rfl⟩
    exact absent (List.any_eq_true.mpr ⟨other, member, by simpa using same⟩)

theorem isDue_unsettled {now : Time} {row : ActionOutbox} (due : row.isDue now = true) :
    row.status.isFinal = false := by
  simp only [ActionOutbox.isDue, Bool.and_eq_true, Bool.or_eq_true, decide_eq_true_eq] at due
  rcases due.1.1 with pending | failed
  · rw [pending]
    rfl
  · rw [failed]
    rfl

theorem Surroundings.delivers {settings : ActionsSettings} {before after : OutboxWorld}
    (around : Surroundings settings before after) (accounted : before.db.Accounted) :
    Delivers before.db after.db := by
  cases around with
  | claims now view =>
    rcases claim_ends settings now view before with same | ⟨row, member, due, leased⟩
    · rw [same]
      exact .of_same accounted
    · rw [leased]
      refine ⟨accounted.assign row.id fun _ => rfl, .assign _ _ (fun _ => rfl) fun _ => id,
        .assign _ _ fun other stored => ?_⟩
      rw [ActionsDb.row_of_mem accounted member] at stored
      obtain rfl := Option.some.inj stored
      exact isDue_unsettled due
  | passes span => exact .of_same accounted
  | emits row fresh =>
    show Delivers before.db (OutboxStatement.handle _ (.execute (.createOutbox row)) before).2.db
    rw [OutboxStatement.handle]
    rcases applied : (ActionsChange.createOutbox row).apply before.db with error | db
    · exact .of_same accounted
    · obtain ⟨different, rfl⟩ := createOutbox_ends applied
      refine ⟨accounted.insert different fresh, fun id old stored => ?_, fun id old stored _ => ?_⟩
      · exact ⟨old, ActionsDb.row_insert stored row, le_rfl, fun _ unsettled => unsettled⟩
      · exact ⟨ActionsDb.row_insert stored row, rfl⟩
  | administers rules =>
    exact ⟨⟨accounted.ids, accounted.numbers, accounted.owned⟩, .refl before.db, .refl before.db⟩
  | reroutes network => exact .of_same accounted

theorem Requeues.step {before after : OutboxWorld} (requeued : Requeues before after)
    (accounted : before.db.Accounted) : after.db.Accounted ∧ before.db.Evolves after.db := by
  cases requeued with
  | requeues id => exact ⟨accounted.assign id fun _ => rfl, .assign _ id (fun _ => rfl) fun _ _ => rfl⟩

/-! ### The books are kept -/

/-- The deliveries that dispatch and retry runs ask for. -/
def deliveryOf (settings : ActionsSettings) (library : ActionsLibrary) (task : Uuid × Correlation) :
    Delivery (Option ActionOutbox) :=
  deliverOutboxRow settings library task.1 task.2

/-- What deliveries, claims, requeues and time reach. -/
def OutboxReaches (settings : ActionsSettings) (library : ActionsLibrary) :
    Crew DeliveryCall ActionsError OutboxWorld (Uuid × Correlation) (Option ActionOutbox) →
      Crew DeliveryCall ActionsError OutboxWorld (Uuid × Correlation) (Option ActionOutbox) → Prop :=
  Crew.Reaches DeliveryCall.handle (deliveryOf settings library)
    fun before after => Surroundings settings before after ∨ Requeues before after

/-- An outbox without rows. -/
def OutboxWorld.Initial (world : OutboxWorld) : Prop :=
  world.db.outbox = [] ∧ world.db.attempts = []

theorem OutboxWorld.Initial.accounted {world : OutboxWorld} (initial : world.Initial) :
    world.db.Accounted := by
  obtain ⟨rows, attempts⟩ := initial
  constructor <;> simp [rows, attempts]

/-- Attempts are counted and numbered, and no call of a delivery changes a final row. -/
theorem outbox_bookkeeping {settings : ActionsSettings} {library : ActionsLibrary}
    {start crew : Crew DeliveryCall ActionsError OutboxWorld (Uuid × Correlation) (Option ActionOutbox)}
    (initial : start.shared.Initial) (idle : start.threads = [])
    (path : OutboxReaches settings library start crew) :
    (∀ row ∈ crew.shared.db.outbox,
      row.attemptCount = (crew.shared.db.attemptsOf row.id).length ∧
      (crew.shared.db.attemptsOf row.id).map (·.attemptNumber) = List.range' 1 row.attemptCount) ∧
    ∀ thread ∈ crew.threads, ∀ (β : Type) (call : DeliveryCall β) next,
      thread.rest = .call call next →
        crew.shared.db.KeepsFinal (DeliveryCall.handle β call crew.shared).2.db := by
  have alone (task : Uuid × Correlation) (world : OutboxWorld) :
      (deliveryOf settings library task).Relies DeliveryCall.handle (deliveryConduct fun _ _ => True)
        (fun _ _ _ => True) [] world := by
    refine deliverOutboxRow_relies (fun _ _ _ _ => True) (fun _ _ _ => trivial)
      (fun _ _ _ _ _ _ => trivial) (fun first row rule => ?_) (fun _ _ _ _ _ => trivial)
      fun _ _ _ _ _ _ _ _ _ _ _ _ _ _ => trivial
    exact (performDelivery_quiet row rule).relies (fun _ _ _ quiet => quiet.good)
      (fun _ _ _ _ _ => trivial) (fun _ _ _ _ => trivial) trivial
  have around (before after : OutboxWorld)
      (changed : Surroundings settings before after ∨ Requeues before after)
      (accounted : before.db.Accounted) :
      after.db.Accounted ∧ (before.db.Evolves after.db ∧ True) := by
    rcases changed with moved | requeued
    · have delivers := moved.delivers accounted
      exact ⟨delivers.accounted, delivers.evolves, trivial⟩
    · obtain ⟨kept, evolves⟩ := requeued.step accounted
      exact ⟨kept, evolves, trivial⟩
  have kept : crew.shared.db.Accounted ∧ ∀ thread ∈ crew.threads,
      thread.rest.Relies DeliveryCall.handle (deliveryConduct fun _ _ => True) (fun _ _ _ => True)
        thread.log crew.shared :=
    Crew.Reaches.relies (deliveryConduct fun _ _ => True) (fun world => ⟨.refl world.db, trivial⟩)
      (fun left right => ⟨left.1.trans right.1, trivial⟩)
      (fun _ _ _ good _ => ⟨good.accounted, good.evolves, trivial⟩) around
      (fun _ _ _ _ _ _ => id) alone idle initial.accounted path
  obtain ⟨accounted, running⟩ := kept
  refine ⟨fun row member => ?_, fun thread member β call next waiting => ?_⟩
  · exact ⟨(accounted.length (ActionsDb.row_of_mem accounted member)).symm, accounted.numbers row member⟩
  · have relies := running thread member
    rw [waiting] at relies
    exact (relies crew.shared accounted ⟨.refl _, trivial⟩).1.keepsFinal

/-! An outbox in which the row of one webhook is emitted and then delivered. -/

def hookStart : OutboxWorld := { answeringWorld (plainAnswer 503) with db := ⟨[hookRule], [], []⟩ }

def hookEmitted : OutboxWorld :=
  (DeliveryCall.handle _ (.autocommit (.execute (.createOutbox hookRow))) hookStart).2

def hookTask : Uuid × Correlation := (hookRow.id, ⟨.dispatch, none⟩)

def hookThread : Thread DeliveryCall ActionsError OutboxWorld (Uuid × Correlation) (Option ActionOutbox) :=
  ⟨hookTask, deliveryOf mailSettings plainLibrary hookTask, []⟩

/-- The thread of the delivery and the world, after some of its calls. -/
def hookDelivered (calls : Nat) :
    Thread DeliveryCall ActionsError OutboxWorld (Uuid × Correlation) (Option ActionOutbox) × OutboxWorld :=
  hookThread.after DeliveryCall.handle calls hookEmitted

theorem hookDelivered_reached (calls : Nat) :
    OutboxReaches mailSettings plainLibrary ⟨hookStart, []⟩
      ⟨(hookDelivered calls).2, [(hookDelivered calls).1]⟩ :=
  .head (.change _ (.inl (.emits hookRow rfl)))
    (.head (.arrive hookTask) (Crew.Reaches.after calls hookThread hookEmitted [] []))

/-- A retry of the row, which succeeds while the dispatch waits to record its failure. -/
def retryTask : Uuid × Correlation := (hookRow.id, ⟨.automaticRetry, none⟩)

def hookRetried :
    Thread DeliveryCall ActionsError OutboxWorld (Uuid × Correlation) (Option ActionOutbox) × OutboxWorld :=
  Thread.after DeliveryCall.handle 9 ⟨retryTask, deliveryOf mailSettings plainLibrary retryTask, []⟩
    { (hookDelivered 3).2 with network := fun _ => .answered (plainAnswer 204) }

def hookOvertaken :
    Crew DeliveryCall ActionsError OutboxWorld (Uuid × Correlation) (Option ActionOutbox) :=
  ⟨hookRetried.2, [hookRetried.1, (hookDelivered 3).1]⟩

theorem hookOvertaken_reached : OutboxReaches mailSettings plainLibrary ⟨hookStart, []⟩ hookOvertaken :=
  (hookDelivered_reached 3).trans
    (.head (.change _ (.inl (.reroutes _))) (Crew.Reaches.joins retryTask 9 _ _))

theorem outbox_bookkeeping_overtaken :
    (hookOvertaken.shared.db.outbox.map fun row => (row.status, row.attemptCount)) =
        [(.delivered, 1)] ∧
    (∀ row ∈ hookOvertaken.shared.db.outbox,
      row.attemptCount = (hookOvertaken.shared.db.attemptsOf row.id).length ∧
      (hookOvertaken.shared.db.attemptsOf row.id).map (·.attemptNumber) =
        List.range' 1 row.attemptCount) ∧
    ∀ thread ∈ hookOvertaken.threads, ∀ (β : Type) (call : DeliveryCall β) next,
      thread.rest = .call call next → hookOvertaken.shared.db.KeepsFinal
        (DeliveryCall.handle β call hookOvertaken.shared).2.db :=
  ⟨by decide +kernel, outbox_bookkeeping ⟨rfl, rfl⟩ rfl hookOvertaken_reached⟩

end HostingService
