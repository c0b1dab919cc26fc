import HostingService.Actions.Bookkeeping

/-! How many attempts an outbox row can get: as many as the settings allow, and one more for each
time that it is requeued, however deliveries, claims and requeues interleave. -/

namespace HostingService

open Program Text Storage OutboxTransaction

/-- The attempts of a row that nobody requeues. -/
def attemptLimit (settings : ActionsSettings) : Nat := max 1 settings.outboxMaxAttempts.toNat

/-- No row has more attempts than it may, and an open row has one left. -/
def ActionsDb.Within (settings : ActionsSettings) (requeues : Uuid → Nat) (db : ActionsDb) : Prop :=
  ∀ row ∈ db.outbox, row.attemptCount ≤ attemptLimit settings + requeues row.id ∧
    (row.status.isFinal = false → row.attemptCount < attemptLimit settings + requeues row.id)

/-- What a call of a delivery spends: nothing, or one attempt of an open row. -/
inductive Spends (settings : ActionsSettings) (before after : ActionsDb) : Prop where
  | keeps (same : after = before)
  | records (row : ActionOutbox) (attempt : DeliveryAttempt) (columns : OutboxColumns)
      (stored : before.row row.id = some row) (unsettled : row.status.isFinal = false)
      (own : attempt.outbox = row.id)
      (counted : ∀ other : ActionOutbox, (other.assign columns).attemptCount = row.attemptCount + 1)
      (spent : ∀ other : ActionOutbox, (other.assign columns).status.isFinal = false →
        row.attemptCount + 1 < attemptLimit settings)
      (same : after = before.record attempt columns)

section
variable {settings : ActionsSettings} {library : ActionsLibrary}

/-- A result leaves its row open only while the limit is not reached. -/
theorem Outcome.columns_spent (outcome : Outcome) (row other : ActionOutbox)
    (retryAfterSeconds : Option Int) (now : Time)
    (unsettled : (other.assign (outcome.columns settings row retryAfterSeconds now)).status.isFinal =
      false) : row.attemptCount + 1 < attemptLimit settings := by
  simp only [Outcome.columns] at unsettled
  split at unsettled
  · contradiction
  · split at unsettled
    · contradiction
    · next retried =>
      simp only [Bool.or_eq_true, not_or, decide_eq_true_eq] at retried
      have below := retried.2
      rw [attemptLimit]
      omega

/-- A row that is not there has no attempts. -/
theorem ActionsDb.Accounted.attemptsOf_gone {db : ActionsDb} (accounted : db.Accounted) {id : Uuid}
    (gone : db.row id = none) : db.attemptsOf id = [] := by
  refine List.filter_eq_nil_iff.mpr fun attempt member own => ?_
  obtain ⟨row, present, same⟩ := accounted.owned attempt member
  rw [of_decide_eq_true own] at same
  have stored := ActionsDb.row_of_mem accounted present
  rw [same, gone] at stored
  cases stored

/-! ### The step of each writer -/

theorem ActionsDb.Within.assign {requeues : Uuid → Nat} {db : ActionsDb} {id : Uuid}
    {columns : OutboxColumns} (within : db.Within settings requeues)
    (kept : ∀ row : ActionOutbox, (row.assign columns).attemptCount = row.attemptCount)
    (opened : ∀ row ∈ db.outbox, row.id = id → (row.assign columns).status.isFinal = false →
      row.status.isFinal = false) : (db.assign id columns).Within settings requeues := by
  intro row member
  obtain ⟨old, present, rfl⟩ := List.mem_map.mp member
  obtain ⟨few, left⟩ := within old present
  split
  · next own =>
    rw [ActionOutbox.assign_id, kept]
    exact ⟨few, fun unsettled => left (opened old present own unsettled)⟩
  · exact ⟨few, left⟩

/-- A requeue may open a row that has used up its attempts: it brings one more. -/
theorem ActionsDb.Within.requeue {requeues : Uuid → Nat} {db : ActionsDb}
    (within : db.Within settings requeues) (id : Uuid) :
    (db.assign id .requeued).Within settings (Function.update requeues id (requeues id + 1)) := by
  intro row member
  obtain ⟨old, present, rfl⟩ := List.mem_map.mp member
  obtain ⟨few, left⟩ := within old present
  by_cases own : old.id = id
  · simp only [if_pos own, ActionOutbox.assign_id]
    subst own
    rw [Function.update_self]
    have kept : (old.assign .requeued).attemptCount = old.attemptCount := rfl
    rw [kept]
    exact ⟨by omega, fun _ => by omega⟩
  · simp only [if_neg own]
    rw [Function.update_of_ne own]
    exact ⟨few, left⟩

theorem Spends.within {requeues : Uuid → Nat} {before after : ActionsDb}
    (spends : Spends settings before after) (within : before.Within settings requeues) :
    after.Within settings requeues := by
  cases spends with
  | keeps same =>
    subst same
    exact within
  | records row attempt columns stored unsettled own counted spent same =>
    subst same
    have room := (within row (ActionsDb.row_mem stored).1).2 unsettled
    intro other member
    obtain ⟨old, present, rfl⟩ := List.mem_map.mp member
    split
    · next same =>
      rw [ActionOutbox.assign_id, counted, same, own]
      refine ⟨room, fun still => ?_⟩
      have below := spent old still
      omega
    · exact within old present

theorem Surroundings.within {requeues : Uuid → Nat} {before after : OutboxWorld}
    (around : Surroundings settings before after) (within : before.db.Within settings requeues) :
    after.db.Within settings requeues := by
  cases around with
  | claims now view =>
    rcases claim_ends settings now view before with same | ⟨row, member, due, leased⟩
    · rw [same]
      exact within
    · rw [leased]
      exact within.assign (fun _ => rfl) fun _ _ _ unsettled => unsettled
  | passes span => exact within
  | emits row fresh =>
    show ((OutboxStatement.handle _ (.execute (.createOutbox row)) before).2.db).Within settings requeues
    rw [OutboxStatement.handle]
    rcases applied : (ActionsChange.createOutbox row).apply before.db with error | db
    · exact within
    · obtain ⟨different, rfl⟩ := createOutbox_ends applied
      intro other member
      rcases List.mem_append.mp member with old | new
      · exact within other old
      · obtain rfl := List.mem_singleton.mp new
        have room : 0 < attemptLimit settings := by
          rw [attemptLimit]
          omega
        rw [fresh]
        exact ⟨by omega, fun _ => by omega⟩
  | administers rules => exact within
  | reroutes network => exact within

/-! ### A delivery spends at most one attempt of an open row -/

/-- The conduct of deliveries that spend what they record. -/
def spendingConduct (settings : ActionsSettings) : Conduct DeliveryCall OutboxWorld where
  holds world := world.db.Accounted
  evolves before after := before.db.Evolves after.db
  good _ call world := Delivers world.db (call.handle _ world).2.db ∧
    Spends settings world.db (call.handle _ world).2.db

theorem Quiet.spending {β : Type} {call : DeliveryCall β} (quiet : Quiet β call) {world : OutboxWorld}
    (accounted : world.db.Accounted) : (spendingConduct settings).good β call world := by
  show Delivers world.db (DeliveryCall.handle β call world).2.db ∧
    Spends settings world.db (DeliveryCall.handle β call world).2.db
  rw [quiet world]
  exact ⟨.of_same accounted, .keeps rfl⟩

theorem recordResult_spending {id : Uuid} {count : Nat} {terminalError : Option PyStr} {success : Bool}
    {found : AttemptMeta} {correlation : Correlation} {world : OutboxWorld}
    (accounted : world.db.Accounted) (opened : OpenAt id count world.db) :
    (spendingConduct settings).good _
      (.atomic (recordResult settings id count terminalError success found correlation)) world := by
  have recorded : Recorded id count (success && terminalError.isNone) world.db (DeliveryCall.handle _
      (.atomic (recordResult settings id count terminalError success found correlation)) world).2.db :=
    recordResult_recorded opened
  refine ⟨recorded.delivers accounted, ?_⟩
  obtain ⟨row, stored, ⟨_, same⟩ | ⟨_, unsettled, same⟩⟩ :=
    @recordResult_ends settings world id count terminalError success found correlation opened
  · exact .keeps same
  · obtain ⟨member, rfl⟩ := ActionsDb.row_mem stored
    exact .records row _ _ stored unsettled rfl (fun other => columns_attemptCount ..)
      (fun other unsettled => Outcome.columns_spent _ row other _ _ unsettled) same

theorem resultOf_spending {id : Uuid} {count : Nat} {terminalError : Option PyStr} {success : Bool}
    {found : AttemptMeta} {correlation : Correlation} {log : List (Entry DeliveryCall OutboxWorld)}
    {world : OutboxWorld} (opened : OpenAt id count world.db) :
    (Delivery.atomic (recordResult settings id count terminalError success found correlation) >>=
      fun after => .ret (some after)).Relies DeliveryCall.handle (spendingConduct settings)
        (fun _ _ _ => True) log world :=
  Prog.relies_perform_bind fun _ accounted evolved =>
    ⟨recordResult_spending accounted (opened.evolves evolved), fun _ _ => trivial, fun _ _ => trivial⟩

theorem performDelivery_spending (row : ActionOutbox) (rule : Option ActionRule) {id : Uuid}
    {count : Nat} {log : List (Entry DeliveryCall OutboxWorld)} {world : OutboxWorld}
    (opened : OpenAt id count world.db) :
    (performDelivery settings library row rule).Relies DeliveryCall.handle (spendingConduct settings)
      (fun _ _ after => OpenAt id count after.db) log world := by
  refine (performDelivery_quiet row rule).relies (fun _ _ _ quiet => quiet.spending)
    (fun _ _ state quiet now => ?_) (fun _ _ evolved now => now.evolves evolved) opened
  rw [quiet state]
  exact now

theorem deliverOutboxRow_spending (id : Uuid) (correlation : Correlation) (world : OutboxWorld) :
    (deliverOutboxRow settings library id correlation).Relies DeliveryCall.handle
      (spendingConduct settings) (fun _ _ _ => True) [] world := by
  refine Prog.relies_perform_bind fun first accounted _ => ?_
  have quiet : Quiet _ (.atomic (takeSnapshot id)) := quiet_atomic (takeSnapshot_reads id)
  refine ⟨quiet.spending accounted, fun found taken => ?_, fun _ _ => trivial⟩
  rw [quiet first]
  cases found with
  | missing => trivial
  | final row => trivial
  | taken row rule terminalError =>
    obtain ⟨stored, unsettled⟩ := takeSnapshot_taken taken
    have opened : OpenAt id row.attemptCount first.db := ⟨row, stored, le_rfl, fun _ => unsettled⟩
    cases terminalError with
    | some error => exact resultOf_spending opened
    | none =>
      refine (performDelivery_spending row rule opened).bind (fun _ _ _ _ => trivial) ?_
      rintro log ⟨success, found⟩ middle still
      exact resultOf_spending still

/-! ### Runs that count the requeues -/

/-- Deliveries, claims, requeues and time, with the requeues of each row counted. -/
inductive OutboxRuns (settings : ActionsSettings) (library : ActionsLibrary)
    (start : Crew DeliveryCall ActionsError OutboxWorld (Uuid × Correlation) (Option ActionOutbox)) :
    (Uuid → Nat) →
      Crew DeliveryCall ActionsError OutboxWorld (Uuid × Correlation) (Option ActionOutbox) → Prop where
  | begins : OutboxRuns settings library start (fun _ => 0) start
  | steps {requeues crew after} (run : OutboxRuns settings library start requeues crew)
      (step : Crew.Step DeliveryCall.handle (deliveryOf settings library) (Surroundings settings)
        crew after) : OutboxRuns settings library start requeues after
  | requeues {requeues world threads} (run : OutboxRuns settings library start requeues ⟨world, threads⟩)
      (id : Uuid) : OutboxRuns settings library start (Function.update requeues id (requeues id + 1))
        ⟨(DeliveryCall.handle _ (.autocommit (.execute (.updateOutbox id .requeued))) world).2, threads⟩

variable {start crew : Crew DeliveryCall ActionsError OutboxWorld (Uuid × Correlation)
  (Option ActionOutbox)} {requeues : Uuid → Nat}

/-- Counting leaves no run out. -/
theorem OutboxReaches.counted (path : OutboxReaches settings library start crew) :
    ∃ requeues, OutboxRuns settings library start requeues crew := by
  induction path with
  | refl => exact ⟨_, .begins⟩
  | tail _ last ih =>
    obtain ⟨requeues, run⟩ := ih
    cases last with
    | arrive task => exact ⟨requeues, .steps run (.arrive task)⟩
    | advance op next log => exact ⟨requeues, .steps run (.advance op next log)⟩
    | change later changed =>
      rcases changed with around | requeued
      · exact ⟨requeues, .steps run (.change later around)⟩
      · cases requeued
        exact ⟨_, .requeues run _⟩

theorem OutboxRuns.reaches {after : Crew DeliveryCall ActionsError OutboxWorld (Uuid × Correlation)
      (Option ActionOutbox)} (run : OutboxRuns settings library start requeues crew)
    (path : Crew.Reaches DeliveryCall.handle (deliveryOf settings library) (Surroundings settings)
      crew after) : OutboxRuns settings library start requeues after := by
  induction path with
  | refl => exact run
  | tail _ last ih => exact .steps ih last

/-- One step of deliveries and of what happens around them. -/
theorem step_within {before after : Crew DeliveryCall ActionsError OutboxWorld (Uuid × Correlation)
      (Option ActionOutbox)}
    (step : Crew.Step DeliveryCall.handle (deliveryOf settings library) (Surroundings settings)
      before after)
    (relying : before.Relying DeliveryCall.handle (spendingConduct settings) fun _ _ _ _ => True)
    (within : before.shared.db.Within settings requeues) :
    after.shared.db.Within settings requeues := by
  cases step with
  | arrive task => exact within
  | change later around => exact around.within within
  | @advance shared left right task β op next log =>
    have good : (spendingConduct settings).good β op shared :=
      relying.good (fun world => .refl world.db) (mem_middle.mpr (.inl rfl)) rfl
    exact good.2.within within

theorem OutboxRuns.within (initial : start.shared.Initial) (idle : start.threads = [])
    (run : OutboxRuns settings library start requeues crew) :
    crew.Relying DeliveryCall.handle (spendingConduct settings) (fun _ _ _ _ => True) ∧
      crew.shared.db.Within settings requeues := by
  induction run with
  | begins =>
    refine ⟨⟨initial.accounted, fun thread member => ?_⟩, fun row member => ?_⟩
    · simp [idle] at member
    · simp [initial.1] at member
  | steps _ step ih =>
    obtain ⟨relying, within⟩ := ih
    refine ⟨?_, step_within step relying within⟩
    exact step.relying (spendingConduct settings) (fun world => .refl world.db)
      (fun left right => left.trans right) (fun _ _ _ good _ => ⟨good.1.accounted, good.1.evolves⟩)
      (fun _ _ around accounted => ⟨(around.delivers accounted).accounted,
        (around.delivers accounted).evolves⟩)
      (fun _ _ _ _ _ _ => id) (fun task => deliverOutboxRow_spending task.1 task.2) relying
  | @requeues requeues world threads _ id ih =>
    obtain ⟨⟨accounted, running⟩, within⟩ := ih
    obtain ⟨kept, evolves⟩ := (Requeues.requeues id).step accounted
    refine ⟨⟨kept, fun thread member => ?_⟩, within.requeue id⟩
    exact (running thread member).later (fun left right => left.trans right) (fun _ _ now => now) evolves

/-- A row gets the attempts that the settings allow and one for each requeue, whatever the order
of deliveries, claims and requeues; an open row has not used all of them. -/
theorem attempts_limited (initial : start.shared.Initial) (idle : start.threads = [])
    (run : OutboxRuns settings library start requeues crew) (id : Uuid) :
    (crew.shared.db.attemptsOf id).length ≤ attemptLimit settings + requeues id ∧
      ∀ row, crew.shared.db.row id = some row → row.status.isFinal = false →
        (crew.shared.db.attemptsOf id).length < attemptLimit settings + requeues id := by
  obtain ⟨⟨accounted, _⟩, within⟩ := run.within initial idle
  rcases stored : crew.shared.db.row id with _ | row
  · have empty : crew.shared.db.attemptsOf id = [] := accounted.attemptsOf_gone stored
    simp [empty]
  · obtain ⟨member, rfl⟩ := ActionsDb.row_mem stored
    obtain ⟨few, left⟩ := within row member
    rw [accounted.length stored]
    refine ⟨few, fun other same unsettled => ?_⟩
    obtain rfl := Option.some.inj same
    exact left unsettled

end

/-! One attempt a row is allowed: it fails, the row is requeued, and the next one fails too. -/

def onceSettings : ActionsSettings := { mailSettings with outboxMaxAttempts := 1 }

def onceAttempted (world : OutboxWorld) :
    Thread DeliveryCall ActionsError OutboxWorld (Uuid × Correlation) (Option ActionOutbox) × OutboxWorld :=
  Thread.after DeliveryCall.handle 9 ⟨hookTask, deliveryOf onceSettings plainLibrary hookTask, []⟩ world

def onceRequeued : OutboxWorld :=
  (DeliveryCall.handle _ (.autocommit (.execute (.updateOutbox hookRow.id .requeued)))
    (onceAttempted hookEmitted).2).2

theorem onceRequeued_run : OutboxRuns onceSettings plainLibrary ⟨hookStart, []⟩
    (Function.update (fun _ => 0) hookRow.id 1)
    ⟨(onceAttempted onceRequeued).2, [(onceAttempted onceRequeued).1, (onceAttempted hookEmitted).1]⟩ := by
  have emitted : OutboxRuns onceSettings plainLibrary ⟨hookStart, []⟩ (fun _ => 0) ⟨hookEmitted, []⟩ :=
    .steps .begins (.change _ (.emits hookRow rfl))
  have attempted : OutboxRuns onceSettings plainLibrary ⟨hookStart, []⟩ (fun _ => 0)
      ⟨(onceAttempted hookEmitted).2, [(onceAttempted hookEmitted).1]⟩ :=
    emitted.reaches (Crew.Reaches.joins hookTask 9 hookEmitted [])
  exact (OutboxRuns.requeues attempted hookRow.id).reaches
    (Crew.Reaches.joins hookTask 9 onceRequeued [(onceAttempted hookEmitted).1])

theorem attempts_limited_once :
    ((onceAttempted onceRequeued).2.db.attemptsOf hookRow.id).length ≤
        attemptLimit onceSettings + Function.update (fun _ => 0) hookRow.id 1 hookRow.id ∧
      ∀ row, (onceAttempted onceRequeued).2.db.row hookRow.id = some row → row.status.isFinal = false →
        ((onceAttempted onceRequeued).2.db.attemptsOf hookRow.id).length <
          attemptLimit onceSettings + Function.update (fun _ => 0) hookRow.id 1 hookRow.id :=
  attempts_limited ⟨rfl, rfl⟩ rfl onceRequeued_run hookRow.id

example : ((onceAttempted onceRequeued).2.db.attemptsOf hookRow.id).length = 2 := by
  decide +kernel

end HostingService
