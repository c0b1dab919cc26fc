import HostingService.Actions.Retention

/-! What purges delete while deliveries, claims, requeues and events go on. -/

namespace HostingService

open Program Text OutboxTransaction

/-! ### Changes of the outbox that delete nothing -/

/-- Rows are rewritten in place. -/
def ActionsDb.Rewrites (before after : ActionsDb) : Prop :=
  ∃ change : ActionOutbox → ActionOutbox, (∀ row, (change row).id = row.id) ∧
    (∀ row, (change row).createdAt = row.createdAt ∧ (change row).deliveryKind = row.deliveryKind) ∧
      after.outbox = before.outbox.map change

namespace ActionsDb

theorem Rewrites.refl (db : ActionsDb) : db.Rewrites db :=
  ⟨id, fun _ => rfl, fun _ => ⟨rfl, rfl⟩, (List.map_id db.outbox).symm⟩

theorem Rewrites.assign (db : ActionsDb) (id : Uuid) (columns : OutboxColumns) :
    db.Rewrites (db.assign id columns) := by
  refine ⟨fun row => if row.id = id then row.assign columns else row, fun row => ?_, fun row => ?_, rfl⟩
  · simp only
    split <;> simp
  · simp only
    split
    · cases columns <;> exact ⟨rfl, rfl⟩
    · exact ⟨rfl, rfl⟩

theorem Rewrites.row {before after : ActionsDb} (rewrites : before.Rewrites after) {id : Uuid}
    {later : ActionOutbox} (stored : after.row id = some later) :
    ∃ row, before.row id = some row ∧ later.createdAt = row.createdAt ∧
      later.deliveryKind = row.deliveryKind := by
  obtain ⟨change, ids, kept, same⟩ := rewrites
  rw [ActionsDb.row, same, List.find?_map] at stored
  have found : (fun row => decide (row.id = id)) ∘ change = fun row => decide (row.id = id) := by
    funext row
    simp [ids]
  rw [found] at stored
  obtain ⟨row, found, rfl⟩ := Option.map_eq_some_iff.mp stored
  exact ⟨row, found, kept row⟩

theorem Rewrites.stays {before after : ActionsDb} (rewrites : before.Rewrites after)
    {row : ActionOutbox} (member : row ∈ before.outbox) : ∃ later ∈ after.outbox, later.id = row.id := by
  obtain ⟨change, ids, _, same⟩ := rewrites
  exact ⟨change row, same ▸ List.mem_map_of_mem member, ids row⟩

/-- Whatever is stored under the id is delivered or dead. -/
def Settled (db : ActionsDb) (id : Uuid) : Prop :=
  ∀ row, db.row id = some row → row.status.isFinal = true

/-- A change that deletes nothing, and unsettles at most the row that it requeues. -/
structure Moves (before after : ActionsDb) (requeued : Option Uuid) : Prop where
  accounted : after.Accounted
  evolves : before.Evolves after
  rewrites : before.Rewrites after
  settled : ∀ id, (requeued = some id → before.row id = none) → before.Settled id → after.Settled id

theorem Moves.of_delivers {before after : ActionsDb} (delivers : Delivers before after)
    (rewrites : before.Rewrites after) (requeued : Option Uuid) : before.Moves after requeued where
  accounted := delivers.accounted
  evolves := delivers.evolves
  rewrites := rewrites
  settled id _ settled later stored := by
    obtain ⟨row, found, _⟩ := rewrites.row stored
    obtain ⟨kept, _⟩ := delivers.keepsFinal id row found (settled row found)
    obtain rfl := Option.some.inj (kept.symm.trans stored)
    exact settled row found

theorem Moves.requeue {db : ActionsDb} (accounted : db.Accounted) (id : Uuid) :
    db.Moves (db.assign id .requeued) (some id) where
  accounted := accounted.assign id fun _ => rfl
  evolves := .assign _ id (fun _ => rfl) fun _ _ => rfl
  rewrites := .assign db id .requeued
  settled other spared settled later stored := by
    rw [row_assign] at stored
    obtain ⟨row, found, rfl⟩ := Option.map_eq_some_iff.mp stored
    have different : row.id ≠ id := by
      intro same
      have key : id = other := by rw [← same, (row_mem found).2]
      rw [spared (congrArg some key)] at found
      cases found
    rw [if_neg different]
    exact settled row found

theorem row_deleteOutbox (db : ActionsDb) (ids : List Uuid) (id : Uuid) :
    (db.deleteOutbox ids).row id = if id ∈ ids then none else db.row id := by
  show (db.outbox.filter _).find? _ = _
  rw [List.find?_filter]
  by_cases doomed : id ∈ ids
  · rw [if_pos doomed]
    refine List.find?_eq_none.mpr fun row _ => ?_
    by_cases same : row.id = id <;> simp [same, doomed]
  · rw [if_neg doomed]
    refine congrArg (fun test => db.outbox.find? test) (funext fun row => ?_)
    by_cases same : row.id = id <;> simp [same, doomed]

theorem Accounted.deleteOutbox {db : ActionsDb} (accounted : db.Accounted) (ids : List Uuid) :
    (db.deleteOutbox ids).Accounted where
  ids := accounted.ids.sublist (List.filter_sublist.map _)
  numbers row member := by
    obtain ⟨present, spared⟩ := List.mem_filter.mp member
    have same : (db.deleteOutbox ids).attemptsOf row.id = db.attemptsOf row.id := by
      rw [attemptsOf, attemptsOf, ActionsDb.deleteOutbox, List.filter_filter]
      refine List.filter_congr fun attempt _ => ?_
      by_cases own : attempt.outbox = row.id
      · simpa [own] using spared
      · simp [own]
    rw [same]
    exact accounted.numbers row present
  owned attempt member := by
    obtain ⟨present, spared⟩ := List.mem_filter.mp member
    obtain ⟨row, stored, same⟩ := accounted.owned attempt present
    exact ⟨row, List.mem_filter.mpr ⟨stored, by simpa [same] using spared⟩, same⟩

end ActionsDb

theorem Recorded.rewrites {id : Uuid} {count : Nat} {success : Bool} {before after : ActionsDb}
    (recorded : Recorded id count success before after) : before.Rewrites after := by
  cases recorded with
  | dropped row stored overtaken same => exact same ▸ .refl before
  | saved row attempt columns stored current unsettled own next counted delivered same =>
    exact same ▸ ActionsDb.Rewrites.assign
      ({ before with attempts := before.attempts ++ [attempt] }) attempt.outbox columns

theorem claim_rewrites (settings : ActionsSettings) (now : Time) (view : ClaimView)
    (world : OutboxWorld) : world.db.Rewrites (DeliveryCall.handle _
      (.atomic (claimNextPendingOutbox settings now view)) world).2.db := by
  rcases claim_ends settings now view world with same | ⟨row, member, due, leased⟩
  · rw [same]
    exact .refl world.db
  · rw [leased]
    exact .assign world.db row.id _

/-! ### How the tables evolve -/

/-- What may become of a row. -/
structure ActionOutbox.Becomes (row later : ActionOutbox) : Prop where
  createdAt : later.createdAt = row.createdAt
  deliveryKind : later.deliveryKind = row.deliveryKind
  attemptCount : row.attemptCount ≤ later.attemptCount
  opened : later.attemptCount = row.attemptCount → row.status.isFinal = false →
    later.status.isFinal = false

theorem ActionOutbox.Becomes.trans {first second third : ActionOutbox}
    (left : first.Becomes second) (right : second.Becomes third) : first.Becomes third where
  createdAt := right.createdAt.trans left.createdAt
  deliveryKind := right.deliveryKind.trans left.deliveryKind
  attemptCount := left.attemptCount.trans right.attemptCount
  opened same unsettled := by
    have grown := left.attemptCount
    have further := right.attemptCount
    exact right.opened (by omega) (left.opened (by omega) unsettled)

namespace RetentionWorld

/-- Attempts are counted, and the ids of the rows are known to have been used. -/
structure Sound (world : RetentionWorld) : Prop where
  accounted : world.outbox.db.Accounted
  issued : ∀ row ∈ world.outbox.db.outbox, row.id ∈ world.issued

/-- Time passes, rows that are gone do not come back, and whatever is new has the time of now. -/
structure Evolves (before after : RetentionWorld) : Prop where
  clock : before.outbox.clock ≤ after.outbox.clock
  issued : ∀ id ∈ before.issued, id ∈ after.issued
  rows : ∀ id ∈ before.issued, ∀ later, after.row id = some later →
    ∃ row, before.row id = some row ∧ row.Becomes later
  events : ∀ event ∈ after.events, event ∈ before.events ∨ before.outbox.clock ≤ event.createdAt
  jobRuns : ∀ run ∈ after.jobRuns, (∃ old ∈ before.jobRuns, old.startedAt = run.startedAt) ∨
    before.outbox.clock ≤ run.startedAt

theorem Evolves.refl (world : RetentionWorld) : world.Evolves world where
  clock := le_rfl
  issued _ := id
  rows _ _ later stored := ⟨later, stored, rfl, rfl, le_rfl, fun _ unsettled => unsettled⟩
  events _ := .inl
  jobRuns run member := .inl ⟨run, member, rfl⟩

theorem Evolves.trans {first second third : RetentionWorld} (left : first.Evolves second)
    (right : second.Evolves third) : first.Evolves third where
  clock := left.clock.trans right.clock
  issued id member := right.issued id (left.issued id member)
  rows id member later stored := by
    obtain ⟨middle, found, further⟩ := right.rows id (left.issued id member) later stored
    obtain ⟨row, present, became⟩ := left.rows id member middle found
    exact ⟨row, present, became.trans further⟩
  events event member := by
    rcases right.events event member with old | new
    · exact left.events event old
    · exact .inr (left.clock.trans new)
  jobRuns run member := by
    rcases right.jobRuns run member with ⟨old, present, same⟩ | new
    · rw [← same]
      exact left.jobRuns old present
    · exact .inr (left.clock.trans new)

/-- A change of the outbox alone that deletes nothing. -/
theorem Evolves.of_moves {world : RetentionWorld} {outbox : OutboxWorld} {requeued : Option Uuid}
    (moves : world.outbox.db.Moves outbox.db requeued) (clock : outbox.clock = world.outbox.clock) :
    world.Evolves { world with outbox } where
  clock := clock.ge
  issued _ := id
  rows id _ later stored := by
    obtain ⟨row, found, dated, kind⟩ := moves.rewrites.row stored
    obtain ⟨other, present, grown, opened⟩ := moves.evolves id row found
    obtain rfl : other = later := Option.some.inj (present.symm.trans stored)
    exact ⟨row, found, dated, kind, grown, opened⟩
  events _ := .inl
  jobRuns run member := .inl ⟨run, member, rfl⟩

theorem Sound.of_moves {world : RetentionWorld} {outbox : OutboxWorld} {requeued : Option Uuid}
    (sound : world.Sound) (moves : world.outbox.db.Moves outbox.db requeued) :
    Sound { world with outbox } where
  accounted := moves.accounted
  issued row member := by
    obtain ⟨old, found, _⟩ := moves.rewrites.row (ActionsDb.row_of_mem moves.accounted member)
    obtain ⟨present, same⟩ := ActionsDb.row_mem found
    exact same ▸ sound.issued old present

theorem Sound.deleted {world : RetentionWorld} (sound : world.Sound) (table : PurgeTable)
    (ids : List table.Key) : (world.delete table ids).Sound := by
  cases table with
  | events => exact ⟨sound.accounted, sound.issued⟩
  | jobRuns => exact ⟨sound.accounted, sound.issued⟩
  | deliveries kind =>
    refine ⟨sound.accounted.deleteOutbox ids, fun row member => ?_⟩
    exact sound.issued row (List.mem_of_mem_filter member)

theorem Evolves.deleted (world : RetentionWorld) (table : PurgeTable) (ids : List table.Key) :
    world.Evolves (world.delete table ids) := by
  have same := Evolves.refl world
  cases table with
  | events =>
    exact { same with events := fun event member => .inl (List.mem_of_mem_filter member) }
  | jobRuns =>
    exact { same with
      jobRuns := fun run member => .inl ⟨run, List.mem_of_mem_filter member, rfl⟩ }
  | deliveries kind =>
    refine { same with rows := fun id _ later stored => ⟨later, ?_, rfl, rfl, le_rfl, fun _ unsettled => unsettled⟩ }
    have spared := world.outbox.db.row_deleteOutbox ids id
    split at spared
    · exact absurd (stored.symm.trans spared) (by simp)
    · exact spared.symm.trans stored

end RetentionWorld

/-! ### The conduct of the threads -/

/-- The row that the call requeues. -/
def RetentionCall.requeues : ∀ {β : Type}, RetentionCall β → Option Uuid
  | _, .delivery (.autocommit (.execute (.updateOutbox id .requeued))) => some id
  | _, _ => none

/-- The rows of the outbox that the call deletes. -/
def RetentionCall.deletes : ∀ {β : Type}, RetentionCall β → List Uuid
  | _, .delete (.deliveries _) ids => ids
  | _, _ => []

structure Retains (before after : RetentionWorld) (requeued : Option Uuid) (deleted : List Uuid) :
    Prop where
  sound : after.Sound
  evolves : before.Evolves after
  settled : ∀ id, (requeued = some id → before.row id = none) → before.outbox.db.Settled id →
    after.outbox.db.Settled id
  stays : ∀ row ∈ before.outbox.db.outbox, row.id ∉ deleted →
    ∃ later ∈ after.outbox.db.outbox, later.id = row.id

def retentionConduct : Conduct RetentionCall RetentionWorld where
  holds := RetentionWorld.Sound
  evolves := RetentionWorld.Evolves
  good _ call world := Retains world (call.handle _ world).2 call.requeues call.deletes

section
variable {settings : ActionsSettings} {library : ActionsLibrary}
  {log : List (Entry RetentionCall RetentionWorld)} {world : RetentionWorld}

theorem Retains.of_same (sound : world.Sound) (requeued : Option Uuid) (deleted : List Uuid) :
    Retains world world requeued deleted :=
  ⟨sound, .refl world, fun _ _ settled => settled, fun row member _ => ⟨row, member, rfl⟩⟩

theorem retains_delete (sound : world.Sound) (table : PurgeTable) (ids : List table.Key) :
    retentionConduct.good _ (.delete table ids) world := by
  refine ⟨sound.deleted table ids, .deleted world table ids, ?_, ?_⟩
  · intro id _ settled row stored
    cases table with
    | events => exact settled row stored
    | jobRuns => exact settled row stored
    | deliveries kind =>
      have spared := world.outbox.db.row_deleteOutbox ids id
      split at spared
      · exact absurd (stored.symm.trans spared) (by simp)
      · exact settled row (spared.symm.trans stored)
  · intro row member spared
    cases table with
    | events => exact ⟨row, member, rfl⟩
    | jobRuns => exact ⟨row, member, rfl⟩
    | deliveries kind =>
      have kept : row.id ∉ ids := spared
      exact ⟨row, List.mem_filter.mpr ⟨member, by simpa using kept⟩, rfl⟩

/-- A call of a delivery, a claim or a requeue that moves the outbox. -/
theorem retains_delivery {α : Type} {call : DeliveryCall α} (sound : world.Sound)
    (moves : world.outbox.db.Moves (DeliveryCall.handle α call world.outbox).2.db
      (RetentionCall.delivery call).requeues) :
    retentionConduct.good _ (.delivery call) world where
  sound := sound.of_moves moves
  evolves := .of_moves moves (DeliveryCall.handle_clock call world.outbox)
  settled := moves.settled
  stays _ member _ := moves.rewrites.stays member

/-- Calls that leave the world as it is. -/
def QuietCall (β : Type) (call : RetentionCall β) : Prop :=
  ∀ world, (RetentionCall.handle β call world).2 = world

theorem QuietCall.retains {α : Type} {call : RetentionCall α} (quiet : QuietCall α call)
    (sound : world.Sound) : retentionConduct.good _ call world := by
  show Retains world (RetentionCall.handle α call world).2 _ _
  rw [quiet world]
  exact .of_same sound _ _

theorem Quiet.delivery {α : Type} {call : DeliveryCall α} (quiet : Quiet α call) :
    QuietCall α (.delivery call) := by
  intro world
  show { world with outbox := (DeliveryCall.handle α call world.outbox).2 } = world
  rw [quiet world.outbox]

/-- If the row is stored, it still has an attempt to record, or had one recorded since. -/
def RetentionWorld.OpenAt (id : Uuid) (count : Nat) (world : RetentionWorld) : Prop :=
  id ∈ world.issued ∧ ∀ row, world.row id = some row → count ≤ row.attemptCount ∧
    (row.attemptCount = count → row.status.isFinal = false)

theorem RetentionWorld.OpenAt.evolves {id : Uuid} {count : Nat} {before after : RetentionWorld}
    (now : before.OpenAt id count) (evolves : before.Evolves after) : after.OpenAt id count := by
  obtain ⟨issued, opened⟩ := now
  refine ⟨evolves.issued id issued, fun later stored => ?_⟩
  obtain ⟨row, found, became⟩ := evolves.rows id issued later stored
  obtain ⟨grown, unsettled⟩ := opened row found
  have further := became.attemptCount
  exact ⟨grown.trans further, fun same => became.opened (by omega) (unsettled (by omega))⟩

theorem recordResult_moves {id : Uuid} {count : Nat} {terminalError : Option PyStr} {success : Bool}
    {found : AttemptMeta} {correlation : Correlation} (sound : world.Sound)
    (opened : world.OpenAt id count) (requeued : Option Uuid) :
    world.outbox.db.Moves (DeliveryCall.handle _ (.atomic (recordResult settings id count
      terminalError success found correlation)) world.outbox).2.db requeued := by
  cases stored : world.outbox.db.row id with
  | none =>
    rw [recordResult_gone stored]
    exact .of_delivers (.of_same sound.accounted) (.refl _) requeued
  | some row =>
    obtain ⟨grown, unsettled⟩ := opened.2 row stored
    have recorded : Recorded id count (success && terminalError.isNone) world.outbox.db
        (DeliveryCall.handle _ (.atomic (recordResult settings id count terminalError success found
          correlation)) world.outbox).2.db :=
      recordResult_recorded ⟨row, stored, grown, unsettled⟩
    exact .of_delivers (recorded.delivers sound.accounted) recorded.rewrites requeued

/-- What every answer ends in, by one call. -/
theorem delivery_relies_perform {α : Type} {call : DeliveryCall α}
    {post : List (Entry RetentionCall RetentionWorld) → Except ActionsError α → RetentionWorld → Prop}
    (ends : ∀ later : RetentionWorld, later.Sound → world.Evolves later →
      retentionConduct.good _ (.delivery call) later ∧
        post (log ++ [⟨.delivery call, later⟩]) (DeliveryCall.handle α call later.outbox).1
          { later with outbox := (DeliveryCall.handle α call later.outbox).2 }) :
    (Retention.delivery (.perform call)).Relies RetentionCall.handle retentionConduct post log world := by
  rw [Retention.delivery, Prog.hoist_perform]
  exact Prog.relies_perform.mpr ends

theorem recordResult_retains {id : Uuid} {count : Nat} {terminalError : Option PyStr}
    {success : Bool} {found : AttemptMeta} {correlation : Correlation}
    (opened : world.OpenAt id count) :
    (Retention.delivery (Delivery.atomic (recordResult settings id count terminalError success found
      correlation) >>= fun after => .ret (some after))).Relies RetentionCall.handle retentionConduct
        (fun _ _ _ => True) log world := by
  have ended : (Retention.delivery (Delivery.atomic (recordResult settings id count terminalError
      success found correlation))).Relies RetentionCall.handle retentionConduct (fun _ _ _ => True)
        log world :=
    delivery_relies_perform fun later sound evolved =>
      ⟨retains_delivery sound (recordResult_moves sound (opened.evolves evolved) _), trivial⟩
  rw [Retention.delivery, Prog.hoist_bind]
  exact ended.bind (fun _ _ _ _ => trivial) fun _ _ _ _ => trivial

theorem performDelivery_retains (row : ActionOutbox) (rule : Option ActionRule) {id : Uuid}
    {count : Nat} (opened : world.OpenAt id count) :
    (Retention.delivery (performDelivery settings library row rule)).Relies RetentionCall.handle
      retentionConduct (fun _ _ after => after.OpenAt id count) log world := by
  have quiet : (Retention.delivery (performDelivery settings library row rule)).All QuietCall :=
    Prog.all_hoist.mpr ((performDelivery_quiet row rule).mono fun _ _ quiet => quiet.delivery)
  refine quiet.relies (fun _ _ _ quiet => quiet.retains) (fun _ _ state quiet now => ?_)
    (fun _ _ evolved now => now.evolves evolved) opened
  rw [quiet state]
  exact now

/-- A delivery keeps to the conduct. -/
theorem deliverOutboxRow_retains (id : Uuid) (correlation : Correlation) :
    (Retention.delivery (deliverOutboxRow settings library id correlation)).Relies
      RetentionCall.handle retentionConduct (fun _ _ _ => True) log world := by
  have snapshot : (Retention.delivery (Delivery.atomic (takeSnapshot id))).Relies
      RetentionCall.handle retentionConduct (fun _ result first => ∀ row rule terminalError,
        result = .ok (.taken row rule terminalError) → first.OpenAt id row.attemptCount) log world := by
    refine delivery_relies_perform fun first sound _ => ?_
    have quiet : Quiet _ (.atomic (takeSnapshot id)) := quiet_atomic (takeSnapshot_reads id)
    refine ⟨quiet.delivery.retains sound, fun row rule terminalError taken => ?_⟩
    obtain ⟨stored, unsettled⟩ := takeSnapshot_taken taken
    rw [show { first with outbox := (DeliveryCall.handle _ (.atomic (takeSnapshot id)) first.outbox).2 } =
      first from quiet.delivery first]
    obtain ⟨member, same⟩ := ActionsDb.row_mem stored
    refine ⟨same ▸ sound.issued row member, fun other found => ?_⟩
    obtain rfl : row = other := Option.some.inj (stored.symm.trans found)
    exact ⟨le_rfl, fun _ => unsettled⟩
  rw [deliverOutboxRow, Retention.delivery, Prog.hoist_bind]
  refine snapshot.bind (fun _ _ _ _ => trivial) fun log found first taken => ?_
  cases found with
  | missing => trivial
  | final row => trivial
  | taken row rule terminalError =>
    have opened : first.OpenAt id row.attemptCount := taken row rule terminalError rfl
    cases terminalError with
    | some error => exact recordResult_retains opened
    | none =>
      simp only
      rw [Prog.hoist_bind]
      refine (performDelivery_retains row rule opened).bind (fun _ _ _ _ => trivial) ?_
      intro log found later still
      exact recordResult_retains still

theorem claim_retains (now : Time) (view : ClaimView) :
    (Retention.delivery (Delivery.atomic (claimNextPendingOutbox settings now view))).Relies
      RetentionCall.handle retentionConduct (fun _ _ _ => True) log world := by
  refine delivery_relies_perform fun later sound _ => ⟨retains_delivery sound ?_, trivial⟩
  have delivers : Delivers later.outbox.db (DeliveryCall.handle _
      (.atomic (claimNextPendingOutbox settings now view)) later.outbox).2.db :=
    (Surroundings.claims now view).delivers sound.accounted
  exact .of_delivers delivers (claim_rewrites settings now view later.outbox) _

/-- A requeue unsettles no row but its own. -/
theorem requeueDelivery_retains (companyId : Nat) (deliveryId : Uuid) :
    (Retention.delivery (requeueDelivery companyId deliveryId)).Relies RetentionCall.handle
      retentionConduct (fun _ _ _ => True) log world := by
  have reads {α : Type} (query : ActionsDb → α) (log : List (Entry RetentionCall RetentionWorld))
      (world : RetentionWorld) : (Retention.delivery (Delivery.autocommit (.select query))).Relies
        RetentionCall.handle retentionConduct (fun _ _ _ => True) log world := by
    refine delivery_relies_perform fun later sound _ => ⟨?_, trivial⟩
    have quiet : Quiet α (.autocommit (.select query)) := fun _ => rfl
    exact quiet.delivery.retains sound
  rw [requeueDelivery, Retention.delivery, Prog.hoist_bind]
  refine (reads _ log world).bind (fun _ _ _ _ => trivial) fun log found first _ => ?_
  cases found with
  | none => trivial
  | some row =>
    have updates : (Retention.delivery (Delivery.autocommit (.execute
        (.updateOutbox row.id .requeued)))).Relies RetentionCall.handle retentionConduct
          (fun _ _ _ => True) log first :=
      delivery_relies_perform fun later sound _ =>
        ⟨retains_delivery sound (.requeue sound.accounted row.id), trivial⟩
    simp only
    rw [Prog.hoist_bind]
    refine updates.bind (fun _ _ _ _ => trivial) fun log _ second _ => ?_
    rw [Prog.hoist_bind]
    refine (reads _ log second).bind (fun _ _ _ _ => trivial) fun log refreshed third _ => ?_
    cases refreshed <;> trivial

/-! ### What a complete purge has seen -/

/-- A statement of the log found no expired row of the table, after `first`. -/
def Emptied (first : RetentionWorld) (cutoff : Time) (table : PurgeTable)
    (log : List (Entry RetentionCall RetentionWorld)) (after : RetentionWorld) : Prop :=
  ∃ entry ∈ log, entry.state.Sound ∧ entry.state.expired cutoff table = [] ∧
    first.Evolves entry.state ∧ entry.state.Evolves after

theorem Emptied.mono {first before after : RetentionWorld} {cutoff : Time} {table : PurgeTable}
    {last : List (Entry RetentionCall RetentionWorld)}
    (emptied : Emptied first cutoff table log before) (grown : log <+: last)
    (evolves : before.Evolves after) : Emptied first cutoff table last after := by
  obtain ⟨entry, member, sound, nothing, earlier, later⟩ := emptied
  exact ⟨entry, grown.subset member, sound, nothing, earlier, later.trans evolves⟩

theorem relies_grows {α : Type} {body : Retention α}
    {post : List (Entry RetentionCall RetentionWorld) → Except ActionsError α → RetentionWorld → Prop}
    (relies : body.Relies RetentionCall.handle retentionConduct post log world) :
    body.Relies RetentionCall.handle retentionConduct
      (fun last result after => post last result after ∧ log <+: last ∧ world.Evolves after) log world :=
  relies.grows RetentionWorld.Evolves.refl (fun left right => left.trans right)
    fun _ _ _ good => good.evolves

theorem quiet_relies {α : Type} {body : Retention α} (quiet : body.All QuietCall) :
    body.Relies RetentionCall.handle retentionConduct
      (fun last _ after => True ∧ log <+: last ∧ world.Evolves after) log world := by
  refine relies_grows (quiet.relies (fun _ _ _ quiet => quiet.retains) (fun _ _ _ _ _ => trivial)
    (fun _ _ _ _ => trivial) trivial)

theorem deadlinePassed_quiet (deadline : Option Time) : (deadlinePassed deadline).All QuietCall := by
  cases deadline with
  | none => trivial
  | some deadline => exact Prog.all_perform_bind.mpr ⟨fun _ => rfl, fun _ => trivial⟩

theorem purgeDeadline_quiet (maxSeconds : Option Time) :
    (purgeDeadline maxSeconds).All QuietCall := by
  cases maxSeconds with
  | none => trivial
  | some maxSeconds =>
    rw [purgeDeadline]
    split
    · trivial
    · exact Prog.all_perform_bind.mpr ⟨fun _ => rfl, fun _ => trivial⟩

/-- A batch that is empty leaves no expired row out. -/
theorem selectExpired_nothing {table : PurgeTable} {cutoff : Time} {limit : Nat}
    (positive : 1 ≤ limit) (nothing :
      ((world.scan.arrange _ (world.expired cutoff table)).take limit).isEmpty = true) :
    world.expired cutoff table = [] := by
  rcases List.take_eq_nil_iff.mp (List.isEmpty_iff.mp nothing) with zero | empty
  · omega
  · have same := world.scan.perm _ (world.expired cutoff table)
    rw [empty] at same
    exact List.nil_perm.mp same

/-- A loop that is finished has found the table empty of expired rows. -/
theorem deleteInBatches_relies {table : PurgeTable} {cutoff : Time} {batchSize : Nat}
    {deadline : Option Time} {first : RetentionWorld} (rounds deleted : Nat)
    (evolved : first.Evolves world) :
    (deleteInBatches table cutoff batchSize deadline rounds deleted).Relies RetentionCall.handle
      retentionConduct (fun last result after => ∀ deleted, result = .ok (some (deleted, true)) →
        1 ≤ batchSize → Emptied first cutoff table last after) log world := by
  induction rounds generalizing deleted log world with
  | zero => exact fun _ same => by cases same
  | succ rounds ih =>
    rw [deleteInBatches]
    refine (quiet_relies (deadlinePassed_quiet deadline)).bind
      (fun last error after kept _ same => by cases same) ?_
    intro before passed middle ⟨_, _, further⟩
    have evolved := evolved.trans further
    cases passed with
    | true => exact fun _ same => by cases same
    | false =>
      simp only [Bool.false_eq_true, if_false]
      refine Prog.relies_perform_bind fun later sound further => ?_
      have quiet : QuietCall _ (.selectExpired table cutoff batchSize) := fun _ => rfl
      refine ⟨quiet.retains sound, fun ids found => ?_, fun _ failed => by cases failed⟩
      have evolved := evolved.trans further
      cases nothing : ids.isEmpty with
      | true =>
        intro _ _ positive
        cases found
        exact ⟨_, List.mem_concat_self, sound, selectExpired_nothing positive nothing, evolved,
          .refl later⟩
      | false =>
        simp only [Bool.false_eq_true, if_false]
        refine Prog.relies_perform_bind fun last sound progress => ?_
        refine ⟨retains_delete sound table ids, fun _ _ => ?_, fun _ failed => by cases failed⟩
        exact ih (deleted + ids.length) (evolved.trans (progress.trans (.deleted last table ids)))

theorem PurgeTable.cutoff_target {eventLogRetentionDays : Int} {now : Time} {table : PurgeTable}
    (target : table ≠ .jobRuns) :
    table.cutoff eventLogRetentionDays now = retentionCutoff eventLogRetentionDays now := by
  cases table with
  | jobRuns => exact absurd rfl target
  | _ => rfl

/-- Every table is emptied by a wet run that reports itself complete. -/
def AllEmptied (eventLogRetentionDays : Int) (options : PurgeOptions) (tables : List PurgeTable)
    (first : RetentionWorld) (log : List (Entry RetentionCall RetentionWorld))
    (result : Except ActionsError (Option PurgeStats)) (after : RetentionWorld) : Prop :=
  ∀ stats, result = .ok (some stats) → stats.complete = true → options.dryRun = false →
    1 ≤ options.batchSize → ∀ table ∈ tables,
      Emptied first (table.cutoff eventLogRetentionDays first.outbox.clock) table log after

theorem purgeTables_relies {eventLogRetentionDays : Int} {options : PurgeOptions}
    {deadline : Option Time} {rounds : Nat} {first : RetentionWorld} (tables : List PurgeTable)
    (targets : ∀ table ∈ tables, table ≠ .jobRuns) (stats : PurgeStats)
    (evolved : first.Evolves world) :
    (purgeTables (retentionCutoff eventLogRetentionDays first.outbox.clock) first.outbox.clock options
      deadline rounds tables stats).Relies RetentionCall.handle retentionConduct
        (AllEmptied eventLogRetentionDays options (tables ++ [.jobRuns]) first) log world := by
  induction tables generalizing stats log world with
  | nil =>
    rw [purgeTables]
    cases dry : options.dryRun with
    | true =>
      simp only [if_true]
      have quiet : (countOldRuns first.outbox.clock).All QuietCall :=
        Prog.all_perform.mpr fun _ => rfl
      refine (quiet_relies quiet).bind (fun _ _ _ _ _ same => by cases same) ?_
      exact fun _ _ _ _ _ _ _ wet => by simp [dry] at wet
    | false =>
      simp only [Bool.false_eq_true, if_false]
      refine (deleteInBatches_relies rounds 0 evolved).bind (fun _ _ _ _ _ same => by cases same) ?_
      rintro last (_ | ⟨deleted, finished⟩) after emptied
      · exact fun _ same => by cases same
      · cases finished with
        | false => exact fun _ same complete => by cases same; cases complete
        | true =>
          intro _ _ _ _ positive table member
          obtain rfl := List.mem_singleton.mp member
          exact emptied deleted rfl positive
  | cons table tables ih =>
    have later : ∀ table ∈ tables, table ≠ .jobRuns :=
      fun other member => targets other (List.mem_cons_of_mem _ member)
    rw [purgeTables]
    cases dry : options.dryRun with
    | true =>
      simp only [if_true]
      have quiet : (Prog.perform (.countExpired table (retentionCutoff eventLogRetentionDays
          first.outbox.clock)) : Retention Nat).All QuietCall := Prog.all_perform.mpr fun _ => rfl
      refine (quiet_relies quiet).bind (fun _ _ _ _ _ same => by cases same) ?_
      intro last count after ⟨_, _, further⟩
      refine (ih later _ (evolved.trans further)).mono fun _ _ _ _ _ _ _ wet => ?_
      simp [dry] at wet
    | false =>
      simp only [Bool.false_eq_true, if_false]
      refine (relies_grows (deleteInBatches_relies rounds 0 evolved)).bind
        (fun _ _ _ _ _ same => by cases same) ?_
      rintro last (_ | ⟨deleted, finished⟩) after ⟨emptied, _, further⟩
      · exact fun _ same => by cases same
      · cases finished with
        | false => exact fun _ same complete => by cases same; cases complete
        | true =>
          refine (relies_grows (ih later _ (evolved.trans further))).mono ?_
          intro final result ended ⟨others, grown, onward⟩ stats same complete wet positive other member
          rcases List.mem_cons.mp member with rfl | member
          · rw [PurgeTable.cutoff_target (targets _ List.mem_cons_self)]
            exact (emptied deleted rfl positive).mono grown onward
          · exact others stats same complete wet positive other member

/-- The tables that a purge goes through. -/
def purgedTables : List PurgeTable := purgeTargets ++ [.jobRuns]

/-- A wet run that reports itself complete read the time first, and then emptied every table. -/
theorem purgeExpiredData_relies {eventLogRetentionDays : Int} {options : PurgeOptions}
    {rounds : Nat} : (purgeExpiredData eventLogRetentionDays options rounds).Relies RetentionCall.handle
      retentionConduct (fun log result after => ∃ entry, log.head? = some entry ∧
        AllEmptied eventLogRetentionDays options purgedTables entry.state log result after)
        [] world := by
  refine Prog.relies_perform_bind fun first sound _ => ?_
  have quiet : QuietCall _ (.delivery (.autocommit .now)) := fun _ => rfl
  refine ⟨quiet.retains sound, fun now read => ?_, fun _ failed => by cases failed⟩
  cases read
  refine (quiet_relies (purgeDeadline_quiet options.maxSeconds)).bind ?_ ?_
  · intro last error after ⟨_, grown, _⟩
    exact ⟨_, List.singleton_prefix_iff_head?_eq_some.mp grown, fun _ same => by cases same⟩
  · intro last deadline after ⟨_, grown, evolved⟩
    refine (relies_grows (purgeTables_relies purgeTargets (by decide) .start evolved)).mono ?_
    intro final result ended ⟨emptied, further, _⟩
    exact ⟨_, List.singleton_prefix_iff_head?_eq_some.mp (grown.trans further), emptied⟩

/-- What is known of a thread that has ended. -/
def RetentionPost (eventLogRetentionDays : Int) (task : RetentionTask)
    (log : List (Entry RetentionCall RetentionWorld)) (result : Except ActionsError RetentionResult)
    (after : RetentionWorld) : Prop :=
  ∀ options rounds stats, task = .purge options rounds → result = .ok (.purged stats) →
    ∃ entry, log.head? = some entry ∧
      AllEmptied eventLogRetentionDays options purgedTables entry.state log (.ok stats) after

theorem RetentionPost.lasts {eventLogRetentionDays : Int} {task : RetentionTask}
    {result : Except ActionsError RetentionResult} {before after : RetentionWorld}
    (evolves : before.Evolves after)
    (ended : RetentionPost eventLogRetentionDays task log result before) :
    RetentionPost eventLogRetentionDays task log result after := by
  intro options rounds stats own returned
  obtain ⟨entry, head, emptied⟩ := ended options rounds stats own returned
  refine ⟨entry, head, fun stats same complete wet positive table member => ?_⟩
  exact (emptied stats same complete wet positive table member).mono List.prefix_rfl evolves

theorem retentionTask_relies {eventLogRetentionDays : Int} (task : RetentionTask) :
    (retentionTask settings library eventLogRetentionDays task).Relies RetentionCall.handle
      retentionConduct (RetentionPost eventLogRetentionDays task) [] world := by
  cases task with
  | purge options rounds =>
    refine purgeExpiredData_relies.bind (fun _ _ _ _ _ _ _ _ same => by cases same) ?_
    intro log found after ⟨entry, head, emptied⟩ _ _ stats own same
    cases own
    cases same
    exact ⟨entry, head, emptied⟩
  | deliver outboxId correlation =>
    exact (deliverOutboxRow_retains outboxId correlation).bind (fun _ _ _ _ _ _ _ own => by cases own)
      fun _ _ _ _ _ _ _ own => by cases own
  | claim now view =>
    exact (claim_retains now view).bind (fun _ _ _ _ _ _ _ own => by cases own)
      fun _ _ _ _ _ _ _ own => by cases own
  | requeue companyId deliveryId =>
    exact (requeueDelivery_retains companyId deliveryId).bind (fun _ _ _ _ _ _ _ own => by cases own)
      fun _ _ _ _ _ _ _ own => by cases own

/-! ### The warrant of a deletion -/

/-- The rows that a purge is about to delete are finished and older than its cutoff. -/
def PurgeWarrant (eventLogRetentionDays : Int) (log : List (Entry RetentionCall RetentionWorld)) :
    ∀ β, RetentionCall β → RetentionWorld → Prop
  | _, .delete (.deliveries _) ids, world => ∃ first, log.head? = some first ∧ ∀ id ∈ ids,
      id ∈ world.issued ∧ ∀ row, world.row id = some row → row.status.isFinal = true ∧
        row.createdAt < retentionCutoff eventLogRetentionDays first.state.outbox.clock
  | _, _, _ => True

def IsDelivery : ∀ β, RetentionCall β → Prop
  | _, .delivery _ => True
  | _, _ => False

theorem delivery_isDelivery {α : Type} (body : Delivery α) :
    (Retention.delivery body).All IsDelivery :=
  Prog.all_hoist.mpr ((Prog.all_true body).mono fun _ _ _ => trivial)

/-- Purges with warrants for what they delete. -/
abbrev PurgeReady {α : Type} (eventLogRetentionDays : Int)
    (log : List (Entry RetentionCall RetentionWorld)) (body : Retention α) : Prop :=
  body.Ready RetentionCall.handle RetentionWorld.Sound (PurgeWarrant eventLogRetentionDays) log

theorem isDelivery_ready {α : Type} {eventLogRetentionDays : Int} {body : Retention α}
    (every : body.All IsDelivery) : PurgeReady eventLogRetentionDays log body := by
  refine every.ready fun log β call state delivery => ?_
  cases call with
  | delivery call => trivial
  | _ => exact delivery.elim

theorem selectExpired_warrant {eventLogRetentionDays : Int} {table : PurgeTable} {limit : Nat}
    {first : Entry RetentionCall RetentionWorld} (head : log.head? = some first)
    (sound : world.Sound) :
    PurgeWarrant eventLogRetentionDays log _ (.delete table ((world.scan.arrange _ (world.expired
      (table.cutoff eventLogRetentionDays first.state.outbox.clock) table)).take limit)) world := by
  cases table with
  | events => trivial
  | jobRuns => trivial
  | deliveries kind =>
    refine ⟨first, head, fun id member => ?_⟩
    have listed : id ∈ world.expired (retentionCutoff eventLogRetentionDays first.state.outbox.clock)
        (.deliveries kind) := (world.scan.perm _ _).mem_iff.mp (List.mem_of_mem_take member)
    obtain ⟨row, found, same⟩ := List.mem_map.mp listed
    obtain ⟨present, expired⟩ := List.mem_filter.mp found
    subst same
    refine ⟨sound.issued row present, fun other stored => ?_⟩
    obtain rfl : row = other :=
      Option.some.inj ((ActionsDb.row_of_mem sound.accounted present).symm.trans stored)
    simp only [ActionOutbox.expired, Bool.and_eq_true, decide_eq_true_eq] at expired
    exact ⟨expired.1.1, expired.2⟩

/-- The first call stays the first. -/
theorem head_of_grown {first : Entry RetentionCall RetentionWorld}
    {last : List (Entry RetentionCall RetentionWorld)} (head : log.head? = some first)
    (grown : log <+: last) : last.head? = some first := by
  rw [← List.singleton_prefix_iff_head?_eq_some] at head ⊢
  exact head.trans grown

theorem countExpired_ready {eventLogRetentionDays : Int} (table : PurgeTable) (cutoff : Time) :
    PurgeReady eventLogRetentionDays log (.perform (.countExpired table cutoff) : Retention Nat) := by
  refine ⟨fun _ _ => ⟨?_, ?_⟩, fun _ => trivial⟩ <;> exact trivial

theorem deleteInBatches_ready {eventLogRetentionDays : Int} {table : PurgeTable} {batchSize : Nat}
    {deadline : Option Time} {first : Entry RetentionCall RetentionWorld} (rounds deleted : Nat)
    (head : log.head? = some first) :
    PurgeReady eventLogRetentionDays log (deleteInBatches table
      (table.cutoff eventLogRetentionDays first.state.outbox.clock) batchSize deadline rounds deleted) := by
  induction rounds generalizing deleted log with
  | zero => exact ⟨trivial, fun _ => trivial⟩
  | succ rounds ih =>
    rw [deleteInBatches]
    have checked : (deadlinePassed deadline).All IsDelivery := by
      cases deadline with
      | none => trivial
      | some deadline => exact Prog.all_perform_bind.mpr ⟨trivial, fun _ => trivial⟩
    refine (isDelivery_ready checked).bind fun last passed grown => ?_
    have head := head_of_grown head grown
    cases passed with
    | true => exact ⟨trivial, fun _ => trivial⟩
    | false =>
      simp only [Bool.false_eq_true, if_false]
      refine ⟨Prog.prompted_perform_bind fun state sound ids found => ?_, fun _ => trivial⟩
      cases found
      split
      · exact ⟨trivial, trivial⟩
      · have selected := head_of_grown head (List.prefix_append last [⟨.selectExpired table
            (table.cutoff eventLogRetentionDays first.state.outbox.clock) batchSize, state⟩])
        refine ⟨selectExpired_warrant selected sound, Prog.prompted_perform_bind fun later _ _ _ => ?_⟩
        refine ⟨(ih _ ?_).2 _, (ih _ ?_).1⟩
        all_goals exact head_of_grown selected (List.prefix_append _ _)

theorem purgeTables_ready {eventLogRetentionDays : Int} {options : PurgeOptions}
    {deadline : Option Time} {rounds : Nat} {first : Entry RetentionCall RetentionWorld}
    (tables : List PurgeTable) (targets : ∀ table ∈ tables, table ≠ .jobRuns) (stats : PurgeStats)
    (head : log.head? = some first) :
    PurgeReady eventLogRetentionDays log (purgeTables (retentionCutoff eventLogRetentionDays
      first.state.outbox.clock) first.state.outbox.clock options deadline rounds tables stats) := by
  induction tables generalizing stats log with
  | nil =>
    rw [purgeTables]
    split
    · exact (countExpired_ready .jobRuns _).bind fun _ _ _ => ⟨trivial, fun _ => trivial⟩
    · have emptied : PurgeReady eventLogRetentionDays log (purgeOldRuns first.state.outbox.clock
          options.batchSize deadline rounds) := deleteInBatches_ready rounds 0 head
      refine emptied.bind fun _ ended _ => ?_
      rcases ended with _ | ⟨deleted, _ | _⟩
      all_goals exact ⟨trivial, fun _ => trivial⟩
  | cons table tables ih =>
    have others : ∀ table ∈ tables, table ≠ .jobRuns :=
      fun other member => targets other (List.mem_cons_of_mem _ member)
    rw [purgeTables]
    split
    · exact (countExpired_ready table _).bind fun last count grown =>
        ih others _ (head_of_grown head grown)
    · have emptied : PurgeReady eventLogRetentionDays log (deleteInBatches table (retentionCutoff
          eventLogRetentionDays first.state.outbox.clock) options.batchSize deadline rounds 0) := by
        rw [← PurgeTable.cutoff_target (targets table List.mem_cons_self)]
        exact deleteInBatches_ready rounds 0 head
      refine emptied.bind fun last ended grown => ?_
      rcases ended with _ | ⟨deleted, _ | _⟩
      · exact ⟨trivial, fun _ => trivial⟩
      · exact ⟨trivial, fun _ => trivial⟩
      · exact ih others _ (head_of_grown head grown)

theorem purgeExpiredData_ready {eventLogRetentionDays : Int} (options : PurgeOptions)
    (rounds : Nat) :
    PurgeReady eventLogRetentionDays [] (purgeExpiredData eventLogRetentionDays options rounds) := by
  have deadlines : (purgeDeadline options.maxSeconds).All IsDelivery := by
    cases options.maxSeconds with
    | none => trivial
    | some maxSeconds =>
      rw [purgeDeadline]
      split
      · trivial
      · exact Prog.all_perform_bind.mpr ⟨trivial, fun _ => trivial⟩
  have started (first : Entry RetentionCall RetentionWorld) :
      PurgeReady eventLogRetentionDays [first] (purgeDeadline options.maxSeconds >>= fun deadline =>
        purgeTables (retentionCutoff eventLogRetentionDays first.state.outbox.clock)
          first.state.outbox.clock options deadline rounds purgeTargets .start) :=
    (isDelivery_ready deadlines).bind fun _ _ grown => purgeTables_ready purgeTargets (by decide)
      .start (List.singleton_prefix_iff_head?_eq_some.mp grown)
  refine ⟨Prog.prompted_perform_bind fun first sound now read => ?_, fun _ => trivial⟩
  cases read
  exact ⟨(started ⟨_, first⟩).2 _, (started ⟨_, first⟩).1⟩

theorem retentionTask_ready {eventLogRetentionDays : Int} (task : RetentionTask) :
    PurgeReady eventLogRetentionDays []
      (retentionTask settings library eventLogRetentionDays task) := by
  cases task with
  | purge options rounds =>
    exact (purgeExpiredData_ready options rounds).bind fun _ _ _ => ⟨trivial, fun _ => trivial⟩
  | deliver outboxId correlation =>
    exact isDelivery_ready ((delivery_isDelivery _).bind fun _ => trivial)
  | claim now view => exact isDelivery_ready ((delivery_isDelivery _).bind fun _ => trivial)
  | requeue companyId deliveryId =>
    exact isDelivery_ready ((delivery_isDelivery _).bind fun _ => trivial)

end

end HostingService
