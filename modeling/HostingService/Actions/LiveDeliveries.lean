import HostingService.Actions.Purges

/-! When a purge deletes no delivery that is still live. -/

namespace HostingService

open Program Text OutboxTransaction

/-! ### What happens around the purges -/

theorem RetentionOutside.step {before after : RetentionWorld}
    (changed : RetentionOutside before after) (sound : before.Sound) :
    after.Sound ∧ before.Evolves after := by
  have same := RetentionWorld.Evolves.refl before
  cases changed with
  | passes span =>
    exact ⟨⟨sound.accounted, sound.issued⟩, { same with
      clock := Int.le_add_of_nonneg_right (Int.natCast_nonneg span) }⟩
  | logs event fresh =>
    refine ⟨⟨sound.accounted, sound.issued⟩, { same with events := fun other member => ?_ }⟩
    rcases List.mem_append.mp member with old | new
    · exact .inl old
    · obtain rfl := List.mem_singleton.mp new
      exact .inr fresh.ge
  | emits row db new unattempted created =>
    obtain ⟨different, rfl⟩ := createOutbox_ends created
    refine ⟨⟨sound.accounted.insert different unattempted, fun other member => ?_⟩, { same with
      issued := fun id member => List.mem_cons_of_mem _ member
      rows := fun id member later stored => ?_ }⟩
    · rcases List.mem_append.mp member with old | fresh
      · exact List.mem_cons_of_mem _ (sound.issued other old)
      · obtain rfl := List.mem_singleton.mp fresh
        exact List.mem_cons_self
    · have apart : id ≠ row.id := fun same => new (same ▸ member)
      have kept : before.row id = some later :=
        (before.outbox.db.row_append apart).symm.trans stored
      exact ⟨later, kept, rfl, rfl, le_rfl, fun _ unsettled => unsettled⟩
  | starts run fresh =>
    refine ⟨⟨sound.accounted, sound.issued⟩, { same with jobRuns := fun other member => ?_ }⟩
    rcases List.mem_append.mp member with old | new
    · exact .inl ⟨other, old, rfl⟩
    · obtain rfl := List.mem_singleton.mp new
      exact .inr fresh.ge
  | finishes id result =>
    refine ⟨⟨sound.accounted, sound.issued⟩, { same with jobRuns := fun other member => ?_ }⟩
    obtain ⟨old, present, rfl⟩ := List.mem_map.mp member
    refine .inl ⟨old, present, ?_⟩
    split <;> rfl
  | administers rules =>
    exact ⟨⟨⟨sound.accounted.ids, sound.accounted.numbers, sound.accounted.owned⟩, sound.issued⟩,
      { same with rows := same.rows }⟩
  | reroutes network => exact ⟨⟨sound.accounted, sound.issued⟩, { same with rows := same.rows }⟩
  | replans scan => exact ⟨⟨sound.accounted, sound.issued⟩, { same with rows := same.rows }⟩

/-- Nothing but calls settles or unsettles a row, or deletes one. -/
theorem RetentionOutside.settled {before after : RetentionWorld}
    (changed : RetentionOutside before after) {id : Uuid} (issued : id ∈ before.issued)
    (settled : before.outbox.db.Settled id) : after.outbox.db.Settled id := by
  cases changed with
  | emits row db new unattempted created =>
    obtain ⟨different, rfl⟩ := createOutbox_ends created
    intro later stored
    have apart : id ≠ row.id := fun same => new (same ▸ issued)
    exact settled later ((before.outbox.db.row_append apart).symm.trans stored)
  | _ => exact settled

theorem RetentionOutside.stays {before after : RetentionWorld}
    (changed : RetentionOutside before after) {row : ActionOutbox}
    (member : row ∈ before.outbox.db.outbox) : row ∈ after.outbox.db.outbox := by
  cases changed with
  | emits row db new unattempted created =>
    obtain ⟨different, rfl⟩ := createOutbox_ends created
    exact List.mem_append_left _ member
  | _ => exact member

/-! ### Requeues of rows that are about to be deleted -/

/-- The rows that the next call of the thread deletes. -/
def RetentionThread.selected (thread : RetentionThread) : List Uuid :=
  match thread.rest with
  | .call op _ => op.deletes
  | _ => []

/-- The time that a purge has read. -/
def RetentionThread.startedAt (thread : RetentionThread) : Option Time :=
  thread.log.head?.map (·.state.outbox.clock)

namespace RetentionCrew

/-- A purge has selected the row, and has not deleted it yet. -/
def Selected (crew : RetentionCrew) (id : Uuid) : Prop :=
  ∃ thread ∈ crew.threads, id ∈ RetentionThread.selected thread

/-- No stored row is requeued between its selection and its deletion. -/
def Spares (crew : RetentionCrew) (β : Type) (call : RetentionCall β) : Prop :=
  ∀ id, call.requeues = some id → (crew.shared.row id).isSome = true → ¬ crew.Selected id

section
variable (settings : ActionsSettings) (library : ActionsLibrary) (eventLogRetentionDays : Int)

def Step : RetentionCrew → RetentionCrew → Prop :=
  Crew.Step RetentionCall.handle (retentionTask settings library eventLogRetentionDays)
    RetentionOutside

/-- What purges reach beside deliveries, claims, requeues and events. -/
def Reaches (permits : RetentionCrew → ∀ β, RetentionCall β → Prop) :
    RetentionCrew → RetentionCrew → Prop :=
  Crew.ReachesIf RetentionCall.handle (retentionTask settings library eventLogRetentionDays)
    RetentionOutside permits

/-- The step deletes only rows that are finished and older than the cutoff of their purge. -/
def SparesLive (before after : RetentionCrew) : Prop :=
  ∀ row ∈ before.shared.outbox.db.outbox, after.shared.row row.id = none →
    row.status.isFinal = true ∧ ∃ thread ∈ before.threads, row.id ∈ RetentionThread.selected thread ∧
      ∃ now, RetentionThread.startedAt thread = some now ∧
        row.createdAt < retentionCutoff eventLogRetentionDays now

/-- Nothing that was expired all along is left after the purge. -/
structure Emptied (crew : RetentionCrew) (thread : RetentionThread) (now : Time) : Prop where
  events : ∀ event ∈ crew.shared.events,
    retentionCutoff eventLogRetentionDays now ≤ event.createdAt
  jobRuns : ∀ run ∈ crew.shared.jobRuns,
    now - runRetentionDays * microsecondsPerDay ≤ run.startedAt
  rows : ∀ row ∈ crew.shared.outbox.db.outbox, ¬ ∀ entry ∈ thread.log, ∃ old,
    entry.state.row row.id = some old ∧ old.status.isFinal = true ∧
      old.createdAt < retentionCutoff eventLogRetentionDays now

/-- The purges of the crew do what they are for. -/
structure Purges (crew : RetentionCrew) : Prop where
  spares : ∀ later, Step settings library eventLogRetentionDays crew later →
    SparesLive eventLogRetentionDays crew later
  complete : ∀ thread ∈ crew.threads, ∀ options rounds stats, thread.task = .purge options rounds →
    options.dryRun = false → 1 ≤ options.batchSize → thread.rest = .ret (.purged (some stats)) →
    stats.complete = true → ∃ now, RetentionThread.startedAt thread = some now ∧
      crew.Emptied eventLogRetentionDays thread now

end

/-- Sound tables, and no thread yet. -/
def Initial (crew : RetentionCrew) : Prop := crew.shared.Sound ∧ crew.threads = []

section
variable {settings : ActionsSettings} {library : ActionsLibrary} {eventLogRetentionDays : Int}
  {permits : RetentionCrew → ∀ β, RetentionCall β → Prop} {start crew : RetentionCrew}

/-- Every thread keeps to the conduct, whatever is requeued. -/
theorem Reaches.relying (initial : start.Initial)
    (path : Reaches settings library eventLogRetentionDays permits start crew) :
    Crew.Relying RetentionCall.handle retentionConduct (RetentionPost eventLogRetentionDays) crew :=
  Crew.Reaches.relies retentionConduct RetentionWorld.Evolves.refl (fun left right => left.trans right)
    (fun _ _ _ good _ => ⟨good.sound, good.evolves⟩) (fun _ _ changed sound => changed.step sound)
    (fun _ _ _ _ _ evolves ended => ended.lasts evolves) (fun task _ => retentionTask_relies task)
    initial.2 initial.1 (Crew.ReachesIf.reaches path)

/-- What the warrant says of one row. -/
theorem warrant_row {log : List (Entry RetentionCall RetentionWorld)} {β : Type}
    {call : RetentionCall β} {world : RetentionWorld} {id : Uuid}
    (warrant : PurgeWarrant eventLogRetentionDays log β call world) (selected : id ∈ call.deletes) :
    ∃ first, log.head? = some first ∧ id ∈ world.issued ∧ ∀ row, world.row id = some row →
      row.status.isFinal = true ∧
        row.createdAt < retentionCutoff eventLogRetentionDays first.state.outbox.clock := by
  cases call with
  | delete table ids =>
    cases table with
    | deliveries kind =>
      obtain ⟨first, head, rows⟩ := warrant
      exact ⟨first, head, rows id selected⟩
    | _ => cases selected
  | delivery call => cases selected
  | _ => cases selected

/-- A warrant outlasts what evolves, while its rows stay settled. -/
theorem warrant_lasts {log : List (Entry RetentionCall RetentionWorld)} {β : Type}
    {call : RetentionCall β} {before after : RetentionWorld}
    (warrant : PurgeWarrant eventLogRetentionDays log β call before) (evolves : before.Evolves after)
    (settled : ∀ id ∈ call.deletes, id ∈ before.issued → before.outbox.db.Settled id →
      after.outbox.db.Settled id) : PurgeWarrant eventLogRetentionDays log β call after := by
  cases call with
  | delete table ids =>
    cases table with
    | deliveries kind =>
      obtain ⟨first, head, rows⟩ := warrant
      refine ⟨first, head, fun id member => ?_⟩
      obtain ⟨issued, finished⟩ := rows id member
      refine ⟨evolves.issued id issued, fun later stored => ?_⟩
      obtain ⟨row, found, became⟩ := evolves.rows id issued later stored
      refine ⟨settled id member issued (fun row found => (finished row found).1) later stored, ?_⟩
      rw [became.createdAt]
      exact (finished row found).2
    | _ => trivial
  | _ => trivial

theorem Reaches.warranted (initial : start.Initial)
    (path : Reaches settings library eventLogRetentionDays Spares start crew) :
    Crew.Warranted RetentionCall.handle RetentionWorld.Sound (PurgeWarrant eventLogRetentionDays)
      crew := by
  induction path with
  | refl =>
    intro thread member
    rw [initial.2] at member
    cases member
  | @tail before after path last ih =>
    have relying := Reaches.relying initial path
    refine last.warranted retentionTask_ready ?_ ?_ relying.1 ih
    · intro earlier later changed sound log β call warrant
      exact warrant_lasts warrant (changed.step sound).2 fun _ _ issued settled =>
        changed.settled issued settled
    · intro β γ op other next thread permitted ⟨caller, present, following, calling⟩ member waiting warrant
      have good : retentionConduct.good β op before.shared :=
        relying.good RetentionWorld.Evolves.refl present calling
      refine warrant_lasts warrant good.evolves fun id doomed _ settled => ?_
      refine good.settled id (fun requeued => ?_) settled
      by_contra stored
      refine permitted id requeued (Option.isSome_iff_ne_none.mpr stored) ⟨thread, member, ?_⟩
      rw [RetentionThread.selected, waiting]
      exact doomed

theorem retentionCutoff_le (eventLogRetentionDays : Int) (now : Time) :
    retentionCutoff eventLogRetentionDays now ≤ now := by
  have positive : 1 ≤ retentionDays eventLogRetentionDays := le_max_left _ _
  refine Int.sub_le_self now (Int.mul_nonneg (by omega) ?_)
  decide

theorem runCutoff_le (now : Time) : now - runRetentionDays * microsecondsPerDay ≤ now :=
  Int.sub_le_self now (by decide)

theorem Purges.of_relying (relying : Crew.Relying RetentionCall.handle retentionConduct
      (RetentionPost eventLogRetentionDays) crew)
    (warranted : Crew.Warranted RetentionCall.handle RetentionWorld.Sound
      (PurgeWarrant eventLogRetentionDays) crew) :
    crew.Purges settings library eventLogRetentionDays where
  spares later step row member gone := by
    have stored : crew.shared.row row.id = some row :=
      ActionsDb.row_of_mem relying.1.accounted member
    cases step with
    | arrive task => cases stored.symm.trans gone
    | change later changed =>
      have kept := ActionsDb.row_of_mem (changed.step relying.1).1.accounted (changed.stays member)
      cases kept.symm.trans gone
    | @advance shared before after task β op next log =>
      have present : (⟨task, .call op next, log⟩ : RetentionThread) ∈
          before ++ ⟨task, .call op next, log⟩ :: after := mem_middle.mpr (.inl rfl)
      have good : retentionConduct.good β op shared :=
        relying.good RetentionWorld.Evolves.refl present rfl
      have doomed : row.id ∈ op.deletes := by
        by_contra spared
        obtain ⟨kept, listed, same⟩ := good.stays row member spared
        have found := ActionsDb.row_of_mem good.sound.accounted listed
        rw [same] at found
        cases found.symm.trans gone
      obtain ⟨first, head, _, finished⟩ := warrant_row (warranted _ present).1 doomed
      obtain ⟨final, old⟩ := finished row stored
      refine ⟨final, _, present, doomed, first.state.outbox.clock, ?_, old⟩
      rw [RetentionThread.startedAt, head]
      rfl
  complete thread member options rounds stats own wet positive ended complete := by
    have relies := relying.2 thread member
    rw [ended] at relies
    obtain ⟨first, head, emptied⟩ := relies options rounds (some stats) own rfl
    have each := emptied stats rfl complete wet positive
    refine ⟨first.state.outbox.clock, by rw [RetentionThread.startedAt, head]; rfl, ?_, ?_, ?_⟩
    · obtain ⟨entry, _, _, nothing, earlier, later⟩ := each .events (by decide)
      intro event present
      rcases later.events event present with old | new
      · have kept := List.filter_eq_nil_iff.mp (List.map_eq_nil_iff.mp nothing) event old
        exact Int.not_lt.mp fun early => kept (decide_eq_true early)
      · exact (retentionCutoff_le _ _).trans (earlier.clock.trans new)
    · obtain ⟨entry, _, _, nothing, earlier, later⟩ := each .jobRuns (by decide)
      intro run present
      rcases later.jobRuns run present with ⟨old, stored, same⟩ | new
      · have kept := List.filter_eq_nil_iff.mp (List.map_eq_nil_iff.mp nothing) old stored
        rw [← same]
        exact Int.not_lt.mp fun early => kept (decide_eq_true early)
      · exact (runCutoff_le _).trans (earlier.clock.trans new)
    · intro row present finished
      have target : PurgeTable.deliveries row.deliveryKind ∈ purgedTables := by
        cases row.deliveryKind <;> decide
      obtain ⟨entry, listed, sound, nothing, _, later⟩ := each _ target
      obtain ⟨old, stored, final, expired⟩ := finished entry listed
      obtain ⟨member, same⟩ := ActionsDb.row_mem stored
      obtain ⟨other, found, became⟩ := later.rows row.id (same ▸ sound.issued old member) row
        (ActionsDb.row_of_mem relying.1.accounted present)
      obtain rfl : old = other := Option.some.inj (stored.symm.trans found)
      have spared := List.filter_eq_nil_iff.mp (List.map_eq_nil_iff.mp nothing) old member
      refine spared ?_
      simp only [ActionOutbox.expired, Bool.and_eq_true, decide_eq_true_eq]
      exact ⟨⟨final, became.deliveryKind.symm⟩, expired⟩

end

end RetentionCrew

/-- While no stored row is requeued between its selection and its deletion, purges delete only
rows that are finished and older than the cutoff, and one that is complete leaves no other row
that was expired all along. -/
theorem purges_spare_live {settings : ActionsSettings} {library : ActionsLibrary}
    {eventLogRetentionDays : Int} {start crew : RetentionCrew} (initial : start.Initial)
    (path : RetentionCrew.Reaches settings library eventLogRetentionDays RetentionCrew.Spares start
      crew) : crew.Purges settings library eventLogRetentionDays :=
  .of_relying (RetentionCrew.Reaches.relying initial path)
    (RetentionCrew.Reaches.warranted initial path)

/-! An outbox with one row that is dead since more than a week. -/

def deadRow : ActionOutbox := { hookRow with status := .dead, attemptCount := 1 }

def deadAttempt : DeliveryAttempt where
  outbox := hookRow.id
  status := .failure
  httpStatus := some 410
  errorMessage := lit "gone"
  attemptNumber := 1
  durationMs := some 5
  trigger := .dispatch
  scheduledJobRunId := none

def deadWorld : RetentionWorld where
  outbox := { hookStart with
    db := ⟨[hookRule], [deadRow], [deadAttempt]⟩
    clock := 8 * microsecondsPerDay }
  issued := [hookRow.id]
  events := [⟨1, 0⟩]
  jobRuns := []
  scan := .stored

def purgeThread : RetentionThread :=
  ⟨.purge ⟨2000, none, false⟩ 2, retentionTask mailSettings plainLibrary 7
    (.purge ⟨2000, none, false⟩ 2), []⟩

/-- The purge after some of its calls, and the world. -/
def deadPurged (calls : Nat) : RetentionThread × RetentionWorld :=
  purgeThread.after RetentionCall.handle calls deadWorld

def requeueThread : RetentionThread :=
  ⟨.requeue 3 hookRow.id, retentionTask mailSettings plainLibrary 7 (.requeue 3 hookRow.id), []⟩

/-- The purge has selected the row, and then the row is requeued. -/
def deadRequeued : RetentionThread × RetentionWorld :=
  requeueThread.after RetentionCall.handle 3 (deadPurged 5).2

def requeuedCrew : RetentionCrew := ⟨deadRequeued.2, [deadRequeued.1, (deadPurged 5).1]⟩

theorem deadWorld_initial : RetentionCrew.Initial ⟨deadWorld, []⟩ := by
  refine ⟨⟨⟨?_, ?_, ?_⟩, ?_⟩, rfl⟩
  all_goals decide

theorem deadPurged_reached (calls : Nat)
    (every : ∀ entry ∈ (deadPurged calls).1.log, entry.op.requeues = none) :
    RetentionCrew.Reaches mailSettings plainLibrary 7 RetentionCrew.Spares ⟨deadWorld, []⟩
      ⟨(deadPurged calls).2, [(deadPurged calls).1]⟩ := by
  refine .head (.arrive (.purge ⟨2000, none, false⟩ 2)) ?_
  refine Crew.ReachesIf.after (fun crew β op _ quiet id same => ?_) calls purgeThread deadWorld every
    [] []
  cases quiet.symm.trans same

theorem purges_spare_live_dead :
    RetentionCrew.Purges mailSettings plainLibrary 7 ⟨(deadPurged 5).2, [(deadPurged 5).1]⟩ ∧
    RetentionCrew.Purges mailSettings plainLibrary 7 ⟨(deadPurged 9).2, [(deadPurged 9).1]⟩ :=
  ⟨purges_spare_live deadWorld_initial (deadPurged_reached 5 (by decide +kernel)),
    purges_spare_live deadWorld_initial (deadPurged_reached 9 (by decide +kernel))⟩

/-- The purge makes its next call. -/
def requeuedPurged : RetentionThread × RetentionWorld :=
  (deadPurged 5).1.after RetentionCall.handle 1 deadRequeued.2

theorem requeuedCrew_reached :
    RetentionCrew.Reaches mailSettings plainLibrary 7 (fun _ _ _ => True) ⟨deadWorld, []⟩
      requeuedCrew := by
  have anyCall (crew : RetentionCrew) (β : Type) (op : RetentionCall β) (state : RetentionWorld)
      (_ : True) : True := trivial
  refine .head (.arrive (.purge ⟨2000, none, false⟩ 2)) ?_
  refine (Crew.ReachesIf.after anyCall 5 purgeThread deadWorld (fun _ _ => trivial) [] []).trans ?_
  refine .head (.arrive (.requeue 3 hookRow.id)) ?_
  exact Crew.ReachesIf.after anyCall 3 requeueThread (deadPurged 5).2 (fun _ _ => trivial) []
    [(deadPurged 5).1]

/-- A row that is requeued after its selection is deleted while it is pending. -/
theorem requeued_deleted :
    RetentionCrew.Initial ⟨deadWorld, []⟩ ∧
    RetentionCrew.Reaches mailSettings plainLibrary 7 (fun _ _ _ => True) ⟨deadWorld, []⟩
      requeuedCrew ∧ ¬ requeuedCrew.Purges mailSettings plainLibrary 7 := by
  refine ⟨deadWorld_initial, requeuedCrew_reached, fun purges => ?_⟩
  have step : RetentionCrew.Step mailSettings plainLibrary 7 requeuedCrew
      ⟨requeuedPurged.2, [deadRequeued.1, requeuedPurged.1]⟩ :=
    Crew.Step.after (deadPurged 5).1 (by decide +kernel) deadRequeued.2 [deadRequeued.1] []
  have live := purges.spares _ step (deadRow.assign .requeued) (by decide +kernel) (by decide +kernel)
  cases live.1

end HostingService
