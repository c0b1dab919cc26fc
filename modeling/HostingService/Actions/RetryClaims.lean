import HostingService.Actions.RetryCalls
import Mathlib.Order.OrderIsoNat

/-! What a retry run claims: a row that it has claimed is not due again at the time at which
the run started, whoever finishes it, so that the loop runs out of rows. -/

namespace HostingService

open Program Text OutboxTransaction

/-! ### Rows that are not due -/

/-- At the time, the row under the id is final, put off or leased. -/
def ActionsDb.Undue (db : ActionsDb) (id : Uuid) (time : Time) : Prop :=
  ∀ row ∈ db.outbox, row.id = id → row.isDue time = false

/-- What is not due at a time that has passed does not become due at that time again, and no row
is new. -/
structure OutboxWorld.KeepsUndue (before after : OutboxWorld) : Prop where
  undue : ∀ id time, time ≤ before.clock → before.db.Undue id time → after.db.Undue id time
  ids : ∀ row ∈ after.db.outbox, ∃ old ∈ before.db.outbox, old.id = row.id

theorem OutboxWorld.KeepsUndue.of_rows {before after : OutboxWorld}
    (rows : ∀ row ∈ after.db.outbox, row ∈ before.db.outbox) : before.KeepsUndue after where
  undue _ _ _ undue row member := undue row (rows row member)
  ids row member := ⟨row, rows row member, rfl⟩

theorem OutboxWorld.KeepsUndue.of_same {before after : OutboxWorld} (same : after.db = before.db) :
    before.KeepsUndue after := .of_rows fun _ member => same ▸ member

theorem ActionsDb.assign_ids {db : ActionsDb} {id : Uuid} {columns : OutboxColumns} {row : ActionOutbox}
    (member : row ∈ (db.assign id columns).outbox) : ∃ old ∈ db.outbox, old.id = row.id := by
  obtain ⟨old, present, rfl⟩ := List.mem_map.mp member
  refine ⟨old, present, ?_⟩
  split <;> simp

theorem ActionsDb.Undue.assign {db : ActionsDb} {id other : Uuid} {time : Time} {columns : OutboxColumns}
    (undue : db.Undue id time)
    (spent : ∀ row ∈ db.outbox, row.id = id → other = id → (row.assign columns).isDue time = false) :
    (db.assign other columns).Undue id time := by
  intro row member own
  obtain ⟨old, present, rfl⟩ := List.mem_map.mp member
  split
  · next same =>
    rw [if_pos same, ActionOutbox.assign_id] at own
    exact spent old present own (same.symm.trans own)
  · next different =>
    rw [if_neg different] at own
    exact undue old present own

theorem one_le_computeRetryDelaySeconds (httpStatus : Option Nat) (retryAfterSeconds : Option Int)
    (baseBackoffSeconds : Int) :
    1 ≤ computeRetryDelaySeconds httpStatus retryAfterSeconds baseBackoffSeconds := by
  simp only [computeRetryDelaySeconds, maxBackoffSeconds]
  omega

section
variable {settings : ActionsSettings} {library : ActionsLibrary}

/-- After a result the row is final, or put off beyond the present. -/
theorem Outcome.columns_undue (outcome : Outcome) (row other : ActionOutbox)
    (retryAfterSeconds : Option Int) {time now : Time} (passed : time ≤ now) :
    (other.assign (outcome.columns settings row retryAfterSeconds now)).isDue time = false := by
  simp only [Outcome.columns]
  split
  · simp [ActionOutbox.isDue, ActionOutbox.assign]
  · split
    · simp [ActionOutbox.isDue, ActionOutbox.assign]
    · have delayed := one_le_computeRetryDelaySeconds outcome.httpStatus retryAfterSeconds
        (backoffSeconds (row.attemptCount + 1))
      simp only [ActionOutbox.isDue, ActionOutbox.assign, microsecondsPerSecond, Option.all_some,
        Bool.and_eq_false_iff, decide_eq_false_iff_not]
      left
      right
      exact not_le.mpr (lt_of_le_of_lt passed (Int.lt_add_of_pos_right now (by omega)))

def CallKeepsUndue (β : Type) (call : DeliveryCall β) : Prop :=
  ∀ world : OutboxWorld, world.KeepsUndue (DeliveryCall.handle β call world).2

theorem Quiet.keepsUndue {β : Type} {call : DeliveryCall β} (quiet : Quiet β call) :
    CallKeepsUndue β call := by
  intro world
  rw [quiet world]
  exact .of_same rfl

theorem recordResult_keepsUndue {id : Uuid} {count : Nat} {terminalError : Option PyStr}
    {success : Bool} {found : AttemptMeta} {correlation : Correlation} :
    CallKeepsUndue _
      (.atomic (recordResult settings id count terminalError success found correlation)) := by
  intro world
  rcases stored : world.db.row id with _ | row
  · rw [recordResult_gone stored]
    exact .of_same rfl
  · by_cases current : row.attemptCount = count
    · subst current
      obtain rfl := (ActionsDb.row_mem stored).2
      rw [DeliveryCall.handle, run_recordResult stored, run_applyDeliveryResult stored]
      refine ⟨fun other time passed undue => ?_, fun _ member => ActionsDb.assign_ids member⟩
      have attempted : ({ world.db with attempts := world.db.attempts ++ [(outcomeOf settings
          terminalError success found).attempt row correlation] } : ActionsDb).Undue other time := undue
      exact attempted.assign fun old _ _ _ => Outcome.columns_undue _ row old _ passed
    · rw [recordResult_overtaken stored current]
      exact .of_same rfl

theorem deliverOutboxRow_keepsUndue (id : Uuid) (correlation : Correlation) :
    (deliverOutboxRow settings library id correlation).All CallKeepsUndue :=
  deliverOutboxRow_all (fun _ _ quiet => quiet.keepsUndue) fun _ _ _ _ => recordResult_keepsUndue

/-- What is due early is due later. -/
theorem ActionOutbox.isDue_mono {row : ActionOutbox} {early late : Time} (le : early ≤ late)
    (due : row.isDue early = true) : row.isDue late = true := by
  have later (value : Option Time) (passed : value.all (· ≤ early) = true) :
      value.all (· ≤ late) = true := by
    cases value with
    | none => rfl
    | some time =>
      simp only [Option.all_some, decide_eq_true_eq] at passed ⊢
      exact passed.trans le
  simp only [ActionOutbox.isDue, Bool.and_eq_true] at due ⊢
  exact ⟨⟨due.1.1, later _ due.1.2⟩, later _ due.2⟩

theorem ActionOutbox.leased_undue (row : ActionOutbox) {time leaseUntil : Time} (leased : time < leaseUntil) :
    (row.assign (.lockedUntil (some leaseUntil))).isDue time = false := by
  simp only [ActionOutbox.isDue, ActionOutbox.assign, Option.all_some, Bool.and_eq_false_iff,
    decide_eq_false_iff_not]
  right
  exact not_le.mpr leased

/-- A claim leases rows that are due, and a lease is not over when it begins. -/
theorem claim_keepsUndue (lease : 0 < settings.webhookRetryLeaseSeconds) (now : Time) (view : ClaimView) :
    CallKeepsUndue _ (.atomic (claimNextPendingOutbox settings now view)) := by
  intro world
  rcases claim_ends settings now view world with same | ⟨row, member, due, leased⟩
  · rw [same]
    exact .of_same rfl
  · rw [leased]
    refine ⟨fun id time _ undue => ?_, fun _ member => ActionsDb.assign_ids member⟩
    refine ActionsDb.Undue.assign undue fun old _ _ same => ?_
    have later : time < now := by
      by_contra passed
      have late := ActionOutbox.isDue_mono (not_lt.mp passed) due
      rw [undue row member same] at late
      cases late
    refine old.leased_undue (later.trans (Int.lt_add_of_pos_right now ?_))
    exact Int.mul_pos lease (by decide)

/-! ### No row is claimed twice -/

/-- The rows that the call has claimed and submitted. -/
def RetryCall.claimedRows (call : RetryCall) : List Uuid := call.futures.map (·.thread.task.1)

theorem RetryFuture.collect_thread (future : RetryFuture) : future.collect.thread = future.thread := by
  rw [RetryFuture.collect]
  split <;> rfl

@[simp] theorem RetryCall.collect_claimedRows (call : RetryCall) :
    call.collect.claimedRows = call.claimedRows := by
  simp only [RetryCall.claimedRows, RetryCall.collect, List.map_map, Function.comp_def,
    RetryFuture.collect_thread]

/-- No dry run is started. -/
def RetrySystem.NoDryRun (_ : RetrySystem) (event : RetrySystemEvent) : Prop :=
  ∀ options, event = .starts options → options.dryRun = false

/-- Results are waited for only where some are due. -/
def RetryCall.WaitsForSome (call : RetryCall) : Prop :=
  (∃ timeout, call.phase = .waiting timeout) ∨ call.phase = .working → call.inFlight ≠ []

structure RetryCall.Claims (issued : List Uuid) (world : OutboxWorld) (call : RetryCall) : Prop where
  wet : call.options.dryRun = false
  holdsNone : ∀ row, call.phase ≠ .releasing row
  waits : call.WaitsForSome
  started : call.now ≤ world.clock
  ids : ∀ id ∈ call.claimedRows, id ∈ issued
  undue : ∀ id ∈ call.claimedRows, world.db.Undue id call.now
  once : call.claimedRows.Nodup

theorem Thread.after_task {ι α : Type} (calls : Nat)
    (thread : Thread DeliveryCall ActionsError OutboxWorld ι α) (world : OutboxWorld) :
    (thread.after DeliveryCall.handle calls world).1.task = thread.task := by
  induction calls generalizing thread world with
  | zero => rfl
  | succ calls ih =>
    obtain ⟨task, rest, log⟩ := thread
    cases rest with
    | ret value => rfl
    | raise error => rfl
    | call op next => exact ih ⟨task, next (DeliveryCall.handle _ op world).1, log ++ [⟨op, world⟩]⟩ _

/-- A step claims a row that is due at the time of the call, or no row becomes due again. -/
theorem RetryCall.Step.claimed {world later : OutboxWorld} {call after : RetryCall}
    {event : RetrySystemEvent} (stepped : RetryCall.Step settings library world call event later after)
    (wet : call.options.dryRun = false) (holdsNone : ∀ row, call.phase ≠ .releasing row)
    (every : ∀ future ∈ call.futures, future.thread.rest.All CallKeepsUndue) :
    (after.claimedRows = call.claimedRows ∧ world.KeepsUndue later) ∨
      ∃ row ∈ world.db.outbox, row.isDue call.now = true ∧
        after.claimedRows = call.claimedRows ++ [row.id] ∧
        later.db = world.db.assign row.id (.lockedUntil (some
          (call.now + settings.webhookRetryLeaseSeconds * microsecondsPerSecond))) := by
  cases stepped with
  | idles view choosing free nothing =>
    rw [RetryCall.claim] at nothing
    rcases claim_ends settings call.now view world with same | ⟨old, member, due, leased⟩
    · rw [same] at nothing
      cases nothing
      exact .inl ⟨rfl, .of_same rfl⟩
    · rw [leased] at nothing
      cases nothing
  | claims view row choosing free found =>
    right
    rw [RetryCall.claim] at found
    rcases claim_ends settings call.now view world with same | ⟨old, member, due, leased⟩
    · rw [same] at found
      cases found
    · rw [leased] at found
      cases found
      refine ⟨old, member, due, ?_, rfl⟩
      simp [wet, RetryCall.submits, RetryCall.claimedRows, RetryFuture.submit]
  | releases row holding => exact (holdsNone row holding).elim
  | delivers future op next waiting present =>
    have allowed := every future (present ▸ mem_middle.mpr (.inl rfl))
    rw [waiting] at allowed
    refine .inl ⟨?_, allowed.1 world⟩
    simp only [RetryCall.claimedRows, present, List.map_append, List.map_cons, Thread.after_task]
  | collects ready returned goesOn => exact .inl ⟨call.collect_claimedRows, .of_same rfl⟩
  | _ => exact .inl ⟨rfl, .of_same rfl⟩

/-- A wet call releases a lease with a result alone. -/
theorem RetryCall.Step.keepsUndue (lease : 0 < settings.webhookRetryLeaseSeconds)
    {world later : OutboxWorld} {call after : RetryCall} {event : RetrySystemEvent}
    (stepped : RetryCall.Step settings library world call event later after)
    (holdsNone : ∀ row, call.phase ≠ .releasing row)
    (every : ∀ future ∈ call.futures, future.thread.rest.All CallKeepsUndue) :
    world.KeepsUndue later := by
  have claimed {view : ClaimView} {result : Except ActionsError (Option ActionOutbox)}
      (found : call.claim settings view world = (result, later)) : world.KeepsUndue later := by
    have kept := claim_keepsUndue lease call.now view world
    rw [RetryCall.claim] at found
    rw [found] at kept
    exact kept
  cases stepped with
  | idles view choosing free nothing => exact claimed nothing
  | claims view row choosing free found => exact claimed found
  | releases row holding => exact (holdsNone row holding).elim
  | delivers future op next waiting present =>
    have allowed := every future (present ▸ mem_middle.mpr (.inl rfl))
    rw [waiting] at allowed
    exact allowed.1 world
  | _ => exact .of_same rfl

theorem RetryCall.Step.times {world later : OutboxWorld} {call after : RetryCall}
    {event : RetrySystemEvent} (stepped : RetryCall.Step settings library world call event later after) :
    later.clock = world.clock ∧ later.monotonic = world.monotonic := by
  have claimed {view : ClaimView} {result : Except ActionsError (Option ActionOutbox)}
      (found : call.claim settings view world = (result, later)) :
      later.clock = world.clock ∧ later.monotonic = world.monotonic := by
    have kept := DeliveryCall.handle_times (.atomic (claimNextPendingOutbox settings call.now view)) world
    rw [RetryCall.claim] at found
    rw [found] at kept
    exact kept
  cases stepped with
  | idles view choosing free nothing => exact claimed nothing
  | claims view row choosing free found => exact claimed found
  | releases row holding => exact DeliveryCall.handle_times _ world
  | delivers future op next waiting present => exact DeliveryCall.handle_times op world
  | _ => exact ⟨rfl, rfl⟩

theorem RetryCall.Step.holdsNone {world later : OutboxWorld} {call after : RetryCall}
    {event : RetrySystemEvent} (stepped : RetryCall.Step settings library world call event later after)
    (wet : call.options.dryRun = false) (holdsNone : ∀ row, call.phase ≠ .releasing row) :
    ∀ row, after.phase ≠ .releasing row := by
  intro row
  cases stepped with
  | idles view choosing free nothing =>
    simp only
    split <;> exact RetryCallPhase.noConfusion
  | claims view found choosing free claimed =>
    rw [wet]
    simp only [Bool.false_eq_true, if_false, RetryCall.submits]
    split <;> exact RetryCallPhase.noConfusion
  | delivers future op next waiting present => exact holdsNone row
  | collects ready returned goesOn =>
    rw [RetryCall.next]
    split
    · split <;> exact RetryCallPhase.noConfusion
    · exact RetryCallPhase.noConfusion
  | joins raised joining beyond =>
    cases raised <;> exact RetryCallPhase.noConfusion
  | _ => exact RetryCallPhase.noConfusion

/-- A delivery that goes on stays in flight. -/
theorem RetryCall.inFlight_middle {call : RetryCall} {front back : List RetryFuture} {moved : RetryFuture}
    (present : call.futures = front ++ moved :: back)
    (thread : Thread DeliveryCall ActionsError OutboxWorld (Uuid × OutboxStatus) RetryStats) :
    ({ call with futures := front ++ { moved with thread } :: back } : RetryCall).inFlight.length =
      call.inFlight.length := by
  simp only [RetryCall.inFlight, present, ← List.countP_eq_length_filter, List.countP_append, List.countP_cons]

theorem RetryCall.Step.waitsForSome {world later : OutboxWorld} {call after : RetryCall}
    {event : RetrySystemEvent} (stepped : RetryCall.Step settings library world call event later after)
    (wet : call.options.dryRun = false) (waits : call.WaitsForSome) : after.WaitsForSome := by
  cases stepped with
  | waits choosing busy =>
    intro _ nothing
    have workers : 1 ≤ call.workers := le_max_left _ _
    have same : call.inFlight = [] := nothing
    rw [same] at busy
    simp at busy
    omega
  | idles view choosing free nothing =>
    intro waiting none
    have same : call.inFlight = [] := none
    rw [same, if_pos rfl] at waiting
    rcases waiting with ⟨timeout, other⟩ | other <;> cases other
  | claims view row choosing free found =>
    intro _ nothing
    have length := congrArg List.length nothing
    simp [wet, RetryCall.submits, RetryCall.inFlight, RetryFuture.submit, List.filter_append] at length
  | delivers future op next waiting present =>
    intro before nothing
    refine waits before (List.length_eq_zero_iff.mp ?_)
    exact (RetryCall.inFlight_middle present _).symm.trans (congrArg List.length nothing)
  | collects ready returned goesOn =>
    intro waiting
    rw [RetryCall.next] at waiting
    split at waiting
    · split at waiting <;> rcases waiting with ⟨timeout, other⟩ | other <;> cases other
    · rcases waiting with ⟨timeout, other⟩ | other <;> cases other
  | joins raised joining beyond =>
    rintro (⟨timeout, other⟩ | other) <;> cases raised <;> cases other
  | _ =>
    rintro (⟨timeout, other⟩ | other) <;> cases other

/-- A row that is claimed was due, so it was none of those that were claimed before. -/
theorem RetryCall.Step.keepsClaims (lease : 0 < settings.webhookRetryLeaseSeconds)
    {issued : List Uuid} {world later : OutboxWorld} {call after : RetryCall} {event : RetrySystemEvent}
    (stepped : RetryCall.Step settings library world call event later after)
    (rows : ∀ row ∈ world.db.outbox, row.id ∈ issued)
    (every : ∀ future ∈ call.futures, future.thread.rest.All CallKeepsUndue)
    (claims : call.Claims issued world) : after.Claims issued later := by
  obtain ⟨options, now, _⟩ := stepped.options
  have kept (id : Uuid) (member : id ∈ call.claimedRows) : later.db.Undue id call.now :=
    (stepped.keepsUndue lease claims.holdsNone every).undue id call.now claims.started
      (claims.undue id member)
  have common (ids : ∀ id ∈ after.claimedRows, id ∈ issued)
      (undue : ∀ id ∈ after.claimedRows, later.db.Undue id call.now)
      (once : after.claimedRows.Nodup) : after.Claims issued later :=
    { wet := options ▸ claims.wet
      holdsNone := stepped.holdsNone claims.wet claims.holdsNone
      waits := stepped.waitsForSome claims.wet claims.waits
      started := by
        rw [now, stepped.times.1]
        exact claims.started
      ids := ids
      undue := by
        rw [now]
        exact undue
      once := once }
  rcases stepped.claimed claims.wet claims.holdsNone every with ⟨same, _⟩ | ⟨row, member, due, more, leased⟩
  · rw [← same] at kept
    exact common (same ▸ claims.ids) kept (same ▸ claims.once)
  · rw [more] at common
    refine common (fun id present => ?_) (fun id present => ?_) ?_
    · rcases List.mem_append.mp present with old | new
      · exact claims.ids id old
      · obtain rfl := List.mem_singleton.mp new
        exact rows row member
    · rcases List.mem_append.mp present with old | new
      · exact kept id old
      · obtain rfl := List.mem_singleton.mp new
        rw [leased]
        intro other stored own
        obtain ⟨old, _, rfl⟩ := List.mem_map.mp stored
        split
        · exact old.leased_undue (Int.lt_add_of_pos_right call.now (Int.mul_pos lease (by decide)))
        · next different =>
          rw [if_neg different] at own
          exact (different own).elim
    · refine List.nodup_append.mpr ⟨claims.once, List.nodup_singleton _, fun id old other new => ?_⟩
      obtain rfl := List.mem_singleton.mp new
      rintro rfl
      have spent := claims.undue row.id old row member rfl
      rw [due] at spent
      cases spent

/-! ### Beside dispatches, other runs, deletions and new rows -/

structure RetrySystem.Claiming (state : RetrySystem) : Prop where
  rows : ∀ row ∈ state.world.db.outbox, row.id ∈ state.issued
  allowed : state.Allowed fun _ => CallKeepsUndue
  calls : ∀ call ∈ state.calls, call.Claims state.issued state.world

theorem RetryCall.Claims.keeps {issued more : List Uuid} {before after : OutboxWorld} {call : RetryCall}
    (claims : call.Claims issued before) (grown : ∀ id ∈ issued, id ∈ more)
    (passed : before.clock ≤ after.clock)
    (kept : ∀ id ∈ issued, before.db.Undue id call.now → after.db.Undue id call.now) :
    call.Claims more after where
  wet := claims.wet
  holdsNone := claims.holdsNone
  waits := claims.waits
  started := claims.started.trans passed
  ids id member := grown id (claims.ids id member)
  undue id member := kept id (claims.ids id member) (claims.undue id member)
  once := claims.once

/-- A step of the world that leaves the calls as they are. -/
theorem RetrySystem.Claiming.keeps {state : RetrySystem} (claiming : state.Claiming) {after : OutboxWorld}
    (kept : state.world.KeepsUndue after) (passed : state.world.clock ≤ after.clock) :
    (∀ row ∈ after.db.outbox, row.id ∈ state.issued) ∧
      ∀ call ∈ state.calls, call.Claims state.issued after := by
  constructor
  · intro row member
    obtain ⟨old, present, same⟩ := kept.ids row member
    exact same ▸ claiming.rows old present
  · intro call member
    have claims := claiming.calls call member
    exact claims.keeps (fun _ => id) passed fun id _ => kept.undue id call.now claims.started

theorem ActionsDb.Deletes.rows_subset {before after : ActionsDb} (deletes : before.Deletes after) :
    ∀ row ∈ after.outbox, row ∈ before.outbox := by
  cases deletes with
  | rule id => exact fun row member => (List.mem_filter.mp member).1
  | rows ids => exact fun row member => (List.mem_filter.mp member).1

theorem RetrySystem.Step.claiming (lease : 0 < settings.webhookRetryLeaseSeconds)
    {before after : RetrySystem} {event : RetrySystemEvent}
    (step : RetrySystem.Step settings library before event after) (wet : before.NoDryRun event)
    (claiming : before.Claiming) : after.Claiming := by
  have allowed := step.allowed (fun id correlation => deliverOutboxRow_keepsUndue id correlation)
    claiming.allowed
  cases step with
  | emits row db fresh created =>
    obtain ⟨_, rfl⟩ := createOutbox_ends created
    refine ⟨fun other member => ?_, allowed, fun call member => ?_⟩
    · rcases List.mem_append.mp member with old | new
      · exact List.mem_cons_of_mem _ (claiming.rows other old)
      · obtain rfl := List.mem_singleton.mp new
        exact List.mem_cons_self
    · refine (claiming.calls call member).keeps (fun _ => List.mem_cons_of_mem _) le_rfl ?_
      intro id issued undue other stored own
      rcases List.mem_append.mp stored with old | new
      · exact undue other old own
      · obtain rfl := List.mem_singleton.mp new
        exact (fresh (own ▸ issued)).elim
  | dispatches thread op next waiting present =>
    have every := claiming.allowed.1 thread (present ▸ mem_middle.mpr (.inl rfl))
    rw [waiting] at every
    obtain ⟨rows, calls⟩ := claiming.keeps (every.1 before.world)
      (DeliveryCall.handle_clock op before.world).ge
    exact ⟨rows, allowed, calls⟩
  | starts options fresh =>
    refine ⟨claiming.rows, allowed, fun call member => ?_⟩
    rcases List.mem_append.mp member with old | new
    · exact claiming.calls call old
    · obtain rfl := List.mem_singleton.mp new
      have nothing : (RetryCall.start options before.world).claimedRows = [] := rfl
      constructor
      · exact wet options rfl
      · exact fun _ => RetryCallPhase.noConfusion
      · rintro (⟨timeout, other⟩ | other) <;> cases other
      · exact le_rfl
      · simp [nothing]
      · simp [nothing]
      · simp [nothing]
  | @acts front call back _ world later present stepped =>
    have own : call ∈ before.calls := present ▸ mem_middle.mpr (.inl rfl)
    have claims := claiming.calls call own
    have every := claiming.allowed.2 call own
    obtain ⟨rows, calls⟩ := claiming.keeps (stepped.keepsUndue lease claims.holdsNone every) stepped.times.1.ge
    refine ⟨rows, allowed, fun other member => ?_⟩
    rcases mem_middle.mp member with rfl | old
    · exact stepped.keepsClaims lease claiming.rows every claims
    · exact calls other (present ▸ mem_middle.mpr (.inr old))
  | passes span =>
    have kept : before.world.KeepsUndue { before.world with
        clock := before.world.clock + span, monotonic := before.world.monotonic + span } := .of_same rfl
    obtain ⟨rows, calls⟩ := claiming.keeps kept (Int.le_add_of_nonneg_right (Int.natCast_nonneg span))
    exact ⟨rows, allowed, calls⟩
  | deletes db deleted =>
    have kept : before.world.KeepsUndue { before.world with db } := .of_rows deleted.rows_subset
    obtain ⟨rows, calls⟩ := claiming.keeps kept le_rfl
    exact ⟨rows, allowed, calls⟩
  | administers rules =>
    have kept : before.world.KeepsUndue { before.world with db := { before.world.db with rules } } :=
      .of_rows fun _ => id
    obtain ⟨rows, calls⟩ := claiming.keeps kept le_rfl
    exact ⟨rows, allowed, calls⟩
  | reroutes network =>
    have kept : before.world.KeepsUndue { before.world with network } := .of_same rfl
    obtain ⟨rows, calls⟩ := claiming.keeps kept le_rfl
    exact ⟨rows, allowed, calls⟩

theorem RetrySystem.Initial.claiming {state : RetrySystem} (initial : state.Initial) : state.Claiming where
  rows row member := initial.issued ▸ List.mem_map_of_mem member
  allowed := by
    constructor
    · simp [initial.dispatches]
    · simp [initial.calls]
  calls := by simp [initial.calls]

theorem RetrySystem.Reaches.claiming (lease : 0 < settings.webhookRetryLeaseSeconds)
    {start state : RetrySystem} (claiming : start.Claiming)
    (path : RetrySystem.Reaches settings library RetrySystem.NoDryRun start state) : state.Claiming := by
  induction path with
  | refl => exact claiming
  | tail _ last ih =>
    obtain ⟨event, step, wet⟩ := last
    exact step.claiming lease wet ih

/-! ### The first loop runs out of rows -/

def RetryCallPhase.inLoop : RetryCallPhase → Bool
  | .checking | .choosing | .waiting _ | .releasing _ | .working => true
  | _ => false

/-- What a turn of the loop that neither claims nor collects uses up. -/
def RetryCallPhase.rank : RetryCallPhase → Nat
  | .checking => 2
  | .choosing => 1
  | _ => 0

/-- A claim or a result that is collected uses up some of it. -/
def RetryCall.weight (rows : Nat) (call : RetryCall) : Nat :=
  2 * (rows - call.claimedRows.length) + call.inFlight.length

theorem RetryFuture.collect_collected (future : RetryFuture) :
    future.collect.collected = (future.collected || decide future.Finished) := by
  rw [RetryFuture.collect]
  by_cases finished : future.Finished <;> simp [finished]

/-- Collecting takes what is done out of flight. -/
theorem RetryCall.collect_inFlight_length (call : RetryCall) :
    call.collect.inFlight.length + call.done.length = call.inFlight.length := by
  simp only [RetryCall.inFlight, RetryCall.done, RetryCall.collect, List.filter_filter,
    ← List.countP_eq_length_filter, List.countP_map]
  induction call.futures with
  | nil => rfl
  | cons future futures ih =>
    simp only [List.countP_cons, Function.comp_apply, RetryFuture.collect_collected]
    by_cases collected : future.collected = true
    · simp only [collected, Bool.true_or, Bool.not_true, Bool.and_false, Bool.false_eq_true, if_false]
      omega
    · rw [Bool.not_eq_true] at collected
      by_cases finished : future.Finished
      · simp only [collected, finished, decide_true, Bool.or_true, Bool.not_true, Bool.not_false,
          Bool.and_true, Bool.false_eq_true, if_false, if_true]
        omega
      · simp only [collected, finished, decide_false, Bool.or_false, Bool.not_false, Bool.false_and,
          Bool.false_eq_true, if_false, if_true]
        omega

/-- A turn of the loop claims, collects, or comes closer to a wait for a result; a worker that
goes on does none of these. -/
inductive RetryCall.Turn (call after : RetryCall) : Prop where
  | works (rows : after.claimedRows = call.claimedRows) (phase : after.phase = call.phase)
      (length : after.inFlight.length = call.inFlight.length)
  | claims (rows : after.claimedRows.length = call.claimedRows.length + 1)
      (length : after.inFlight.length = call.inFlight.length + 1)
  | collects (rows : after.claimedRows = call.claimedRows)
      (length : after.inFlight.length + call.done.length = call.inFlight.length)
      (waiting : (∃ timeout, call.phase = .waiting timeout) ∨ call.phase = .working)
  | turns (futures : after.futures = call.futures) (closer : after.phase.rank < call.phase.rank)

theorem RetryCall.Step.turn {world later : OutboxWorld} {call after : RetryCall}
    {event : RetrySystemEvent} (stepped : RetryCall.Step settings library world call event later after)
    (wet : call.options.dryRun = false) (holdsNone : ∀ row, call.phase ≠ .releasing row)
    (looping : call.phase.inLoop = true) (still : after.phase.inLoop = true) : call.Turn after := by
  cases stepped with
  | enters checking more =>
    refine .turns rfl ?_
    rw [checking]
    exact Nat.lt_succ_self 1
  | waits choosing busy =>
    refine .turns rfl ?_
    rw [choosing]
    exact Nat.lt_succ_self 0
  | idles view choosing free nothing =>
    refine .turns rfl ?_
    rw [choosing]
    simp only at still ⊢
    split at still
    · cases still
    · next some =>
      rw [if_neg some]
      exact Nat.lt_succ_self 0
  | claims view row choosing free found =>
    refine .claims ?_ ?_
    · simp [wet, RetryCall.submits, RetryCall.claimedRows]
    · simp [wet, RetryCall.submits, RetryCall.inFlight, RetryFuture.submit, List.filter_append]
  | releases row holding => exact (holdsNone row holding).elim
  | delivers future op next waiting present =>
    refine .works ?_ rfl ?_
    · simp only [RetryCall.claimedRows, present, List.map_append, List.map_cons, Thread.after_task]
    · exact RetryCall.inFlight_middle present _
  | collects ready returned goesOn =>
    refine .collects call.collect_claimedRows call.collect_inFlight_length ?_
    rw [RetryCall.Ready] at ready
    cases phase : call.phase with
    | waiting timeout => exact .inl ⟨timeout, rfl⟩
    | working => exact .inr rfl
    | collecting =>
      rw [phase] at looping
      cases looping
    | _ =>
      rw [phase] at ready
      exact ready.elim
  | leaves checking beyond => cases still
  | raises ready raised => cases still
  | drains draining unfinished early => cases still
  | stops beyond => cases still
  | joins raised joining beyond =>
    cases raised <;> cases still

/-- The delivery of the row has ended. -/
def RetryCall.Ended (call : RetryCall) (id : Uuid) : Prop :=
  ∃ future ∈ call.futures, future.thread.task.1 = id ∧ future.Finished

theorem RetryCall.Step.ended {world later : OutboxWorld} {call after : RetryCall}
    {event : RetrySystemEvent} (stepped : RetryCall.Step settings library world call event later after)
    {id : Uuid} (ended : call.Ended id) : after.Ended id := by
  obtain ⟨future, member, own, finished⟩ := ended
  cases stepped with
  | claims view row choosing free found =>
    split
    · exact ⟨future, member, own, finished⟩
    · exact ⟨future, List.mem_append_left _ member, own, finished⟩
  | delivers moved op next waiting present =>
    rw [present] at member
    rcases mem_middle.mp member with rfl | other
    · rw [RetryFuture.Finished, waiting] at finished
      exact finished.elim
    · exact ⟨future, mem_middle.mpr (.inr other), own, finished⟩
  | collects ready returned goesOn =>
    refine ⟨future.collect, List.mem_map_of_mem member, ?_, ?_⟩
    · rw [RetryFuture.collect_thread]
      exact own
    · rw [RetryFuture.Finished, RetryFuture.collect_thread]
      exact finished
  | _ => exact ⟨future, member, own, finished⟩

/-- A step of the system is a step of the call, or leaves it alone. -/
theorem RetrySystem.Step.at {before after : RetrySystem} {event : RetrySystemEvent}
    (step : RetrySystem.Step settings library before event after) {i : Nat} {call : RetryCall}
    (present : before.calls[i]? = some call) : after.calls[i]? = some call ∨
      ∃ event world later, RetryCall.Step settings library before.world call event world later ∧
        after.calls[i]? = some later := by
  cases step with
  | starts options fresh =>
    left
    rw [List.getElem?_append_left (List.getElem?_eq_some_iff.mp present).1]
    exact present
  | @acts front moved back _ world later split stepped =>
    rw [split] at present
    rcases getElem?_middle present with ⟨rfl, rfl⟩ | ⟨_, other⟩
    · exact .inr ⟨event, world, later, stepped, getElem?_middle_self front back later⟩
    · exact .inl (other later)
  | _ => exact .inl present

theorem RetrySystem.Step.issued {before after : RetrySystem} {event : RetrySystemEvent}
    (step : RetrySystem.Step settings library before event after)
    (noNewRows : ∀ row, event ≠ .emits row) : after.issued = before.issued := by
  cases step with
  | emits row db fresh created => exact (noNewRows row rfl).elim
  | _ => rfl

/-! ### Endless runs -/

/-- An endless run without new rows. -/
structure RetrySystem.Run (settings : ActionsSettings) (library : ActionsLibrary)
    (start : RetrySystem) where
  states : Nat → RetrySystem
  events : Nat → RetrySystemEvent
  first : states 0 = start
  steps : ∀ n, RetrySystem.Step settings library (states n) (events n) (states (n + 1))
  noDryRun : ∀ n, (states n).NoDryRun (events n)
  noNewRows : ∀ n row, events n ≠ .emits row

/-- As long as the call is in its first loop it takes another turn, and its deliveries end. -/
structure RetrySystem.Run.Fair {start : RetrySystem} (run : RetrySystem.Run settings library start)
    (i : Nat) : Prop where
  turns : ∀ n call, (run.states n).calls[i]? = some call → call.phase.inLoop = true →
    ∃ m ≥ n, ∃ before after, (run.states m).calls[i]? = some before ∧
      (run.states (m + 1)).calls[i]? = some after ∧ after.phase ≠ before.phase
  ends : ∀ n call, (run.states n).calls[i]? = some call → ∀ id ∈ call.claimedRows,
    ∃ m ≥ n, ∃ later, (run.states m).calls[i]? = some later ∧ later.Ended id

variable {start : RetrySystem}

theorem RetrySystem.Run.claiming (run : RetrySystem.Run settings library start)
    (lease : 0 < settings.webhookRetryLeaseSeconds) (claiming : start.Claiming) (n : Nat) :
    (run.states n).Claiming := by
  induction n with
  | zero =>
    rw [run.first]
    exact claiming
  | succ n ih => exact (run.steps n).claiming lease (run.noDryRun n) ih

theorem RetrySystem.Run.issued (run : RetrySystem.Run settings library start) (n : Nat) :
    (run.states n).issued = start.issued := by
  induction n with
  | zero => rw [run.first]
  | succ n ih => exact ((run.steps n).issued (run.noNewRows n)).trans ih

/-- The call of a run, state by state. -/
theorem RetrySystem.Step.calls {states : Nat → RetrySystem} {events : Nat → RetrySystemEvent}
    (steps : ∀ n, RetrySystem.Step settings library (states n) (events n) (states (n + 1))) {i : Nat}
    {first : RetryCall} (present : (states 0).calls[i]? = some first) :
    ∃ calls : Nat → RetryCall, ∀ n, (states n).calls[i]? = some (calls n) := by
  have every (n : Nat) : ∃ call, (states n).calls[i]? = some call := by
    induction n with
    | zero => exact ⟨first, present⟩
    | succ n ih =>
      obtain ⟨call, stored⟩ := ih
      rcases (steps n).at stored with same | ⟨_, _, later, _, moved⟩
      · exact ⟨call, same⟩
      · exact ⟨later, moved⟩
  exact ⟨fun n => (every n).choose, fun n => (every n).choose_spec⟩

/-- There are no more claims than rows. -/
theorem RetryCall.Claims.bounded {issued : List Uuid} {world : OutboxWorld} {call : RetryCall}
    (claims : call.Claims issued world) : call.claimedRows.length ≤ issued.length :=
  (claims.once.subperm claims.ids).length_le

/-- Where the delivery of every row has ended, every future is finished. -/
theorem RetryCall.Claims.finished {issued : List Uuid} {world : OutboxWorld} {call : RetryCall}
    (claims : call.Claims issued world) (ended : ∀ id ∈ call.claimedRows, call.Ended id) :
    call.done = call.inFlight := by
  refine List.filter_eq_self.mpr fun future member => ?_
  have present : future ∈ call.futures := (List.mem_filter.mp member).1
  obtain ⟨other, stored, same, finished⟩ := ended _ (List.mem_map_of_mem present)
  obtain rfl := List.inj_on_of_nodup_map claims.once stored present same
  exact decide_eq_true finished

theorem RetryCall.Turn.weight_le {call after : RetryCall} {rows : Nat} (turn : call.Turn after)
    (bounded : after.claimedRows.length ≤ rows) : after.weight rows ≤ call.weight rows := by
  simp only [RetryCall.weight]
  cases turn with
  | works same phase length => rw [same, length]
  | claims more length =>
    rw [more] at bounded ⊢
    omega
  | collects same length waiting =>
    rw [same]
    omega
  | turns futures closer => simp [RetryCall.claimedRows, RetryCall.inFlight, futures]

/-- What a turn that uses up nothing leaves as it is. -/
theorem RetryCall.Turn.idle {call after : RetryCall} {rows : Nat} (turn : call.Turn after)
    (same : after.weight rows = call.weight rows) :
    after.claimedRows = call.claimedRows ∧ (after.phase = call.phase ∨
      after.phase.rank < call.phase.rank ∨
        (call.done = [] ∧ ((∃ timeout, call.phase = .waiting timeout) ∨ call.phase = .working))) := by
  simp only [RetryCall.weight] at same
  cases turn with
  | works rows phase length => exact ⟨rows, .inl phase⟩
  | claims more length =>
    rw [more] at same
    omega
  | collects rows length waiting =>
    rw [rows] at same
    have nothing : call.done.length = 0 := by omega
    exact ⟨rows, .inr (.inr ⟨List.length_eq_zero_iff.mp nothing, waiting⟩)⟩
  | turns futures closer => exact ⟨by simp [RetryCall.claimedRows, futures], .inr (.inl closer)⟩

/-- The states of one call in an endless run that it spends in its first loop. -/
structure RetrySystem.Run.Loops (run : RetrySystem.Run settings library start) (i : Nat)
    (calls : Nat → RetryCall) : Prop where
  stored : ∀ n, (run.states n).calls[i]? = some (calls n)
  claims : ∀ n, (calls n).Claims start.issued (run.states n).world
  loops : ∀ n, (calls n).phase.inLoop = true

variable {run : RetrySystem.Run settings library start} {i : Nat} {calls : Nat → RetryCall}

theorem RetrySystem.Run.Loops.turn (looping : run.Loops i calls) (n : Nat) :
    calls (n + 1) = calls n ∨ (calls n).Turn (calls (n + 1)) := by
  rcases (run.steps n).at (looping.stored n) with same | ⟨event, world, later, stepped, moved⟩
  · rw [looping.stored (n + 1)] at same
    exact .inl (Option.some.inj same)
  · rw [looping.stored (n + 1)] at moved
    obtain rfl := Option.some.inj moved
    have claims := looping.claims n
    exact .inr (stepped.turn claims.wet claims.holdsNone (looping.loops n) (looping.loops (n + 1)))

theorem RetrySystem.Run.Loops.ended_mono (looping : run.Loops i calls) {id : Uuid} {n m : Nat}
    (le : n ≤ m) (ended : (calls n).Ended id) : (calls m).Ended id := by
  induction le with
  | refl => exact ended
  | step le ih =>
    rcases (run.steps _).at (looping.stored _) with same | ⟨event, world, later, stepped, moved⟩
    · rw [looping.stored] at same
      rw [Option.some.inj same]
      exact ih
    · rw [looping.stored] at moved
      rw [Option.some.inj moved]
      exact stepped.ended ih

/-- From some state on, nothing is claimed or collected. -/
theorem RetrySystem.Run.Loops.settles (looping : run.Loops i calls) :
    ∃ n, ∀ m, n ≤ m → (calls m).weight start.issued.length = (calls n).weight start.issued.length := by
  have falls : Antitone fun n => (calls n).weight start.issued.length := by
    refine antitone_nat_of_succ_le fun n => ?_
    rcases looping.turn n with same | turn
    · rw [same]
    · exact turn.weight_le (looping.claims (n + 1)).bounded
  obtain ⟨n, constant⟩ := WellFoundedLT.antitone_chain_condition falls
  exact ⟨n, fun m le => (constant m le).symm⟩

/-- Deliveries that end one by one have all ended in some state. -/
theorem RetrySystem.Run.Loops.allEnded (looping : run.Loops i calls) (fair : run.Fair i) (n : Nat) :
    ∃ m, n ≤ m ∧ ∀ id ∈ (calls n).claimedRows, (calls m).Ended id := by
  have each (ids : List Uuid) (claimed : ∀ id ∈ ids, id ∈ (calls n).claimedRows) :
      ∃ m, n ≤ m ∧ ∀ id ∈ ids, (calls m).Ended id := by
    induction ids with
    | nil => exact ⟨n, le_rfl, fun id nothing => by cases nothing⟩
    | cons id ids ih =>
      obtain ⟨m, le, others⟩ := ih fun other member => claimed other (List.mem_cons_of_mem id member)
      obtain ⟨k, later, call, stored, own⟩ := fair.ends n _ (looping.stored n) id
        (claimed id List.mem_cons_self)
      rw [looping.stored k] at stored
      obtain rfl := Option.some.inj stored
      refine ⟨max m k, le.trans (le_max_left m k), fun other member => ?_⟩
      rcases List.mem_cons.mp member with rfl | old
      · exact looping.ended_mono (le_max_right m k) own
      · exact looping.ended_mono (le_max_left m k) (others other old)
  exact each _ fun _ => id

/-- A call whose deliveries end does not stay in its first loop, whatever its deadline is. -/
theorem RetrySystem.Run.leavesLoop (lease : 0 < settings.webhookRetryLeaseSeconds)
    (claiming : start.Claiming) {first : RetryCall} (present : start.calls[i]? = some first)
    (fair : run.Fair i) :
    ∃ n call, (run.states n).calls[i]? = some call ∧ call.phase.inLoop = false := by
  obtain ⟨calls, stored⟩ := RetrySystem.Step.calls run.steps (by rw [run.first]; exact present)
  by_contra never
  have loops (n : Nat) : (calls n).phase.inLoop = true := by
    by_contra left
    exact never ⟨n, calls n, stored n, Bool.eq_false_iff.mpr left⟩
  have claims (n : Nat) : (calls n).Claims start.issued (run.states n).world := by
    have every := (run.claiming lease claiming n).calls (calls n) (List.mem_of_getElem? (stored n))
    rw [run.issued n] at every
    exact every
  have looping : run.Loops i calls := ⟨stored, claims, loops⟩
  obtain ⟨n, constant⟩ := looping.settles
  -- after `n` no row is claimed, so the deliveries that end are all there are
  have idle (m : Nat) (le : n ≤ m) := by
    have same : (calls (m + 1)).weight start.issued.length = (calls m).weight start.issued.length :=
      (constant (m + 1) (by omega)).trans (constant m le).symm
    exact (looping.turn m).imp id fun turn => turn.idle same
  have rows (m : Nat) (le : n ≤ m) : (calls m).claimedRows = (calls n).claimedRows := by
    induction le with
    | refl => rfl
    | step le ih =>
      rcases idle _ le with same | ⟨kept, _⟩
      · rw [same]
        exact ih
      · exact kept.trans ih
  obtain ⟨m, le, ended⟩ := looping.allEnded fair n
  have done (k : Nat) (later : m ≤ k) : (calls k).done = (calls k).inFlight := by
    refine (claims k).finished fun id member => ?_
    rw [rows k (le.trans later)] at member
    exact looping.ended_mono later (ended id member)
  -- a wait would collect, so each further turn comes closer to it and then there is none
  have turns (k : Nat) (later : m ≤ k) : (calls (k + 1)).phase = (calls k).phase ∨
      (calls (k + 1)).phase.rank < (calls k).phase.rank := by
    rcases idle k (le.trans later) with same | ⟨_, phase | closer | ⟨nothing, waiting⟩⟩
    · exact .inl (by rw [same])
    · exact .inl phase
    · exact .inr closer
    · exact ((claims k).waits waiting ((done k later).symm.trans nothing)).elim
  have falls : Antitone fun k => (calls (m + k)).phase.rank := by
    refine antitone_nat_of_succ_le fun k => ?_
    rcases turns (m + k) (Nat.le_add_right m k) with phase | closer
    · exact (congrArg RetryCallPhase.rank phase).le
    · exact closer.le
  obtain ⟨k, flat⟩ := WellFoundedLT.antitone_chain_condition falls
  obtain ⟨l, later, before, after, found, next, different⟩ :=
    fair.turns (m + k) _ (stored (m + k)) (loops (m + k))
  rw [stored l] at found
  rw [stored (l + 1)] at next
  obtain rfl := Option.some.inj found
  obtain rfl := Option.some.inj next
  obtain ⟨j, rfl⟩ := Nat.exists_eq_add_of_le (show m ≤ l by omega)
  rcases turns (m + j) (Nat.le_add_right m j) with phase | closer
  · exact different phase
  · have here := flat j (by omega)
    have there := flat (j + 1) (by omega)
    have equal : (calls (m + j)).phase.rank = (calls (m + (j + 1))).phase.rank := here.symm.trans there
    rw [Nat.add_assoc] at closer
    omega

/-- In runs without requeues no run claims a row twice, and so its first loop ends without the
deadline if there are no new rows. -/
theorem retry_claims_once (lease : 0 < settings.webhookRetryLeaseSeconds) {state : RetrySystem}
    (initial : start.Initial)
    (path : RetrySystem.Reaches settings library RetrySystem.NoDryRun start state) :
    (∀ call ∈ state.calls, call.claimedRows.Nodup) ∧
      ∀ (run : RetrySystem.Run settings library state) (i : Nat), i < state.calls.length →
        run.Fair i → ∃ n call, (run.states n).calls[i]? = some call ∧ call.phase.inLoop = false := by
  have claiming : state.Claiming := RetrySystem.Reaches.claiming lease initial.claiming path
  constructor
  · intro call member
    exact (claiming.calls call member).once
  · intro run i bound fair
    exact run.leavesLoop lease claiming (List.getElem?_eq_getElem bound) fair

end

/-! Rows of a webhook and of a mail, and the options of a call. -/

def retryOptions : RetryOptions where
  batchSize := 50
  maxSeconds := 50000000
  concurrency := 4
  dryRun := false
  scheduledJobRunId := none

def openView : ClaimView := ⟨fun _ => false, true⟩

def RetrySystem.fresh (world : OutboxWorld) : RetrySystem :=
  ⟨world, world.db.outbox.map (·.id), [], [], []⟩

theorem RetrySystem.fresh_initial (world : OutboxWorld) : (RetrySystem.fresh world).Initial :=
  ⟨rfl, rfl, rfl, rfl⟩

/-- A system with one call. -/
def RetrySystem.calling (world : OutboxWorld) (call : RetryCall) : RetrySystem :=
  ⟨world, world.db.outbox.map (·.id), [call], [], []⟩

def claimWorld : OutboxWorld := answeringWorld (plainAnswer 503)

def leasedRow : ActionOutbox := { hookRow with lockedUntil := some 120000000 }

def leasedWorld : OutboxWorld := { claimWorld with db := ⟨[hookRule], [leasedRow, mailRow], []⟩ }

/-- The delivery after some calls. -/
def RetryFuture.after (calls : Nat) (world : OutboxWorld) (future : RetryFuture) :
    RetryFuture × OutboxWorld :=
  let ended := future.thread.after DeliveryCall.handle calls world
  ({ future with thread := ended.1 }, ended.2)

/-! ### A failed row is delivered, and the loop ends -/

/-- A row that is due again. -/
def dueRow : ActionOutbox :=
  { hookRow with status := .failed, attemptCount := 1, nextAttemptAt := some 0 }

def dueWorld : OutboxWorld := { claimWorld with db := ⟨[hookRule], [dueRow], []⟩ }

def againRow : ActionOutbox := { dueRow with lockedUntil := some 120000000 }

def againWorld : OutboxWorld := { claimWorld with db := ⟨[hookRule], [againRow], []⟩ }

def soloOptions : RetryOptions := { retryOptions with concurrency := 1 }

/-- The delivery of the row after some of its five calls. -/
def againFuture (calls : Nat) : RetryFuture × OutboxWorld :=
  (RetryFuture.submit mailSettings plainLibrary none againRow).after calls againWorld

def soloStart : RetryCall := .start soloOptions dueWorld

/-- The call claims the row, delivers it, takes its result, and looks for a row again. -/
def soloCall : Nat → RetryCall
  | 0 => soloStart
  | 1 => { soloStart with phase := .choosing }
  | n + 2 =>
    let working := { soloStart with phase := .working, futures := [(againFuture (min n 5)).1] }
    if n ≤ 5 then working
    else { working.collect with phase :=
      if n = 6 then .checking else if n = 7 then .choosing else .draining }

def soloWorld : Nat → OutboxWorld
  | 0 | 1 => dueWorld
  | n + 2 => (againFuture (min n 5)).2

def soloEvent (n : Nat) : RetrySystemEvent :=
  if n = 1 ∨ n = 9 then .looks openView
  else if 2 ≤ n ∧ n ≤ 6 then .delivers (againFuture (n - 2)).1 else .other

def soloSystem : Nat → RetrySystem
  | 0 => .calling dueWorld soloStart
  | n + 1 =>
    if n < 10 then
      { (soloSystem n).moves (soloWorld (n + 1)) with calls := [soloCall (n + 1)] }
    else soloSystem n

theorem soloCall_step (n : Nat) (early : n < 10) : RetryCall.Step mailSettings plainLibrary
    (soloWorld n) (soloCall n) (soloEvent n) (soloWorld (n + 1)) (soloCall (n + 1)) := by
  match n, early with
  | 0, _ => exact .enters rfl (by decide)
  | 1, _ => exact .claims openView againRow rfl (by decide) rfl
  | 2, _ => exact @RetryCall.Step.delivers _ _ _ _ [] [] _ (againFuture 0).1 _ _ rfl rfl
  | 3, _ => exact @RetryCall.Step.delivers _ _ _ _ [] [] _ (againFuture 1).1 _ _ rfl rfl
  | 4, _ => exact @RetryCall.Step.delivers _ _ _ _ [] [] _ (againFuture 2).1 _ _ rfl rfl
  | 5, _ => exact @RetryCall.Step.delivers _ _ _ _ [] [] _ (againFuture 3).1 _ _ rfl rfl
  | 6, _ => exact @RetryCall.Step.delivers _ _ _ _ [] [] _ (againFuture 4).1 _ _ rfl rfl
  | 7, _ =>
    refine .collects rfl (fun future member => ?_) RetryCallPhase.noConfusion
    obtain rfl := List.mem_singleton.mp (List.mem_filter.mp (List.mem_filter.mp member).1).1
    rfl
  | 8, _ => exact .enters rfl (by decide +kernel)
  | 9, _ => exact .idles openView rfl (by decide +kernel) rfl

theorem soloSystem_now (n : Nat) : (soloSystem n).calls = [soloCall (min n 10)] ∧
    (n ≤ 10 → (soloSystem n).world = soloWorld n) := by
  induction n with
  | zero => exact ⟨rfl, fun _ => rfl⟩
  | succ n ih =>
    rw [soloSystem]
    split
    · rename_i early
      refine ⟨?_, fun _ => rfl⟩
      rw [Nat.min_eq_left early]
    · rename_i late
      rw [ih.1, Nat.min_eq_right (Nat.le_of_not_lt late), Nat.min_eq_right (by omega)]
      exact ⟨rfl, fun early => absurd early (by omega)⟩

theorem soloSystem_step (n : Nat) :
    RetrySystem.Step mailSettings plainLibrary (soloSystem n) (soloEvent n) (soloSystem (n + 1)) := by
  obtain ⟨calls, world⟩ := soloSystem_now n
  rw [soloSystem]
  split
  · rename_i early
    rw [Nat.min_eq_left (Nat.le_of_lt early)] at calls
    have stepped := soloCall_step n early
    rw [← world (Nat.le_of_lt early)] at stepped
    exact @RetrySystem.Step.acts mailSettings plainLibrary (soloSystem n) [] _ [] _ _ _ calls stepped
  · rename_i late
    have other : soloEvent n = .other := by
      rw [soloEvent, if_neg (by omega), if_neg (by omega)]
    rw [other]
    exact .reroutes (soloSystem n).world.network

theorem soloEvent_plain (n : Nat) (event : RetrySystemEvent) (same : soloEvent n = event) :
    (∃ view, event = .looks view) ∨ (∃ future, event = .delivers future) ∨ event = .other := by
  rw [soloEvent] at same
  split at same
  · exact .inl ⟨_, same.symm⟩
  · split at same
    · exact .inr (.inl ⟨_, same.symm⟩)
    · exact .inr (.inr same.symm)

def soloRun : RetrySystem.Run mailSettings plainLibrary (soloSystem 0) where
  states := soloSystem
  events := soloEvent
  first := rfl
  steps := soloSystem_step
  noDryRun n options same := by
    rcases soloEvent_plain n _ same with ⟨_, other⟩ | ⟨_, other⟩ | other <;> cases other
  noNewRows n row same := by
    rcases soloEvent_plain n _ same with ⟨_, other⟩ | ⟨_, other⟩ | other <;> cases other

theorem soloSystem_call {n : Nat} {call : RetryCall} (stored : (soloSystem n).calls[0]? = some call) :
    call = soloCall (min n 10) := by
  rw [(soloSystem_now n).1] at stored
  exact (Option.some.inj stored).symm

theorem soloRun_fair : soloRun.Fair 0 where
  turns n call stored looping := by
    obtain rfl := soloSystem_call stored
    have early : n ≤ 9 := by
      by_contra late
      rw [Nat.min_eq_right (by omega)] at looping
      cases looping
    exact ⟨9, early, soloCall 9, soloCall 10, rfl, rfl, by decide⟩
  ends n call stored id member := by
    have only : ∀ k ≤ 10, ∀ id ∈ (soloCall k).claimedRows, id = ⟨10⟩ := by decide +kernel
    obtain rfl := soloSystem_call stored
    obtain rfl := only _ (Nat.min_le_right n 10) id member
    have last : (soloSystem (max n 10)).calls = [soloCall 10] := by
      rw [(soloSystem_now _).1, Nat.min_eq_right (Nat.le_max_right n 10)]
    have ended : ∃ future ∈ (soloCall 10).futures, future.thread.task.1 = ⟨10⟩ ∧ future.Finished := by
      decide +kernel
    refine ⟨max n 10, Nat.le_max_left n 10, soloCall 10, ?_, ended⟩
    show (soloSystem (max n 10)).calls[0]? = _
    rw [last]
    rfl

theorem soloSystem_reached (n : Nat) : RetrySystem.Reaches mailSettings plainLibrary
    RetrySystem.NoDryRun (.fresh dueWorld) (soloSystem n) := by
  induction n with
  | zero =>
    have started : RetrySystem.Step mailSettings plainLibrary (.fresh dueWorld) (.starts soloOptions)
        (soloSystem 0) := .starts soloOptions fun _ other => by cases other
    refine .single ⟨_, started, fun _ same => ?_⟩
    cases same
    rfl
  | succ n ih => exact .tail ih ⟨_, soloSystem_step n, soloRun.noDryRun n⟩

/-- The row fails again, is not claimed again, and the call leaves its loop. -/
theorem retry_claims_once_again :
    (∀ call ∈ (soloSystem 10).calls, call.claimedRows.Nodup) ∧
      (soloSystem 10).calls.map (·.claimedRows) = [[⟨10⟩]] ∧
      (soloSystem 10).world.db.outbox.map (fun row => (row.status, row.attemptCount)) = [(.failed, 2)] ∧
      ∃ n call, (soloRun.states n).calls[0]? = some call ∧ call.phase.inLoop = false :=
  ⟨(retry_claims_once (by decide) (RetrySystem.fresh_initial dueWorld) (soloSystem_reached 10)).1,
    by decide +kernel, by decide +kernel,
    (retry_claims_once (by decide) (RetrySystem.fresh_initial dueWorld) (soloSystem_reached 0)).2
      soloRun 0 (by decide) soloRun_fair⟩

end HostingService
