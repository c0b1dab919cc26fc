import HostingService.Actions.RetryAccounts

/-! How many rows one run of `retry_pending_webhooks` claims: the loop counts the results that
it has merged, and up to `concurrency` deliveries are in flight beside them. -/

namespace HostingService

open Program Text

/-- Nobody else holds a row. -/
def RetryCall.LooksAlone (nullsFirst : Bool) (_ : OutboxWorld) (_ : RetryCall)
    (event : RetrySystemEvent) : Prop :=
  ∀ view, event = .looks view → view = .alone nullsFirst

/-- The run never claims and attempts more rows than its batch. -/
def BatchBounded (settings : ActionsSettings) (library : ActionsLibrary) (nullsFirst : Bool)
    (options : RetryOptions) (start : OutboxWorld) : Prop :=
  ∀ later call, RetryCall.Runs settings library (RetryCall.LooksAlone nullsFirst) options start later call →
    (call.claimedRows.dedup.length : Int) ≤ options.batchSize

section
variable {settings : ActionsSettings} {library : ActionsLibrary} {nullsFirst : Bool}
  {options : RetryOptions} {start world later : OutboxWorld} {call after : RetryCall}
  {event : RetrySystemEvent}

/-! ### A run that is left alone -/

/-- The row of the delivery is there, as it was at each of its calls. -/
structure RetryFuture.Kept (world : OutboxWorld) (future : RetryFuture) : Prop where
  row : (world.db.row future.rowId).isSome = true
  log : ∀ entry ∈ future.thread.log, (entry.state.db.row future.rowId).isSome = true

theorem RetryFuture.Kept.keeps {future : RetryFuture} (kept : future.Kept world)
    (keeps : world.db.KeepsRows later.db) : future.Kept later :=
  ⟨(keeps.row_isSome _).trans kept.row, kept.log⟩

theorem RetryCall.Step.kept (stepped : RetryCall.Step settings library world call event later after)
    (keeps : world.db.KeepsRows later.db) (kept : ∀ future ∈ call.futures, future.Kept world) :
    ∀ future ∈ after.futures, future.Kept later := by
  have stays (future : RetryFuture) (member : future ∈ call.futures) : future.Kept later :=
    (kept future member).keeps keeps
  cases stepped with
  | claims view row choosing free found =>
    intro future member
    split at member
    · exact stays future member
    · rcases List.mem_append.mp member with old | new
      · exact stays future old
      · obtain rfl := List.mem_singleton.mp new
        refine ⟨?_, fun entry nothing => by cases nothing⟩
        rcases claim_ends settings call.now view world with same | ⟨due, present, _, leased⟩
        · rw [RetryCall.claim, same] at found
          cases found
        · rw [RetryCall.claim, leased] at found
          cases found
          refine (keeps.row_isSome _).trans ?_
          rw [ActionsDb.row, List.find?_isSome]
          exact ⟨due, present, decide_eq_true (due.assign_id _).symm⟩
  | delivers moved op next waiting present =>
    intro future member
    have own := kept moved (present ▸ mem_middle.mpr (.inl rfl))
    rcases mem_middle.mp member with rfl | other
    · obtain ⟨⟨task, rest, log⟩, collected⟩ := moved
      obtain rfl := waiting
      refine ⟨(own.keeps keeps).row, fun entry made => ?_⟩
      rcases List.mem_append.mp made with old | new
      · exact own.log entry old
      · obtain rfl := List.mem_singleton.mp new
        exact own.row
    · exact stays future (present ▸ mem_middle.mpr (.inr other))
  | collects ready returned goesOn =>
    intro future member
    obtain ⟨old, present, rfl⟩ := List.mem_map.mp member
    have kept := stays old present
    rw [RetryFuture.collect]
    split
    · exact ⟨kept.row, kept.log⟩
    · exact kept
  | _ => exact stays

/-- A delivery of a row that stays counts as one. -/
theorem RetryFuture.Kept.processed {future : RetryFuture} (kept : future.Kept world)
    (sound : future.Sound world) (finished : future.Finished) : future.result.total .processed = 1 := by
  obtain ⟨stage, after, shown, returns, _, result⟩ := (sound.finished finished).2
  rw [result]
  cases stage with
  | vanished =>
    obtain ⟨first, log, gone⟩ := shown
    have there := kept.log first (by rw [log]; exact List.mem_cons_self)
    rw [gone] at there
    cases there
  | waiting => cases returns
  | attempting count => cases returns
  | settled row => cases returns; rfl
  | overtaken row => cases returns; rfl
  | recorded attempt row => cases returns; rfl

/-- What a run that is left alone keeps up. -/
structure RetryCall.Apart (options : RetryOptions) (start world : OutboxWorld) (call : RetryCall) : Prop where
  ids : world.db.outbox.map (·.id) = start.db.outbox.map (·.id)
  linked : world.db.Linked
  keepsRows : ∀ future ∈ call.futures, future.thread.rest.All CallKeepsRows
  keepsUndue : ∀ future ∈ call.futures, future.thread.rest.All CallKeepsUndue
  sound : ∀ future ∈ call.futures, future.Sound world
  kept : ∀ future ∈ call.futures, future.Kept world
  totaled : call.Totaled
  same : call.options = options ∧ call.now = start.clock ∧ call.deadline = (RetryCall.start options start).deadline
  started : call.now ≤ world.clock

theorem RetryCall.start_apart (linked : start.db.Linked) :
    (RetryCall.start options start).Apart options start start where
  ids := rfl
  linked := linked
  keepsRows future member := by cases member
  keepsUndue future member := by cases member
  sound future member := by cases member
  kept future member := by cases member
  totaled _ _ := ⟨rfl, rfl⟩
  same := ⟨rfl, rfl, rfl⟩
  started := le_rfl

theorem RetryCall.Step.apart (stepped : RetryCall.Step settings library world call event later after)
    (apart : call.Apart options start world) : after.Apart options start later := by
  have keeps := stepped.keepsRows apart.keepsRows
  obtain ⟨sameOptions, sameNow, sameDeadline⟩ := stepped.options
  obtain ⟨own, now, deadline⟩ := apart.same
  exact {
    ids := keeps.ids.trans apart.ids
    linked := keeps.linked apart.linked
    keepsRows := @RetryCall.Step.allowed _ _ (fun _ => CallKeepsRows) _ _ _ _ _ stepped
      (fun id correlation => deliverOutboxRow_keepsRows id correlation) apart.keepsRows
    keepsUndue := @RetryCall.Step.allowed _ _ (fun _ => CallKeepsUndue) _ _ _ _ _ stepped
      (fun id correlation => deliverOutboxRow_keepsUndue id correlation) apart.keepsUndue
    sound := stepped.sound apart.linked keeps apart.sound
    kept := stepped.kept keeps apart.kept
    totaled := stepped.totaled (fun future member => (apart.sound future member).collected) apart.totaled
    same := ⟨sameOptions.trans own, sameNow.trans now, sameDeadline.trans deadline⟩
    started := by
      rw [sameNow, stepped.times.1]
      exact apart.started }

theorem RetryCall.Apart.keeps (apart : call.Apart options start world) (same : later.db = world.db)
    (passed : world.clock ≤ later.clock) : call.Apart options start later where
  ids := same ▸ apart.ids
  linked := same ▸ apart.linked
  keepsRows := apart.keepsRows
  keepsUndue := apart.keepsUndue
  sound future member := (apart.sound future member).keeps fun _ here => same ▸ here
  kept future member := ⟨same ▸ (apart.kept future member).row, (apart.kept future member).log⟩
  totaled := apart.totaled
  same := apart.same
  started := apart.started.trans passed

/-- Steps and the passing of time keep up an invariant of a run that is left alone. -/
theorem RetryCall.Apart.invariant {inv : OutboxWorld → RetryCall → Prop}
    (steps : ∀ {world later call after event}, RetryCall.Step settings library world call event later after →
      call.Apart options start world → inv world call → inv later after)
    (passes : ∀ {world later call}, inv world call → later.db = world.db → inv later call)
    (apart : call.Apart options start world) (initial : inv world call)
    (path : Relation.ReflTransGen (RetryCall.Alone settings library (RetryCall.LooksAlone nullsFirst))
      (world, call) (later, after)) : after.Apart options start later ∧ inv later after := by
  obtain ⟨ended, same⟩ : ∃ ended : OutboxWorld × RetryCall, ended = (later, after) := ⟨_, rfl⟩
  rw [← same] at path
  induction path generalizing later after with
  | refl =>
    cases same
    exact ⟨apart, initial⟩
  | @tail middle _ _ last ih =>
    obtain ⟨apart, kept⟩ := ih rfl
    cases last with
    | acts stepped looks =>
      cases same
      exact ⟨stepped.apart apart, steps stepped apart kept⟩
    | passes span =>
      cases same
      exact ⟨apart.keeps rfl (Int.le_add_of_nonneg_right (Int.natCast_nonneg span)), passes kept rfl⟩
    | reroutes network =>
      cases same
      exact ⟨apart.keeps rfl le_rfl, passes kept rfl⟩

theorem RetryCall.Apart.reaches (apart : call.Apart options start world)
    (path : Relation.ReflTransGen (RetryCall.Alone settings library (RetryCall.LooksAlone nullsFirst))
      (world, call) (later, after)) : after.Apart options start later :=
  (@RetryCall.Apart.invariant _ _ _ _ _ _ _ _ _ (fun _ _ => True) (fun _ _ => id) (fun kept _ => kept) apart trivial path).1

/-- Every claimed row is counted, or its delivery is in flight. -/
theorem RetryCall.Apart.processed (apart : call.Apart options start world)
    (wet : call.options.dryRun = false) :
    call.stats.total .processed + call.inFlight.length = call.futures.length := by
  have totals := (apart.totaled wet .processed).1
  have ones : ∀ count ∈ ((call.futures.filter (·.collected)).map (·.result)).map (·.total .processed), count = 1 := by
    intro count member
    obtain ⟨_, result, rfl⟩ := List.mem_map.mp member
    obtain ⟨future, taken, rfl⟩ := List.mem_map.mp result
    obtain ⟨present, collected⟩ := List.mem_filter.mp taken
    have sound := apart.sound future present
    exact (apart.kept future present).processed sound (sound.collected collected)
  rw [List.eq_replicate_of_mem ones, List.sum_replicate_nat, Nat.mul_one, List.length_map, List.length_map] at totals
  rw [totals, RetryCall.inFlight]
  exact (List.length_eq_length_filter_add _).symm

/-! ### One worker -/

/-- What one worker keeps up: nothing is in flight where the loop looks at its totals. -/
structure RetryCall.OneByOne (call : RetryCall) : Prop where
  idle : call.phase = .checking ∨ call.phase = .choosing → call.inFlight = []
  room : call.phase = .choosing → (call.stats.total .processed : Int) < call.options.batchSize
  holdsNone : ∀ row, call.phase ≠ .releasing row
  unwaiting : ∀ timeout, call.phase ≠ .waiting timeout
  bounded : (call.futures.length : Int) ≤ call.options.batchSize

theorem RetryCall.Step.oneByOne (stepped : RetryCall.Step settings library world call event later after)
    (single : call.options.concurrency ≤ 1) (wet : call.options.dryRun = false)
    (counted : call.stats.total .processed + call.inFlight.length = call.futures.length)
    (oneByOne : call.OneByOne) : after.OneByOne := by
  have workers : call.workers = 1 := max_eq_left single
  have holdsNone := stepped.holdsNone wet oneByOne.holdsNone
  have elsewhere {other : RetryCall} (phase : other.phase ≠ .checking ∧ other.phase ≠ .choosing ∧
      ∀ timeout, other.phase ≠ .waiting timeout) (none : ∀ row, other.phase ≠ .releasing row)
      (same : other.futures.length = call.futures.length) (batch : other.options = call.options) :
      other.OneByOne := by
    refine ⟨?_, fun chosen => (phase.2.1 chosen).elim, none, phase.2.2, ?_⟩
    · rintro (checked | chosen)
      · exact (phase.1 checked).elim
      · exact (phase.2.1 chosen).elim
    · rw [same, batch]
      exact oneByOne.bounded
  cases stepped with
  | enters checking more =>
    have idle := oneByOne.idle (.inl checking)
    exact ⟨fun _ => idle, fun _ => more.1, holdsNone, fun _ => RetryCallPhase.noConfusion, oneByOne.bounded⟩
  | leaves checking beyond =>
    exact elsewhere ⟨RetryCallPhase.noConfusion, RetryCallPhase.noConfusion, fun _ => RetryCallPhase.noConfusion⟩
      holdsNone rfl rfl
  | waits choosing busy =>
    rw [workers, oneByOne.idle (.inr choosing)] at busy
    exact absurd busy (by decide)
  | idles view choosing free nothing =>
    refine elsewhere ?_ holdsNone rfl rfl
    rw [if_pos (oneByOne.idle (.inr choosing))]
    exact ⟨RetryCallPhase.noConfusion, RetryCallPhase.noConfusion, fun _ => RetryCallPhase.noConfusion⟩
  | claims view row choosing free found =>
    have idle := oneByOne.idle (.inr choosing)
    have room := oneByOne.room choosing
    have alone : call.usePool = false := by rw [RetryCall.usePool, workers]; rfl
    rw [wet, if_neg Bool.false_ne_true]
    have working : (call.submits settings library row).phase = .working := by
      simp [RetryCall.submits, alone]
    refine ⟨?_, ?_, ?_, ?_, ?_⟩
    · rw [working]
      rintro (other | other) <;> cases other
    · rw [working]
      exact RetryCallPhase.noConfusion
    · rw [working]
      exact fun _ => RetryCallPhase.noConfusion
    · rw [working]
      exact fun _ => RetryCallPhase.noConfusion
    · rw [idle, List.length_nil] at counted
      show ((call.futures ++ [_]).length : Int) ≤ call.options.batchSize
      rw [List.length_append, List.length_singleton]
      push_cast
      omega
  | releases row holding => exact (oneByOne.holdsNone row holding).elim
  | delivers moved op next waiting present =>
    refine ⟨fun looking => ?_, oneByOne.room, holdsNone, oneByOne.unwaiting, ?_⟩
    · refine List.length_eq_zero_iff.mp ((RetryCall.inFlight_middle present _).trans ?_)
      rw [oneByOne.idle looking]
      rfl
    · have length := oneByOne.bounded
      rw [present] at length
      simpa using length
  | collects ready returned goesOn =>
    have empties : call.phase = .working → call.collect.inFlight = [] := by
      intro working
      have all : call.inFlight = call.done := by
        rw [RetryCall.Ready, working] at ready
        exact ready
      have length := call.collect_inFlight_length
      rw [← all] at length
      exact List.length_eq_zero_iff.mp (by omega)
    have length : (call.collect.futures.length : Int) ≤ call.options.batchSize := by
      rw [RetryCall.collect]
      simpa using oneByOne.bounded
    simp only [RetryCall.Ready] at ready
    cases phase : call.phase with
    | waiting timeout => exact (oneByOne.unwaiting timeout phase).elim
    | working =>
      refine ⟨fun _ => empties phase, ?_, holdsNone, ?_, length⟩
      · simp only [RetryCall.next, phase]
        exact fun other => by cases other
      · simp only [RetryCall.next, phase]
        exact fun _ => RetryCallPhase.noConfusion
    | collecting =>
      refine elsewhere ?_ holdsNone (by simp [RetryCall.collect]) rfl
      simp only [RetryCall.next, phase]
      split <;>
        exact ⟨RetryCallPhase.noConfusion, RetryCallPhase.noConfusion, fun _ => RetryCallPhase.noConfusion⟩
    | _ =>
      rw [phase] at ready
      exact ready.elim
  | raises ready raised =>
    exact elsewhere ⟨RetryCallPhase.noConfusion, RetryCallPhase.noConfusion, fun _ => RetryCallPhase.noConfusion⟩
      holdsNone rfl rfl
  | drains draining unfinished early =>
    exact elsewhere ⟨RetryCallPhase.noConfusion, RetryCallPhase.noConfusion, fun _ => RetryCallPhase.noConfusion⟩
      holdsNone rfl rfl
  | stops beyond =>
    exact elsewhere ⟨RetryCallPhase.noConfusion, RetryCallPhase.noConfusion, fun _ => RetryCallPhase.noConfusion⟩
      holdsNone rfl rfl
  | joins raised joining beyond =>
    refine elsewhere ?_ holdsNone rfl rfl
    cases raised <;>
      exact ⟨RetryCallPhase.noConfusion, RetryCallPhase.noConfusion, fun _ => RetryCallPhase.noConfusion⟩

/-! ### Few rows -/

/-- Whatever is due at the time of the call, and whatever it has claimed, is among the ids. -/
structure RetryCall.Within (ids : List Uuid) (world : OutboxWorld) (call : RetryCall) : Prop where
  due : ∀ row ∈ world.db.outbox, row.isDue call.now = true → row.id ∈ ids
  holdsNone : ∀ row, call.phase ≠ .releasing row
  claimed : ∀ id ∈ call.claimedRows, id ∈ ids

theorem RetryCall.Step.within {ids : List Uuid}
    (stepped : RetryCall.Step settings library world call event later after)
    (wet : call.options.dryRun = false) (apart : call.Apart options start world)
    (within : call.Within ids world) : after.Within ids later := by
  have now : after.now = call.now := stepped.options.2.1
  have holdsNone := stepped.holdsNone wet within.holdsNone
  rcases stepped.claimed wet within.holdsNone apart.keepsUndue with ⟨same, kept⟩ | ⟨row, member, due, more, leased⟩
  · refine ⟨fun found present again => ?_, holdsNone, fun id claimed => within.claimed id (same ▸ claimed)⟩
    by_contra other
    have undue : world.db.Undue found.id call.now := by
      intro old stored own
      by_contra still
      exact other (own ▸ within.due old stored (Bool.eq_true_of_not_eq_false still))
    have settled := kept.undue found.id call.now apart.started undue found present rfl
    rw [← now, again] at settled
    cases settled
  · refine ⟨fun found present again => ?_, holdsNone, fun id claimed => ?_⟩
    · rw [leased] at present
      obtain ⟨old, stored, rfl⟩ := List.mem_map.mp present
      by_cases own : old.id = row.id
      · rw [if_pos own, ActionOutbox.assign_id, own]
        exact within.due row member due
      · rw [if_neg own, now] at again
        rw [if_neg own]
        exact within.due old stored again
    · rw [more] at claimed
      rcases List.mem_append.mp claimed with old | new
      · exact within.claimed id old
      · obtain rfl := List.mem_singleton.mp new
        exact within.due row member due

/-! ### A delivery that nothing interrupts -/

/-- What a delivery that began in `first` alone has reached; when it ends, its row is not due at
the time. -/
structure Finishing (first : OutboxWorld) (id : Uuid) (now : Time) (stage : WorkerStage)
    (world : OutboxWorld) : Prop where
  clock : world.clock = first.clock
  monotonic : world.monotonic = first.monotonic
  others : ∀ row : ActionOutbox, row.id ≠ id → (row ∈ world.db.outbox ↔ row ∈ first.db.outbox)
  stage : match stage with
    | .waiting => world.db = first.db
    | .attempting count => ∃ row, world.db.row id = some row ∧ row.attemptCount = count
    | .recorded _ _ => world.db.Undue id now
    | _ => False

variable {first : OutboxWorld} {id : Uuid} {now : Time} {row : ActionOutbox}

theorem Finishing.moves (stored : first.db.row id = some row) (unsettled : row.status.isFinal = false)
    (passed : now ≤ first.clock) {β : Type} {op : DeliveryCall β} {stage next : WorkerStage}
    (finishing : Finishing first id now stage world) (moved : WorkerMove id β op stage world next) :
    Finishing first id now next (DeliveryCall.handle β op world).2 := by
  obtain ⟨clock, monotonic, others, stage⟩ := finishing
  cases moved with
  | misses absent quiet =>
    rw [show world.db = first.db from stage, stored] at absent
    cases absent
  | settles found present final quiet =>
    rw [show world.db = first.db from stage, stored] at present
    obtain rfl := Option.some.inj present
    rw [unsettled] at final
    cases final
  | takes found present opened quiet =>
    rw [quiet world]
    exact ⟨clock, monotonic, others, found, present, rfl⟩
  | works quiet =>
    rw [quiet world]
    exact ⟨clock, monotonic, others, stage⟩
  | overtaken found present more same =>
    obtain ⟨current, here, counted⟩ := stage
    rw [here] at present
    obtain rfl := Option.some.inj present
    exact (more counted).elim
  | records found present current attempt columns own settled undue saved =>
    have times := DeliveryCall.handle_times op world
    refine ⟨times.1.trans clock, times.2.trans monotonic, fun other different => ?_, fun other member same => ?_⟩
    · rw [saved, ← others other different]
      constructor
      · intro member
        obtain ⟨old, present, rfl⟩ := List.mem_map.mp member
        by_cases mine : old.id = attempt.outbox
        · rw [if_pos mine, ActionOutbox.assign_id, mine, own] at different
          exact (different rfl).elim
        · rw [if_neg mine]
          exact present
      · exact fun member => List.mem_map.mpr ⟨other, member, if_neg (own ▸ different)⟩
    · rw [saved] at member
      obtain ⟨old, old_mem, rfl⟩ := List.mem_map.mp member
      by_cases mine : old.id = attempt.outbox
      · rw [if_pos mine]
        exact undue old now (clock ▸ passed)
      · rw [if_neg mine] at same
        exact (mine (same.trans own.symm)).elim

/-- The delivery of an open row, on its own, ends with the row put off or settled. -/
theorem RetryFuture.submit_finishes (stored : first.db.row row.id = some row)
    (unsettled : row.status.isFinal = false) (linked : first.db.Linked) (passed : now ≤ first.clock)
    (scheduledJobRunId : Option Nat) :
    ∃ calls, let future := RetryFuture.submit settings library scheduledJobRunId row
      let ended := future.thread.after DeliveryCall.handle calls first
      ended.1.rest.Finished ∧ ended.2.clock = first.clock ∧ ended.2.monotonic = first.monotonic ∧
        (∀ other : ActionOutbox, other.id ≠ row.id → (other ∈ ended.2.db.outbox ↔ other ∈ first.db.outbox)) ∧
          ended.2.db.Undue row.id now := by
  have follows := @retryWorker_summarized settings library row.id row.status scheduledJobRunId
  have initial : Finishing first row.id now .waiting first := ⟨rfl, rfl, fun _ _ => Iff.rfl, rfl⟩
  have holds (stage : WorkerStage) (world : OutboxWorld) (finishing : Finishing first row.id now stage world) :
      stage.holds row.id world := by
    have counts := finishing.stage
    cases stage with
    | waiting =>
      rw [WorkerStage.holds, show world.db = first.db from counts]
      exact linked.loads row.id
    | attempting count =>
      obtain ⟨found, here, _⟩ := counts
      exact Option.isSome_iff_exists.mpr ⟨found, here⟩
    | _ => trivial
  obtain ⟨calls, stage, finished, finishing, ends⟩ := follows.finishes holds
    (fun op stage next world finishing moved => finishing.moves stored unsettled passed moved)
    (row.id, row.status) [] initial
  refine ⟨calls, finished, finishing.clock, finishing.monotonic, finishing.others, ?_⟩
  obtain ⟨after, returns, _⟩ := follows_finished ends finished
  have settled := finishing.stage
  cases stage with
  | recorded attempt row => exact settled
  | waiting => cases returns
  | attempting count => cases returns
  | _ => exact settled.elim

/-! ### A run ahead of its totals -/

/-- A step other than a claim is open to a run that is left alone. -/
theorem RetryCall.Alone.quiet (stepped : RetryCall.Step settings library world call event later after)
    (silent : ∀ view, event ≠ .looks view) :
    RetryCall.Alone settings library (RetryCall.LooksAlone nullsFirst) (world, call) (later, after) :=
  .acts stepped fun view same => (silent view same).elim

/-- The next claim of a pool, where there is room and an eligible row. -/
theorem RetryCall.claimsAnother (checking : call.phase = .checking) (continues : call.Continues world)
    (wet : call.options.dryRun = false) (pool : 1 < call.workers)
    (free : (call.inFlight.length : Int) < call.workers) (eligible : world.db.eligible call.now ≠ []) :
    let lease : OutboxColumns :=
      .lockedUntil (some (call.now + settings.webhookRetryLeaseSeconds * microsecondsPerSecond))
    ∃ row ∈ world.db.outbox, row.isDue call.now = true ∧
      Relation.ReflTransGen (RetryCall.Alone settings library (RetryCall.LooksAlone nullsFirst)) (world, call)
        ({ world with db := world.db.assign row.id lease }, { call with
          futures := call.futures ++
            [.submit settings library call.options.scheduledJobRunId (row.assign lease)] }) := by
  have all : (world.db.outbox.filter fun row => row.isDue call.now && !(ClaimView.alone nullsFirst).locked row.id) =
      world.db.eligible call.now := List.filter_congr fun row _ => Bool.and_true _
  have first := claim_first settings call.now (.alone nullsFirst) world
  obtain ⟨row, found⟩ := Option.isSome_iff_exists.mp
    (show (firstRow nullsFirst (world.db.eligible call.now)).isSome = true from firstRow_isSome eligible)
  rw [all] at first
  simp only [ClaimView.alone, found] at first
  obtain ⟨member, due⟩ := List.mem_filter.mp (firstRow_mem found)
  have entered : RetryCall.Step settings library world call .other world { call with phase := .choosing } :=
    .enters checking continues
  have claimed : RetryCall.Step settings library world { call with phase := .choosing }
      (.looks (.alone nullsFirst)) _ _ := .claims (.alone nullsFirst) _ rfl free first
  have busy : ({ call with phase := .choosing } : RetryCall).usePool = true := decide_eq_true pool
  simp only [wet, Bool.false_eq_true, if_false, RetryCall.submits, busy, if_true] at claimed
  rw [← checking] at claimed
  refine ⟨row, member, due, ?_⟩
  refine .head (.quiet entered fun _ => RetrySystemEvent.noConfusion) (.single (.acts claimed ?_))
  rintro view ⟨⟩
  rfl

/-- Where all workers are busy and all but the last have ended, their results are collected. -/
theorem RetryCall.makesRoom {front : List RetryFuture} {last : RetryFuture}
    (present : call.futures = front ++ [last]) (checking : call.phase = .checking)
    (continues : call.Continues world) (pool : 1 < call.workers)
    (finished : ∀ future ∈ front, future.Finished ∧ future.raised = false) (running : ¬ last.Finished)
    (flying : last.collected = false) (free : (call.inFlight.length : Int) ≤ call.workers) :
    ∃ after front', Relation.ReflTransGen (RetryCall.Alone settings library (RetryCall.LooksAlone nullsFirst))
        (world, call) (world, after) ∧ after.phase = .checking ∧ after.futures = front' ++ [last] ∧
      front'.map (·.thread) = front.map (·.thread) ∧
      (((front'.filter (!·.collected)).length + 1 : Nat) : Int) < call.workers := by
  have length : call.inFlight.length = (front.filter (!·.collected)).length + 1 := by
    simp [RetryCall.inFlight, present, flying]
  rcases lt_or_ge (call.inFlight.length : Int) call.workers with room | busy
  · exact ⟨call, front, .refl, checking, present, rfl, length ▸ room⟩
  · let waiting : RetryCall := { call with phase := .waiting (world.monotonic + 50000) }
    have entered : RetryCall.Step settings library world call .other world { call with phase := .choosing } :=
      .enters checking continues
    have waits : RetryCall.Step settings library world { call with phase := .choosing } .other world waiting :=
      .waits rfl busy
    have members : ∀ future ∈ waiting.done, future ∈ front := by
      intro future member
      obtain ⟨inside, beyond⟩ := List.mem_filter.mp member
      have own : future ∈ front ++ [last] := present ▸ (List.mem_filter.mp inside).1
      rcases List.mem_append.mp own with old | new
      · exact old
      · rw [List.mem_singleton.mp new] at beyond
        exact (running (of_decide_eq_true beyond)).elim
    have some : waiting.done ≠ [] := by
      intro none
      have positive : 0 < (front.filter (!·.collected)).length := by omega
      obtain ⟨future, member⟩ := List.exists_mem_of_length_pos positive
      obtain ⟨inside, uncollected⟩ := List.mem_filter.mp member
      have done : future ∈ waiting.done := by
        refine List.mem_filter.mpr ⟨List.mem_filter.mpr ⟨?_, uncollected⟩, decide_eq_true (finished future inside).1⟩
        exact present ▸ List.mem_append_left _ inside
      rw [none] at done
      cases done
    have collected : RetryCall.Step settings library world waiting .other world
        { waiting.collect with phase := waiting.next } :=
      .collects (.inl some) (fun future member => (finished future (members future member)).2)
        RetryCallPhase.noConfusion
    refine ⟨_, front.map (·.collect), .head (.quiet entered fun _ => RetrySystemEvent.noConfusion)
      (.head (.quiet waits fun _ => RetrySystemEvent.noConfusion)
        (.single (.quiet collected fun _ => RetrySystemEvent.noConfusion))), rfl, ?_, ?_, ?_⟩
    · have still : last.collect = last := by simp [RetryFuture.collect, running]
      simp [RetryCall.collect, waiting, present, still]
    · simp only [List.map_map, Function.comp_def, RetryFuture.collect_thread]
    · have none : (front.map (·.collect)).filter (!·.collected) = [] := by
        refine List.filter_eq_nil_iff.mpr fun future member => ?_
        obtain ⟨old, inside, rfl⟩ := List.mem_map.mp member
        simp [RetryFuture.collect, (finished old inside).1]
      rw [none]
      exact pool

/-- So many rows are claimed and delivered, and the last of them is not counted yet. -/
structure RetryCall.Ahead (start : OutboxWorld) (count : Nat) (world : OutboxWorld) (call : RetryCall) :
    Prop where
  checking : call.phase = .checking
  finished : ∀ future ∈ call.futures, future.Finished
  claimed : call.futures.length = count
  once : call.claimedRows.Nodup
  room : (call.inFlight.length : Int) < call.workers
  behind : count = 0 ∨ 0 < call.inFlight.length
  rows : ∀ row ∈ start.db.eligible start.clock, row.id ∉ call.claimedRows → row ∈ world.db.outbox
  undue : ∀ id ∈ call.claimedRows, world.db.Undue id start.clock
  clock : world.clock = start.clock
  monotonic : world.monotonic = start.monotonic

theorem RetryCall.start_ahead (options : RetryOptions) (start : OutboxWorld) :
    (RetryCall.start options start).Ahead start 0 start where
  checking := rfl
  finished future member := by cases member
  claimed := rfl
  once := List.nodup_nil
  room := lt_of_lt_of_le Int.zero_lt_one (le_max_left _ _)
  behind := .inl rfl
  rows row member _ := (List.mem_filter.mp member).1
  undue id member := by cases member
  clock := rfl
  monotonic := rfl

variable {count : Nat}

/-- The loop goes on where no more rows are claimed than its batch: one of them is not counted. -/
theorem RetryCall.Ahead.continues (ahead : call.Ahead start count world)
    (apart : call.Apart options start world) (wet : call.options.dryRun = false)
    (batch : 1 ≤ call.options.batchSize) (left : (count : Int) ≤ call.options.batchSize) :
    call.Continues world := by
  have processed := apart.processed wet
  rw [ahead.claimed] at processed
  constructor
  · rcases ahead.behind with none | some
    · omega
    · omega
  · rw [ahead.monotonic, apart.same.2.2]
    exact Int.lt_add_of_pos_right _ (lt_of_lt_of_le (by decide) (le_max_left _ _))

/-- As long as fewer rows are claimed than were eligible, another one is. -/
theorem RetryCall.Ahead.eligible (ahead : call.Ahead start count world)
    (apart : call.Apart options start world) (ids : (start.db.outbox.map (·.id)).Nodup)
    (more : count < (start.db.eligible start.clock).length) : world.db.eligible call.now ≠ [] := by
  have unique : ((start.db.eligible start.clock).map (·.id)).Nodup := ids.sublist (List.filter_sublist.map _)
  intro none
  have all : (start.db.eligible start.clock).map (·.id) ⊆ call.claimedRows := by
    intro id member
    obtain ⟨row, due, rfl⟩ := List.mem_map.mp member
    by_contra fresh
    have here := ahead.rows row due fresh
    have still : row ∈ world.db.eligible call.now := by
      rw [apart.same.2.1]
      exact List.mem_filter.mpr ⟨here, (List.mem_filter.mp due).2⟩
    rw [none] at still
    cases still
  have length := (unique.subperm all).length_le
  rw [List.length_map, RetryCall.claimedRows, List.length_map, ahead.claimed] at length
  omega

/-- One more row is claimed and delivered. -/
theorem RetryCall.Ahead.next (ahead : call.Ahead start count world)
    (apart : call.Apart options start world) (ids : (start.db.outbox.map (·.id)).Nodup)
    (wet : call.options.dryRun = false) (pool : 1 < call.workers) (batch : 1 ≤ call.options.batchSize)
    (left : (count : Int) ≤ call.options.batchSize) (more : count < (start.db.eligible start.clock).length) :
    ∃ later after, Relation.ReflTransGen (RetryCall.Alone settings library (RetryCall.LooksAlone nullsFirst))
      (world, call) (later, after) ∧ after.Ahead start (count + 1) later := by
  have continues := ahead.continues apart wet batch left
  obtain ⟨row, member, due, claims⟩ := @RetryCall.claimsAnother settings library nullsFirst world call
    ahead.checking continues wet pool ahead.room (ahead.eligible apart ids more)
  have fresh : row.id ∉ call.claimedRows := by
    intro old
    have undue := ahead.undue row.id old row member rfl
    rw [← apart.same.2.1, due] at undue
    cases undue
  let columns : OutboxColumns :=
    .lockedUntil (some (call.now + settings.webhookRetryLeaseSeconds * microsecondsPerSecond))
  let leased : OutboxWorld := { world with db := world.db.assign row.id columns }
  let new : RetryFuture := .submit settings library call.options.scheduledJobRunId (row.assign columns)
  have leasedApart := apart.reaches claims
  have idle : new.collected = false := rfl
  obtain ⟨after, front, collects, checking, present, threads, room⟩ := @RetryCall.makesRoom settings library
    nullsFirst leased { call with futures := call.futures ++ [new] } call.futures new rfl ahead.checking
      continues pool
      (fun future inside => ⟨ahead.finished future inside,
        ((apart.sound future inside).finished (ahead.finished future inside)).1⟩) id rfl
      (by
        have free : (call.inFlight.length : Int) + 1 ≤ call.workers := ahead.room
        simpa [RetryCall.inFlight, RetryCall.workers, List.filter_append, idle] using free)
  have stored : leased.db.row (row.assign columns).id = some (row.assign columns) := by
    have unique : (world.db.outbox.map (·.id)).Nodup := apart.ids ▸ ids
    have here : world.db.row row.id = some row := find?_of_unique unique member
    rw [ActionOutbox.assign_id, ActionsDb.row_assign, here, Option.map_some, if_pos rfl]
  obtain ⟨calls, finished, clock, monotonic, others, undue⟩ := @RetryFuture.submit_finishes settings library
    leased start.clock (row.assign columns) stored (show row.status.isFinal = false from isDue_unsettled due)
      leasedApart.linked ahead.clock.ge
      call.options.scheduledJobRunId
  have delivers := @RetryCall.Alone.delivers settings library (RetryCall.LooksAlone nullsFirst)
    calls leased after front [] new present fun _ _ _ _ other => by cases other
  have claimedRows : front.map (·.thread.task.1) = call.claimedRows := by
    have same := congrArg (List.map (·.task.1)) threads
    rw [List.map_map, List.map_map] at same
    exact same
  let ended := new.thread.after DeliveryCall.handle calls leased
  have own : ended.1.task.1 = row.id := by
    rw [Thread.after_task]
    exact ActionOutbox.assign_id _ row
  have rows : ({ after with futures := front ++ [{ new with thread := ended.1 }] } : RetryCall).claimedRows =
      call.claimedRows ++ [row.id] := by
    rw [← claimedRows, ← own]
    simp [RetryCall.claimedRows]
  have options := (leasedApart.reaches collects).same.1.trans apart.same.1.symm
  have length : ({ after with futures := front ++ [{ new with thread := ended.1 }] } : RetryCall).inFlight.length =
      (front.filter (!·.collected)).length + 1 := by
    simp [RetryCall.inFlight, List.filter_append, idle]
  have kept (other : ActionOutbox) (different : other.id ≠ row.id) :
      other ∈ ended.2.db.outbox ↔ other ∈ world.db.outbox := by
    rw [others other fun same => different (same.trans (ActionOutbox.assign_id _ row))]
    constructor
    · intro inside
      obtain ⟨old, before, rfl⟩ := List.mem_map.mp inside
      by_cases mine : old.id = row.id
      · rw [if_pos mine, ActionOutbox.assign_id] at different
        exact (different mine).elim
      · rw [if_neg mine]
        exact before
    · exact fun inside => List.mem_map.mpr ⟨other, inside, if_neg different⟩
  refine ⟨_, _, claims.trans (collects.trans delivers), ⟨checking, ?_, ?_, ?_, ?_, ?_, ?_, ?_, ?_, ?_⟩⟩
  · intro future inside
    rcases List.mem_append.mp inside with old | last
    · have thread : future.thread ∈ call.futures.map (·.thread) := threads ▸ List.mem_map_of_mem old
      obtain ⟨other, before, same⟩ := List.mem_map.mp thread
      rw [RetryFuture.Finished, ← same]
      exact ahead.finished other before
    · obtain rfl := List.mem_singleton.mp last
      exact finished
  · have length := congrArg List.length threads
    simp only [List.length_map] at length
    simp [length, ahead.claimed]
  · rw [rows]
    exact List.nodup_append.mpr ⟨ahead.once, List.nodup_singleton row.id, fun id old other last => by
      rw [List.mem_singleton.mp last]
      exact fun same => fresh (same ▸ old)⟩
  · rw [length, RetryCall.workers, options]
    exact room
  · rw [length]
    exact .inr (Nat.succ_pos _)
  · intro other eligible unclaimed
    rw [rows, List.mem_append, not_or, List.mem_singleton] at unclaimed
    exact (kept other unclaimed.2).mpr (ahead.rows other eligible unclaimed.1)
  · intro id claimed found inside same
    rw [rows] at claimed
    rcases List.mem_append.mp claimed with old | last
    · refine ahead.undue id old found ((kept found fun own => fresh ?_).mp inside) same
      rw [← own, same]
      exact old
    · refine undue found inside ?_
      rw [same, List.mem_singleton.mp last, ActionOutbox.assign_id]
  · exact clock.trans ahead.clock
  · exact monotonic.trans ahead.monotonic

/-! ### When the batch is a bound -/

theorem RetryCall.Step.undelivered (stepped : RetryCall.Step settings library world call event later after)
    (dry : call.options.dryRun = true) (none : call.futures = []) : after.futures = [] := by
  cases stepped with
  | claims view row choosing free found =>
    rw [if_pos dry]
    exact none
  | delivers moved op next waiting present =>
    rw [none] at present
    exact (List.append_ne_nil_of_right_ne_nil _ (List.cons_ne_nil _ _) present.symm).elim
  | collects ready returned goesOn => simp [RetryCall.collect, none]
  | _ => exact none

theorem batchBounded_of_dryRun (linked : start.db.Linked) (batch : 1 ≤ options.batchSize)
    (dry : options.dryRun = true) : BatchBounded settings library nullsFirst options start := by
  intro later call runs
  have none : call.futures = [] := by
    refine (@RetryCall.Apart.invariant settings library nullsFirst options start _ _ _ _
      (fun _ call => call.futures = []) ?_ (fun none _ => none) (RetryCall.start_apart linked) rfl runs).2
    intro _ _ _ _ _ stepped apart none
    exact stepped.undelivered (apart.same.1 ▸ dry) none
  rw [RetryCall.claimedRows, none]
  exact le_trans (by decide) batch

theorem batchBounded_of_oneWorker (linked : start.db.Linked) (batch : 1 ≤ options.batchSize)
    (wet : options.dryRun = false) (single : options.concurrency ≤ 1) :
    BatchBounded settings library nullsFirst options start := by
  intro later call runs
  have initial : (RetryCall.start options start).OneByOne := by
    refine ⟨fun _ => rfl, fun other => ?_, fun _ => RetryCallPhase.noConfusion,
      fun _ => RetryCallPhase.noConfusion, ?_⟩
    · cases other
    · have none : (0 : Int) ≤ 1 := by decide
      exact none.trans batch
  obtain ⟨apart, oneByOne⟩ := @RetryCall.Apart.invariant settings library nullsFirst options start _ _ _ _
    (fun _ call => call.OneByOne) (fun stepped apart oneByOne =>
      stepped.oneByOne (apart.same.1 ▸ single) (apart.same.1 ▸ wet) (apart.processed (apart.same.1 ▸ wet)) oneByOne)
    (fun oneByOne _ => oneByOne) (RetryCall.start_apart linked) initial runs
  have bounded := oneByOne.bounded
  rw [apart.same.1] at bounded
  have length := (List.dedup_sublist call.claimedRows).length_le
  rw [RetryCall.claimedRows, List.length_map] at length
  exact le_trans (Int.ofNat_le.mpr length) bounded

theorem batchBounded_of_few (linked : start.db.Linked) (wet : options.dryRun = false)
    (few : ((start.db.eligible start.clock).length : Int) ≤ options.batchSize) :
    BatchBounded settings library nullsFirst options start := by
  intro later call runs
  let ids := (start.db.eligible start.clock).map (·.id)
  have initial : (RetryCall.start options start).Within ids start := by
    refine ⟨fun row member due => ?_, fun _ => RetryCallPhase.noConfusion, fun id nothing => by cases nothing⟩
    exact List.mem_map_of_mem (List.mem_filter.mpr ⟨member, due⟩)
  obtain ⟨_, within⟩ := @RetryCall.Apart.invariant settings library nullsFirst options start _ _ _ _
    (fun world call => call.Within ids world)
    (fun stepped apart within => stepped.within (apart.same.1 ▸ wet) apart within)
    (fun within same => ⟨same ▸ within.due, within.holdsNone, within.claimed⟩)
    (RetryCall.start_apart linked) initial runs
  have subset : call.claimedRows.dedup ⊆ ids := fun id member => within.claimed id (List.mem_dedup.mp member)
  have length := ((List.nodup_dedup call.claimedRows).subperm subset).length_le
  rw [List.length_map] at length
  exact le_trans (Int.ofNat_le.mpr length) few

/-- With more workers and more eligible rows, a run gets ahead by as many rows as its batch and one. -/
theorem RetryCall.Ahead.reached (linked : start.db.Linked) (ids : (start.db.outbox.map (·.id)).Nodup)
    (wet : options.dryRun = false) (pool : 1 < options.concurrency) (batch : 1 ≤ options.batchSize)
    (many : options.batchSize < (start.db.eligible start.clock).length) (count : Nat)
    (left : (count : Int) ≤ options.batchSize + 1) :
    ∃ later call, RetryCall.Runs settings library (RetryCall.LooksAlone nullsFirst) options start later call ∧
      call.Ahead start count later := by
  induction count with
  | zero => exact ⟨start, _, .refl, RetryCall.start_ahead options start⟩
  | succ count ih =>
    obtain ⟨later, call, runs, ahead⟩ := ih (by omega)
    have apart := (RetryCall.start_apart linked).reaches runs
    have own := apart.same.1
    have workers : 1 < call.workers := lt_of_lt_of_le pool (own ▸ le_max_right 1 call.options.concurrency)
    obtain ⟨last, after, path, next⟩ := @RetryCall.Ahead.next settings library nullsFirst options start later
      call count ahead apart ids (own ▸ wet) workers (own ▸ batch) (own ▸ by omega) (by omega)
    exact ⟨last, after, runs.trans path, next⟩

end

/-- A run keeps to its batch exactly where it is dry, has one worker, or finds no more rows. -/
theorem retry_batch_bounded_iff (settings : ActionsSettings) (library : ActionsLibrary) (nullsFirst : Bool)
    {options : RetryOptions} (batch : 1 ≤ options.batchSize) {start : OutboxWorld}
    (ids : (start.db.outbox.map (·.id)).Nodup) (linked : start.db.Linked) :
    BatchBounded settings library nullsFirst options start ↔
      options.dryRun = true ∨ options.concurrency ≤ 1 ∨
        ((start.db.eligible start.clock).length : Int) ≤ options.batchSize := by
  cases dry : options.dryRun with
  | true => exact ⟨fun _ => .inl rfl, fun _ => batchBounded_of_dryRun linked batch dry⟩
  | false =>
    constructor
    · intro bounded
      by_contra other
      rw [not_or, not_or, not_le, not_le] at other
      obtain ⟨_, pool, many⟩ := other
      have natural : ((options.batchSize.toNat + 1 : Nat) : Int) = options.batchSize + 1 := by omega
      obtain ⟨later, call, runs, ahead⟩ := @RetryCall.Ahead.reached settings library nullsFirst options start
        linked ids dry pool batch many (options.batchSize.toNat + 1) natural.le
      have length := bounded later call runs
      rw [ahead.once.dedup, RetryCall.claimedRows, List.length_map, ahead.claimed, natural] at length
      omega
    · rintro (other | single | few)
      · cases other
      · exact batchBounded_of_oneWorker linked batch dry single
      · exact batchBounded_of_few linked dry few

/-! A batch of one row, with two eligible rows and four workers. -/

def smallOptions : RetryOptions := { retryOptions with batchSize := 1 }

theorem retry_batch_bounded_small :
    BatchBounded mailSettings plainLibrary true smallOptions claimWorld ↔
      smallOptions.dryRun = true ∨ smallOptions.concurrency ≤ 1 ∨
        ((claimWorld.db.eligible claimWorld.clock).length : Int) ≤ smallOptions.batchSize :=
  retry_batch_bounded_iff mailSettings plainLibrary true (by decide) (by decide) claimWorld_linked

/-- The second row is claimed before the first one is counted. -/
theorem small_batch_exceeded :
    ¬ ∀ (settings : ActionsSettings) (library : ActionsLibrary) (nullsFirst : Bool) (options : RetryOptions)
      (start : OutboxWorld), 1 ≤ options.batchSize → 1 ≤ options.concurrency →
        (start.db.outbox.map (·.id)).Nodup → start.db.Linked →
          BatchBounded settings library nullsFirst options start := by
  intro every
  have ids : (claimWorld.db.outbox.map (·.id)).Nodup := by decide
  obtain ⟨later, call, runs, ahead⟩ := @RetryCall.Ahead.reached mailSettings plainLibrary true smallOptions
    claimWorld claimWorld_linked ids rfl (by decide) (by decide) (by decide) 2 (by decide)
  have length := every mailSettings plainLibrary true smallOptions claimWorld (by decide) (by decide) ids
    claimWorld_linked later call runs
  rw [ahead.once.dedup, RetryCall.claimedRows, List.length_map, ahead.claimed] at length
  exact absurd length (by decide)

end HostingService
