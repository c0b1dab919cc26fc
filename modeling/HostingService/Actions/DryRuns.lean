import HostingService.Actions.RetryCalls

/-! A dry run of `retry_pending_webhooks` that runs alone: a released row is due again, so the
loop counts it again. -/

namespace HostingService

open Program Text OutboxTransaction

/-! ### What a dry run promises -/

/-- Nobody else holds a row, and the deadline does not stop the loop. -/
def RetryCall.InTime (nullsFirst : Bool) (world : OutboxWorld) (call : RetryCall)
    (event : RetrySystemEvent) : Prop :=
  (∀ view, event = .looks view → view = .alone nullsFirst) ∧
    (call.phase = .checking → world.monotonic < call.deadline)

/-- The row stays as it was, but a lease that is over may be gone. -/
def ActionOutbox.LeftAs (now : Time) (old new : ActionOutbox) : Prop :=
  new = old ∨ (old.lockedUntil.any (· ≤ now) = true ∧ new = old.assign (.lockedUntil none))

/-- What a dry run that began in the world has counted, and what it leaves behind. -/
structure RetryCall.CountsOnce (world later : OutboxWorld) (call : RetryCall) : Prop where
  processed : (call.stats.total .processed : Int) =
    min call.options.batchSize (world.db.eligible world.clock).length
  counted : call.stats.total .processed = call.counted.length
  emailProcessed : call.stats.email .processed = (call.counted.filter (·.deliveryKind = .email)).length
  once : (call.counted.map (·.id)).Nodup
  deliversNothing : call.futures = [] ∧ later.db.attempts = world.db.attempts
  rows : List.Forall₂ (ActionOutbox.LeftAs world.clock) world.db.outbox later.db.outbox

section
variable (settings : ActionsSettings) (library : ActionsLibrary) (nullsFirst : Bool)

def RetryCall.Returns (options : RetryOptions) (world later : OutboxWorld) (call : RetryCall) : Prop :=
  RetryCall.Runs settings library (RetryCall.InTime nullsFirst) options world later call ∧
    call.phase = .returned

/-- The dry run returns, and whatever it returns counts each eligible row at most once. -/
def DryRunCounts (options : RetryOptions) (world : OutboxWorld) : Prop :=
  (∃ later call, RetryCall.Returns settings library nullsFirst options world later call) ∧
    ∀ later call, RetryCall.Returns settings library nullsFirst options world later call →
      call.CountsOnce world later

end

/-! ### The first row -/

theorem firstRow_map {nullsFirst : Bool} {change : ActionOutbox → ActionOutbox}
    (kept : ∀ left right, (change left).before nullsFirst (change right) = left.before nullsFirst right)
    (rows : List ActionOutbox) :
    firstRow nullsFirst (rows.map change) = (firstRow nullsFirst rows).map change := by
  induction rows with
  | nil => rfl
  | cons row rows ih =>
    rw [List.map_cons, firstRow, ih, firstRow]
    cases firstRow nullsFirst rows with
    | none => rfl
    | some other =>
      simp only [Option.map_some, kept]
      split <;> rfl

/-- The row once the leases of some rows have been released. -/
def ActionOutbox.released (ids : List Uuid) (row : ActionOutbox) : ActionOutbox :=
  if row.id ∈ ids then row.assign (.lockedUntil none) else row

theorem ActionOutbox.released_before (ids : List Uuid) (nullsFirst : Bool) (left right : ActionOutbox) :
    (left.released ids).before nullsFirst (right.released ids) = left.before nullsFirst right := by
  simp only [released]
  split <;> split <;> rfl

@[simp] theorem ActionOutbox.released_id (ids : List Uuid) (row : ActionOutbox) :
    (row.released ids).id = row.id := by
  rw [released]
  split <;> rfl

/-- A due row stays due without its lease. -/
theorem ActionOutbox.isDue_released {now : Time} {row : ActionOutbox} (due : row.isDue now = true)
    (ids : List Uuid) : (row.released ids).isDue now = true := by
  rw [released]
  split
  · simp only [isDue, Bool.and_eq_true] at due ⊢
    exact ⟨due.1, rfl⟩
  · exact due

/-! ### What the loop keeps up -/

/-- The ids of the rows that the dry run has counted. -/
def RetryCall.countedIds (call : RetryCall) : List Uuid := call.counted.map (·.id)

/-- The rows once the call has released the row that it holds. -/
def RetryCall.afterRelease (call : RetryCall) (db : ActionsDb) : List ActionOutbox :=
  match call.phase with
  | .releasing id => (db.assign id (.lockedUntil none)).outbox
  | _ => db.outbox

/-- Where a dry run may be, and what holds of its count there. -/
def RetryCall.CountedEnough (start : OutboxWorld) (call : RetryCall) : Prop :=
  match call.phase with
  | .checking | .releasing _ => True
  | .choosing => (call.counted.length : Int) < call.options.batchSize
  | .draining | .joining false | .returned =>
    call.options.batchSize ≤ call.counted.length ∨ start.db.eligible start.clock = []
  | _ => False

/-- A dry run only ever counts the first of the rows that are eligible when it starts. -/
structure RetryCall.Counting (nullsFirst : Bool) (start world : OutboxWorld) (call : RetryCall) : Prop where
  dry : call.options.dryRun = true
  now : call.now = start.clock
  futures : call.futures = []
  attempts : world.db.attempts = start.db.attempts
  processed : call.stats.total .processed = call.counted.length
  emailProcessed : call.stats.email .processed = (call.counted.filter (·.deliveryKind = .email)).length
  first : ∀ id ∈ call.countedIds,
    (firstRow nullsFirst (start.db.eligible start.clock)).map (·.id) = some id
  bounded : call.counted.length ≤ call.options.batchSize.toNat
  rows : call.afterRelease world.db = start.db.outbox.map (·.released call.countedIds)
  enough : call.CountedEnough start

section
variable {settings : ActionsSettings} {library : ActionsLibrary} {nullsFirst : Bool}
  {start world : OutboxWorld} {call : RetryCall}

theorem RetryCall.start_counting (options : RetryOptions) (dry : options.dryRun = true)
    (start : OutboxWorld) : (RetryCall.start options start).Counting nullsFirst start start where
  dry := dry
  now := rfl
  futures := rfl
  attempts := rfl
  processed := rfl
  emailProcessed := rfl
  first id member := by cases member
  bounded := Nat.zero_le _
  rows := by
    have same (row : ActionOutbox) : row.released [] = row := rfl
    show start.db.outbox = start.db.outbox.map (·.released [])
    simp only [same, List.map_id']
  enough := trivial

/-- The rows that were counted are due. -/
theorem RetryCall.Counting.due (counting : call.Counting nullsFirst start world)
    (ids : (start.db.outbox.map (·.id)).Nodup) {row : ActionOutbox} (member : row ∈ start.db.outbox)
    (counted : row.id ∈ call.countedIds) : row.isDue start.clock = true := by
  obtain ⟨first, found, same⟩ := Option.map_eq_some_iff.mp (counting.first row.id counted)
  obtain ⟨present, due⟩ := List.mem_filter.mp (firstRow_mem found)
  obtain rfl := List.inj_on_of_nodup_map ids present member same
  exact due

/-- Between its claims the dry run meets the rows that were eligible when it started. -/
theorem RetryCall.Counting.eligible (counting : call.Counting nullsFirst start world)
    (ids : (start.db.outbox.map (·.id)).Nodup) (free : ∀ row, call.phase ≠ .releasing row) :
    world.db.eligible start.clock =
      (start.db.eligible start.clock).map (·.released call.countedIds) := by
  have rows : world.db.outbox = start.db.outbox.map (·.released call.countedIds) := by
    rw [← counting.rows, RetryCall.afterRelease]
    split
    · next row holding => exact (free row holding).elim
    · rfl
  have same : ∀ row ∈ start.db.outbox,
      (row.released call.countedIds).isDue start.clock = row.isDue start.clock := by
    intro row member
    by_cases counted : row.id ∈ call.countedIds
    · have due := counting.due ids member counted
      rw [due, ActionOutbox.isDue_released due]
    · rw [ActionOutbox.released, if_neg counted]
  rw [ActionsDb.eligible, rows, List.filter_map, ActionsDb.eligible]
  exact congrArg _ (List.filter_congr same)

/-- What a claim of the dry run finds. -/
theorem RetryCall.Counting.claim (counting : call.Counting nullsFirst start world)
    (ids : (start.db.outbox.map (·.id)).Nodup) (free : ∀ row, call.phase ≠ .releasing row) :
    call.claim settings (.alone nullsFirst) world =
      match firstRow nullsFirst (start.db.eligible start.clock) with
      | none => (.ok none, world)
      | some row =>
        let lease : OutboxColumns := .lockedUntil (some
          (start.clock + settings.webhookRetryLeaseSeconds * microsecondsPerSecond))
        (.ok (some ((row.released call.countedIds).assign lease)),
          { world with db := world.db.assign row.id lease }) := by
  have unlocked : (fun row : ActionOutbox => row.isDue start.clock &&
      !(ClaimView.alone nullsFirst).locked row.id) = fun row => row.isDue start.clock := by
    funext row
    exact Bool.and_true _
  rw [RetryCall.claim, counting.now, claim_first, unlocked]
  show (match firstRow nullsFirst (world.db.eligible start.clock) with
    | none => _
    | some row => _) = _
  rw [counting.eligible ids free, firstRow_map (ActionOutbox.released_before _ _)]
  cases firstRow nullsFirst (start.db.eligible start.clock) with
  | none => rfl
  | some row => simp

/-- A claim is released before the next, whichever lease it set. -/
theorem released_again {rows : List ActionOutbox} {ids : List Uuid} {id : Uuid} (lease : Option Time)
    (once : ∀ other ∈ ids, other = id) :
    ((rows.map (·.released ids)).map fun row =>
        if row.id = id then row.assign (.lockedUntil lease) else row).map
      (fun row => if row.id = id then row.assign (.lockedUntil none) else row) =
      rows.map (·.released (ids ++ [id])) := by
  rw [List.map_map, List.map_map]
  refine List.map_congr_left fun row _ => ?_
  simp only [Function.comp_apply, ActionOutbox.released_id]
  by_cases same : row.id = id
  · simp only [same, if_true, ActionOutbox.assign_id, ActionOutbox.released, List.mem_append,
      List.mem_singleton, or_true]
    split
    · simp only [ActionOutbox.assign_id, same, if_true]
      rfl
    · rfl
  · have spared : row.id ∉ ids := fun member => same (once _ member)
    simp [ActionOutbox.released, same, spared]

theorem RetryCall.Counting.not_ready (counting : call.Counting nullsFirst start world) :
    ¬ call.Ready world := by
  intro ready
  have enough := counting.enough
  rw [RetryCall.CountedEnough] at enough
  rw [RetryCall.Ready] at ready
  cases phase : call.phase with
  | waiting timeout | working | collecting =>
    rw [phase] at enough
    exact enough
  | _ =>
    rw [phase] at ready
    exact ready

/-- A row is counted and leased. -/
theorem RetryCall.Counting.counts (counting : call.Counting nullsFirst start world)
    (choosing : call.phase = .choosing) {row : ActionOutbox}
    (first : firstRow nullsFirst (start.db.eligible start.clock) = some row) {claimed : ActionOutbox}
    (own : claimed.id = row.id) (lease : Option Time) : (call.countRow claimed).Counting nullsFirst start
      { world with db := world.db.assign row.id (.lockedUntil lease) } := by
  have once : ∀ other ∈ call.countedIds, other = row.id := by
    intro other member
    have same := counting.first other member
    rw [first] at same
    exact (Option.some.inj same).symm
  have ids : (call.countRow claimed).countedIds = call.countedIds ++ [row.id] := by
    simp [RetryCall.countedIds, RetryCall.countRow, own]
  have less := counting.enough
  rw [RetryCall.CountedEnough, choosing] at less
  have rows := counting.rows
  rw [RetryCall.afterRelease, choosing] at rows
  exact {
    dry := counting.dry
    now := counting.now
    futures := counting.futures
    attempts := counting.attempts
    processed := by
      simp [RetryCall.countRow, RetryStats.merge, counting.processed]
    emailProcessed := by
      simp only [RetryCall.countRow, RetryStats.merge, counting.emailProcessed, List.filter_append,
        List.length_append]
      split <;> simp [*]
    first := by
      intro id member
      rw [ids] at member
      rcases List.mem_append.mp member with old | new
      · exact counting.first id old
      · rw [first, List.mem_singleton.mp new]
        rfl
    bounded := by
      simp only [RetryCall.countRow, List.length_append, List.length_singleton]
      simp only at less
      omega
    rows := by
      rw [ids, RetryCall.afterRelease]
      simp only [RetryCall.countRow, ActionsDb.assign, own]
      rw [show world.db.outbox = _ from rows]
      exact released_again lease once
    enough := trivial }

theorem RetryCall.Step.counting {later : OutboxWorld} {after : RetryCall} {event : RetrySystemEvent}
    (stepped : RetryCall.Step settings library world call event later after)
    (permitted : RetryCall.InTime nullsFirst world call event)
    (ids : (start.db.outbox.map (·.id)).Nodup) (counting : call.Counting nullsFirst start world) :
    after.Counting nullsFirst start later := by
  have nothing : call.inFlight = [] := by rw [RetryCall.inFlight, counting.futures]; rfl
  have enough := counting.enough
  rw [RetryCall.CountedEnough] at enough
  cases stepped with
  | enters checking more =>
    have less := more.1
    rw [counting.processed] at less
    have rows := counting.rows
    rw [RetryCall.afterRelease, checking] at rows
    exact { counting with rows, enough := less }
  | leaves checking beyond =>
    have full : call.options.batchSize ≤ call.counted.length := by
      by_contra less
      refine beyond ⟨?_, permitted.2 checking⟩
      rw [counting.processed]
      omega
    have rows := counting.rows
    rw [RetryCall.afterRelease, checking] at rows
    exact { counting with rows, enough := .inl full }
  | waits choosing busy =>
    have workers : 1 ≤ call.workers := le_max_left _ _
    rw [nothing] at busy
    simp at busy
    omega
  | idles view choosing free found =>
    obtain rfl := permitted.1 view rfl
    rw [counting.claim ids (by simp [choosing])] at found
    rcases first : firstRow nullsFirst (start.db.eligible start.clock) with _ | row
    · rw [first] at found
      cases found
      have none : start.db.eligible start.clock = [] := by
        by_contra some
        have present : (firstRow nullsFirst (start.db.eligible start.clock)).isSome = true :=
          firstRow_isSome some
        rw [first] at present
        cases present
      have rows := counting.rows
      rw [RetryCall.afterRelease, choosing] at rows
      rw [if_pos nothing]
      exact { counting with rows, enough := .inr none }
    · rw [first] at found
      cases found
  | claims view row choosing free found =>
    obtain rfl := permitted.1 view rfl
    rw [counting.claim ids (by simp [choosing])] at found
    rcases first : firstRow nullsFirst (start.db.eligible start.clock) with _ | found'
    · rw [first] at found
      cases found
    · rw [first] at found
      cases found
      rw [if_pos counting.dry]
      exact counting.counts choosing first (by simp) _
  | releases row holding =>
    have rows := counting.rows
    rw [RetryCall.afterRelease, holding] at rows
    exact { counting with rows, enough := trivial, attempts := counting.attempts }
  | delivers future op next waiting present =>
    have empty := counting.futures.symm.trans present
    simp at empty
  | collects ready returned goesOn => exact (counting.not_ready ready).elim
  | raises ready raised => exact (counting.not_ready ready).elim
  | drains draining unfinished early => exact (unfinished nothing).elim
  | stops beyond =>
    rcases beyond with ⟨draining, _⟩ | ⟨collecting, ready, _⟩
    · have rows := counting.rows
      rw [RetryCall.afterRelease, draining] at rows
      rw [draining] at enough
      exact { counting with rows, enough }
    · exact (counting.not_ready ready).elim
  | joins raised joining beyond =>
    rw [joining] at enough
    cases raised with
    | true => exact enough.elim
    | false =>
      have rows := counting.rows
      rw [RetryCall.afterRelease, joining] at rows
      exact { counting with rows, enough }

theorem RetryCall.Runs.counting {options : RetryOptions} (dry : options.dryRun = true)
    (ids : (start.db.outbox.map (·.id)).Nodup)
    (runs : RetryCall.Runs settings library (RetryCall.InTime nullsFirst) options start world call) :
    call.Counting nullsFirst start world ∧ call.options = options := by
  rw [RetryCall.Runs] at runs
  generalize ended : (world, call) = state at runs
  induction runs generalizing world call with
  | refl =>
    cases ended
    exact ⟨RetryCall.start_counting options dry start, rfl⟩
  | tail _ last ih =>
    cases last with
    | acts stepped permitted =>
      cases ended
      obtain ⟨counting, same⟩ := ih rfl
      exact ⟨stepped.counting permitted ids counting, stepped.options.1.trans same⟩
    | passes span =>
      cases ended
      obtain ⟨counting, same⟩ := ih rfl
      exact ⟨{ counting with rows := counting.rows, attempts := counting.attempts }, same⟩
    | reroutes network =>
      cases ended
      obtain ⟨counting, same⟩ := ih rfl
      exact ⟨{ counting with rows := counting.rows, attempts := counting.attempts }, same⟩

/-! ### A dry run ends -/

/-- A dry run at the head of its loop, in time. -/
structure RetryCall.AtHead (world : OutboxWorld) (call : RetryCall) : Prop where
  dry : call.options.dryRun = true
  checking : call.phase = .checking
  idle : call.futures = []
  inTime : world.monotonic < call.deadline

theorem RetryCall.claim_monotonic (settings : ActionsSettings) (call : RetryCall) (view : ClaimView)
    (world : OutboxWorld) : (call.claim settings view world).2.monotonic = world.monotonic :=
  (DeliveryCall.handle_times _ world).2

/-- After the loop the call only has to return. -/
theorem RetryCall.drains_returns (draining : call.phase = .draining) (idle : call.futures = []) :
    ∃ after, after.phase = .returned ∧
      Relation.ReflTransGen (RetryCall.Alone settings library (RetryCall.InTime nullsFirst)) (world, call)
        (world, after) := by
  have nothing : call.inFlight = [] := by rw [RetryCall.inFlight, idle]; rfl
  have stopped : RetryCall.Step settings library world call (.leaves call) world
      { call with phase := .joining false } := .stops (.inl ⟨draining, .inl nothing⟩)
  have joined : RetryCall.Step settings library world { call with phase := .joining false } .other world
      { call with phase := .returned } := .joins false rfl (by simp [idle])
  refine ⟨{ call with phase := .returned }, rfl, .head (.acts stopped ⟨?_, ?_⟩) (.single (.acts joined ⟨?_, ?_⟩))⟩
  · intro view other
    cases other
  · intro checking
    rw [draining] at checking
    cases checking
  · intro view other
    cases other
  · intro checking
    cases checking

/-- One round of the loop: it ends, or one more row is counted. -/
theorem RetryCall.AtHead.round (head : call.AtHead world) :
    ∃ later after, Relation.ReflTransGen (RetryCall.Alone settings library (RetryCall.InTime nullsFirst))
        (world, call) (later, after) ∧ after.options = call.options ∧
      ((after.phase = .draining ∧ after.futures = []) ∨ (after.AtHead later ∧
        (call.stats.total .processed : Int) < call.options.batchSize ∧
          after.stats.total .processed = call.stats.total .processed + 1)) := by
  have heads {event : RetrySystemEvent} (other : ∀ view, event ≠ .looks view) :
      RetryCall.InTime nullsFirst world call event :=
    ⟨fun view same => (other view same).elim, fun _ => head.inTime⟩
  by_cases more : call.Continues world
  · have entered : RetryCall.Step settings library world call .other world
        { call with phase := .choosing } := .enters head.checking more
    have enters : RetryCall.Alone settings library (RetryCall.InTime nullsFirst) (world, call)
        (world, { call with phase := .choosing }) := .acts entered (heads fun _ => RetrySystemEvent.noConfusion)
    have free : (({ call with phase := .choosing } : RetryCall).inFlight.length : Int) <
        ({ call with phase := .choosing } : RetryCall).workers := by
      have workers : 1 ≤ call.workers := le_max_left _ _
      simp only [RetryCall.inFlight, head.idle]
      exact lt_of_lt_of_le Int.zero_lt_one workers
    have looks : RetryCall.InTime nullsFirst world { call with phase := .choosing }
        (.looks (.alone nullsFirst)) :=
      ⟨fun view same => by cases same; rfl, fun checking => by cases checking⟩
    have nothing : ({ call with phase := .choosing } : RetryCall).inFlight = [] := by
      rw [RetryCall.inFlight, head.idle]
      rfl
    rcases claim_ends settings call.now (.alone nullsFirst) world with same | ⟨row, _, _, leased⟩
    · have idled : RetryCall.Step settings library world { call with phase := .choosing }
          (.looks (.alone nullsFirst)) world _ := .idles _ rfl free same
      rw [if_pos nothing] at idled
      exact ⟨world, _, .head enters (.single (.acts idled looks)), rfl, .inl ⟨rfl, head.idle⟩⟩
    · have claimed : RetryCall.Step settings library world { call with phase := .choosing }
          (.looks (.alone nullsFirst)) _ _ := .claims _ _ rfl free leased
      rw [if_pos (show ({ call with phase := .choosing } : RetryCall).options.dryRun = true from
        head.dry)] at claimed
      refine ⟨_, _, .head enters (.head (.acts claimed looks) (.single (.acts (.releases _ rfl) ⟨?_, ?_⟩))),
        rfl, .inr ⟨⟨head.dry, rfl, head.idle, head.inTime⟩, more.1, rfl⟩⟩
      · intro view other
        cases other
      · intro checking
        cases checking
  · have left : RetryCall.Step settings library world call .other world
        { call with phase := .draining } := .leaves head.checking more
    exact ⟨world, _, .single (.acts left (heads fun _ => RetrySystemEvent.noConfusion)), rfl,
      .inl ⟨rfl, head.idle⟩⟩

theorem RetryCall.AtHead.returns (rounds : Nat) (head : call.AtHead world)
    (left : call.options.batchSize ≤ call.stats.total .processed + rounds) :
    ∃ later after, Relation.ReflTransGen (RetryCall.Alone settings library (RetryCall.InTime nullsFirst))
        (world, call) (later, after) ∧ after.phase = .returned := by
  induction rounds generalizing world call with
  | zero =>
    obtain ⟨later, after, path, _, ⟨draining, idle⟩ | ⟨_, less, _⟩⟩ := head.round
    · obtain ⟨last, returned, rest⟩ := RetryCall.drains_returns draining idle
      exact ⟨later, last, path.trans rest, returned⟩
    · omega
  | succ rounds ih =>
    obtain ⟨later, after, path, same, ⟨draining, idle⟩ | ⟨head, less, more⟩⟩ := head.round
    · obtain ⟨last, returned, rest⟩ := RetryCall.drains_returns draining idle
      exact ⟨later, last, path.trans rest, returned⟩
    · obtain ⟨last, ended, rest, returned⟩ := ih head (by rw [same, more]; push_cast; omega)
      exact ⟨last, ended, path.trans rest, returned⟩

/-- Every dry run returns if its deadline does not stop it. -/
theorem dryRun_returns (options : RetryOptions) (dry : options.dryRun = true) (start : OutboxWorld) :
    ∃ later call, RetryCall.Returns settings library nullsFirst options start later call := by
  have head : (RetryCall.start options start).AtHead start := by
    refine ⟨dry, rfl, rfl, ?_⟩
    show start.monotonic < start.monotonic + max 100000 options.maxSeconds
    exact Int.lt_add_of_pos_right _ (lt_of_lt_of_le (by decide) (le_max_left _ _))
  obtain ⟨later, call, path, returned⟩ := head.returns options.batchSize.toNat (by
    show options.batchSize ≤ ((0 : Nat) : Int) + options.batchSize.toNat
    omega)
  exact ⟨later, call, path, returned⟩

/-! ### What it counts -/

/-- What has been counted when the dry run returns: the first row, over and over. -/
theorem RetryCall.Counting.returned (counting : call.Counting nullsFirst start world)
    (returned : call.phase = .returned) :
    (start.db.eligible start.clock = [] → call.counted = []) ∧
      (start.db.eligible start.clock ≠ [] → call.counted.length = call.options.batchSize.toNat) := by
  have enough := counting.enough
  rw [RetryCall.CountedEnough, returned] at enough
  have bounded := counting.bounded
  constructor
  · intro none
    refine List.eq_nil_iff_forall_not_mem.mpr fun row member => ?_
    have first := counting.first row.id (List.mem_map_of_mem member)
    rw [none] at first
    cases first
  · intro some
    rcases enough with full | none
    · omega
    · exact (some none).elim

/-- The leases that a dry run takes away were over. -/
theorem RetryCall.Counting.leftAs (counting : call.Counting nullsFirst start world)
    (ids : (start.db.outbox.map (·.id)).Nodup) (returned : call.phase = .returned) :
    List.Forall₂ (ActionOutbox.LeftAs start.clock) start.db.outbox world.db.outbox := by
  have rows := counting.rows
  rw [RetryCall.afterRelease, returned] at rows
  rw [show world.db.outbox = _ from rows, List.forall₂_map_right_iff]
  refine List.forall₂_same.mpr fun row member => ?_
  by_cases counted : row.id ∈ call.countedIds
  · have due := counting.due ids member counted
    rw [ActionOutbox.released, if_pos counted]
    cases lease : row.lockedUntil with
    | none =>
      left
      rw [ActionOutbox.assign, ← lease]
    | some time =>
      right
      simp only [ActionOutbox.isDue, Bool.and_eq_true, lease, Option.all_some] at due
      refine ⟨?_, rfl⟩
      rw [lease]
      exact due.2
  · left
    rw [ActionOutbox.released, if_neg counted]

/-- If it may count no row twice, the dry run counts as it should. -/
theorem RetryCall.Counting.countsOnce (counting : call.Counting nullsFirst start world)
    (ids : (start.db.outbox.map (·.id)).Nodup) (returned : call.phase = .returned)
    (natural : 0 ≤ call.options.batchSize)
    (few : call.options.batchSize ≤ 1 ∨ start.db.eligible start.clock = []) :
    call.CountsOnce start world := by
  obtain ⟨none, some⟩ := counting.returned returned
  have length : (call.counted.length : Int) =
      min call.options.batchSize (start.db.eligible start.clock).length := by
    by_cases empty : start.db.eligible start.clock = []
    · rw [none empty, empty]
      simp [natural]
    · have least : 0 < (start.db.eligible start.clock).length := List.length_pos_of_ne_nil empty
      have single : call.options.batchSize ≤ 1 := few.resolve_right empty
      rw [some empty]
      omega
  have single : call.counted.length ≤ 1 := by
    rcases few with single | empty
    · have bounded := counting.bounded
      omega
    · rw [none empty]
      exact Nat.zero_le 1
  exact {
    processed := by rw [counting.processed, length]
    counted := counting.processed
    emailProcessed := counting.emailProcessed
    once := by
      match counted : call.counted with
      | [] => exact List.nodup_nil
      | [row] => exact List.nodup_singleton row.id
      | _ :: _ :: _ =>
        rw [counted] at single
        simp at single
    deliversNothing := ⟨counting.futures, counting.attempts⟩
    rows := counting.leftAs ids returned }

/-- A dry run that counts as it should counts at most one row. -/
theorem RetryCall.Counting.few (counting : call.Counting nullsFirst start world)
    (returned : call.phase = .returned) (once : call.CountsOnce start world) :
    0 ≤ call.options.batchSize ∧
      (call.options.batchSize ≤ 1 ∨ start.db.eligible start.clock = []) := by
  have processed := once.processed
  constructor
  · omega
  · by_cases empty : start.db.eligible start.clock = []
    · exact .inr empty
    · left
      obtain ⟨row, first⟩ := Option.isSome_iff_exists.mp
        (show (firstRow nullsFirst (start.db.eligible start.clock)).isSome = true from firstRow_isSome empty)
      have same : ∀ id ∈ call.countedIds, id = row.id := by
        intro id member
        have found := counting.first id member
        rw [first] at found
        exact (Option.some.inj found).symm
      have length := (counting.returned returned).2 empty
      have single : call.countedIds.length ≤ 1 := by
        have subset : call.countedIds ⊆ [row.id] := fun id member => List.mem_singleton.mpr (same id member)
        exact (List.subperm_of_subset once.once subset).length_le
      rw [RetryCall.countedIds, List.length_map, length] at single
      omega

end

/-- A dry run counts each eligible row once exactly where it cannot come round to a row again. -/
theorem dryRun_counts_iff (settings : ActionsSettings) (library : ActionsLibrary) (nullsFirst : Bool)
    {options : RetryOptions} (dry : options.dryRun = true) {start : OutboxWorld}
    (ids : (start.db.outbox.map (·.id)).Nodup) :
    DryRunCounts settings library nullsFirst options start ↔
      0 ≤ options.batchSize ∧ (options.batchSize ≤ 1 ∨ start.db.eligible start.clock = []) := by
  constructor
  · rintro ⟨⟨later, call, runs, returned⟩, every⟩
    obtain ⟨counting, same⟩ := runs.counting dry ids
    have few := counting.few returned (every later call ⟨runs, returned⟩)
    rw [same] at few
    exact few
  · rintro ⟨natural, few⟩
    refine ⟨dryRun_returns options dry start, fun later call ⟨runs, returned⟩ => ?_⟩
    obtain ⟨counting, same⟩ := runs.counting dry ids
    rw [← same] at natural few
    exact counting.countsOnce ids returned natural few

/-! A dry run over the row of a webhook and the row of an email. -/

def dryOptions : RetryOptions where
  batchSize := 50
  maxSeconds := 50000000
  concurrency := 4
  dryRun := true
  scheduledJobRunId := none

theorem dryRun_counts_single :
    DryRunCounts mailSettings plainLibrary true { dryOptions with batchSize := 1 }
        (answeringWorld (plainAnswer 200)) ↔
      (0 : Int) ≤ 1 ∧ ((1 : Int) ≤ 1 ∨
        (answeringWorld (plainAnswer 200)).db.eligible (answeringWorld (plainAnswer 200)).clock = []) :=
  dryRun_counts_iff mailSettings plainLibrary true rfl (by decide)

/-- With two eligible rows and room for fifty the dry run counts fifty. -/
theorem dryRun_repeats : ¬ ∀ (settings : ActionsSettings) (library : ActionsLibrary) (nullsFirst : Bool)
    (options : RetryOptions) (start : OutboxWorld), options.dryRun = true →
      (start.db.outbox.map (·.id)).Nodup → DryRunCounts settings library nullsFirst options start := by
  intro every
  have ids : ((answeringWorld (plainAnswer 200)).db.outbox.map (·.id)).Nodup := by decide
  obtain ⟨⟨later, call, runs, returned⟩, counts⟩ := every mailSettings plainLibrary true dryOptions
    (answeringWorld (plainAnswer 200)) rfl ids
  obtain ⟨counting, same⟩ := runs.counting rfl ids
  obtain ⟨_, single | none⟩ := counting.few returned (counts later call ⟨runs, returned⟩)
  · rw [same] at single
    exact absurd single (by decide)
  · exact absurd none (by decide)

end HostingService
