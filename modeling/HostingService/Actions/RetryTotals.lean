import HostingService.Actions.RetrySurvival

/-! The counts of a `retry_webhooks` run beside the attempts that it has recorded. -/

namespace HostingService

open Program Text

/-! ### What a run did -/

/-- The attempt is of a row of the kind. -/
def Noted.isOf (kind : DeliveryKind) (note : Noted) : Bool := note.2.any (·.deliveryKind = kind)

/-- After the attempt its row, of the kind, has the status. -/
def Noted.became (kind : DeliveryKind) (status : OutboxStatus) (note : Noted) : Bool :=
  note.2.any fun row => row.deliveryKind = kind && row.status = status

/-- The attempt left its row attempted. -/
def Noted.Ended (note : Noted) : Prop := ∃ row, note.2 = some row ∧ row.status ≠ .pending

/-- The counts that the attempts call for. -/
def actualCounts (notes : List Noted) : Counts :=
  let count (test : Noted → Bool) : CountValue := .int (notes.countP test)
  [(lit "webhook_deliveries_attempted", count (Noted.isOf .webhook)),
    (lit "webhook_deliveries_succeeded", count (Noted.became .webhook .delivered)),
    (lit "webhook_deliveries_failed", count (Noted.became .webhook .failed)),
    (lit "webhook_deliveries_given_up", count (Noted.became .webhook .dead)),
    (lit "email_events_attempted", count (Noted.isOf .email)),
    (lit "email_events_succeeded", count (Noted.became .email .delivered)),
    (lit "email_events_failed", count (Noted.became .email .failed)),
    (lit "email_events_given_up", count (Noted.became .email .dead))]

namespace RetrySystem

/-- The attempts that were recorded for the run, each with its row. -/
def runNotes (state : RetrySystem) (run : Nat) : List Noted :=
  state.history.filter (·.1.scheduledJobRunId = some run)

/-- The counts are those of the attempts of the run, which are the rows that carry its id, and
each of them succeeded, failed or was given up. -/
structure Accounts (state : RetrySystem) (run : Nat) (counts : Counts) : Prop where
  attempts : state.world.db.attempts.filter (·.scheduledJobRunId = some run) = (state.runNotes run).map (·.1)
  ended : ∀ note ∈ state.runNotes run, note.Ended
  counts : counts = actualCounts (state.runNotes run)
  sums : ∀ kind, (state.runNotes run).countP (Noted.isOf kind) =
    (state.runNotes run).countP (Noted.became kind .delivered) +
      (state.runNotes run).countP (Noted.became kind .failed) +
        (state.runNotes run).countP (Noted.became kind .dead)

/-- When a delivery begins its row is not settled, and until it ends no other attempt is
recorded for the row. -/
def Undisturbed (world : OutboxWorld) (future : RetryFuture) : Prop :=
  match future.thread.log with
  | [] => ∀ row, world.db.row future.rowId = some row → row.status.isFinal = false
  | first :: _ => world.db.countOf future.rowId = first.state.db.countOf future.rowId

/-- Rows and rules stay. -/
def Undeleted (state : RetrySystem) (event : RetrySystemEvent) : Prop :=
  state.Proper event ∧ ∀ db, event ≠ .deletes db

/-- The deliveries of the call are undisturbed, and it leaves its second loop when none of them
is in flight. -/
def Countable (i : Nat) (state : RetrySystem) (event : RetrySystemEvent) : Prop :=
  state.Undeleted event ∧
    match event with
    | .delivers future => ∀ call, state.calls[i]? = some call → future ∈ call.futures →
        Undisturbed state.world future
    | .leaves call => state.calls[i]? = some call → call.inFlight = []
    | _ => True

theorem Countable.survivable {i : Nat} {state : RetrySystem} {event : RetrySystemEvent}
    (countable : state.Countable i event) : state.Survivable i event := by
  refine ⟨countable.1.1, ?_⟩
  cases event with
  | deletes db => exact (countable.1.2 db rfl).elim
  | leaves call => exact countable.2
  | _ => trivial

end RetrySystem

section
variable {settings : ActionsSettings} {library : ActionsLibrary} {world later : OutboxWorld}
  {call after : RetryCall} {event : RetrySystemEvent}

/-! ### Labels -/

/-- Attempts are only added, and each new one is of the run. -/
def ActionsDb.Labels (run : Option Nat) (before after : ActionsDb) : Prop :=
  ∃ attempts, after.attempts = before.attempts ++ attempts ∧
    ∀ attempt ∈ attempts, attempt.scheduledJobRunId = run

theorem ActionsDb.Labels.of_same {run : Option Nat} {before after : ActionsDb}
    (same : after.attempts = before.attempts) : ActionsDb.Labels run before after :=
  ⟨[], by rw [same, List.append_nil], fun _ nothing => by cases nothing⟩

/-- What is noted are the new attempts. -/
theorem ActionsDb.Labels.noted {run : Option Nat} {before after : ActionsDb}
    (labels : ActionsDb.Labels run before after) :
    after.attempts = before.attempts ++ (noted before after).map (·.1) ∧
      ∀ note ∈ noted before after, note.1.scheduledJobRunId = run := by
  obtain ⟨attempts, added, own⟩ := labels
  have new : after.attempts.drop before.attempts.length = attempts := by rw [added, List.drop_left']; rfl
  simp only [HostingService.noted, new]
  constructor
  · rw [added, List.map_map]
    simp [Function.comp_def]
  · intro note member
    obtain ⟨attempt, inside, rfl⟩ := List.mem_map.mp member
    exact own attempt inside

def CallLabels (run : Option Nat) (β : Type) (call : DeliveryCall β) : Prop :=
  ∀ world : OutboxWorld, ActionsDb.Labels run world.db (DeliveryCall.handle β call world).2.db

theorem Quiet.labels {β : Type} {call : DeliveryCall β} (quiet : Quiet β call) (run : Option Nat) :
    CallLabels run β call := by
  intro world
  rw [quiet world]
  exact .of_same rfl

theorem recordResult_labels {id : Uuid} {count : Nat} {terminalError : Option PyStr} {success : Bool}
    {found : AttemptMeta} {correlation : Correlation} : CallLabels correlation.scheduledJobRunId _
      (.atomic (recordResult settings id count terminalError success found correlation)) := by
  intro world
  rcases stored : world.db.row id with _ | row
  · rw [recordResult_gone stored]
    exact .of_same rfl
  · by_cases current : row.attemptCount = count
    · subst current
      obtain rfl := (ActionsDb.row_mem stored).2
      rw [DeliveryCall.handle, run_recordResult stored, run_applyDeliveryResult stored]
      refine ⟨_, rfl, fun attempt member => ?_⟩
      obtain rfl := List.mem_singleton.mp member
      rfl
    · rw [recordResult_overtaken stored current]
      exact .of_same rfl

theorem deliverOutboxRow_labels (id : Uuid) (correlation : Correlation) :
    (deliverOutboxRow settings library id correlation).All (CallLabels correlation.scheduledJobRunId) :=
  deliverOutboxRow_all (fun _ _ quiet => quiet.labels _) fun _ _ _ _ => recordResult_labels

theorem claim_attempts {view : ClaimView} {result : Except ActionsError (Option ActionOutbox)}
    (found : call.claim settings view world = (result, later)) : later.db.attempts = world.db.attempts := by
  rw [RetryCall.claim] at found
  rcases claim_ends settings call.now view world with same | ⟨row, _, _, leased⟩
  · rw [same] at found
    cases found
    rfl
  · rw [leased] at found
    cases found
    rfl

/-! ### What a step notes -/

theorem noted_of_attempts {before after : ActionsDb} (same : after.attempts = before.attempts) :
    noted before after = [] := by
  rw [noted, same, List.drop_length, List.map_nil]

theorem RetryCall.Step.labels (stepped : RetryCall.Step settings library world call event later after)
    (every : ∀ future ∈ call.futures, future.thread.rest.All (CallLabels call.options.scheduledJobRunId)) :
    ActionsDb.Labels call.options.scheduledJobRunId world.db later.db := by
  cases stepped with
  | idles view choosing free nothing => exact .of_same (claim_attempts nothing)
  | claims view row choosing free found => exact .of_same (claim_attempts found)
  | delivers future op next waiting present =>
    have allowed := every future (present ▸ mem_middle.mpr (.inl rfl))
    rw [waiting] at allowed
    exact allowed.1 world
  | _ => exact .of_same rfl

/-- The deliveries of a call note what its steps add. -/
theorem RetryCall.Step.notes (stepped : RetryCall.Step settings library world call event later after) :
    (after.futures.flatMap (·.notes)).Perm
      (call.futures.flatMap (·.notes) ++ noted world.db later.db) := by
  cases stepped with
  | idles view choosing free nothing =>
    rw [noted_of_attempts (claim_attempts nothing), List.append_nil]
  | claims view row choosing free found =>
    rw [noted_of_attempts (claim_attempts found), List.append_nil]
    split
    · exact .refl _
    · have none : (RetryFuture.submit settings library call.options.scheduledJobRunId row).notes = [] := rfl
      simp [RetryCall.submits, none]
  | releases row holding =>
    have none : noted world.db (world.db.assign row (.lockedUntil none)) = [] := noted_of_attempts rfl
    exact .of_eq ((congrArg _ none).trans (List.append_nil _)).symm
  | delivers moved op next waiting present =>
    obtain ⟨⟨task, rest, log⟩, collected⟩ := moved
    obtain rfl := waiting
    have own : RetryFuture.notes ⟨⟨task, next (DeliveryCall.handle _ op world).1, log ++ [⟨op, world⟩]⟩, collected⟩ =
        RetryFuture.notes ⟨⟨task, .call op next, log⟩, collected⟩ ++
          noted world.db (DeliveryCall.handle _ op world).2.db := logNotes_append log op world
    rw [present]
    simp only [List.flatMap_append, List.flatMap_cons, List.append_assoc]
    refine List.Perm.append_left _ ?_
    show (RetryFuture.notes ⟨⟨task, next (DeliveryCall.handle _ op world).1, log ++ [⟨op, world⟩]⟩, collected⟩ ++ _).Perm _
    rw [own, List.append_assoc]
    exact List.Perm.append_left _ List.perm_append_comm
  | collects ready returned goesOn =>
    rw [noted_same, List.append_nil]
    simp [RetryCall.collect, List.flatMap_map, RetryFuture.notes, RetryFuture.collect_thread]
  | _ =>
    rw [noted_same, List.append_nil]

/-! ### Undisturbed deliveries -/

/-- What the calls of an undisturbed delivery have met. -/
def RetryFuture.Clean (future : RetryFuture) : Prop :=
  ∀ first rest, future.thread.log = first :: rest →
    (∀ row, first.state.db.row future.rowId = some row → row.status.isFinal = false) ∧
      ∀ entry ∈ rest, entry.state.db.countOf future.rowId = first.state.db.countOf future.rowId

theorem RetryFuture.Clean.delivers {future : RetryFuture} (clean : future.Clean)
    (undisturbed : RetrySystem.Undisturbed world future) {β : Type} {op : DeliveryCall β}
    {next : Except ActionsError β → Delivery RetryStats} (waiting : future.thread.rest = .call op next) :
    ({ future with thread := (future.thread.after DeliveryCall.handle 1 world).1 } : RetryFuture).Clean := by
  obtain ⟨⟨task, rest, log⟩, collected⟩ := future
  obtain rfl := waiting
  intro first others same
  cases log with
  | nil =>
    cases same
    exact ⟨undisturbed, fun entry nothing => by cases nothing⟩
  | cons head tail =>
    cases same
    obtain ⟨opened, constant⟩ := clean _ _ rfl
    refine ⟨opened, fun entry member => ?_⟩
    rcases List.mem_append.mp member with old | new
    · exact constant entry old
    · obtain rfl := List.mem_singleton.mp new
      exact undisturbed

/-- An undisturbed delivery that has ended noted one attempt, which its result tells of, or it
had no row. -/
theorem RetryFuture.Clean.counted {future : RetryFuture} (clean : future.Clean)
    (sound : future.Sound world) (finished : future.Finished) :
    (future.notes = [] ∧ future.result = .zero) ∨ ∃ attempt row, future.notes = [(attempt, some row)] ∧
      row.status ≠ .pending ∧ future.result = summarizeDeliveryResult future.thread.task.2 (some row) := by
  obtain ⟨stage, after, shown, returns, notes, result⟩ := (sound.finished finished).2
  cases stage with
  | waiting => cases returns
  | attempting count => cases returns
  | vanished =>
    cases returns
    exact .inl ⟨notes, result⟩
  | settled row =>
    obtain ⟨first, log, stored, final⟩ := shown
    have unsettled := (clean first [] log).1 row stored
    rw [unsettled] at final
    cases final
  | overtaken row =>
    obtain ⟨first, rest, last, log, stored, different⟩ := shown
    have same := (clean first (rest ++ [last]) log).2 last (List.mem_append_right _ List.mem_cons_self)
    rw [ActionsDb.countOf, stored] at same
    exact (different same.symm).elim
  | recorded attempt row =>
    cases returns
    exact .inr ⟨attempt, row, notes, shown.2.1, result⟩

theorem RetryCall.Step.clean (stepped : RetryCall.Step settings library world call event later after)
    (undisturbed : ∀ future, event = .delivers future → future ∈ call.futures →
      RetrySystem.Undisturbed world future)
    (clean : ∀ future ∈ call.futures, future.Clean) : ∀ future ∈ after.futures, future.Clean := by
  cases stepped with
  | claims view row choosing free found =>
    intro future member
    split at member
    · exact clean future member
    · rcases List.mem_append.mp member with old | new
      · exact clean future old
      · obtain rfl := List.mem_singleton.mp new
        intro first rest other
        cases other
  | delivers moved op next waiting present =>
    have own : moved ∈ call.futures := present ▸ mem_middle.mpr (.inl rfl)
    intro future member
    rcases mem_middle.mp member with rfl | other
    · exact (clean moved own).delivers (undisturbed moved rfl own) waiting
    · exact clean future (present ▸ mem_middle.mpr (.inr other))
  | collects ready returned goesOn =>
    intro future member
    obtain ⟨old, present, rfl⟩ := List.mem_map.mp member
    have kept := clean old present
    rw [RetryFuture.collect]
    split <;> exact kept
  | _ => exact clean

/-! ### The run and its attempts -/

/-- What has been recorded is what the call with the run's id has noted, and nobody else has
noted anything for the run. -/
structure RetrySystem.Recording (i : Nat) (base : List DeliveryAttempt) (state : RetrySystem) : Prop where
  labelled : state.Allowed CallLabels
  attempts : state.world.db.attempts = base ++ state.history.map (·.1)
  own : ∀ call run, state.calls[i]? = some call → call.options.scheduledJobRunId = some run →
    (∀ attempt ∈ base, attempt.scheduledJobRunId ≠ some run) ∧
      (∀ j other, state.calls[j]? = some other → other.options.scheduledJobRunId = some run → j = i) ∧
        (state.runNotes run).Perm (call.futures.flatMap (·.notes))
  clean : ∀ call, state.calls[i]? = some call → ∀ future ∈ call.futures, future.Clean

theorem RetrySystem.Initial.recording {i : Nat} {state : RetrySystem} (initial : state.Initial) :
    state.Recording i state.world.db.attempts where
  labelled := by
    constructor
    · simp [initial.dispatches]
    · simp [initial.calls]
  attempts := by simp [initial.history]
  own call run present := by simp [initial.calls] at present
  clean call present := by simp [initial.calls] at present

/-- The attempts of a run among those that a step notes: all or none. -/
theorem runNotes_append (history notes : List Noted) (run : Nat) {own : Option Nat}
    (labelled : ∀ note ∈ notes, note.1.scheduledJobRunId = own) :
    (history ++ notes).filter (·.1.scheduledJobRunId = some run) =
      history.filter (·.1.scheduledJobRunId = some run) ++ if own = some run then notes else [] := by
  rw [List.filter_append]
  split
  · next same =>
    rw [List.filter_eq_self.mpr fun note member => decide_eq_true ((labelled note member).trans same)]
  · next other =>
    rw [List.filter_eq_nil_iff.mpr fun note member same =>
      other ((labelled note member).symm.trans (of_decide_eq_true same))]

theorem RetrySystem.Step.recording {i : Nat} {base : List DeliveryAttempt} {before after : RetrySystem}
    {event : RetrySystemEvent} (step : RetrySystem.Step settings library before event after)
    (countable : before.Countable i event) (recording : before.Recording i base) :
    after.Recording i base := by
  have labelled := step.allowed (fun id correlation => deliverOutboxRow_labels id correlation)
    recording.labelled
  obtain ⟨allowed, attempts, own, clean⟩ := recording
  cases step with
  | emits row db fresh created =>
    obtain ⟨_, rfl⟩ := createOutbox_ends created
    exact ⟨labelled, attempts, own, clean⟩
  | dispatches thread op next waiting present =>
    have every := allowed.1 thread (present ▸ mem_middle.mpr (.inl rfl))
    rw [waiting] at every
    obtain ⟨added, labels⟩ := (every.1 before.world).noted
    refine ⟨labelled, ?_, fun call run stored same => ?_, clean⟩
    · rw [RetrySystem.moves, List.map_append, ← List.append_assoc, ← attempts]
      exact added
    · obtain ⟨unused, alone, notes⟩ := own call run stored same
      refine ⟨unused, alone, ?_⟩
      rw [RetrySystem.runNotes, RetrySystem.moves, runNotes_append _ _ run labels, if_neg nofun, List.append_nil]
      exact notes
  | starts options fresh =>
    have foreign (run : Nat) (same : options.scheduledJobRunId = some run) (j : Nat) (other : RetryCall)
        (stored : before.calls[j]? = some other) : other.options.scheduledJobRunId ≠ some run :=
      (fresh run same).2 other (List.mem_of_getElem? stored)
    refine ⟨labelled, attempts, fun call run stored same => ?_, fun call stored => ?_⟩
    · rw [List.getElem?_append] at stored
      split at stored
      · obtain ⟨unused, alone, notes⟩ := own call run stored same
        refine ⟨unused, fun j other present carries => ?_, notes⟩
        rw [List.getElem?_append] at present
        split at present
        · exact alone j other present carries
        · obtain rfl := List.mem_singleton.mp (List.mem_of_getElem? present)
          exact (foreign run carries i call stored same).elim
      · next later =>
        obtain rfl := List.mem_singleton.mp (List.mem_of_getElem? stored)
        have last := (List.getElem?_eq_some_iff.mp stored).1
        rw [List.length_singleton] at last
        refine ⟨fun attempt member => ?_, fun j other present carries => ?_, ?_⟩
        · exact (fresh run same).1 attempt (attempts ▸ List.mem_append_left _ member)
        · rw [List.getElem?_append] at present
          split at present
          · exact (foreign run same j other present carries).elim
          · have also := (List.getElem?_eq_some_iff.mp present).1
            rw [List.length_singleton] at also
            omega
        · have none : before.runNotes run = [] := by
            refine List.filter_eq_nil_iff.mpr fun note member same' => ?_
            refine (fresh run same).1 note.1 ?_ (of_decide_eq_true same')
            exact attempts ▸ List.mem_append_right _ (List.mem_map_of_mem member)
          exact .of_eq none
    · rw [List.getElem?_append] at stored
      split at stored
      · exact clean call stored
      · obtain rfl := List.mem_singleton.mp (List.mem_of_getElem? stored)
        exact fun future nothing => by cases nothing
  | @acts front call back _ world later present stepped =>
    have here : before.calls[front.length]? = some call := present ▸ getElem?_middle_self front back call
    obtain ⟨added, labels⟩ := (stepped.labels (allowed.2 call (List.mem_of_getElem? here))).noted
    have options := stepped.options.1
    -- the calls of both states carry the same ids
    have carried {j : Nat} {other : RetryCall} (stored : (front ++ later :: back)[j]? = some other) :
        ∃ old, before.calls[j]? = some old ∧ old.options = other.options := by
      rcases getElem?_middle stored with ⟨rfl, rfl⟩ | ⟨_, same⟩
      · exact ⟨call, here, options.symm⟩
      · exact ⟨other, present ▸ same call, rfl⟩
    refine ⟨labelled, ?_, fun other run stored same => ?_, fun other stored => ?_⟩
    · rw [RetrySystem.moves, List.map_append, ← List.append_assoc, ← attempts]
      exact added
    · have alone {known : RetryCall} (old : before.calls[i]? = some known)
          (carries : known.options.scheduledJobRunId = some run) (j : Nat) (found : RetryCall)
          (inside : (front ++ later :: back)[j]? = some found)
          (also : found.options.scheduledJobRunId = some run) : j = i := by
        obtain ⟨past, known', equal⟩ := carried inside
        exact (own known run old carries).2.1 j past known' (equal ▸ also)
      rcases getElem?_middle stored with ⟨rfl, rfl⟩ | ⟨apart, unmoved⟩
      · rw [options] at same
        obtain ⟨unused, _, notes⟩ := own call run here same
        refine ⟨unused, fun j found inside also => alone here same j found inside also, ?_⟩
        rw [RetrySystem.runNotes, RetrySystem.moves, runNotes_append _ _ run labels, if_pos same]
        exact (notes.append_right _).trans stepped.notes.symm
      · have old : before.calls[i]? = some other := present ▸ unmoved call
        obtain ⟨unused, only, notes⟩ := own other run old same
        refine ⟨unused, fun j found inside also => alone old same j found inside also, ?_⟩
        have foreign : call.options.scheduledJobRunId ≠ some run := fun also => apart (only _ call here also).symm
        rw [RetrySystem.runNotes, RetrySystem.moves, runNotes_append _ _ run labels, if_neg foreign, List.append_nil]
        exact notes
    · rcases getElem?_middle stored with ⟨rfl, rfl⟩ | ⟨_, unmoved⟩
      · refine stepped.clean ?_ (clean call here)
        rintro future rfl member
        exact countable.2 call here member
      · exact clean other (present ▸ unmoved call)
  | deletes db deleted => exact (countable.1.2 db rfl).elim
  | _ => exact ⟨labelled, attempts, own, clean⟩

theorem RetrySystem.Reaches.recording {i : Nat} {base : List DeliveryAttempt} {start state : RetrySystem}
    (recording : start.Recording i base)
    (path : RetrySystem.Reaches settings library (RetrySystem.Countable i) start state) :
    state.Recording i base := by
  induction path with
  | refl => exact recording
  | tail _ last ih =>
    obtain ⟨event, step, countable⟩ := last
    exact step.recording countable ih

/-! ### Results and notes -/

/-- What a key counts of rows. -/
def RetryKey.test (key : RetryKey) (row : ActionOutbox) : Bool :=
  match key with
  | .processed => true
  | .delivered => row.status = .delivered
  | .retried => row.status = .failed
  | .dead => row.status = .dead

/-- The key counts the attempt among those of the kind. -/
def Noted.shows (key : RetryKey) (kind : DeliveryKind) (note : Noted) : Bool :=
  note.2.any fun row => row.deliveryKind = kind && key.test row

theorem retryDelta_test {row : ActionOutbox} (settled : row.status ≠ .pending) (before : OutboxStatus)
    (key : RetryKey) : retryDelta before row.status key = if key.test row = true then 1 else 0 := by
  cases status : row.status with
  | pending => exact (settled status).elim
  | _ => cases key <;> simp [retryDelta, RetryKey.test, status]

/-- The result of an undisturbed delivery tells of what it has noted. -/
theorem RetryFuture.Clean.result {future : RetryFuture} (clean : future.Clean)
    (sound : future.Sound world) (finished : future.Finished) (key : RetryKey) :
    future.result.total key = future.notes.countP (Noted.shows key .webhook) +
        future.notes.countP (Noted.shows key .email) ∧
      future.result.email key = future.notes.countP (Noted.shows key .email) := by
  rcases clean.counted sound finished with ⟨none, zero⟩ | ⟨attempt, row, single, settled, result⟩
  · rw [none, zero]
    exact ⟨rfl, rfl⟩
  · rw [single, result]
    simp only [summarizeDeliveryResult, List.countP_cons, List.countP_nil, Nat.zero_add, Noted.shows,
      Option.any_some, retryDelta_test settled]
    have kinds : row.deliveryKind = .webhook ∨ row.deliveryKind = .email := by
      cases row.deliveryKind <;> simp
    rcases kinds with kind | kind
    · simp [kind]
    · simp [kind, retryDelta_test settled]

theorem RetryFuture.Clean.ended {future : RetryFuture} (clean : future.Clean)
    (sound : future.Sound world) (finished : future.Finished) : ∀ note ∈ future.notes, note.Ended := by
  rcases clean.counted sound finished with ⟨none, _⟩ | ⟨attempt, row, single, settled, _⟩
  · rw [none]
    exact fun note nothing => by cases nothing
  · rw [single]
    intro note member
    obtain rfl := List.mem_singleton.mp member
    exact ⟨row, rfl, settled⟩

/-- The totals of undisturbed deliveries count what these have noted. -/
theorem RetryStats.TotalOf.notes {stats : RetryStats} {futures : List RetryFuture}
    (total : stats.TotalOf (futures.map (·.result))) (clean : ∀ future ∈ futures, future.Clean)
    (sound : ∀ future ∈ futures, future.Sound world) (finished : ∀ future ∈ futures, future.Finished)
    (key : RetryKey) :
    stats.total key = (futures.flatMap (·.notes)).countP (Noted.shows key .webhook) +
        (futures.flatMap (·.notes)).countP (Noted.shows key .email) ∧
      stats.email key = (futures.flatMap (·.notes)).countP (Noted.shows key .email) := by
  obtain ⟨all, emails⟩ := total key
  rw [all, emails]
  clear total all emails
  induction futures with
  | nil => exact ⟨rfl, rfl⟩
  | cons future futures ih =>
    obtain ⟨total, email⟩ := (clean future List.mem_cons_self).result (sound future List.mem_cons_self)
      (finished future List.mem_cons_self) key
    obtain ⟨others, mails⟩ := ih (fun other member => clean other (List.mem_cons_of_mem _ member))
      (fun other member => sound other (List.mem_cons_of_mem _ member))
      (fun other member => finished other (List.mem_cons_of_mem _ member))
    simp only [List.map_cons, List.sum_cons, List.flatMap_cons, List.countP_append]
    omega

theorem Noted.isOf_eq (kind : DeliveryKind) : Noted.isOf kind = Noted.shows .processed kind := by
  funext note
  simp [Noted.isOf, Noted.shows, RetryKey.test]

/-- Totals that count the notes give the counts that these call for. -/
theorem runCounts_eq {stats : RetryStats} {notes : List Noted}
    (counted : ∀ key, stats.total key = notes.countP (Noted.shows key .webhook) +
        notes.countP (Noted.shows key .email) ∧ stats.email key = notes.countP (Noted.shows key .email)) :
    runCounts stats = actualCounts notes := by
  have webhook (key : RetryKey) : (stats.total key : Int) - stats.email key =
      notes.countP (Noted.shows key .webhook) := by
    rw [(counted key).1, (counted key).2, Int.natCast_add, Int.add_sub_cancel]
  have email (key : RetryKey) : (stats.email key : Int) = notes.countP (Noted.shows key .email) := by
    rw [(counted key).2]
  simp only [runCounts, actualCounts, webhook, Noted.isOf_eq]
  simp only [email]
  rfl

/-- Attempts that are over succeeded, failed or were given up. -/
theorem ended_sums {notes : List Noted} (ended : ∀ note ∈ notes, note.Ended) (kind : DeliveryKind) :
    notes.countP (Noted.isOf kind) = notes.countP (Noted.became kind .delivered) +
      notes.countP (Noted.became kind .failed) + notes.countP (Noted.became kind .dead) := by
  induction notes with
  | nil => rfl
  | cons note notes ih =>
    obtain ⟨attempt, row⟩ := note
    obtain ⟨row, rfl, settled⟩ := ended _ List.mem_cons_self
    have rest := ih fun other member => ended other (List.mem_cons_of_mem _ member)
    simp only [List.countP_cons, Noted.isOf, Noted.became, Option.any_some] at rest ⊢
    by_cases same : row.deliveryKind = kind
    · have statuses : row.status = .delivered ∨ row.status = .failed ∨ row.status = .dead := by
        cases status : row.status with
        | pending => exact (settled status).elim
        | delivered => exact .inl rfl
        | failed => exact .inr (.inl rfl)
        | dead => exact .inr (.inr rfl)
      rcases statuses with status | status | status
      · simp [same, status]
        omega
      · simp [same, status]
        omega
      · simp [same, status]
        omega
    · simp only [same, decide_false, Bool.false_and, Bool.false_eq_true, if_false]
      exact rest

end

/-! A run that delivers two rows in time, and one whose delivery outlives the deadline. -/

/-- Steps of a call alone whose deliveries are undisturbed. -/
def RetryCall.Careful (world : OutboxWorld) (_ : RetryCall) : RetrySystemEvent → Prop
  | .looks _ | .other => True
  | .delivers future => RetrySystem.Undisturbed world future
  | .leaves call => call.inFlight = []
  | _ => False

theorem RetryCall.Careful.countable {state : RetrySystem} {call : RetryCall} {event : RetrySystemEvent}
    (careful : call.Careful state.world event) : state.Countable 0 event := by
  cases event with
  | leaves leaving => exact ⟨⟨trivial, nofun⟩, fun _ => careful⟩
  | looks view => exact ⟨⟨trivial, nofun⟩, trivial⟩
  | delivers future => exact ⟨⟨trivial, nofun⟩, fun _ _ _ => careful⟩
  | other => exact ⟨⟨trivial, nofun⟩, trivial⟩
  | _ => exact careful.elim

/-- The delivery of the hook, while the mail is under way. -/
def pairHook : RetryFuture × OutboxWorld := oneFuture.after 5 mailStarted.2

def pairMail : RetryFuture × OutboxWorld := mailStarted.1.after 4 pairHook.2

theorem mailFuture_undisturbed : RetrySystem.Undisturbed pairLeased mailFuture := by
  intro row stored
  cases stored
  rfl

theorem pairHook_undisturbed (made : Nat) (less : made < 5) :
    RetrySystem.Undisturbed (oneFuture.after made mailStarted.2).2
      (oneFuture.after made mailStarted.2).1 := by
  match made, less with
  | 0, _ =>
    intro row stored
    cases stored
    rfl
  | 1, _ | 2, _ | 3, _ | 4, _ => rfl

/-- The attempt of the hook is none of the mail's. -/
theorem pairMail_undisturbed (made : Nat) (less : made < 4) :
    RetrySystem.Undisturbed (mailStarted.1.after made pairHook.2).2
      (mailStarted.1.after made pairHook.2).1 := by
  match made, less with
  | 0, _ | 1, _ | 2, _ | 3, _ => rfl

def countedCall : RetryCall := pairResult [pairHook.1, pairMail.1] .returned

/-- The system when the call has returned. -/
def countedSystem (history : List Noted) : RetrySystem :=
  { RetrySystem.calling pairWorld countedCall with world := pairMail.2, history }

theorem countedSystem_reached : ∃ history, RetrySystem.Reaches mailSettings plainLibrary
    (RetrySystem.Countable 0) (.fresh pairWorld) (countedSystem history) := by
  let waiting (hook mail : RetryFuture) := pairCall pairWaiting [hook, mail]
  have snapshot : Relation.ReflTransGen (RetryCall.Alone mailSettings plainLibrary RetryCall.Careful)
      (pairLeased, waiting oneFuture mailFuture) (mailStarted.2, waiting oneFuture mailStarted.1) := by
    refine @RetryCall.Alone.delivers _ _ RetryCall.Careful 1 pairLeased (waiting oneFuture mailFuture)
      [oneFuture] [] mailFuture rfl fun made less _ => ?_
    obtain rfl := Nat.lt_one_iff.mp less
    exact mailFuture_undisturbed
  have hooked : Relation.ReflTransGen (RetryCall.Alone mailSettings plainLibrary RetryCall.Careful)
      (mailStarted.2, waiting oneFuture mailStarted.1) (pairHook.2, waiting pairHook.1 mailStarted.1) :=
    @RetryCall.Alone.delivers _ _ RetryCall.Careful 5 mailStarted.2 (waiting oneFuture mailStarted.1)
      [] [mailStarted.1] oneFuture rfl fun made less _ => pairHook_undisturbed made less
  have mailed : Relation.ReflTransGen (RetryCall.Alone mailSettings plainLibrary RetryCall.Careful)
      (pairHook.2, waiting pairHook.1 mailStarted.1) (pairMail.2, waiting pairHook.1 pairMail.1) :=
    @RetryCall.Alone.delivers _ _ RetryCall.Careful 4 pairHook.2 (waiting pairHook.1 mailStarted.1)
      [pairHook.1] [] mailStarted.1 rfl fun made less _ => pairMail_undisturbed made less
  have returned : Relation.ReflTransGen (RetryCall.Alone mailSettings plainLibrary RetryCall.Careful)
      (pairMail.2, waiting pairHook.1 pairMail.1) (pairMail.2, countedCall) :=
    pairCall_returns (fun _ _ => trivial) (fun _ _ landed => landed) (by decide +kernel)
      (by decide +kernel) (by decide +kernel) (by decide +kernel)
  obtain ⟨history, reached⟩ := @RetrySystem.Reaches.alone _ _ _ _ _ RetryCall.Careful
    (RetrySystem.Countable 0) (.calling pairWorld (.start pairOptions pairWorld)) [] [] rfl
      (fun _ _ _ careful => careful.countable) (fun _ => ⟨⟨trivial, nofun⟩, trivial⟩)
        ((pairCall_claims (fun _ _ _ => trivial) fun _ _ => trivial).trans
          (snapshot.trans (hooked.trans (mailed.trans returned))))
  exact ⟨history, .head ⟨_, pairCall_starts, ⟨trivial, nofun⟩, trivial⟩ reached⟩

/-- Steps of a call alone. -/
def RetryCall.Unhindered (_ : OutboxWorld) (_ : RetryCall) : RetrySystemEvent → Prop
  | .looks _ | .delivers _ | .leaves _ | .other => True
  | _ => False

theorem RetryCall.Unhindered.undeleted {state : RetrySystem} {call : RetryCall} {event : RetrySystemEvent}
    (unhindered : call.Unhindered state.world event) : state.Undeleted event := by
  cases event with
  | looks view => exact ⟨trivial, nofun⟩
  | delivers future => exact ⟨trivial, nofun⟩
  | leaves leaving => exact ⟨trivial, nofun⟩
  | other => exact ⟨trivial, nofun⟩
  | _ => exact unhindered.elim

def lateOptions : RetryOptions := { retryOptions with scheduledJobRunId := some 7 }

def lateCall (phase : RetryCallPhase) (futures : List RetryFuture) : RetryCall :=
  { RetryCall.start lateOptions claimWorld with phase, futures }

/-- A minute later, after the deadline of the call. -/
def lateWorld : OutboxWorld := { leasedWorld with clock := 60000000, monotonic := 60000000 }

def lateDelivery : RetryFuture × OutboxWorld := (oneFuture.after 1 leasedWorld).1.after 4 lateWorld

theorem lateCall_returns : Relation.ReflTransGen (RetryCall.Alone mailSettings plainLibrary RetryCall.Unhindered)
    (claimWorld, .start lateOptions claimWorld) (lateDelivery.2, lateCall .returned [lateDelivery.1]) := by
  let begun : RetryFuture := (oneFuture.after 1 leasedWorld).1
  have entered : RetryCall.Step mailSettings plainLibrary claimWorld (.start lateOptions claimWorld) .other
      claimWorld (lateCall .choosing []) := .enters rfl (by decide)
  have claimed : RetryCall.Step mailSettings plainLibrary claimWorld (lateCall .choosing []) (.looks openView)
      leasedWorld (lateCall .checking [oneFuture]) := .claims openView leasedRow rfl (by decide) rfl
  have begins : Relation.ReflTransGen (RetryCall.Alone mailSettings plainLibrary RetryCall.Unhindered)
      (leasedWorld, lateCall .checking [oneFuture]) (leasedWorld, lateCall .checking [begun]) :=
    @RetryCall.Alone.delivers _ _ RetryCall.Unhindered 1 leasedWorld (lateCall .checking [oneFuture]) [] []
      oneFuture rfl fun _ _ _ => trivial
  have passed : RetryCall.Alone mailSettings plainLibrary RetryCall.Unhindered
      (leasedWorld, lateCall .checking [begun]) (lateWorld, lateCall .checking [begun]) := .passes 60000000
  have left : RetryCall.Step mailSettings plainLibrary lateWorld (lateCall .checking [begun]) .other
      lateWorld (lateCall .draining [begun]) := .leaves rfl (by decide)
  have stopped : RetryCall.Step mailSettings plainLibrary lateWorld (lateCall .draining [begun])
      (.leaves (lateCall .draining [begun])) lateWorld (lateCall (.joining false) [begun]) :=
    .stops (.inl ⟨rfl, .inr (by decide)⟩)
  have delivered : Relation.ReflTransGen (RetryCall.Alone mailSettings plainLibrary RetryCall.Unhindered)
      (lateWorld, lateCall (.joining false) [begun]) (lateDelivery.2, lateCall (.joining false) [lateDelivery.1]) :=
    @RetryCall.Alone.delivers _ _ RetryCall.Unhindered 4 lateWorld (lateCall (.joining false) [begun]) [] []
      begun rfl fun _ _ _ => trivial
  have joined : RetryCall.Step mailSettings plainLibrary lateDelivery.2 (lateCall (.joining false) [lateDelivery.1])
      .other lateDelivery.2 (lateCall .returned [lateDelivery.1]) := .joins false rfl (by decide +kernel)
  exact .head (.acts entered trivial) (.head (.acts claimed trivial) (begins.trans (.head passed
    (.head (.acts left trivial) (.head (.acts stopped trivial)
      (delivered.trans (.single (.acts joined trivial))))))))

/-- Counts of nothing call for no attempt. -/
theorem actualCounts_zero {notes : List Noted} (ended : ∀ note ∈ notes, note.Ended)
    (zero : runCounts .zero = actualCounts notes) : notes = [] := by
  simp only [runCounts, actualCounts, RetryStats.zero, List.cons.injEq, Prod.mk.injEq, CountValue.int.injEq,
    true_and] at zero
  obtain ⟨webhook, _, _, _, email, _⟩ := zero
  refine List.eq_nil_iff_forall_not_mem.mpr fun note member => ?_
  obtain ⟨row, left, _⟩ := ended note member
  have counted (kind : DeliveryKind) (own : row.deliveryKind = kind) : 0 < notes.countP (Noted.isOf kind) := by
    refine List.countP_pos_iff.mpr ⟨note, member, ?_⟩
    simp [Noted.isOf, left, own]
  cases kind : row.deliveryKind with
  | webhook =>
    have positive := counted .webhook kind
    omega
  | email =>
    have positive := counted .email kind
    omega

end HostingService
