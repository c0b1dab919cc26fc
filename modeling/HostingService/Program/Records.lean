import HostingService.Program.Rely

/-! Requests that read a record, edit their copy and write it back, side by side. A write may
undo what was written since the copy was read; where none does, the requests come in an order. -/

namespace HostingService.Program

inductive RecordCall (σ : Type) : Type → Type 1 where
  | read : RecordCall σ σ
  | write (change : σ → σ) : RecordCall σ Unit

def RecordCall.handle {Error σ : Type} : Handler (RecordCall σ) Error σ
  | _, .read, record => (.ok record, record)
  | _, .write change, record => (.ok (), change record)

/-- How a request edits its copy, or refuses to, and how the copy is stored over the record as
it is by then. -/
structure Edits (σ Error ι : Type) where
  edit : ι → σ → Except Error σ
  store : ι → σ → σ → σ

variable {σ Error ι : Type}

namespace Edits
variable (edits : Edits σ Error ι)

/-- What a request does with the copy that it has read. -/
def save (request : ι) (copy : σ) : Prog (RecordCall σ) Error Unit := do
  let edited ← .ofExcept (edits.edit request copy)
  .perform (.write (edits.store request edited))

def program (request : ι) : Prog (RecordCall σ) Error Unit := do
  let copy ← .perform .read
  edits.save request copy

/-- What a request makes of a record that nothing else writes. -/
def apply (record : σ) (request : ι) : σ :=
  match edits.edit request record with
  | .ok edited => edits.store request edited record
  | .error _ => record

theorem apply_refused {request : ι} {record : σ} {error : Error}
    (refused : edits.edit request record = .error error) : edits.apply record request = record := by
  rw [apply, refused]

theorem apply_edited {request : ι} {record edited : σ}
    (made : edits.edit request record = .ok edited) :
    edits.apply record request = edits.store request edited record := by
  rw [apply, made]

theorem save_refused {request : ι} {copy : σ} {error : Error}
    (refused : edits.edit request copy = .error error) :
    edits.save request copy = .raise error := by
  rw [save, refused]
  rfl

theorem save_edited {request : ι} {copy edited : σ} (made : edits.edit request copy = .ok edited) :
    edits.save request copy = .perform (.write (edits.store request edited)) := by
  rw [save, made]
  rfl

theorem run_program (request : ι) (record : σ) :
    ((edits.program request).run RecordCall.handle record).2 = edits.apply record request := by
  rw [program, Prog.run_bind_ok RecordCall.handle (Prog.run_perform _ RecordCall.read record)]
  rcases made : edits.edit request record with error | edited
  · rw [edits.save_refused made, edits.apply_refused made, Prog.run_raise]
  · rw [edits.save_edited made, edits.apply_edited made, Prog.run_perform, RecordCall.handle]

abbrev Thread (σ Error ι : Type) := Program.Thread (RecordCall σ) Error σ ι Unit

abbrev Crew (σ Error ι : Type) := Program.Crew (RecordCall σ) Error σ ι Unit

/-- The interleavings of requests, and nothing else. -/
def Reaches : Crew σ Error ι → Crew σ Error ι → Prop :=
  Program.Crew.Reaches RecordCall.handle edits.program fun _ _ => False

/-- The records that a thread has read. -/
def reads (thread : Thread σ Error ι) : List σ :=
  thread.log.filterMap fun entry => match entry with
    | ⟨.read, record⟩ => some record
    | ⟨.write _, _⟩ => none

/-- The records that a thread has written over. -/
def overwrites (thread : Thread σ Error ι) : List σ :=
  thread.log.filterMap fun entry => match entry with
    | ⟨.read, _⟩ => none
    | ⟨.write _, record⟩ => some record

/-- What the others wrote between the read and the write of a thread left alone what its request
goes by; `same` says so of the record it has read and the record it writes over. -/
def Untouched (same : ι → σ → σ → Prop) (thread : Thread σ Error ι) : Prop :=
  ∀ copy ∈ reads thread, ∀ record ∈ overwrites thread, same thread.task copy record

/-- Each call of the thread did to the record what its request does to it when it is alone. -/
def Lossless (thread : Thread σ Error ι) : Prop :=
  ∀ entry ∈ thread.log, match entry with
    | ⟨.read, _⟩ => True
    | ⟨.write change, record⟩ => change record = edits.apply record thread.task

/-- How far a request can have come. -/
inductive Formed : Thread σ Error ι → Prop where
  | fresh (request : ι) : Formed ⟨request, edits.program request, []⟩
  | refused (request : ι) (copy : σ) (error : Error)
      (refused : edits.edit request copy = .error error) :
      Formed ⟨request, .raise error, [⟨.read, copy⟩]⟩
  | read (request : ι) (copy edited : σ) (made : edits.edit request copy = .ok edited) :
      Formed ⟨request, .perform (.write (edits.store request edited)), [⟨.read, copy⟩]⟩
  | written (request : ι) (copy edited record : σ) (made : edits.edit request copy = .ok edited) :
      Formed ⟨request, .ret (), [⟨.read, copy⟩, ⟨.write (edits.store request edited), record⟩]⟩

variable {edits} {before after : Crew σ Error ι}

/-- The requests that have ended. -/
def finished (crew : Crew σ Error ι) : List ι :=
  (crew.threads.filter fun thread => thread.rest.Finished).map (·.task)

theorem formed_start {record : σ} :
    ∀ thread ∈ (⟨record, []⟩ : Crew σ Error ι).threads, Formed edits thread := by
  intro thread member
  cases member

theorem finished_arrive {shared : σ} {threads : List (Thread σ Error ι)} (request : ι) :
    finished ⟨shared, ⟨request, edits.program request, []⟩ :: threads⟩ =
      finished ⟨shared, threads⟩ := by
  rfl

/-- One thread is replaced by a later one, the others stay. -/
theorem finished_advance {shared later : σ} {left right : List (Thread σ Error ι)}
    {thread next : Thread σ Error ι} (running : ¬ thread.rest.Finished) :
    (finished ⟨later, left ++ next :: right⟩).Perm
      (finished ⟨shared, left ++ thread :: right⟩ ++
        if next.rest.Finished then [next.task] else []) := by
  simp only [finished, List.filter_append, List.map_append, List.filter_cons]
  by_cases ended : next.rest.Finished
  · simp only [running, ended, decide_true, decide_false, if_true, Bool.false_eq_true, if_false,
      List.map_cons, List.append_assoc]
    exact (List.perm_append_singleton _ _).symm.append_left _
  · simp [running, ended]

theorem advance_formed {request : ι} {β : Type} {op : RecordCall σ β}
    {next : Except Error β → Prog (RecordCall σ) Error Unit} {log : List (Entry (RecordCall σ) σ)}
    {record : σ} (formed : Formed edits ⟨request, .call op next, log⟩) :
    Formed edits ⟨request, next (RecordCall.handle β op record).1, log ++ [⟨op, record⟩]⟩ := by
  cases formed with
  | fresh request =>
    change Formed edits ⟨request, edits.save request record, [⟨.read, record⟩]⟩
    rcases made : edits.edit request record with error | edited
    · rw [edits.save_refused made]
      exact .refused request record error made
    · rw [edits.save_edited made]
      exact .read request record edited made
  | read _ copy edited made => exact .written request copy edited record made

theorem step_formed (step : Crew.Step RecordCall.handle edits.program (fun _ _ => False) before after)
    (formed : ∀ thread ∈ before.threads, Formed edits thread) :
    ∀ thread ∈ after.threads, Formed edits thread := by
  intro thread member
  cases step with
  | arrive request =>
    rcases List.mem_cons.mp member with rfl | old
    · exact .fresh request
    · exact formed thread old
  | change later changed => exact changed.elim
  | advance op next log =>
    rcases mem_middle.mp member with rfl | other
    · exact advance_formed (formed _ (mem_middle.mpr (.inl rfl)))
    · exact formed thread (mem_middle.mpr (.inr other))

theorem reaches_formed (formed : ∀ thread ∈ before.threads, Formed edits thread)
    (path : edits.Reaches before after) : ∀ thread ∈ after.threads, Formed edits thread := by
  induction path with
  | refl => exact formed
  | tail _ last ih => exact step_formed last ih

/-! ### Requests that lose nothing -/

/-- A request whose copy is still good in all that it goes by loses nothing. -/
theorem Formed.lossless {same : ι → σ → σ → Prop}
    (enough : ∀ request copy record edited, same request copy record →
      edits.edit request copy = .ok edited →
      edits.store request edited record = edits.apply record request)
    {thread : Thread σ Error ι} (formed : Formed edits thread) (untouched : Untouched same thread) :
    edits.Lossless thread := by
  intro entry member
  cases formed with
  | fresh request => cases member
  | refused request copy error refused =>
    obtain rfl := List.mem_singleton.mp member
    trivial
  | read request copy edited made =>
    obtain rfl := List.mem_singleton.mp member
    trivial
  | written request copy edited record made =>
    rcases List.mem_cons.mp member with rfl | second
    · trivial
    · obtain rfl := List.mem_singleton.mp second
      have good := untouched copy List.mem_cons_self record List.mem_cons_self
      exact enough request copy record edited good made

/-- A step in which a request writes. -/
inductive Writes : Crew σ Error ι → Crew σ Error ι → Prop where
  | mk {request : ι} {record : σ} {left right : List (Thread σ Error ι)} {change : σ → σ}
      {next : Except Error Unit → Prog (RecordCall σ) Error Unit}
      {log : List (Entry (RecordCall σ) σ)} :
      Writes ⟨record, left ++ ⟨request, .call (.write change) next, log⟩ :: right⟩
        ⟨change record, left ++ ⟨request, next (.ok ()), log ++ [⟨.write change, record⟩]⟩ :: right⟩

/-- Steps in which no request writes. -/
def Quietly (edits : Edits σ Error ι) : Crew σ Error ι → Crew σ Error ι → Prop :=
  Relation.ReflTransGen fun before after =>
    Crew.Step RecordCall.handle edits.program (fun _ _ => False) before after ∧
      ¬ Writes before after

theorem shared_of_quiet_step
    (step : Crew.Step RecordCall.handle edits.program (fun _ _ => False) before after)
    (quiet : ¬ Writes before after) : after.shared = before.shared := by
  cases step with
  | arrive request => rfl
  | change later changed => exact changed.elim
  | advance op next log =>
    cases op with
    | read => rfl
    | write change => exact absurd .mk quiet

theorem Quietly.shared (quiet : Quietly edits before after) : after.shared = before.shared := by
  induction quiet with
  | refl => rfl
  | tail _ last ih => exact (shared_of_quiet_step last.1 last.2).trans ih

/-- A request reads, nothing is written, and it writes: the others left its record alone. -/
theorem Quietly.untouched {same : ι → σ → σ → Prop} (quiet : Quietly edits before after)
    (unchanged : ∀ request record, same request record record) {thread : Thread σ Error ι}
    {change : σ → σ} (log : thread.log = [⟨.read, before.shared⟩, ⟨.write change, after.shared⟩]) :
    Untouched same thread := by
  intro copy read record written
  rw [reads, log] at read
  rw [overwrites, log] at written
  obtain rfl := List.mem_singleton.mp read
  obtain rfl := List.mem_singleton.mp written
  rw [quiet.shared]
  exact unchanged _ _

/-- The next call of a thread serves the request that it ends, if any. -/
theorem advance_serves {request : ι} {β : Type} {op : RecordCall σ β}
    {next : Except Error β → Prog (RecordCall σ) Error Unit} {log : List (Entry (RecordCall σ) σ)}
    {record : σ} (formed : Formed edits ⟨request, .call op next, log⟩)
    (lossless : edits.Lossless ⟨request, next (RecordCall.handle β op record).1,
      log ++ [⟨op, record⟩]⟩) :
    (@RecordCall.handle Error σ β op record).2 =
      (if (next (RecordCall.handle β op record).1).Finished then [request] else []).foldl
        edits.apply record := by
  cases formed with
  | read _ copy edited made =>
    exact lossless _ (List.mem_append_right _ (List.mem_singleton.mpr rfl))
  | fresh request =>
    change record = (if (edits.save request record).Finished then [request] else []).foldl
      edits.apply record
    rcases made : edits.edit request record with error | edited
    · have ended : (edits.save request record).Finished := by
        rw [edits.save_refused made]
        trivial
      rw [if_pos ended]
      exact (edits.apply_refused made).symm
    · have goes : ¬ (edits.save request record).Finished := by
        rw [edits.save_edited made]
        exact id
      rw [if_neg goes]
      rfl

/-- A step in which no call loses anything serves the requests that it ends, in turn. -/
theorem step_serves (formed : ∀ thread ∈ before.threads, Formed edits thread)
    (step : Crew.Step RecordCall.handle edits.program (fun _ _ => False) before after)
    (lossless : ∀ thread ∈ after.threads, edits.Lossless thread) : ∃ served,
      (finished after).Perm (finished before ++ served) ∧
        after.shared = served.foldl edits.apply before.shared := by
  cases step with
  | arrive request => exact ⟨[], by rw [finished_arrive, List.append_nil], rfl⟩
  | change later changed => exact changed.elim
  | advance op next log =>
    exact ⟨_, finished_advance id, advance_serves (formed _ (mem_middle.mpr (.inl rfl)))
      (lossless _ (mem_middle.mpr (.inl rfl)))⟩

/-- Earlier calls of a thread that loses nothing lost nothing. -/
theorem step_lossless (step : Crew.Step RecordCall.handle edits.program (fun _ _ => False) before after)
    (lossless : ∀ thread ∈ after.threads, edits.Lossless thread) :
    ∀ thread ∈ before.threads, edits.Lossless thread := by
  intro thread member
  cases step with
  | arrive request => exact lossless thread (List.mem_cons_of_mem _ member)
  | change later changed => exact changed.elim
  | advance op next log =>
    rcases mem_middle.mp member with rfl | other
    · intro entry made
      exact lossless _ (mem_middle.mpr (.inl rfl)) entry (List.mem_append_left _ made)
    · exact lossless thread (mem_middle.mpr (.inr other))

/-- Where no call loses anything, the requests that end come in an order, and the record is
what they make of it one after the other. -/
theorem reaches_serves (formed : ∀ thread ∈ before.threads, Formed edits thread)
    (path : edits.Reaches before after) (lossless : ∀ thread ∈ after.threads, edits.Lossless thread) :
    ∃ served, (finished after).Perm (finished before ++ served) ∧
      after.shared = served.foldl edits.apply before.shared := by
  induction path with
  | refl => exact ⟨[], by rw [List.append_nil], rfl⟩
  | tail path last ih =>
    obtain ⟨first, ended, made⟩ := ih (step_lossless last lossless)
    obtain ⟨second, next, becomes⟩ := step_serves (reaches_formed formed path) last lossless
    refine ⟨first ++ second, ?_, ?_⟩
    · rw [← List.append_assoc]
      exact next.trans (ended.append_right second)
    · rw [List.foldl_append, ← made, becomes]

variable {request : ι}

/-- The step in which a request succeeds. -/
inductive Answers (request : ι) : Crew σ Error ι → Crew σ Error ι → Prop where
  | mk {record : σ} {left right : List (Thread σ Error ι)} {β : Type} {op : RecordCall σ β}
      {next : Except Error β → Prog (RecordCall σ) Error Unit} {log : List (Entry (RecordCall σ) σ)}
      (done : next (RecordCall.handle β op record).1 = .ret ()) :
      Answers request ⟨record, left ++ ⟨request, .call op next, log⟩ :: right⟩
        ⟨(@RecordCall.handle Error σ β op record).2, left ++
          ⟨request, next (RecordCall.handle β op record).1, log ++ [⟨op, record⟩]⟩ :: right⟩

theorem Answers.step (answers : Answers request before after) :
    Crew.Step RecordCall.handle edits.program (fun _ _ => False) before after := by
  cases answers with
  | mk done => exact .advance _ _ _

/-- A request that succeeds has stored what it made of its copy. -/
theorem Answers.stores (answers : Answers request before after)
    (formed : ∀ thread ∈ before.threads, Formed edits thread) :
    ∃ copy edited, edits.edit request copy = .ok edited ∧
      after.shared = edits.store request edited before.shared := by
  cases answers with
  | mk done =>
    have moved := formed _ (mem_middle.mpr (.inl rfl))
    cases moved with
    | read _ copy edited made => exact ⟨copy, edited, made, rfl⟩
    | fresh _ =>
      rename_i record _ _
      exfalso
      change edits.save request record = .ret () at done
      rcases made : edits.edit request record with error | edited
      · rw [edits.save_refused made] at done
        cases done
      · rw [edits.save_edited made] at done
        cases done

end Edits

end HostingService.Program
