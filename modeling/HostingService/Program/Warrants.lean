import HostingService.Program.Rely

/-! Calls that need a warrant: a fact that a program establishes just before the call, and
that only some calls of others can take away until it is made. -/

namespace HostingService.Program

universe u v
variable {Call : Type → Type u} {Error : Type} {σ : Type v} {ι α β : Type}

namespace Prog

/-- The next call of the program has its warrant in the state. -/
def Warranted (warrant : List (Entry Call σ) → ∀ β, Call β → σ → Prop) (log : List (Entry Call σ))
    (state : σ) : Prog Call Error α → Prop
  | .ret _ => True
  | .raise _ => True
  | .call op _ => warrant log _ op state

/-- Every call leaves the next one with a warrant. -/
def Prompted (handle : Handler Call Error σ) (holds : σ → Prop)
    (warrant : List (Entry Call σ) → ∀ β, Call β → σ → Prop) :
    Prog Call Error α → List (Entry Call σ) → Prop
  | .ret _, _ => True
  | .raise _, _ => True
  | .call op next, log => ∀ state, holds state →
      (next (handle _ op state).1).Warranted warrant (log ++ [⟨op, state⟩]) (handle _ op state).2 ∧
        (next (handle _ op state).1).Prompted handle holds warrant (log ++ [⟨op, state⟩])

variable {handle : Handler Call Error σ} {holds : σ → Prop}
  {warrant : List (Entry Call σ) → ∀ β, Call β → σ → Prop} {log : List (Entry Call σ)} {state : σ}

theorem Warranted.bind {body : Prog Call Error β} {rest : β → Prog Call Error α}
    (first : body.Warranted warrant log state)
    (later : ∀ value, body = .ret value → (rest value).Warranted warrant log state) :
    (body >>= rest).Warranted warrant log state := by
  cases body with
  | ret value => exact later value rfl
  | raise error => trivial
  | call op next => exact first

/-- The program can start anywhere: its first call needs no warrant, and later ones get one. -/
def Ready (handle : Handler Call Error σ) (holds : σ → Prop)
    (warrant : List (Entry Call σ) → ∀ β, Call β → σ → Prop) (log : List (Entry Call σ))
    (body : Prog Call Error α) : Prop :=
  body.Prompted handle holds warrant log ∧ ∀ state, body.Warranted warrant log state

theorem Prompted.bind {body : Prog Call Error β} {rest : β → Prog Call Error α}
    (first : body.Prompted handle holds warrant log)
    (later : ∀ last value, log <+: last → (rest value).Ready handle holds warrant last) :
    (body >>= rest).Prompted handle holds warrant log := by
  induction body generalizing log with
  | ret value => exact (later log value List.prefix_rfl).1
  | raise error => trivial
  | call op next ih =>
    intro state sound
    obtain ⟨warranted, prompted⟩ := first state sound
    have grown : log <+: log ++ [⟨op, state⟩] := List.prefix_append log _
    refine ⟨warranted.bind fun value _ => (later _ value grown).2 _, ih _ prompted ?_⟩
    exact fun last value further => later last value (grown.trans further)

theorem Ready.bind {body : Prog Call Error β} {rest : β → Prog Call Error α}
    (first : body.Ready handle holds warrant log)
    (later : ∀ last value, log <+: last → (rest value).Ready handle holds warrant last) :
    (body >>= rest).Ready handle holds warrant log :=
  ⟨first.1.bind later, fun state =>
    (first.2 state).bind fun value _ => (later log value List.prefix_rfl).2 state⟩

theorem Warranted.tryCatch {body : Prog Call Error α} {handler : Error → Prog Call Error α}
    (first : body.Warranted warrant log state)
    (later : ∀ error, body = .raise error → (handler error).Warranted warrant log state) :
    (body.tryCatch handler).Warranted warrant log state := by
  cases body with
  | ret value => trivial
  | raise error => exact later error rfl
  | call op next => exact first

theorem Prompted.tryCatch {body : Prog Call Error α} {handler : Error → Prog Call Error α}
    (first : body.Prompted handle holds warrant log)
    (later : ∀ last error, log <+: last → (handler error).Ready handle holds warrant last) :
    (body.tryCatch handler).Prompted handle holds warrant log := by
  induction body generalizing log with
  | ret value => trivial
  | raise error => exact (later log error List.prefix_rfl).1
  | call op next ih =>
    intro state sound
    obtain ⟨warranted, prompted⟩ := first state sound
    have grown : log <+: log ++ [⟨op, state⟩] := List.prefix_append log _
    refine ⟨warranted.tryCatch fun error _ => (later _ error grown).2 _, ih _ prompted ?_⟩
    exact fun last error further => later last error (grown.trans further)

/-- What handles an error starts from some log that the body led to. -/
theorem Ready.tryCatch {body : Prog Call Error α} {handler : Error → Prog Call Error α}
    (first : body.Ready handle holds warrant log)
    (later : ∀ last error, log <+: last → (handler error).Ready handle holds warrant last) :
    (body.tryCatch handler).Ready handle holds warrant log :=
  ⟨first.1.tryCatch later, fun state =>
    (first.2 state).tryCatch fun error _ => (later log error List.prefix_rfl).2 state⟩

theorem prompted_perform_bind {op : Call β} {rest : β → Prog Call Error α}
    (each : ∀ state, holds state → ∀ value, (handle _ op state).1 = .ok value →
      (rest value).Warranted warrant (log ++ [⟨op, state⟩]) (handle _ op state).2 ∧
        (rest value).Prompted handle holds warrant (log ++ [⟨op, state⟩])) :
    (perform op >>= rest).Prompted handle holds warrant log := by
  intro state sound
  rcases answer : (handle _ op state).1 with error | value
  · exact ⟨trivial, trivial⟩
  · exact each state sound value answer

/-- Calls that never need a warrant. -/
theorem All.ready {free : ∀ β, Call β → Prop} {body : Prog Call Error α} (every : body.All free)
    (idle : ∀ log β (op : Call β) state, free β op → warrant log β op state) :
    body.Ready handle holds warrant log := by
  have starts {body : Prog Call Error α} {log : List (Entry Call σ)} (every : body.All free)
      (state : σ) : body.Warranted warrant log state := by
    cases body with
    | ret value => trivial
    | raise error => trivial
    | call op next => exact idle log _ op state every.1
  refine ⟨?_, starts every⟩
  induction body generalizing log with
  | ret value => trivial
  | raise error => trivial
  | call op next ih => exact fun state _ => ⟨starts (every.2 _) _, ih _ (every.2 _)⟩

end Prog

namespace Crew

/-- A step in which a thread makes only a call that is permitted where it is made. -/
inductive StepIf (handle : Handler Call Error σ) (program : ι → Prog Call Error α)
    (outside : σ → σ → Prop) (permits : Crew Call Error σ ι α → ∀ β, Call β → Prop) :
    Crew Call Error σ ι α → Crew Call Error σ ι α → Prop where
  | arrive {shared threads} (task : ι) :
      StepIf handle program outside permits ⟨shared, threads⟩
        ⟨shared, ⟨task, program task, []⟩ :: threads⟩
  | change {shared threads} (later : σ) (changed : outside shared later) :
      StepIf handle program outside permits ⟨shared, threads⟩ ⟨later, threads⟩
  | advance {shared before after} {task : ι} {β : Type} (op : Call β)
      (next : Except Error β → Prog Call Error α) (log : List (Entry Call σ))
      (permitted : permits ⟨shared, before ++ ⟨task, .call op next, log⟩ :: after⟩ β op) :
      StepIf handle program outside permits
        ⟨shared, before ++ ⟨task, .call op next, log⟩ :: after⟩
        ⟨(handle β op shared).2, before ++
          ⟨task, next (handle β op shared).1, log ++ [⟨op, shared⟩]⟩ :: after⟩

/-- The crews that an interleaving of permitted calls reaches. -/
def ReachesIf (handle : Handler Call Error σ) (program : ι → Prog Call Error α)
    (outside : σ → σ → Prop) (permits : Crew Call Error σ ι α → ∀ β, Call β → Prop) :
    Crew Call Error σ ι α → Crew Call Error σ ι α → Prop :=
  Relation.ReflTransGen (StepIf handle program outside permits)

variable {handle : Handler Call Error σ} {program : ι → Prog Call Error α}
  {outside : σ → σ → Prop} {permits : Crew Call Error σ ι α → ∀ β, Call β → Prop}
  {start crew : Crew Call Error σ ι α}

theorem StepIf.step {before after : Crew Call Error σ ι α}
    (step : StepIf handle program outside permits before after) :
    Step handle program outside before after := by
  cases step with
  | arrive task => exact .arrive task
  | change later changed => exact .change later changed
  | advance op next log permitted => exact .advance op next log

theorem ReachesIf.reaches (path : ReachesIf handle program outside permits start crew) :
    Reaches handle program outside start crew :=
  Relation.ReflTransGen.mono (fun _ _ => StepIf.step) _ _ path

/-- A thread may make some of its calls and then wait, when they are permitted anywhere. -/
theorem ReachesIf.after {free : Entry Call σ → Prop}
    (permitted : ∀ crew β (op : Call β) state, free ⟨op, state⟩ → permits crew β op) (calls : Nat)
    (thread : Thread Call Error σ ι α) (state : σ)
    (every : ∀ entry ∈ (thread.after handle calls state).1.log, free entry)
    (left right : List (Thread Call Error σ ι α)) :
    ReachesIf handle program outside permits ⟨state, left ++ thread :: right⟩
      ⟨(thread.after handle calls state).2, left ++ (thread.after handle calls state).1 :: right⟩ := by
  induction calls generalizing thread state with
  | zero => exact .refl
  | succ calls ih =>
    obtain ⟨task, rest, log⟩ := thread
    cases rest with
    | ret value => exact .refl
    | raise error => exact .refl
    | call op next =>
      have made : free ⟨op, state⟩ :=
        every _ ((Thread.after_log handle calls _ _).subset List.mem_concat_self)
      exact .head (.advance op next log (permitted _ _ op state made)) (ih _ _ every)

/-- Every thread has a warrant for its next call, and finds one for each later call. -/
def Warranted (handle : Handler Call Error σ) (holds : σ → Prop)
    (warrant : List (Entry Call σ) → ∀ β, Call β → σ → Prop) (crew : Crew Call Error σ ι α) : Prop :=
  ∀ thread ∈ crew.threads, thread.rest.Warranted warrant thread.log crew.shared ∧
    thread.rest.Prompted handle holds warrant thread.log

variable {holds : σ → Prop} {warrant : List (Entry Call σ) → ∀ β, Call β → σ → Prop}

/-- Warrants outlast every step, when they outlast what the others are permitted to do. -/
theorem StepIf.warranted {before after : Crew Call Error σ ι α}
    (arrivals : ∀ task, (program task).Ready handle holds warrant [])
    (changes : ∀ before after, outside before after → holds before → ∀ log β (op : Call β),
      warrant log β op before → warrant log β op after)
    (calls : ∀ {β γ : Type} (op : Call β) (other : Call γ) next thread, permits before β op →
      (∃ caller ∈ before.threads, ∃ next, caller.rest = .call op next) →
      thread ∈ before.threads → thread.rest = .call other next →
      warrant thread.log γ other before.shared → warrant thread.log γ other (handle β op before.shared).2)
    (sound : holds before.shared) (step : StepIf handle program outside permits before after)
    (warranted : before.Warranted handle holds warrant) :
    after.Warranted handle holds warrant := by
  cases step with
  | arrive task =>
    intro thread member
    rcases List.mem_cons.mp member with rfl | old
    · exact ⟨(arrivals task).2 _, (arrivals task).1⟩
    · exact warranted thread old
  | @change shared threads later changed =>
    intro thread member
    obtain ⟨now, prompted⟩ := warranted thread member
    refine ⟨?_, prompted⟩
    cases rest : thread.rest with
    | ret value => trivial
    | raise error => trivial
    | call op next =>
      rw [rest] at now
      exact changes _ _ changed sound _ _ op now
  | @advance shared before after task β op next log permitted =>
    intro thread member
    rcases mem_middle.mp member with rfl | other
    · exact (warranted ⟨task, .call op next, log⟩ (mem_middle.mpr (.inl rfl))).2 shared sound
    · have present : thread ∈ before ++ ⟨task, .call op next, log⟩ :: after :=
        mem_middle.mpr (.inr other)
      obtain ⟨now, prompted⟩ := warranted thread present
      refine ⟨?_, prompted⟩
      cases rest : thread.rest with
      | ret value => trivial
      | raise error => trivial
      | call later following =>
        rw [rest] at now
        exact calls op later following thread permitted
          ⟨_, mem_middle.mpr (.inl rfl), next, rfl⟩ present rest now

end Crew

end HostingService.Program
