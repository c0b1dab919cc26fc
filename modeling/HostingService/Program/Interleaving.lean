import HostingService.Program.Prog

/-! Programs of several requests over one shared state, advanced call by call
in any order. New requests may arrive at any time, and so may changes from outside. -/

namespace HostingService.Program

universe u v
variable {Call : Type → Type u} {Error : Type} {σ : Type v} {α β : Type}

namespace Prog

/-- Every call is good on the paths whose answers come from states with `holds`. -/
def AllGiven (handle : Handler Call Error σ) (holds : σ → Prop) (good : ∀ β, Call β → Prop) :
    Prog Call Error α → Prop
  | .ret _ => True
  | .raise _ => True
  | .call op next => good _ op ∧
      ∀ state, holds state → (next (handle _ op state).1).AllGiven handle holds good

variable {handle : Handler Call Error σ} {holds : σ → Prop} {good : ∀ β, Call β → Prop}

theorem All.given {body : Prog Call Error α} (every : body.All good) :
    body.AllGiven handle holds good := by
  induction body with
  | ret value => trivial
  | raise error => trivial
  | call op next ih => exact ⟨every.1, fun state _ => ih _ (every.2 _)⟩

/-- What follows a call may count on an answer that some state with `holds` gives. -/
theorem allGiven_perform_bind {op : Call β} {rest : β → Prog Call Error α} (first : good _ op)
    (later : ∀ state value, holds state → (handle _ op state).1 = .ok value →
      (rest value).AllGiven handle holds good) :
    (perform op >>= rest).AllGiven handle holds good := by
  refine ⟨first, fun state now => ?_⟩
  rcases answered : (handle _ op state).1 with error | value
  · trivial
  · exact later state value now answered

/-- What is left of a run after some calls, and the state they lead to. -/
def partly (handle : Handler Call Error σ) : Nat → Prog Call Error α → σ → Prog Call Error α × σ
  | calls + 1, .call op next, state =>
    (next (handle _ op state).1).partly handle calls (handle _ op state).2
  | _, body, state => (body, state)

@[simp] theorem partly_zero (body : Prog Call Error α) (state : σ) :
    body.partly handle 0 state = (body, state) := by
  cases body <;> rfl

end Prog

structure Pool (Call : Type → Type u) (Error : Type) (σ : Type v) where
  shared : σ
  threads : List (Prog Call Error Unit)

namespace Pool

/-- One step of the pool. The guard restricts the calls that may be made, in
the state they are made in; `fun _ _ _ => True` admits every interleaving. -/
inductive Step (handle : Handler Call Error σ) (arrives : Prog Call Error Unit → Prop)
    (outside : σ → σ → Prop) (guard : ∀ β, Call β → σ → Prop) :
    Pool Call Error σ → Pool Call Error σ → Prop where
  | arrive {shared threads} (request : Prog Call Error Unit) (admitted : arrives request) :
      Step handle arrives outside guard ⟨shared, threads⟩ ⟨shared, request :: threads⟩
  | change {shared threads} (later : σ) (changed : outside shared later) :
      Step handle arrives outside guard ⟨shared, threads⟩ ⟨later, threads⟩
  | advance {shared before after} {β : Type} (op : Call β)
      (next : Except Error β → Prog Call Error Unit) (guarded : guard β op shared) :
      Step handle arrives outside guard ⟨shared, before ++ .call op next :: after⟩
        ⟨(handle β op shared).2, before ++ next (handle β op shared).1 :: after⟩
  | returned {shared before after} :
      Step handle arrives outside guard ⟨shared, before ++ .ret () :: after⟩
        ⟨shared, before ++ after⟩
  | failed {shared before after} (error : Error) :
      Step handle arrives outside guard ⟨shared, before ++ .raise error :: after⟩
        ⟨shared, before ++ after⟩

/-- The pools that an interleaving reaches from `start`. -/
def Reaches (handle : Handler Call Error σ) (arrives : Prog Call Error Unit → Prop)
    (outside : σ → σ → Prop) (guard : ∀ β, Call β → σ → Prop) :
    Pool Call Error σ → Pool Call Error σ → Prop :=
  Relation.ReflTransGen (Step handle arrives outside guard)

variable {handle : Handler Call Error σ} {arrives : Prog Call Error Unit → Prop}
  {outside : σ → σ → Prop} {guard : ∀ β, Call β → σ → Prop} {start pool : Pool Call Error σ}

/-- What every guarded call preserves, and holds at the start, holds throughout. The
threads may count on it for the answers they get, however stale these are when used. -/
theorem Reaches.invariant (good : ∀ β, Call β → Prop) (holds : σ → Prop)
    (step : ∀ β (op : Call β) state, good β op → guard β op state → holds state →
      holds (handle β op state).2)
    (changes : ∀ before after, outside before after → holds before → holds after)
    (arrivals : ∀ request, arrives request → request.AllGiven handle holds good)
    (threads : ∀ thread ∈ start.threads, thread.AllGiven handle holds good)
    (initial : holds start.shared) (path : Reaches handle arrives outside guard start pool) :
    holds pool.shared ∧ ∀ thread ∈ pool.threads, thread.AllGiven handle holds good := by
  induction path with
  | refl => exact ⟨initial, threads⟩
  | tail _ last ih =>
    obtain ⟨now, running⟩ := ih
    cases last with
    | arrive request admitted =>
      refine ⟨now, fun thread member => ?_⟩
      rcases List.mem_cons.mp member with rfl | old
      · exact arrivals _ admitted
      · exact running thread old
    | change later changed => exact ⟨changes _ _ changed now, running⟩
    | @advance shared before after β op next guarded =>
      have own : (Prog.call op next).AllGiven handle holds good := running _ (by simp)
      refine ⟨step β op shared own.1 guarded now, fun thread member => ?_⟩
      rcases List.mem_append.mp member with left | right
      · exact running thread (List.mem_append_left _ left)
      · rcases List.mem_cons.mp right with rfl | right
        · exact own.2 shared now
        · exact running thread (by simp [right])
    | returned =>
      refine ⟨now, fun thread member => running thread ?_⟩
      rcases List.mem_append.mp member with left | right
      · exact List.mem_append_left _ left
      · exact List.mem_append_right _ (List.mem_cons_of_mem _ right)
    | failed error =>
      refine ⟨now, fun thread member => running thread ?_⟩
      rcases List.mem_append.mp member with left | right
      · exact List.mem_append_left _ left
      · exact List.mem_append_right _ (List.mem_cons_of_mem _ right)

/-- A request that nobody overtakes ends in the state of its own run. -/
theorem Reaches.alone (request : Prog Call Error Unit) (state : σ)
    (before after : List (Prog Call Error Unit)) (guarded : request.Along handle guard state) :
    Reaches handle arrives outside guard ⟨state, before ++ request :: after⟩
      ⟨(request.run handle state).2, before ++ after⟩ := by
  induction request generalizing state with
  | ret value => exact .single .returned
  | raise error => exact .single (.failed error)
  | call op next ih =>
    exact .head (.advance op next guarded.1) (ih _ _ guarded.2)

/-- A request may make some of its calls and then wait. -/
theorem Reaches.partly (calls : Nat) (request : Prog Call Error Unit) (state : σ)
    (before after : List (Prog Call Error Unit)) (guarded : request.Along handle guard state) :
    Reaches handle arrives outside guard ⟨state, before ++ request :: after⟩
      ⟨(request.partly handle calls state).2,
        before ++ (request.partly handle calls state).1 :: after⟩ := by
  induction calls generalizing request state with
  | zero => cases request <;> exact .refl
  | succ calls ih =>
    cases request with
    | ret value => exact .refl
    | raise error => exact .refl
    | call op next => exact .head (.advance op next guarded.1) (ih _ _ guarded.2)

/-- A request arrives while another one waits after some of its calls, and ends first. -/
theorem Reaches.overtaken (calls : Nat) {slow fast : Prog Call Error Unit} {state : σ}
    (slowArrives : arrives slow) (fastArrives : arrives fast) (starts : slow.Along handle guard state)
    (runs : fast.Along handle guard (slow.partly handle calls state).2)
    (ends : (slow.partly handle calls state).1.Along handle guard
      (fast.run handle (slow.partly handle calls state).2).2) :
    Reaches handle arrives outside guard ⟨state, []⟩
      ⟨((slow.partly handle calls state).1.run handle
        (fast.run handle (slow.partly handle calls state).2).2).2, []⟩ := by
  refine .head (.arrive slow slowArrives) ((Reaches.partly calls slow state [] [] starts).trans ?_)
  refine .head (.arrive fast fastArrives) ((Reaches.alone fast _ [] [_] runs).trans ?_)
  exact Reaches.alone _ _ [] [] ends

end Pool

end HostingService.Program
