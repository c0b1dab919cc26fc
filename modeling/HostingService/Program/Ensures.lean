import HostingService.Program.Prog

/-! What a run ensures of its result and its last state, call by call. -/

namespace HostingService.Program

universe u v
variable {Call : Type → Type u} {Error : Type} {σ : Type v} {α β : Type}

namespace Prog

/-- The run from `state` ends in a result and a state that `post` relates. -/
def Ensures (handle : Handler Call Error σ) (body : Prog Call Error α)
    (post : Except Error α → σ → Prop) (state : σ) : Prop :=
  post (body.run handle state).1 (body.run handle state).2

/-- A condition on runs that return. -/
def Returned (post : α → σ → Prop) : Except Error α → σ → Prop
  | .ok value, state => post value state
  | .error _, _ => True

/-- What the end of the first part must meet for `post` to hold after the rest. -/
def Continues (handle : Handler Call Error σ) (rest : α → Prog Call Error β)
    (post : Except Error β → σ → Prop) : Except Error α → σ → Prop
  | .ok value, state => Ensures handle (rest value) post state
  | .error error, state => post (.error error) state

variable {handle : Handler Call Error σ} {post other : Except Error α → σ → Prop} {state : σ}

theorem Ensures.mono {body : Prog Call Error α} (ensures : Ensures handle body post state)
    (weaker : ∀ result after, post result after → other result after) :
    Ensures handle body other state := weaker _ _ ensures

theorem Ensures.and {body : Prog Call Error α} (left : Ensures handle body post state)
    (right : Ensures handle body other state) :
    Ensures handle body (fun result after => post result after ∧ other result after) state :=
  ⟨left, right⟩

theorem Ensures.of_run {body : Prog Call Error α} {result : Except Error α} {after : σ}
    (ensures : Ensures handle body post state) (ran : body.run handle state = (result, after)) :
    post result after := by
  have ends := ensures
  rwa [Ensures, ran] at ends

theorem ensures_ret {value : α} :
    Ensures handle (.ret value) post state ↔ post (.ok value) state := Iff.rfl

theorem ensures_raise {error : Error} :
    Ensures handle (.raise error) post state ↔ post (.error error) state := Iff.rfl

theorem ensures_bind {body : Prog Call Error β} {rest : β → Prog Call Error α} :
    Ensures handle (body >>= rest) post state ↔
      Ensures handle body (Continues handle rest post) state := by
  rw [Ensures, Ensures, run_bind]
  rcases body.run handle state with ⟨_ | _, _⟩ <;> rfl

theorem Ensures.bind {body : Prog Call Error β} {rest : β → Prog Call Error α}
    {middle : Except Error β → σ → Prop} (first : Ensures handle body middle state)
    (raised : ∀ error after, middle (.error error) after → post (.error error) after)
    (returned : ∀ value after, middle (.ok value) after → Ensures handle (rest value) post after) :
    Ensures handle (body >>= rest) post state := by
  refine ensures_bind.mpr (first.mono fun result after ended => ?_)
  cases result with
  | ok value => exact returned value after ended
  | error error => exact raised error after ended

theorem ensures_perform {op : Call α} :
    Ensures handle (perform op) post state ↔ post (handle _ op state).1 (handle _ op state).2 := by
  rw [Ensures, run_perform]

theorem ensures_ofExcept {result : Except Error α} :
    Ensures handle (ofExcept result) post state ↔ post result state := by
  rw [Ensures, run_ofExcept]

theorem Ensures.tryCatch {body : Prog Call Error α} {handler : Error → Prog Call Error α}
    {middle : Except Error α → σ → Prop} (first : Ensures handle body middle state)
    (returned : ∀ value after, middle (.ok value) after → post (.ok value) after)
    (raised : ∀ error after, middle (.error error) after → Ensures handle (handler error) post after) :
    Ensures handle (body.tryCatch handler) post state := by
  rw [Ensures, run_tryCatch]
  rcases ran : body.run handle state with ⟨error | value, after⟩
  · exact raised error after (first.of_run ran)
  · exact returned value after (first.of_run ran)

/-- A run that ends in a raise does not return. -/
theorem ensures_then_raise {body : Prog Call Error β} {error : Error} {post : α → σ → Prop} :
    Ensures handle (body >>= fun _ => .raise error) (Returned post) state := by
  rw [Ensures, run_bind]
  rcases body.run handle state with ⟨_ | _, _⟩ <;> trivial

/-- `if test: raise error` before the rest. -/
theorem ensures_check {test : Bool} {error : Error} {rest : Unit → Prog Call Error α} :
    Ensures handle (when test (.raise error) >>= rest) post state ↔
      (test = true → post (.error error) state) ∧
        (test = false → Ensures handle (rest ()) post state) := by
  cases test with
  | true => exact ⟨fun raised => ⟨fun _ => raised, fun other => by contradiction⟩, fun both => both.1 rfl⟩
  | false => exact ⟨fun runs => ⟨fun other => by contradiction, fun _ => runs⟩, fun both => both.2 rfl⟩

theorem ensures_ofExcept_bind {result : Except Error β} {rest : β → Prog Call Error α} :
    Ensures handle (ofExcept result >>= rest) post state ↔
      (∀ error, result = .error error → post (.error error) state) ∧
        (∀ value, result = .ok value → Ensures handle (rest value) post state) := by
  rw [ensures_bind, ensures_ofExcept]
  cases result with
  | ok value =>
    exact ⟨fun runs => ⟨fun _ other => by contradiction, fun _ same => by cases same; exact runs⟩,
      fun both => both.2 value rfl⟩
  | error error =>
    exact ⟨fun raised => ⟨fun _ same => by cases same; exact raised, fun _ other => by contradiction⟩,
      fun both => both.1 error rfl⟩

/-! ### Calls along a run -/

variable {guard : ∀ β, Call β → σ → Prop}

theorem Along.bind {body : Prog Call Error β} {rest : β → Prog Call Error α}
    {middle : Except Error β → σ → Prop} (first : body.Along handle guard state)
    (ended : Ensures handle body middle state)
    (later : ∀ value after, middle (.ok value) after → (rest value).Along handle guard after) :
    (body >>= rest).Along handle guard state := by
  induction body generalizing state with
  | ret value => exact later value state ended
  | raise error => trivial
  | call op next ih => exact ⟨first.1, ih _ first.2 ended⟩

theorem Along.tryCatch {body : Prog Call Error α} {handler : Error → Prog Call Error α}
    {middle : Except Error α → σ → Prop} (first : body.Along handle guard state)
    (ended : Ensures handle body middle state)
    (later : ∀ error after, middle (.error error) after →
      (handler error).Along handle guard after) :
    (body.tryCatch handler).Along handle guard state := by
  induction body generalizing state with
  | ret value => trivial
  | raise error => exact later error state ended
  | call op next ih => exact ⟨first.1, ih _ first.2 ended⟩

theorem along_perform {op : Call α} (meets : guard _ op state) :
    (perform op).Along handle guard state := by
  refine ⟨meets, ?_⟩
  rcases (handle _ op state).1 with error | value <;> trivial

theorem along_check {test : Bool} {error : Error} {rest : Unit → Prog Call Error α}
    (later : test = false → (rest ()).Along handle guard state) :
    (when test (.raise error) >>= rest).Along handle guard state := by
  cases test with
  | true => trivial
  | false => exact later rfl

/-! ### States of a run -/

/-- Every state of the run from `state`, the first and the last among them, is good. -/
def Throughout (handle : Handler Call Error σ) (good : σ → Prop) : Prog Call Error α → σ → Prop
  | .ret _, state => good state
  | .raise _, state => good state
  | .call op next, state =>
    good state ∧ (next (handle _ op state).1).Throughout handle good (handle _ op state).2

variable {good : σ → Prop}

theorem Throughout.start {body : Prog Call Error α} (every : body.Throughout handle good state) :
    good state := by
  cases body with
  | ret value => exact every
  | raise error => exact every
  | call op next => exact every.1

theorem Throughout.bind {body : Prog Call Error β} {rest : β → Prog Call Error α}
    (first : body.Throughout handle good state)
    (later : ∀ value after, body.run handle state = (.ok value, after) →
      (rest value).Throughout handle good after) :
    (body >>= rest).Throughout handle good state := by
  induction body generalizing state with
  | ret value => exact later value state rfl
  | raise error => exact first
  | call op next ih => exact ⟨first.1, ih _ first.2 later⟩

theorem throughout_perform {op : Call α} (before : good state) (after : good (handle _ op state).2) :
    (perform op).Throughout handle good state := by
  refine ⟨before, ?_⟩
  rcases (handle _ op state).1 with error | value <;> exact after

end Prog

end HostingService.Program
