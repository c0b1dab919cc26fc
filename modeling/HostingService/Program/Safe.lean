import HostingService.Program.Ensures

/-! Runs in which every state is good, whatever they stop at, and whose end meets a
condition. -/

namespace HostingService.Program

universe u v
variable {Call Outer : Type → Type u} {Error : Type} {σ : Type v} {α β : Type}

namespace Prog

/-- Every state of the run from `state` is good, and its end meets `post`. -/
def Safe (handle : Handler Call Error σ) (good : σ → Prop) (post : Except Error α → σ → Prop)
    (body : Prog Call Error α) (state : σ) : Prop :=
  body.Throughout handle good state ∧ Ensures handle body post state

variable {handle : Handler Call Error σ} {good better : σ → Prop}
  {post other : Except Error α → σ → Prop} {state : σ}

theorem Throughout.mono {body : Prog Call Error α} (every : body.Throughout handle good state)
    (weaker : ∀ state, good state → better state) : body.Throughout handle better state := by
  induction body generalizing state with
  | ret value => exact weaker state every
  | raise error => exact weaker state every
  | call op next ih => exact ⟨weaker state every.1, ih _ every.2⟩

/-- The last state of a run is one of its states. -/
theorem Throughout.last {body : Prog Call Error α} (every : body.Throughout handle good state) :
    good (body.run handle state).2 := by
  induction body generalizing state with
  | ret value => exact every
  | raise error => exact every
  | call op next ih => exact ih _ every.2

theorem throughout_true (body : Prog Call Error α) (state : σ) :
    body.Throughout handle (fun _ => True) state := by
  induction body generalizing state with
  | ret value => trivial
  | raise error => trivial
  | call op next ih => exact ⟨trivial, ih _ _⟩

theorem Safe.start {body : Prog Call Error α} (safe : Safe handle good post body state) :
    good state := safe.1.start

theorem Safe.mono {body : Prog Call Error α} (safe : Safe handle good post body state)
    (weaker : ∀ state, good state → better state)
    (ended : ∀ result after, good after → post result after → other result after) :
    Safe handle better other body state :=
  ⟨safe.1.mono weaker, ended _ _ safe.1.last safe.2⟩

theorem safe_ret {value : α} (here : good state) (ended : post (.ok value) state) :
    Safe handle good post (.ret value) state := ⟨here, ended⟩

theorem safe_raise {error : Error} (here : good state) (ended : post (.error error) state) :
    Safe handle good post (.raise error) state := ⟨here, ended⟩

theorem safe_call {op : Call β} {next : Except Error β → Prog Call Error α} (here : good state)
    (later : Safe handle good post (next (handle _ op state).1) (handle _ op state).2) :
    Safe handle good post (.call op next) state := ⟨⟨here, later.1⟩, later.2⟩

theorem Safe.call_next {op : Call β} {next : Except Error β → Prog Call Error α}
    (safe : Safe handle good post (.call op next) state) :
    Safe handle good post (next (handle _ op state).1) (handle _ op state).2 := ⟨safe.1.2, safe.2⟩

theorem safe_perform {op : Call α} (here : good state) (after : good (handle _ op state).2)
    (ended : post (handle _ op state).1 (handle _ op state).2) :
    Safe handle good post (perform op) state :=
  ⟨throughout_perform here after, ensures_perform.mpr ended⟩

theorem Safe.bind {body : Prog Call Error β} {rest : β → Prog Call Error α}
    {middle : Except Error β → σ → Prop} (first : Safe handle good middle body state)
    (raised : ∀ error after, good after → middle (.error error) after → post (.error error) after)
    (returned : ∀ value after, good after → middle (.ok value) after →
      Safe handle good post (rest value) after) :
    Safe handle good post (body >>= rest) state := by
  have last := first.1.last
  refine ⟨first.1.bind fun value after ran => ?_, ensures_bind.mpr ?_⟩
  · rw [ran] at last
    exact (returned value after last (first.2.of_run ran)).1
  · rcases ran : body.run handle state with ⟨error | value, after⟩
    · rw [Ensures, ran]
      rw [ran] at last
      exact raised error after last (first.2.of_run ran)
    · rw [Ensures, ran]
      rw [ran] at last
      exact (returned value after last (first.2.of_run ran)).2

theorem Safe.tryCatch {body : Prog Call Error α} {handler : Error → Prog Call Error α}
    {middle : Except Error α → σ → Prop} (first : Safe handle good middle body state)
    (returned : ∀ value after, good after → middle (.ok value) after → post (.ok value) after)
    (raised : ∀ error after, good after → middle (.error error) after →
      Safe handle good post (handler error) after) :
    Safe handle good post (body.tryCatch handler) state := by
  induction body generalizing state with
  | ret value => exact safe_ret first.1 (returned value state first.1 first.2)
  | raise error => exact raised error state first.1 first.2
  | call op next ih => exact safe_call first.start (ih _ first.call_next)

/-- `if test: raise error` before the rest. -/
theorem safe_check {test : Bool} {error : Error} {rest : Unit → Prog Call Error α}
    (here : good state) (raised : test = true → post (.error error) state)
    (later : test = false → Safe handle good post (rest ()) state) :
    Safe handle good post (when test (.raise error) >>= rest) state := by
  cases test with
  | true => exact safe_raise here (raised rfl)
  | false => exact later rfl

theorem safe_ofExcept_bind {result : Except Error β} {rest : β → Prog Call Error α}
    (here : good state) (raised : ∀ error, result = .error error → post (.error error) state)
    (later : ∀ value, result = .ok value → Safe handle good post (rest value) state) :
    Safe handle good post (ofExcept result >>= rest) state := by
  cases result with
  | error error => exact safe_raise here (raised error rfl)
  | ok value => exact later value rfl

/-- Calls that another handler answers in the same way. -/
theorem Safe.hoist {outer : Handler Outer Error σ} {embed : ∀ β, Call β → Outer β}
    (same : ∀ β (op : Call β) state, outer _ (embed β op) state = handle _ op state)
    {body : Prog Call Error α} (safe : Safe handle good post body state) :
    Safe outer good post (body.hoist embed) state := by
  induction body generalizing state with
  | ret value => exact safe
  | raise error => exact safe
  | call op next ih =>
    have later := ih _ safe.call_next
    rw [← same] at later
    exact safe_call safe.start later

/-! ### Loops -/

theorem forEach_map {ι κ : Type} (change : ι → κ) (body : κ → Prog Call Error Unit) (items : List ι) :
    forEach body (items.map change) = forEach (fun item => body (change item)) items := by
  induction items with
  | nil => rfl
  | cons item items ih => rw [List.map_cons, forEach, forEach, ih]

/-- A call that is made or not is a loop over one item or none. -/
theorem when_perform {ι : Type} (test : Bool) (op : ι → Call Unit) (item : ι) :
    when test (perform (op item)) =
      forEach (fun item => (perform (op item) : Prog Call Error Unit)) (if test then [item] else []) := by
  cases test with
  | false => rfl
  | true =>
    refine congrArg (call (op item)) (funext fun answer => ?_)
    cases answer with
    | ok value => rfl
    | error error => rfl

end Prog

end HostingService.Program
