import Mathlib.Algebra.Order.Ring.Nat
import Mathlib.Algebra.Order.Ring.Int
import Mathlib.Data.List.Lex
import Mathlib.Logic.Relation

/-! Finite programs over a signature of calls. A program branches on the answer
of each call, and a call that raises is an answer too, so one program can be
run against any handler, stepped call by call, or inspected without running. -/

namespace HostingService.Program

universe u v w

inductive Prog (Call : Type → Type u) (Error : Type) (α : Type) : Type (max 1 u) where
  | ret (value : α)
  | raise (error : Error)
  | call {β : Type} (op : Call β) (next : Except Error β → Prog Call Error α)

variable {Call : Type → Type u} {Error : Type} {α β γ : Type}

namespace Prog

def bind : Prog Call Error α → (α → Prog Call Error β) → Prog Call Error β
  | .ret value, rest => rest value
  | .raise error, _ => .raise error
  | .call op next, rest => .call op fun answer => (next answer).bind rest

/-- Run `handler` on the error that leaves the body, wherever it was raised. -/
def tryCatch : Prog Call Error α → (Error → Prog Call Error α) → Prog Call Error α
  | .ret value, _ => .ret value
  | .raise error, handler => handler error
  | .call op next, handler => .call op fun answer => (next answer).tryCatch handler

/-- Run `cleanup` once the body is left, by its end or by an error. -/
def tryFinally : Prog Call Error α → Prog Call Error Unit → Prog Call Error α
  | .ret value, cleanup => cleanup.bind fun _ => .ret value
  | .raise error, cleanup => cleanup.bind fun _ => .raise error
  | .call op next, cleanup => .call op fun answer => (next answer).tryFinally cleanup

instance : Monad (Prog Call Error) where
  pure := .ret
  bind := Prog.bind

instance : MonadExceptOf Error (Prog Call Error) where
  throw := .raise
  tryCatch := Prog.tryCatch

/-- One call whose error, if any, is raised at once. -/
def perform (op : Call α) : Prog Call Error α :=
  .call op fun
    | .ok value => .ret value
    | .error error => .raise error

def ofExcept : Except Error α → Prog Call Error α
  | .ok value => .ret value
  | .error error => .raise error

/-- `if test: body` -/
def when (test : Bool) (body : Prog Call Error Unit) : Prog Call Error Unit :=
  if test then body else .ret ()

/-- `for item in items: body(item)` -/
def forEach {ι : Type} (body : ι → Prog Call Error Unit) : List ι → Prog Call Error Unit
  | [] => .ret ()
  | item :: items => body item >>= fun _ => forEach body items

@[simp] theorem pure_eq_ret (value : α) : (pure value : Prog Call Error α) = .ret value := rfl

@[simp] theorem throw_eq_raise (error : Error) :
    (throw error : Prog Call Error α) = .raise error := rfl

@[simp] theorem tryCatch_eq (body : Prog Call Error α) (handler : Error → Prog Call Error α) :
    tryCatchThe Error body handler = body.tryCatch handler := rfl

@[simp] theorem ret_bind (value : α) (rest : α → Prog Call Error β) :
    (Prog.ret value >>= rest) = rest value := rfl

@[simp] theorem raise_bind (error : Error) (rest : α → Prog Call Error β) :
    (Prog.raise error >>= rest) = .raise error := rfl

@[simp] theorem ofExcept_ok (value : α) :
    (ofExcept (.ok value) : Prog Call Error α) = .ret value := rfl

@[simp] theorem when_true (body : Prog Call Error Unit) : when true body = body := rfl

@[simp] theorem when_false (body : Prog Call Error Unit) : when false body = .ret () := rfl

theorem call_bind (op : Call γ) (next : Except Error γ → Prog Call Error α)
    (rest : α → Prog Call Error β) :
    (Prog.call op next >>= rest) = .call op fun answer => next answer >>= rest := rfl

theorem bind_assoc (body : Prog Call Error α) (second : α → Prog Call Error β)
    (third : β → Prog Call Error γ) :
    (body >>= second) >>= third = body >>= fun value => second value >>= third := by
  induction body with
  | ret value => rfl
  | raise error => rfl
  | call op next ih => exact congrArg (call op) (funext ih)

end Prog

/-! ### Running a program against a handler -/

/-- A handler answers one call and says how the state changes. -/
abbrev Handler (Call : Type → Type u) (Error : Type) (σ : Type v) :=
  ∀ β, Call β → σ → Except Error β × σ

variable {σ : Type v} {τ : Type v}

namespace Prog

def run (handle : Handler Call Error σ) : Prog Call Error α → σ → Except Error α × σ
  | .ret value, state => (.ok value, state)
  | .raise error, state => (.error error, state)
  | .call op next, state =>
    match handle _ op state with
    | (answer, state) => (next answer).run handle state

variable (handle : Handler Call Error σ)

@[simp] theorem run_ret (value : α) (state : σ) :
    (ret value : Prog Call Error α).run handle state = (.ok value, state) := rfl

@[simp] theorem run_raise (error : Error) (state : σ) :
    (raise error : Prog Call Error α).run handle state = (.error error, state) := rfl

theorem run_call (op : Call γ) (next : Except Error γ → Prog Call Error α) (state : σ) :
    (call op next).run handle state =
      (next (handle _ op state).1).run handle (handle _ op state).2 := rfl

theorem run_bind (body : Prog Call Error α) (rest : α → Prog Call Error β) (state : σ) :
    (body >>= rest).run handle state =
      match body.run handle state with
      | (.ok value, state) => (rest value).run handle state
      | (.error error, state) => (.error error, state) := by
  induction body generalizing state with
  | ret value => rfl
  | raise error => rfl
  | call op next ih => exact ih _ _

theorem run_bind_ok {body : Prog Call Error α} {state after : σ} {value : α}
    (done : body.run handle state = (.ok value, after)) (rest : α → Prog Call Error β) :
    (body >>= rest).run handle state = (rest value).run handle after := by
  rw [run_bind, done]

theorem run_bind_error {body : Prog Call Error α} {state after : σ} {error : Error}
    (failed : body.run handle state = (.error error, after)) (rest : α → Prog Call Error β) :
    (body >>= rest).run handle state = (.error error, after) := by
  rw [run_bind, failed]

theorem run_tryCatch (body : Prog Call Error α) (handler : Error → Prog Call Error α)
    (state : σ) :
    (body.tryCatch handler).run handle state =
      match body.run handle state with
      | (.ok value, state) => (.ok value, state)
      | (.error error, state) => (handler error).run handle state := by
  induction body generalizing state with
  | ret value => rfl
  | raise error => rfl
  | call op next ih => exact ih _ _

theorem run_tryCatch_ok {body : Prog Call Error α} {state after : σ} {value : α}
    (done : body.run handle state = (.ok value, after)) (handler : Error → Prog Call Error α) :
    (body.tryCatch handler).run handle state = (.ok value, after) := by
  rw [run_tryCatch, done]

theorem run_tryCatch_error {body : Prog Call Error α} {state after : σ} {error : Error}
    (failed : body.run handle state = (.error error, after)) (handler : Error → Prog Call Error α) :
    (body.tryCatch handler).run handle state = (handler error).run handle after := by
  rw [run_tryCatch, failed]

theorem run_perform (op : Call α) (state : σ) :
    (perform op : Prog Call Error α).run handle state = handle _ op state := by
  rw [perform, run_call]
  rcases handle _ op state with ⟨_ | _, _⟩ <;> rfl

@[simp] theorem run_ofExcept (result : Except Error α) (state : σ) :
    (ofExcept result : Prog Call Error α).run handle state = (result, state) := by
  cases result <;> rfl

theorem run_forEach_nil {ι : Type} (body : ι → Prog Call Error Unit) (state : σ) :
    (forEach body []).run handle state = (.ok (), state) := rfl

theorem run_forEach_cons {ι : Type} (body : ι → Prog Call Error Unit) (item : ι)
    (items : List ι) (state : σ) :
    (forEach body (item :: items)).run handle state =
      match (body item).run handle state with
      | (.ok (), state) => (forEach body items).run handle state
      | (.error error, state) => (.error error, state) := by
  rw [forEach, run_bind]
  rcases (body item).run handle state with ⟨_ | _, _⟩ <;> rfl

end Prog

/-! ### What a program may call -/

namespace Prog

/-- Every call on every path of the program, whatever the answers, is allowed. -/
def All (allowed : ∀ β, Call β → Prop) : Prog Call Error α → Prop
  | .ret _ => True
  | .raise _ => True
  | .call op next => allowed _ op ∧ ∀ answer, (next answer).All allowed

variable {allowed other : ∀ β, Call β → Prop}

@[simp] theorem all_ret (value : α) : (ret value : Prog Call Error α).All allowed := trivial

@[simp] theorem all_raise (error : Error) : (raise error : Prog Call Error α).All allowed := trivial

theorem all_call {op : Call γ} {next : Except Error γ → Prog Call Error α} :
    (call op next).All allowed ↔ allowed _ op ∧ ∀ answer, (next answer).All allowed := Iff.rfl

@[simp] theorem all_perform {op : Call α} :
    (perform op : Prog Call Error α).All allowed ↔ allowed _ op := by
  rw [perform, all_call]
  exact ⟨And.left, fun good => ⟨good, fun answer => by cases answer <;> trivial⟩⟩

theorem All.bind {body : Prog Call Error α} {rest : α → Prog Call Error β}
    (first : body.All allowed) (second : ∀ value, (rest value).All allowed) :
    (body >>= rest).All allowed := by
  induction body with
  | ret value => exact second value
  | raise error => trivial
  | call op next ih => exact ⟨first.1, fun answer => ih answer (first.2 answer)⟩

theorem All.left {body : Prog Call Error α} {rest : α → Prog Call Error β}
    (every : (body >>= rest).All allowed) : body.All allowed := by
  induction body with
  | ret value => trivial
  | raise error => trivial
  | call op next ih => exact ⟨every.1, fun answer => ih answer (every.2 answer)⟩

theorem All.tryCatch {body : Prog Call Error α} {handler : Error → Prog Call Error α}
    (first : body.All allowed) (second : ∀ error, (handler error).All allowed) :
    (body.tryCatch handler).All allowed := by
  induction body with
  | ret value => trivial
  | raise error => exact second error
  | call op next ih => exact ⟨first.1, fun answer => ih answer (first.2 answer)⟩

@[simp] theorem all_ofExcept (result : Except Error α) :
    (ofExcept result : Prog Call Error α).All allowed := by
  cases result <;> trivial

theorem All.when {test : Bool} {body : Prog Call Error Unit}
    (every : test = true → body.All allowed) : (when test body).All allowed := by
  cases test with
  | false => trivial
  | true => exact every rfl

/-- `if test: raise error` before the rest. -/
theorem All.check {test : Bool} {error : Error} {rest : Unit → Prog Call Error α}
    (later : (rest ()).All allowed) : (Prog.when test (.raise error) >>= rest).All allowed := by
  cases test with
  | true => trivial
  | false => exact later

theorem all_perform_bind {op : Call α} {rest : α → Prog Call Error β} :
    (perform op >>= rest).All allowed ↔ allowed _ op ∧ ∀ value, (rest value).All allowed := by
  constructor
  · intro every
    exact ⟨every.1, fun value => every.2 (.ok value)⟩
  · rintro ⟨first, later⟩
    exact .bind (all_perform.mpr first) later

theorem all_ofExcept_bind {result : Except Error α} {rest : α → Prog Call Error β} :
    (ofExcept result >>= rest).All allowed ↔
      ∀ value, result = .ok value → (rest value).All allowed := by
  cases result with
  | ok found => exact ⟨fun every value same => by cases same; exact every, fun every => every _ rfl⟩
  | error error => exact ⟨fun _ value same => by contradiction, fun _ => trivial⟩

theorem All.forEach {ι : Type} {body : ι → Prog Call Error Unit} {items : List ι}
    (each : ∀ item ∈ items, (body item).All allowed) : (forEach body items).All allowed := by
  induction items with
  | nil => trivial
  | cons item items ih =>
    exact (each item (by simp)).bind fun _ => ih fun other member => each other (by simp [member])

theorem All.mono {body : Prog Call Error α} (every : body.All allowed)
    (weaker : ∀ β (op : Call β), allowed β op → other β op) : body.All other := by
  induction body with
  | ret value => trivial
  | raise error => trivial
  | call op next ih => exact ⟨weaker _ op every.1, fun answer => ih answer (every.2 answer)⟩

theorem all_true (body : Prog Call Error α) : body.All fun _ _ => True := by
  induction body with
  | ret value => trivial
  | raise error => trivial
  | call op next ih => exact ⟨trivial, ih⟩

/-- A preorder that every allowed call respects relates the ends of a run. -/
theorem All.run_related {handle : Handler Call Error σ} (related : σ → σ → Prop)
    (refl : ∀ state, related state state)
    (trans : ∀ {first second third}, related first second → related second third →
      related first third)
    (step : ∀ β (op : Call β), allowed β op → ∀ state, related state (handle β op state).2)
    {body : Prog Call Error α} (every : body.All allowed) (state : σ) :
    related state (body.run handle state).2 := by
  induction body generalizing state with
  | ret value => exact refl state
  | raise error => exact refl state
  | call op next ih => exact trans (step _ op every.1 state) (ih _ (every.2 _) _)

/-- Two states that allowed calls cannot tell apart give equal results. -/
theorem All.run_simulated {handle : Handler Call Error σ} (alike : σ → σ → Prop)
    (step : ∀ β (op : Call β), allowed β op → ∀ {left right}, alike left right →
      (handle β op left).1 = (handle β op right).1 ∧
        alike (handle β op left).2 (handle β op right).2)
    {body : Prog Call Error α} (every : body.All allowed) {left right : σ}
    (same : alike left right) :
    (body.run handle left).1 = (body.run handle right).1 ∧
      alike (body.run handle left).2 (body.run handle right).2 := by
  induction body generalizing left right with
  | ret value => exact ⟨rfl, same⟩
  | raise error => exact ⟨rfl, same⟩
  | call op next ih =>
    obtain ⟨answers, states⟩ := step _ op every.1 same
    rw [run_call, run_call, ← answers]
    exact ih _ (every.2 _) states

/-- Every call made in the run from `state` meets the guard when it is made. -/
def Along (handle : Handler Call Error σ) (guard : ∀ β, Call β → σ → Prop) :
    Prog Call Error α → σ → Prop
  | .ret _, _ => True
  | .raise _, _ => True
  | .call op next, state =>
    guard _ op state ∧ (next (handle _ op state).1).Along handle guard (handle _ op state).2

theorem All.along {handle : Handler Call Error σ} {guard : ∀ β, Call β → σ → Prop}
    {good : ∀ β, Call β → Prop} {body : Prog Call Error α} {state : σ} (every : body.All good)
    (meets : ∀ β (op : Call β) state, good β op → guard β op state) :
    body.Along handle guard state := by
  induction body generalizing state with
  | ret value => trivial
  | raise error => trivial
  | call op next ih => exact ⟨meets _ op state every.1, ih _ (every.2 _)⟩

end Prog

/-! ### Translating the calls of a program -/

variable {Outer : Type → Type w}

namespace Prog

def hoist (embed : ∀ β, Call β → Outer β) : Prog Call Error α → Prog Outer Error α
  | .ret value => .ret value
  | .raise error => .raise error
  | .call op next => .call (embed _ op) fun answer => (next answer).hoist embed

theorem all_hoist {embed : ∀ β, Call β → Outer β} {allowed : ∀ β, Outer β → Prop}
    {body : Prog Call Error α} :
    (body.hoist embed).All allowed ↔ body.All fun β op => allowed β (embed β op) := by
  induction body with
  | ret value => rfl
  | raise error => rfl
  | call op next ih => exact and_congr Iff.rfl (forall_congr' ih)

theorem hoist_bind {embed : ∀ β, Call β → Outer β} (body : Prog Call Error β)
    (rest : β → Prog Call Error α) :
    (body >>= rest).hoist embed = body.hoist embed >>= fun value => (rest value).hoist embed := by
  induction body with
  | ret value => rfl
  | raise error => rfl
  | call op next ih => exact congrArg (call _) (funext ih)

theorem hoist_perform {embed : ∀ β, Call β → Outer β} (op : Call α) :
    (perform op : Prog Call Error α).hoist embed = perform (embed α op) := by
  refine congrArg (call _) (funext fun answer => ?_)
  cases answer <;> rfl

theorem hoist_ofExcept {embed : ∀ β, Call β → Outer β} (result : Except Error α) :
    (ofExcept result : Prog Call Error α).hoist embed = ofExcept result := by
  cases result <;> rfl

theorem hoist_check {embed : ∀ β, Call β → Outer β} (test : Bool) (error : Error) :
    (when test (.raise error) : Prog Call Error Unit).hoist embed = when test (.raise error) := by
  cases test <;> rfl

/-- A translated program acts on the part of the state its calls act on. -/
theorem run_hoist {inner : Handler Call Error τ} {outer : Handler Outer Error σ}
    (embed : ∀ β, Call β → Outer β) (get : σ → τ) (put : τ → σ → σ)
    (get_put : ∀ part state, get (put part state) = part)
    (put_get : ∀ state, put (get state) state = state)
    (put_put : ∀ new old state, put new (put old state) = put new state)
    (step : ∀ β (op : Call β) state, outer β (embed β op) state =
      ((inner β op (get state)).1, put (inner β op (get state)).2 state))
    (body : Prog Call Error α) (state : σ) :
    (body.hoist embed).run outer state =
      ((body.run inner (get state)).1, put (body.run inner (get state)).2 state) := by
  induction body generalizing state with
  | ret value => simp [hoist, put_get]
  | raise error => simp [hoist, put_get]
  | call op next ih => rw [hoist, run_call, run_call, step, ih, get_put, put_put]

end Prog

end HostingService.Program
