import HostingService.Program.Prog

/-! Transactions at the read committed level. A transaction keeps its writes to itself until
it commits; each of its calls sees the tables as they are committed then, and its own writes. -/

namespace HostingService.Program

universe u v
variable {Call : Type → Type u} {Error : Type} {σ : Type v} {D : Type v} {Change : Type}
  {α β : Type}

/-- Calls on a state of which some part, the tables, is under transactions. -/
structure Tables (Call : Type → Type u) (Error : Type) (σ D : Type v) (Change : Type) where
  handle : Handler Call Error σ
  get : σ → D
  put : D → σ → σ
  written : ∀ β, Call β → Option Change
  apply : D → Change → Except Error D

/-- A call outside of transactions, a call of a transaction with the writes that it has
pending, and its commit. -/
inductive SessionCall (Call : Type → Type u) (Change : Type) : Type → Type (max u 1) where
  | autocommit {α : Type} (op : Call α) : SessionCall Call Change α
  | within {α : Type} (pending : List Change) (op : Call α) : SessionCall Call Change α
  | commit (pending : List Change) : SessionCall Call Change Unit

namespace Tables

/-- The pending writes, made one by one. -/
def replay (tables : Tables Call Error σ D Change) : D → List Change → Except Error D
  | rows, [] => .ok rows
  | rows, change :: pending =>
    match tables.apply rows change with
    | .ok rows => tables.replay rows pending
    | .error error => .error error

/-- A call of a transaction leaves the committed tables as they are. -/
def session (tables : Tables Call Error σ D Change) : Handler (SessionCall Call Change) Error σ
  | _, .autocommit op, state => tables.handle _ op state
  | _, .within pending op, state =>
    match tables.replay (tables.get state) pending with
    | .ok rows =>
      let (answer, after) := tables.handle _ op (tables.put rows state)
      (answer, tables.put (tables.get state) after)
    | .error error => (.error error, state)
  | _, .commit pending, state =>
    match tables.replay (tables.get state) pending with
    | .ok rows => (.ok (), tables.put rows state)
    | .error error => (.error error, state)

/-- What a call leaves pending. -/
def grown (tables : Tables Call Error σ D Change) (pending : List Change) (op : Call β) :
    Except Error β → List Change
  | .ok _ => pending ++ (tables.written β op).toList
  | .error _ => pending

end Tables

namespace Prog
variable (tables : Tables Call Error σ D Change)

/-- The calls of a transaction, with the writes that they leave pending. -/
def within : List Change → Prog Call Error α → Prog (SessionCall Call Change) Error (α × List Change)
  | pending, .ret value => .ret (value, pending)
  | _, .raise error => .raise error
  | pending, .call op next => .call (.within pending op) fun answer =>
    (next answer).within (tables.grown pending op answer)

/-- An error leaves the pending writes undone. -/
def transaction (body : Prog Call Error α) : Prog (SessionCall Call Change) Error α :=
  body.within tables [] >>= fun ended => perform (.commit ended.2) >>= fun _ => .ret ended.1

/-- Go on with what the body ended in, a value or an error. -/
def attempt : Prog Call Error β → (Except Error β → Prog Call Error α) → Prog Call Error α
  | .ret value, rest => rest (.ok value)
  | .raise error, rest => rest (.error error)
  | .call op next, rest => .call op fun answer => (next answer).attempt rest

end Prog

/-- The tables are a part of the state, and a call changes them by the write that it makes. -/
structure Tables.Lawful (tables : Tables Call Error σ D Change) : Prop where
  get_put : ∀ rows state, tables.get (tables.put rows state) = rows
  put_get : ∀ state, tables.put (tables.get state) state = state
  put_put : ∀ new old state, tables.put new (tables.put old state) = tables.put new state
  reads : ∀ {β} (op : Call β), tables.written β op = none → ∀ state,
    tables.get (tables.handle β op state).2 = tables.get state
  writes : ∀ {β} (op : Call β) change, tables.written β op = some change → ∀ state,
    (∀ rows, tables.apply (tables.get state) change = .ok rows →
      (∃ value, (tables.handle β op state).1 = .ok value) ∧
        tables.get (tables.handle β op state).2 = rows) ∧
    ∀ error, tables.apply (tables.get state) change = .error error →
      (tables.handle β op state).1 = .error error ∧
        tables.get (tables.handle β op state).2 = tables.get state

namespace Tables
variable {tables : Tables Call Error σ D Change} {rows : D} {pending later : List Change}

theorem replay_append : tables.replay rows (pending ++ later) =
    (tables.replay rows pending).bind fun middle => tables.replay middle later := by
  induction pending generalizing rows with
  | nil => rfl
  | cons change pending ih =>
    rw [List.cons_append, replay, replay]
    cases tables.apply rows change with
    | ok middle => exact ih
    | error error => rfl

theorem replay_singleton {change : Change} :
    tables.replay rows [change] = tables.apply rows change := by
  rw [replay]
  cases tables.apply rows change <;> rfl

/-- What every write of a list keeps up, the list keeps up. -/
theorem replay_invariant {holds : D → Prop}
    (step : ∀ change ∈ pending, ∀ before after, tables.apply before change = .ok after →
      holds before → holds after)
    {after : D} (replayed : tables.replay rows pending = .ok after) (start : holds rows) :
    holds after := by
  induction pending generalizing rows with
  | nil =>
    cases replayed
    exact start
  | cons change pending ih =>
    rw [replay] at replayed
    rcases applied : tables.apply rows change with error | middle
    · rw [applied] at replayed
      cases replayed
    · rw [applied] at replayed
      have kept := step change List.mem_cons_self _ _ applied start
      exact ih (fun other member => step other (List.mem_cons_of_mem _ member)) replayed kept

end Tables

namespace Prog
variable {tables : Tables Call Error σ D Change} {pending : List Change}

theorem within_bind (body : Prog Call Error β) (rest : β → Prog Call Error α) :
    (body >>= rest).within tables pending =
      body.within tables pending >>= fun ended => (rest ended.1).within tables ended.2 := by
  induction body generalizing pending with
  | ret value => rfl
  | raise error => rfl
  | call op next ih => exact congrArg (Prog.call _) (funext fun answer => ih answer)

theorem within_perform (op : Call α) :
    (perform op : Prog Call Error α).within tables pending =
      perform (.within pending op) >>= fun value =>
        .ret (value, pending ++ (tables.written α op).toList) := by
  refine congrArg (call _) (funext fun answer => ?_)
  cases answer <;> rfl

theorem within_ofExcept (result : Except Error α) :
    (ofExcept result : Prog Call Error α).within tables pending =
      ofExcept result >>= fun value => .ret (value, pending) := by
  cases result <;> rfl

theorem within_check (test : Bool) (error : Error) :
    (when test (.raise error) : Prog Call Error Unit).within tables pending =
      when test (.raise error) >>= fun _ => .ret ((), pending) := by
  cases test <;> rfl

/-- A part of a transaction that writes nothing. -/
theorem within_unwritten {body : Prog Call Error α}
    (reads : body.All fun β op => tables.written β op = none) :
    body.within tables pending =
      body.hoist (fun _ op => .within pending op) >>= fun value => .ret (value, pending) := by
  induction body with
  | ret value => rfl
  | raise error => rfl
  | call op next ih =>
    refine congrArg (call _) (funext fun answer => ?_)
    have same : tables.grown pending op answer = pending := by
      cases answer with
      | error error => rfl
      | ok value => rw [Tables.grown, reads.1, Option.toList_none, List.append_nil]
    dsimp only
    rw [same]
    exact ih answer (reads.2 answer)

theorem run_attempt {handle : Handler Call Error σ} (body : Prog Call Error β)
    (rest : Except Error β → Prog Call Error α) (state : σ) :
    (body.attempt rest).run handle state =
      (rest (body.run handle state).1).run handle (body.run handle state).2 := by
  induction body generalizing state with
  | ret value => rfl
  | raise error => rfl
  | call op next ih => exact ih _ _

/-- Alone, a transaction sees its own run: its pending writes lead from the committed tables
to the tables of that run, and the rest of the state is the same. -/
theorem run_within (lawful : tables.Lawful) (body : Prog Call Error α) {state view : σ}
    (seen : view = tables.put (tables.get view) state)
    (replayed : tables.replay (tables.get state) pending = .ok (tables.get view)) :
    ∃ later, (body.within tables pending).run tables.session state =
        ((body.run tables.handle view).1.map (·, later),
          tables.put (tables.get state) (body.run tables.handle view).2) ∧
      tables.replay (tables.get state) later = .ok (tables.get (body.run tables.handle view).2) := by
  induction body generalizing state view pending with
  | ret value =>
    refine ⟨pending, Prod.ext rfl ?_, replayed⟩
    rw [run_ret, seen, lawful.put_put, lawful.put_get]
    rfl
  | raise error =>
    refine ⟨pending, Prod.ext rfl ?_, replayed⟩
    rw [run_raise, seen, lawful.put_put, lawful.put_get]
    rfl
  | @call β op next ih =>
    have stepped : tables.session β (.within pending op) state =
        ((tables.handle β op view).1, tables.put (tables.get state) (tables.handle β op view).2) := by
      rw [Tables.session, replayed]
      dsimp only
      rw [← seen]
    rw [within, run_call, run_call, stepped]
    have kept : tables.get (tables.put (tables.get state) (tables.handle β op view).2) =
        tables.get state := lawful.get_put _ _
    have pended : tables.replay (tables.get state)
        (tables.grown pending op (tables.handle β op view).1) =
          .ok (tables.get (tables.handle β op view).2) := by
      rcases wrote : tables.written β op with _ | change
      · have same := lawful.reads op wrote view
        cases (tables.handle β op view).1 with
        | error error => rw [Tables.grown, replayed, same]
        | ok value => rw [Tables.grown, wrote, Option.toList_none, List.append_nil, replayed, same]
      · obtain ⟨went, failed⟩ := lawful.writes op change wrote view
        rcases applied : tables.apply (tables.get view) change with error | rows
        · obtain ⟨answer, same⟩ := failed error applied
          rw [answer, Tables.grown, replayed, same]
        · obtain ⟨⟨value, answer⟩, same⟩ := went rows applied
          rw [answer, Tables.grown, wrote, Tables.replay_append, replayed, same]
          exact Tables.replay_singleton.trans applied
    have view_later : (tables.handle β op view).2 = tables.put (tables.get (tables.handle β op view).2)
        (tables.put (tables.get state) (tables.handle β op view).2) := by
      rw [lawful.put_put, lawful.put_get]
    obtain ⟨later, ran, ended⟩ := ih (tables.handle β op view).1 view_later (by rw [kept]; exact pended)
    rw [kept] at ran ended
    exact ⟨later, ran, ended⟩

/-- Alone, a transaction does what its body does, and nothing to the tables if that raises. -/
theorem run_transaction (lawful : tables.Lawful) (body : Prog Call Error α) (state : σ) :
    (body.transaction tables).run tables.session state =
      match body.run tables.handle state with
      | (.ok value, after) => (.ok value, after)
      | (.error error, after) => (.error error, tables.put (tables.get state) after) := by
  obtain ⟨later, ran, ended⟩ := run_within lawful body
    (lawful.put_get state).symm (show tables.replay (tables.get state) [] = _ from rfl)
  rw [transaction, run_bind, ran]
  rcases outcome : body.run tables.handle state with ⟨error | value, after⟩
  · rfl
  · rw [outcome] at ended
    dsimp only [Except.map]
    rw [run_bind, run_perform, Tables.session, lawful.get_put, ended]
    dsimp only
    rw [lawful.put_put, lawful.put_get]
    rfl

end Prog

end HostingService.Program
