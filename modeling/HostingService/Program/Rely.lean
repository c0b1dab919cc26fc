import HostingService.Program.Prog

/-! Threads that run beside others over one state, with a log of the calls that each has
made. What a thread found out stays good while the state evolves, so each of its calls can
be justified in the state that it meets. -/

namespace HostingService.Program

universe u v
variable {Call : Type → Type u} {Error : Type} {σ : Type v} {ι α β : Type}

/-- A call that was made, and the state it met. -/
structure Entry (Call : Type → Type u) (σ : Type v) where
  {answer : Type}
  op : Call answer
  state : σ

/-- What the threads over one state guarantee each other. -/
structure Conduct (Call : Type → Type u) (σ : Type v) where
  holds : σ → Prop
  evolves : σ → σ → Prop
  good : ∀ β, Call β → σ → Prop

namespace Prog

/-- Nothing is left to do. -/
def Finished : Prog Call Error α → Prop
  | .ret _ => True
  | .raise _ => True
  | .call _ _ => False

instance : ∀ body : Prog Call Error α, Decidable body.Finished
  | .ret _ | .raise _ => .isTrue trivial
  | .call _ _ => .isFalse id

/-- However far the state has evolved when a call is made, the call is good there, and what
the program ends in meets `post` together with the log. -/
def Relies (handle : Handler Call Error σ) (conduct : Conduct Call σ)
    (post : List (Entry Call σ) → Except Error α → σ → Prop) :
    Prog Call Error α → List (Entry Call σ) → σ → Prop
  | .ret value, log, state => post log (.ok value) state
  | .raise error, log, state => post log (.error error) state
  | .call op next, log, state => ∀ later, conduct.holds later → conduct.evolves state later →
      conduct.good _ op later ∧
        (next (handle _ op later).1).Relies handle conduct post (log ++ [⟨op, later⟩])
          (handle _ op later).2

variable {handle : Handler Call Error σ} {conduct : Conduct Call σ}
  {post other : List (Entry Call σ) → Except Error α → σ → Prop} {log : List (Entry Call σ)}
  {state : σ}

theorem relies_perform {op : Call α} : (perform op).Relies handle conduct post log state ↔
    ∀ later, conduct.holds later → conduct.evolves state later → conduct.good _ op later ∧
      post (log ++ [⟨op, later⟩]) (handle _ op later).1 (handle _ op later).2 := by
  constructor
  · intro relies later now evolved
    obtain ⟨good, ended⟩ := relies later now evolved
    refine ⟨good, ?_⟩
    rcases answer : (handle _ op later).1 with error | value
    · rwa [answer] at ended
    · rwa [answer] at ended
  · intro every later now evolved
    obtain ⟨good, ended⟩ := every later now evolved
    refine ⟨good, ?_⟩
    rcases answer : (handle _ op later).1 with error | value
    · rwa [answer] at ended
    · rwa [answer] at ended

/-- One call, and what follows on each of its answers. -/
theorem relies_perform_bind {op : Call β} {rest : β → Prog Call Error α}
    (each : ∀ later, conduct.holds later → conduct.evolves state later → conduct.good _ op later ∧
      (∀ value, (handle _ op later).1 = .ok value →
        (rest value).Relies handle conduct post (log ++ [⟨op, later⟩]) (handle _ op later).2) ∧
      ∀ error, (handle _ op later).1 = .error error →
        post (log ++ [⟨op, later⟩]) (.error error) (handle _ op later).2) :
    (perform op >>= rest).Relies handle conduct post log state := by
  intro later now evolved
  obtain ⟨good, returned, raised⟩ := each later now evolved
  refine ⟨good, ?_⟩
  rcases answer : (handle _ op later).1 with error | value
  · exact raised error answer
  · exact returned value answer

theorem relies_ofExcept {result : Except Error α} :
    (ofExcept result).Relies handle conduct post log state ↔ post log result state := by
  cases result <;> rfl

theorem Relies.mono {body : Prog Call Error α} (relies : body.Relies handle conduct post log state)
    (weaker : ∀ log result after, post log result after → other log result after) :
    body.Relies handle conduct other log state := by
  induction body generalizing log state with
  | ret value => exact weaker _ _ _ relies
  | raise error => exact weaker _ _ _ relies
  | call op next ih =>
    intro later now evolved
    obtain ⟨good, rest⟩ := relies later now evolved
    exact ⟨good, ih _ rest⟩

theorem Relies.bind {body : Prog Call Error β} {rest : β → Prog Call Error α}
    {middle : List (Entry Call σ) → Except Error β → σ → Prop}
    (first : body.Relies handle conduct middle log state)
    (raised : ∀ log error after, middle log (.error error) after → post log (.error error) after)
    (returned : ∀ log value after, middle log (.ok value) after →
      (rest value).Relies handle conduct post log after) :
    (body >>= rest).Relies handle conduct post log state := by
  induction body generalizing log state with
  | ret value => exact returned log value state first
  | raise error => exact raised log error state first
  | call op next ih =>
    intro later now evolved
    obtain ⟨good, later⟩ := first later now evolved
    exact ⟨good, ih _ later⟩

theorem Relies.tryCatch {body : Prog Call Error α} {handler : Error → Prog Call Error α}
    {middle : List (Entry Call σ) → Except Error α → σ → Prop}
    (first : body.Relies handle conduct middle log state)
    (returned : ∀ log value after, middle log (.ok value) after → post log (.ok value) after)
    (raised : ∀ log error after, middle log (.error error) after →
      (handler error).Relies handle conduct post log after) :
    (body.tryCatch handler).Relies handle conduct post log state := by
  induction body generalizing log state with
  | ret value => exact returned log value state first
  | raise error => exact raised log error state first
  | call op next ih =>
    intro later now evolved
    obtain ⟨good, later⟩ := first later now evolved
    exact ⟨good, ih _ later⟩

theorem Relies.tryFinally {cleanup : Prog Call Error Unit} {body : Prog Call Error α}
    {middle : List (Entry Call σ) → Except Error α → σ → Prop}
    (first : body.Relies handle conduct middle log state)
    (after : ∀ log result state, middle log result state →
      (cleanup >>= fun _ => ofExcept result).Relies handle conduct post log state) :
    (body.tryFinally cleanup).Relies handle conduct post log state := by
  induction body generalizing log state with
  | ret value => exact after log (.ok value) state first
  | raise error => exact after log (.error error) state first
  | call op next ih =>
    intro later now evolved
    obtain ⟨good, relies⟩ := first later now evolved
    exact ⟨good, ih _ relies⟩

theorem Relies.and {body : Prog Call Error α} (left : body.Relies handle conduct post log state)
    (right : body.Relies handle conduct other log state) :
    body.Relies handle conduct (fun log result after => post log result after ∧
      other log result after) log state := by
  induction body generalizing log state with
  | ret value => exact ⟨left, right⟩
  | raise error => exact ⟨left, right⟩
  | call op next ih =>
    intro later now evolved
    obtain ⟨good, first⟩ := left later now evolved
    obtain ⟨_, second⟩ := right later now evolved
    exact ⟨good, ih _ first second⟩

/-- Whatever a program ends in, its log has grown and the state has evolved. -/
theorem Relies.grows {body : Prog Call Error α} (refl : ∀ state, conduct.evolves state state)
    (trans : ∀ {first second third}, conduct.evolves first second → conduct.evolves second third →
      conduct.evolves first third)
    (step : ∀ β (op : Call β) state, conduct.good β op state → conduct.evolves state (handle β op state).2)
    (relies : body.Relies handle conduct post log state) :
    body.Relies handle conduct (fun last result after => post last result after ∧ log <+: last ∧
      conduct.evolves state after) log state := by
  induction body generalizing log state with
  | ret value => exact ⟨relies, List.prefix_rfl, refl state⟩
  | raise error => exact ⟨relies, List.prefix_rfl, refl state⟩
  | call op next ih =>
    intro later now evolved
    obtain ⟨good, rest⟩ := relies later now evolved
    refine ⟨good, (ih _ rest).mono fun last result after ended => ?_⟩
    obtain ⟨kept, grown, further⟩ := ended
    exact ⟨kept, (List.prefix_append log _).trans grown, trans evolved (trans (step _ op later good) further)⟩

/-- A fact that lasts while the state evolves lasts through calls that may be made at any time. -/
theorem All.relies {allowed : ∀ β, Call β → Prop} {body : Prog Call Error α} {lasts : σ → Prop}
    (every : body.All allowed)
    (good : ∀ β (op : Call β) state, allowed β op → conduct.holds state → conduct.good β op state)
    (quiet : ∀ β (op : Call β) state, allowed β op → lasts state → lasts (handle β op state).2)
    (kept : ∀ before after, conduct.evolves before after → lasts before → lasts after)
    (now : lasts state) : body.Relies handle conduct (fun _ _ after => lasts after) log state := by
  induction body generalizing log state with
  | ret value => exact now
  | raise error => exact now
  | call op next ih =>
    intro later holds evolved
    refine ⟨good _ op later every.1 holds, ih _ (every.2 _) ?_⟩
    exact quiet _ op later every.1 (kept _ _ evolved now)

/-- The log of a thread grows. -/
theorem All.relies_log {allowed : ∀ β, Call β → Prop} {body : Prog Call Error α}
    (every : body.All allowed)
    (good : ∀ β (op : Call β) state, allowed β op → conduct.holds state → conduct.good β op state) :
    body.Relies handle conduct (fun later _ _ => log <+: later) log state := by
  induction body generalizing log state with
  | ret value => exact List.prefix_rfl
  | raise error => exact List.prefix_rfl
  | call op next ih =>
    intro later holds evolved
    refine ⟨good _ op later every.1 holds, (ih _ (every.2 _)).mono fun last _ _ grown => ?_⟩
    exact (List.prefix_append log _).trans grown

theorem relies_check {test : Bool} {error : Error} {rest : Unit → Prog Call Error α}
    (raised : test = true → post log (.error error) state)
    (passed : test = false → (rest ()).Relies handle conduct post log state) :
    (when test (.raise error) >>= rest).Relies handle conduct post log state := by
  cases test with
  | true => exact raised rfl
  | false => exact passed rfl

/-- What a thread counts on, it counts on in every later state. -/
theorem Relies.later {body : Prog Call Error α} {before after : σ}
    (trans : ∀ {first second third}, conduct.evolves first second → conduct.evolves second third →
      conduct.evolves first third)
    (lasts : ∀ log result, post log result before → post log result after)
    (evolved : conduct.evolves before after)
    (relies : body.Relies handle conduct post log before) :
    body.Relies handle conduct post log after := by
  cases body with
  | ret value => exact lasts _ _ relies
  | raise error => exact lasts _ _ relies
  | call op next => exact fun later now further => relies later now (trans evolved further)

end Prog

/-! ### Crews -/

/-- A thread of a task: what is left of its program, and the calls it has made. -/
structure Thread (Call : Type → Type u) (Error : Type) (σ : Type v) (ι α : Type) where
  task : ι
  rest : Prog Call Error α
  log : List (Entry Call σ)

/-- The thread after some calls that nothing interrupts, and the state they lead to. -/
def Thread.after (handle : Handler Call Error σ) :
    Nat → Thread Call Error σ ι α → σ → Thread Call Error σ ι α × σ
  | calls + 1, ⟨task, .call op next, log⟩, state =>
    Thread.after handle calls ⟨task, next (handle _ op state).1, log ++ [⟨op, state⟩]⟩
      (handle _ op state).2
  | _, thread, state => (thread, state)

/-- Logs grow. -/
theorem Thread.after_log (handle : Handler Call Error σ) (calls : Nat)
    (thread : Thread Call Error σ ι α) (state : σ) :
    thread.log <+: (thread.after handle calls state).1.log := by
  induction calls generalizing thread state with
  | zero => exact List.prefix_rfl
  | succ calls ih =>
    obtain ⟨task, rest, log⟩ := thread
    cases rest with
    | ret value => exact List.prefix_rfl
    | raise error => exact List.prefix_rfl
    | call op next =>
      refine (List.prefix_append log [⟨op, state⟩]).trans ?_
      exact ih ⟨task, next (handle _ op state).1, log ++ [⟨op, state⟩]⟩ (handle _ op state).2

/-- What every allowed call keeps up of the state and the log holds wherever the thread stops. -/
theorem Thread.after_invariant {handle : Handler Call Error σ} {allowed : ∀ β, Call β → Prop}
    {inv : σ → List (Entry Call σ) → Prop} {task : ι} {body : Prog Call Error α}
    {log : List (Entry Call σ)} {state : σ} (every : body.All allowed)
    (step : ∀ β (op : Call β) state log, allowed β op → inv state log →
      inv (handle β op state).2 (log ++ [⟨op, state⟩]))
    (start : inv state log) (calls : Nat) :
    inv (Thread.after handle calls ⟨task, body, log⟩ state).2
      (Thread.after handle calls ⟨task, body, log⟩ state).1.log := by
  induction calls generalizing body log state with
  | zero => exact start
  | succ calls ih =>
    cases body with
    | ret value => exact start
    | raise error => exact start
    | call op next => exact ih (every.2 _) (step _ op state log every.1 start)

/-- One call more changes nothing, or makes an allowed call. -/
theorem Thread.after_step {handle : Handler Call Error σ} {allowed : ∀ β, Call β → Prop} {task : ι}
    {body : Prog Call Error α} {log : List (Entry Call σ)} {state : σ} (every : body.All allowed)
    (calls : Nat) :
    (Thread.after handle (calls + 1) ⟨task, body, log⟩ state).2 =
        (Thread.after handle calls ⟨task, body, log⟩ state).2 ∨
      ∃ β, ∃ op : Call β, allowed β op ∧
        (Thread.after handle (calls + 1) ⟨task, body, log⟩ state).2 =
          (handle β op (Thread.after handle calls ⟨task, body, log⟩ state).2).2 := by
  induction calls generalizing body log state with
  | zero =>
    cases body with
    | ret value => exact .inl rfl
    | raise error => exact .inl rfl
    | call op next => exact .inr ⟨_, op, every.1, rfl⟩
  | succ calls ih =>
    cases body with
    | ret value => exact .inl rfl
    | raise error => exact .inl rfl
    | call op next => exact ih (every.2 _)

/-- A program that nothing stops is run to its end. -/
theorem Thread.after_finishes (handle : Handler Call Error σ) (task : ι) (body : Prog Call Error α)
    (log : List (Entry Call σ)) (state : σ) :
    ∃ calls, (Thread.after handle calls ⟨task, body, log⟩ state).2 = (body.run handle state).2 := by
  induction body generalizing log state with
  | ret value => exact ⟨0, rfl⟩
  | raise error => exact ⟨0, rfl⟩
  | call op next ih =>
    obtain ⟨calls, ends⟩ := ih (handle _ op state).1 (log ++ [⟨op, state⟩]) (handle _ op state).2
    exact ⟨calls + 1, ends⟩

theorem mem_middle {α : Type*} {before after : List α} {item other : α} :
    other ∈ before ++ item :: after ↔ other = item ∨ other ∈ before ++ after := by
  simp only [List.mem_append, List.mem_cons]
  exact or_left_comm

theorem getElem?_middle_self {α : Type*} (before after : List α) (item : α) :
    (before ++ item :: after)[before.length]? = some item := by
  rw [List.getElem?_append_right (Nat.le_refl _), Nat.sub_self, List.getElem?_cons_zero]

/-- What stands at a position is the middle item, or does not depend on it. -/
theorem getElem?_middle {α : Type*} {before after : List α} {item found : α} {i : Nat}
    (present : (before ++ item :: after)[i]? = some found) :
    (i = before.length ∧ found = item) ∨
      (i ≠ before.length ∧ ∀ other, (before ++ other :: after)[i]? = some found) := by
  rcases Nat.lt_trichotomy i before.length with less | rfl | more
  · refine .inr ⟨Nat.ne_of_lt less, fun other => ?_⟩
    rw [List.getElem?_append_left less] at present ⊢
    exact present
  · rw [getElem?_middle_self] at present
    exact .inl ⟨rfl, (Option.some.inj present).symm⟩
  · refine .inr ⟨Nat.ne_of_gt more, fun other => ?_⟩
    obtain ⟨k, rfl⟩ := Nat.exists_eq_add_of_lt more
    have right : before.length ≤ before.length + k + 1 := by omega
    have behind : before.length + k + 1 - before.length = k + 1 := by omega
    rw [List.getElem?_append_right right, behind] at present ⊢
    exact present

structure Crew (Call : Type → Type u) (Error : Type) (σ : Type v) (ι α : Type) where
  shared : σ
  threads : List (Thread Call Error σ ι α)

namespace Crew

/-- A task is taken up, the outside changes the state, or a thread makes its next call. -/
inductive Step (handle : Handler Call Error σ) (program : ι → Prog Call Error α)
    (outside : σ → σ → Prop) : Crew Call Error σ ι α → Crew Call Error σ ι α → Prop where
  | arrive {shared threads} (task : ι) :
      Step handle program outside ⟨shared, threads⟩ ⟨shared, ⟨task, program task, []⟩ :: threads⟩
  | change {shared threads} (later : σ) (changed : outside shared later) :
      Step handle program outside ⟨shared, threads⟩ ⟨later, threads⟩
  | advance {shared before after} {task : ι} {β : Type} (op : Call β)
      (next : Except Error β → Prog Call Error α) (log : List (Entry Call σ)) :
      Step handle program outside ⟨shared, before ++ ⟨task, .call op next, log⟩ :: after⟩
        ⟨(handle β op shared).2, before ++
          ⟨task, next (handle β op shared).1, log ++ [⟨op, shared⟩]⟩ :: after⟩

/-- The crews that an interleaving reaches. -/
def Reaches (handle : Handler Call Error σ) (program : ι → Prog Call Error α)
    (outside : σ → σ → Prop) : Crew Call Error σ ι α → Crew Call Error σ ι α → Prop :=
  Relation.ReflTransGen (Step handle program outside)

variable {handle : Handler Call Error σ} {program : ι → Prog Call Error α}
  {outside : σ → σ → Prop} {post : ι → List (Entry Call σ) → Except Error α → σ → Prop}
  {start crew : Crew Call Error σ ι α}

/-- A thread that is not finished makes its next call. -/
theorem Step.after (thread : Thread Call Error σ ι α) (unfinished : ¬ thread.rest.Finished)
    (state : σ) (left right : List (Thread Call Error σ ι α)) :
    Step handle program outside ⟨state, left ++ thread :: right⟩
      ⟨(thread.after handle 1 state).2, left ++ (thread.after handle 1 state).1 :: right⟩ := by
  obtain ⟨task, rest, log⟩ := thread
  cases rest with
  | ret value => exact (unfinished trivial).elim
  | raise error => exact (unfinished trivial).elim
  | call op next => exact .advance op next log

/-- A thread may make some of its calls and then wait. -/
theorem Reaches.after (calls : Nat) (thread : Thread Call Error σ ι α) (state : σ)
    (left right : List (Thread Call Error σ ι α)) :
    Reaches handle program outside ⟨state, left ++ thread :: right⟩
      ⟨(thread.after handle calls state).2, left ++ (thread.after handle calls state).1 :: right⟩ := by
  induction calls generalizing thread state with
  | zero => exact .refl
  | succ calls ih =>
    obtain ⟨task, rest, log⟩ := thread
    cases rest with
    | ret value => exact .refl
    | raise error => exact .refl
    | call op next => exact .head (.advance op next log) (ih _ _)

/-- A task is taken up, and some of its calls are made. -/
theorem Reaches.joins (task : ι) (calls : Nat) (state : σ)
    (threads : List (Thread Call Error σ ι α)) :
    Reaches handle program outside ⟨state, threads⟩
      ⟨(Thread.after handle calls ⟨task, program task, []⟩ state).2,
        (Thread.after handle calls ⟨task, program task, []⟩ state).1 :: threads⟩ :=
  .head (.arrive task) (Reaches.after calls ⟨task, program task, []⟩ state [] threads)

/-- Every call that a thread has made passes the test. -/
def Logged (test : Entry Call σ → Prop) (crew : Crew Call Error σ ι α) : Prop :=
  ∀ thread ∈ crew.threads, ∀ entry ∈ thread.log, test entry

/-- Logs grow: what every call passes now, every call has passed before. -/
theorem Step.logged {test : Entry Call σ → Prop} {before after : Crew Call Error σ ι α}
    (step : Step handle program outside before after) (passed : after.Logged test) :
    before.Logged test := by
  intro thread member entry made
  cases step with
  | arrive task => exact passed thread (List.mem_cons_of_mem _ member) entry made
  | change later changed => exact passed thread member entry made
  | advance op next log =>
    rcases mem_middle.mp member with rfl | other
    · exact passed _ (mem_middle.mpr (.inl rfl)) entry (List.mem_append_left _ made)
    · exact passed thread (mem_middle.mpr (.inr other)) entry made

/-- Every thread counts on the conduct of the others, and the state keeps to it. -/
def Relying (handle : Handler Call Error σ) (conduct : Conduct Call σ)
    (post : ι → List (Entry Call σ) → Except Error α → σ → Prop) (crew : Crew Call Error σ ι α) :
    Prop :=
  conduct.holds crew.shared ∧ ∀ thread ∈ crew.threads,
    thread.rest.Relies handle conduct (post thread.task) thread.log crew.shared

/-- The next call of a thread is good where it is made. -/
theorem Relying.good {conduct : Conduct Call σ} (relying : crew.Relying handle conduct post)
    (refl : ∀ state, conduct.evolves state state) {thread : Thread Call Error σ ι α}
    (member : thread ∈ crew.threads) {β : Type} {op : Call β} {next : Except Error β → Prog Call Error α}
    (waiting : thread.rest = .call op next) : conduct.good β op crew.shared := by
  have relies := relying.2 thread member
  rw [waiting] at relies
  exact (relies crew.shared relying.1 (refl crew.shared)).1

/-- One step among threads that rely on each other's conduct. -/
theorem Step.relying {before after : Crew Call Error σ ι α} (conduct : Conduct Call σ)
    (refl : ∀ state, conduct.evolves state state)
    (trans : ∀ {first second third}, conduct.evolves first second → conduct.evolves second third →
      conduct.evolves first third)
    (calls : ∀ β (op : Call β) state, conduct.good β op state → conduct.holds state →
      conduct.holds (handle β op state).2 ∧ conduct.evolves state (handle β op state).2)
    (changes : ∀ before after, outside before after → conduct.holds before →
      conduct.holds after ∧ conduct.evolves before after)
    (lasts : ∀ task log result before after, conduct.evolves before after →
      post task log result before → post task log result after)
    (arrivals : ∀ task state, (program task).Relies handle conduct (post task) [] state)
    (step : Step handle program outside before after)
    (relying : before.Relying handle conduct post) : after.Relying handle conduct post := by
  have lasting {thread : Thread Call Error σ ι α} {before after : σ}
      (evolved : conduct.evolves before after)
      (relies : thread.rest.Relies handle conduct (post thread.task) thread.log before) :
      thread.rest.Relies handle conduct (post thread.task) thread.log after :=
    relies.later trans (fun _ _ => lasts _ _ _ _ _ evolved) evolved
  obtain ⟨now, running⟩ := relying
  cases step with
  | arrive task =>
    refine ⟨now, fun thread member => ?_⟩
    rcases List.mem_cons.mp member with rfl | old
    · exact arrivals task _
    · exact running thread old
  | change later changed =>
    obtain ⟨after, evolved⟩ := changes _ _ changed now
    exact ⟨after, fun thread member => lasting evolved (running thread member)⟩
  | @advance shared before after task β op next log =>
    obtain ⟨good, rest⟩ := running ⟨task, .call op next, log⟩ (by simp) shared now (refl shared)
    obtain ⟨kept, evolved⟩ := calls β op shared good now
    refine ⟨kept, fun thread member => ?_⟩
    rcases mem_middle.mp member with rfl | other
    · exact rest
    · exact lasting evolved (running thread (mem_middle.mpr (.inr other)))

/-- Threads that rely on each other's conduct keep to it in every interleaving, and what a
thread ended in lasts. -/
theorem Reaches.relies (conduct : Conduct Call σ) (refl : ∀ state, conduct.evolves state state)
    (trans : ∀ {first second third}, conduct.evolves first second → conduct.evolves second third →
      conduct.evolves first third)
    (step : ∀ β (op : Call β) state, conduct.good β op state → conduct.holds state →
      conduct.holds (handle β op state).2 ∧ conduct.evolves state (handle β op state).2)
    (changes : ∀ before after, outside before after → conduct.holds before →
      conduct.holds after ∧ conduct.evolves before after)
    (lasts : ∀ task log result before after, conduct.evolves before after →
      post task log result before → post task log result after)
    (arrivals : ∀ task state, (program task).Relies handle conduct (post task) [] state)
    (threads : start.threads = []) (initial : conduct.holds start.shared)
    (path : Reaches handle program outside start crew) : crew.Relying handle conduct post := by
  induction path with
  | refl => exact ⟨initial, fun thread member => by simp [threads] at member⟩
  | tail _ last ih => exact last.relying conduct refl trans step changes lasts arrivals ih

end Crew

end HostingService.Program
