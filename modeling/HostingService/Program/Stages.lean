import HostingService.Program.Rely

/-! Programs that move through stages. A stage says what a program counts on where it makes
its next call, and each call moves it to a stage again. -/

namespace HostingService.Program

universe u v
variable {Call : Type → Type u} {Error : Type} {σ : Type v} {κ α β : Type}

/-- What a stage counts on, and the stages that a call made in a state moves to. -/
structure Staging (Call : Type → Type u) (σ : Type v) (κ : Type) where
  holds : κ → σ → Prop
  moves : ∀ β, Call β → κ → σ → κ → Prop

namespace Prog

/-- Every call that is made where the stage holds moves to a stage that the rest of the
program follows, and the program ends as `ends` allows. -/
def Follows (handle : Handler Call Error σ) (staging : Staging Call σ κ)
    (ends : Except Error α → κ → Prop) : Prog Call Error α → κ → Prop
  | .ret value, stage => ends (.ok value) stage
  | .raise error, stage => ends (.error error) stage
  | .call op next, stage => ∀ state, staging.holds stage state → ∃ later,
      staging.moves _ op stage state later ∧
        (next (handle _ op state).1).Follows handle staging ends later

variable {handle : Handler Call Error σ} {staging : Staging Call σ κ}
  {ends : Except Error α → κ → Prop} {stage : κ}

theorem follows_perform {op : Call α} : (perform op).Follows handle staging ends stage ↔
    ∀ state, staging.holds stage state → ∃ later, staging.moves _ op stage state later ∧
      ends (handle _ op state).1 later := by
  have leaf (answer : Except Error α) (later : κ) :
      (ofExcept answer : Prog Call Error α).Follows handle staging ends later ↔ ends answer later := by
    cases answer <;> rfl
  exact forall_congr' fun state => forall_congr' fun _ => exists_congr fun later =>
    and_congr Iff.rfl (leaf _ later)

theorem Follows.mono {body : Prog Call Error α} {weaker : Except Error α → κ → Prop}
    (follows : body.Follows handle staging ends stage)
    (implied : ∀ result later, ends result later → weaker result later) :
    body.Follows handle staging weaker stage := by
  induction body generalizing stage with
  | ret value => exact implied _ _ follows
  | raise error => exact implied _ _ follows
  | call op next ih =>
    intro state holds
    obtain ⟨later, moved, rest⟩ := follows state holds
    exact ⟨later, moved, ih _ rest⟩

theorem Follows.bind {body : Prog Call Error β} {rest : β → Prog Call Error α}
    {middle : Except Error β → κ → Prop} (first : body.Follows handle staging middle stage)
    (raised : ∀ error stage, middle (.error error) stage → ends (.error error) stage)
    (returned : ∀ value stage, middle (.ok value) stage →
      (rest value).Follows handle staging ends stage) :
    (body >>= rest).Follows handle staging ends stage := by
  induction body generalizing stage with
  | ret value => exact returned value stage first
  | raise error => exact raised error stage first
  | call op next ih =>
    intro state holds
    obtain ⟨later, moved, follows⟩ := first state holds
    exact ⟨later, moved, ih _ follows⟩

/-- One call, and what follows on each of its answers. -/
theorem follows_perform_bind {op : Call β} {rest : β → Prog Call Error α}
    (moved : ∀ state, staging.holds stage state → ∃ later, staging.moves _ op stage state later ∧
      (∀ value, (handle _ op state).1 = .ok value → (rest value).Follows handle staging ends later) ∧
        ∀ error, (handle _ op state).1 = .error error → ends (.error error) later) :
    (perform op >>= rest).Follows handle staging ends stage := by
  intro state holds
  obtain ⟨later, moves, returned, raised⟩ := moved state holds
  refine ⟨later, moves, ?_⟩
  rcases answer : (handle _ op state).1 with error | value
  · exact raised error answer
  · exact returned value answer

theorem Follows.tryCatch {body : Prog Call Error α} {handler : Error → Prog Call Error α}
    {middle : Except Error α → κ → Prop} (first : body.Follows handle staging middle stage)
    (returned : ∀ value stage, middle (.ok value) stage → ends (.ok value) stage)
    (raised : ∀ error stage, middle (.error error) stage →
      (handler error).Follows handle staging ends stage) :
    (body.tryCatch handler).Follows handle staging ends stage := by
  induction body generalizing stage with
  | ret value => exact returned value stage first
  | raise error => exact raised error stage first
  | call op next ih =>
    intro state holds
    obtain ⟨later, moved, follows⟩ := first state holds
    exact ⟨later, moved, ih _ follows⟩

theorem Follows.tryFinally {cleanup : Prog Call Error Unit} {body : Prog Call Error α}
    {middle : Except Error α → κ → Prop} (first : body.Follows handle staging middle stage)
    (after : ∀ result stage, middle result stage →
      (cleanup >>= fun _ => ofExcept result).Follows handle staging ends stage) :
    (body.tryFinally cleanup).Follows handle staging ends stage := by
  induction body generalizing stage with
  | ret value => exact after (.ok value) stage first
  | raise error => exact after (.error error) stage first
  | call op next ih =>
    intro state holds
    obtain ⟨later, moved, follows⟩ := first state holds
    exact ⟨later, moved, ih _ follows⟩

theorem follows_check {test : Bool} {error : Error} {rest : Unit → Prog Call Error α}
    (raised : ends (.error error) stage)
    (passed : (rest ()).Follows handle staging ends stage) :
    (when test (.raise error) >>= rest).Follows handle staging ends stage := by
  cases test with
  | true => exact raised
  | false => exact passed

theorem follows_ofExcept_bind {result : Except Error β} {rest : β → Prog Call Error α}
    (raised : ∀ error, ends (.error error) stage)
    (returned : ∀ value, result = .ok value → (rest value).Follows handle staging ends stage) :
    (ofExcept result >>= rest).Follows handle staging ends stage := by
  cases result with
  | error error => exact raised error
  | ok value => exact returned value rfl

/-- A loop whose rounds keep to some stages. -/
theorem Follows.forEach {ι : Type} {body : ι → Prog Call Error Unit} {items : List ι}
    {inv : κ → Prop} (rounds : ∀ item ∈ items, ∀ stage, inv stage →
      (body item).Follows handle staging (fun _ later => inv later) stage) (now : inv stage) :
    (Prog.forEach body items).Follows handle staging (fun _ later => inv later) stage := by
  induction items generalizing stage with
  | nil => exact now
  | cons item items ih =>
    have round := rounds item List.mem_cons_self stage now
    refine round.bind (fun _ _ kept => kept) fun _ later kept => ?_
    exact ih (fun other member => rounds other (List.mem_cons_of_mem item member)) kept

/-- Calls that may be made in a stage without leaving it. -/
theorem All.follows {allowed : ∀ β, Call β → Prop} {body : Prog Call Error α}
    (every : body.All allowed)
    (stays : ∀ β (op : Call β) state, allowed β op → staging.holds stage state →
      staging.moves β op stage state stage)
    (ended : ∀ result, ends result stage) : body.Follows handle staging ends stage := by
  induction body with
  | ret value => exact ended _
  | raise error => exact ended _
  | call op next ih =>
    exact fun state holds => ⟨stage, stays _ op state every.1 holds, ih _ (every.2 _)⟩

/-- A program that runs without interruption ends, in a stage that every move has led to. -/
theorem Follows.finishes {ι : Type} {inv : κ → σ → Prop} {body : Prog Call Error α}
    (follows : body.Follows handle staging ends stage)
    (holds : ∀ stage state, inv stage state → staging.holds stage state)
    (moves : ∀ {β : Type} (op : Call β) stage state later, inv stage state →
      staging.moves β op stage state later → inv later (handle β op state).2)
    (task : ι) (log : List (Entry Call σ)) {state : σ} (now : inv stage state) :
    ∃ calls later, let ended := Thread.after handle calls ⟨task, body, log⟩ state
      ended.1.rest.Finished ∧ inv later ended.2 ∧ ended.1.rest.Follows handle staging ends later := by
  induction body generalizing stage log state with
  | ret value => exact ⟨0, stage, trivial, now, follows⟩
  | raise error => exact ⟨0, stage, trivial, now, follows⟩
  | call op next ih =>
    obtain ⟨later, moved, rest⟩ := follows state (holds stage state now)
    obtain ⟨calls, last, ended⟩ := ih _ rest (log ++ [⟨op, state⟩]) (moves op stage state later now moved)
    exact ⟨calls + 1, last, ended⟩

end Prog

/-! ### Crews by their stages -/

/-- A thread and the stage that it is in. -/
structure Post (Call : Type → Type u) (Error : Type) (σ : Type v) (ι κ α : Type) where
  thread : Thread Call Error σ ι α
  stage : κ

namespace Crew

variable {ι : Type} {handle : Handler Call Error σ} {program : ι → Prog Call Error α}
  {outside : σ → σ → Prop} {staging : ι → Staging Call σ κ} {ends : Except Error α → κ → Prop}
  {first : ι → κ} {start crew : Crew Call Error σ ι α}

/-- A crew whose programs move through stages: what the stages and the logs keep up, move by
move, holds of every crew that is reached. -/
theorem Reaches.staged (inv : σ → List (Post Call Error σ ι κ α) → Prop)
    (follows : ∀ task, (program task).Follows handle (staging task) ends (first task))
    (initial : inv start.shared []) (idle : start.threads = [])
    (arrives : ∀ state posts task, inv state posts →
      inv state (⟨⟨task, program task, []⟩, first task⟩ :: posts))
    (changes : ∀ before after posts, outside before after → inv before posts → inv after posts)
    (holds : ∀ state posts, inv state posts → ∀ post ∈ posts,
      (staging post.thread.task).holds post.stage state)
    (moves : ∀ {β : Type} (op : Call β) (next : Except Error β → Prog Call Error α) state left right
      task log stage later,
      inv state (left ++ ⟨⟨task, .call op next, log⟩, stage⟩ :: right) →
      (staging task).moves β op stage state later →
      inv (handle β op state).2 (left ++ ⟨⟨task, next (handle β op state).1,
        log ++ [⟨op, state⟩]⟩, later⟩ :: right))
    (path : Reaches handle program outside start crew) :
    ∃ posts, posts.map (·.thread) = crew.threads ∧ inv crew.shared posts ∧ ∀ post ∈ posts,
      post.thread.rest.Follows handle (staging post.thread.task) ends post.stage := by
  induction path with
  | refl => exact ⟨[], idle.symm, initial, fun post member => by simp at member⟩
  | tail _ last ih =>
    obtain ⟨posts, staffed, kept, running⟩ := ih
    cases last with
    | arrive task =>
      refine ⟨_ :: posts, by rw [List.map_cons, staffed], arrives _ _ task kept, fun post member => ?_⟩
      rcases List.mem_cons.mp member with rfl | old
      · exact follows task
      · exact running post old
    | change later changed => exact ⟨posts, staffed, changes _ _ _ changed kept, running⟩
    | @advance _ _ _ task β op next log =>
      obtain ⟨left, others, rfl, rfl, rest⟩ := List.map_eq_append_iff.mp staffed
      obtain ⟨⟨thread, stage⟩, right, rfl, same, rfl⟩ := List.map_eq_cons_iff.mp rest
      cases same
      let own : Post Call Error σ ι κ α := ⟨⟨task, .call op next, log⟩, stage⟩
      have member : own ∈ left ++ own :: right := by simp
      obtain ⟨later, moved, rest⟩ := running own member _ (holds _ _ kept own member)
      refine ⟨_, by simp, moves op next _ left right task log stage later kept moved, fun post member => ?_⟩
      rcases List.mem_append.mp member with before | after
      · exact running post (List.mem_append_left _ before)
      · rcases List.mem_cons.mp after with rfl | after
        · exact rest
        · exact running post (by simp [after])

end Crew

end HostingService.Program
