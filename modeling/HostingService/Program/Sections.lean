import HostingService.Program.Stages
import HostingService.Program.Warrants

/-! Programs that share a lock. At most one of them is in the section that the lock guards,
and the lock keeps up a resource while it is free. -/

namespace HostingService.Program

universe u v
variable {Call : Type → Type u} {Error : Type} {σ : Type v} {ι κ α β : Type}

theorem Prog.run_tryFinally {handle : Handler Call Error σ} (body : Prog Call Error α)
    (cleanup : Prog Call Error Unit) (state : σ) :
    (body.tryFinally cleanup).run handle state =
      (cleanup >>= fun _ => ofExcept (body.run handle state).1).run handle
        (body.run handle state).2 := by
  induction body generalizing state with
  | ret value => rfl
  | raise error => rfl
  | call op next ih => exact ih _ _

/-- A lock: the calls that take it (`some true`) and give it back (`some false`), the stages in
the section that it guards, and what it keeps up while it is free. -/
structure Lock (Call : Type → Type u) (σ : Type v) (κ : Type) where
  marks : ∀ β, Call β → Option Bool
  locked : σ → Bool
  inside : κ → Bool
  resource : σ → Prop

/-- The thread has taken the lock and not given it back. -/
def Thread.holding (marks : ∀ β, Call β → Option Bool) (thread : Thread Call Error σ ι α) : Bool :=
  thread.log.foldl (fun held entry => (marks _ entry.op).getD held) false

namespace Lock

/-- What a move from a stage to the next one does to the lock. -/
inductive Move (lock : Lock Call σ κ) (op : Call β) (stage later : κ) (before after : σ) : Prop where
  | apart (unmarked : lock.marks _ op = none) (out : lock.inside stage = false)
      (still : lock.inside later = false) (same : lock.locked after = lock.locked before)
      (kept : lock.resource before → lock.resource after)
  | enters (marked : lock.marks _ op = some true) (out : lock.inside stage = false)
      (now : lock.inside later = true) (free : lock.locked before = false)
      (taken : lock.locked after = true)
  | within (unmarked : lock.marks _ op = none) (was : lock.inside stage = true)
      (still : lock.inside later = true) (same : lock.locked after = lock.locked before)
  | leaves (marked : lock.marks _ op = some false) (was : lock.inside stage = true)
      (out : lock.inside later = false) (freed : lock.locked after = false)
      (kept : lock.resource after)

theorem Move.inside {lock : Lock Call σ κ} {op : Call β} {stage later : κ} {before after : σ}
    (move : lock.Move op stage later before after) :
    lock.inside later = (lock.marks _ op).getD (lock.inside stage) := by
  cases move with
  | apart unmarked out still same kept => rw [unmarked, Option.getD_none, out, still]
  | enters marked out now free taken => rw [marked, Option.getD_some, now]
  | within unmarked was still same => rw [unmarked, Option.getD_none, was, still]
  | leaves marked was out freed kept => rw [marked, Option.getD_some, out]

/-- The lock is held by one thread, or free and keeps up its resource. -/
structure Guards (lock : Lock Call σ κ) (staging : Staging Call σ κ) (test : Entry Call σ → Prop)
    (state : σ) (posts : List (Post Call Error σ ι κ α)) : Prop where
  sole : posts.countP (lock.inside ·.stage) = (lock.locked state).toNat
  free : lock.locked state = false → lock.resource state
  counts : ∀ post ∈ posts, staging.holds post.stage state
  held : ∀ post ∈ posts, post.thread.holding lock.marks = lock.inside post.stage
  logged : ∀ post ∈ posts, ∀ entry ∈ post.thread.log, test entry

variable {lock : Lock Call σ κ} {test : Entry Call σ → Prop} {staging : Staging Call σ κ} {state after : σ}
  {left right : List (Post Call Error σ ι κ α)} {own : Post Call Error σ ι κ α}

/-- While one thread is in the section, no other one is. -/
theorem Guards.others (guards : lock.Guards staging test state (left ++ own :: right))
    (within : lock.inside own.stage = true) {other : Post Call Error σ ι κ α}
    (member : other ∈ left ++ right) : lock.inside other.stage = false := by
  have sole := guards.sole
  have least : (lock.locked state).toNat ≤ 1 := Bool.toNat_le _
  rw [List.countP_append, List.countP_cons, if_pos within] at sole
  have empty : (left ++ right).countP (lock.inside ·.stage) = 0 := by
    rw [List.countP_append]
    omega
  exact Bool.eq_false_iff.mpr (List.countP_eq_zero.mp empty other member)

theorem Guards.locked (guards : lock.Guards staging test state (left ++ own :: right))
    (within : lock.inside own.stage = true) : lock.locked state = true := by
  have sole := guards.sole
  rw [List.countP_append, List.countP_cons, if_pos within] at sole
  rcases held : lock.locked state
  · rw [held, Bool.toNat_false] at sole
    omega
  · rfl

/-- How many threads hold the lock. -/
theorem Guards.holding {posts : List (Post Call Error σ ι κ α)}
    (guards : lock.Guards staging test state posts) :
    (posts.map (·.thread)).countP (·.holding lock.marks) = (lock.locked state).toNat := by
  rw [List.countP_map, ← guards.sole]
  refine List.countP_congr fun post member => ?_
  rw [Function.comp_apply, guards.held post member]

theorem Guards.arrive {posts : List (Post Call Error σ ι κ α)}
    (guards : lock.Guards staging test state posts) (task : ι) (body : Prog Call Error α) {stage : κ}
    (out : lock.inside stage = false) (counted : staging.holds stage state) :
    lock.Guards staging test state (⟨⟨task, body, []⟩, stage⟩ :: posts) where
  sole := by
    rw [List.countP_cons, if_neg (by simp [out]), Nat.add_zero]
    exact guards.sole
  free := guards.free
  counts := List.forall_mem_cons.mpr ⟨counted, guards.counts⟩
  held := List.forall_mem_cons.mpr ⟨out.symm, guards.held⟩
  logged := List.forall_mem_cons.mpr ⟨by simp, guards.logged⟩

theorem Guards.change {posts : List (Post Call Error σ ι κ α)}
    (guards : lock.Guards staging test state posts) (same : lock.locked after = lock.locked state)
    (resource : lock.resource state → lock.resource after)
    (stages : ∀ stage, staging.holds stage state → staging.holds stage after) :
    lock.Guards staging test after posts where
  sole := guards.sole.trans (congrArg Bool.toNat same.symm)
  free := fun unlocked => resource (guards.free (same ▸ unlocked))
  counts := fun post member => stages _ (guards.counts post member)
  held := guards.held
  logged := guards.logged

/-- One move of one thread, whose section the others stay out of. -/
theorem Guards.move {task : ι} {op : Call β} {next : Except Error β → Prog Call Error α}
    {rest : Prog Call Error α} {log : List (Entry Call σ)} {stage later : κ}
    (guards : lock.Guards staging test state (left ++ ⟨⟨task, .call op next, log⟩, stage⟩ :: right))
    (move : lock.Move op stage later state after) (now : staging.holds later after)
    (passed : test ⟨op, state⟩)
    (others : ∀ other, staging.holds other state →
      (lock.inside stage = true → lock.inside other = false) → staging.holds other after) :
    lock.Guards staging test after
      (left ++ ⟨⟨task, rest, log ++ [⟨op, state⟩]⟩, later⟩ :: right) where
  sole := by
    have sole := guards.sole
    rw [List.countP_append, List.countP_cons] at sole ⊢
    cases move with
    | apart unmarked out still same kept => simpa [out, still, same] using sole
    | enters marked out now free taken =>
      simp only [out, free, Bool.false_eq_true, if_false, Bool.toNat_false] at sole
      simp only [now, taken, if_true, Bool.toNat_true]
      omega
    | within unmarked was still same => simpa [was, still, same] using sole
    | leaves marked was out freed kept =>
      rw [guards.locked was] at sole
      simp only [was, if_true, Bool.toNat_true] at sole
      simp only [out, freed, Bool.false_eq_true, if_false, Bool.toNat_false]
      omega
  free := by
    intro unlocked
    cases move with
    | apart unmarked out still same kept => exact kept (guards.free (same ▸ unlocked))
    | enters marked out now free taken =>
      rw [taken] at unlocked
      contradiction
    | within unmarked was still same =>
      rw [same, guards.locked was] at unlocked
      contradiction
    | leaves marked was out freed kept => exact kept
  counts := by
    intro post member
    rcases mem_middle.mp member with rfl | other
    · exact now
    · exact others post.stage (guards.counts post (mem_middle.mpr (.inr other)))
        fun within => guards.others within other
  held := by
    intro post member
    rcases mem_middle.mp member with rfl | other
    · have own := guards.held _ (mem_middle.mpr (.inl rfl))
      rw [Thread.holding] at own ⊢
      rw [List.foldl_append, own, move.inside, List.foldl_cons, List.foldl_nil]
    · exact guards.held post (mem_middle.mpr (.inr other))
  logged := by
    intro post member
    rcases mem_middle.mp member with rfl | other
    · have own := guards.logged _ (mem_middle.mpr (.inl rfl))
      exact List.forall_mem_append.mpr ⟨own, List.forall_mem_singleton.mpr passed⟩
    · exact guards.logged post (mem_middle.mpr (.inr other))

end Lock

namespace Crew

variable {handle : Handler Call Error σ} {program : ι → Prog Call Error α}
  {outside : σ → σ → Prop} {staging : Staging Call σ κ} {ends : Except Error α → κ → Prop}
  {start crew : Crew Call Error σ ι α} {guard : ∀ β, Call β → σ → Prop}

/-- A thread may make some of its calls and then wait, when each is permitted where it is made. -/
theorem ReachesIf.makes (calls : Nat) (thread : Thread Call Error σ ι α) (state : σ)
    (every : ∀ entry ∈ (thread.after handle calls state).1.log, guard _ entry.op entry.state)
    (left right : List (Thread Call Error σ ι α)) :
    ReachesIf handle program outside (fun crew β op => guard β op crew.shared)
      ⟨state, left ++ thread :: right⟩
      ⟨(thread.after handle calls state).2, left ++ (thread.after handle calls state).1 :: right⟩ := by
  induction calls generalizing thread state with
  | zero => exact .refl
  | succ calls ih =>
    obtain ⟨task, rest, log⟩ := thread
    cases rest with
    | ret value => exact .refl
    | raise error => exact .refl
    | call op next =>
      have made : guard _ op state :=
        every ⟨op, state⟩ ((Thread.after_log handle calls _ _).subset List.mem_concat_self)
      exact .head (.advance op next log made) (ih _ _ every)

/-- Threads that share a lock: what each move does to the lock, and the stages it leaves as
they are, decide who is in the section of every crew that is reached. -/
theorem ReachesIf.locked (lock : Lock Call σ κ) (test : Entry Call σ → Prop) (first : ι → κ)
    (follows : ∀ task, (program task).Follows handle staging ends (first task))
    (unlocked : lock.locked start.shared = false) (kept : lock.resource start.shared)
    (idle : start.threads = [])
    (begins : ∀ task, lock.inside (first task) = false ∧ ∀ state, staging.holds (first task) state)
    (changes : ∀ before after, outside before after → lock.locked after = lock.locked before ∧
      (lock.resource before → lock.resource after) ∧
      ∀ stage, staging.holds stage before → staging.holds stage after)
    (moves : ∀ β (op : Call β) stage state later, guard β op state → staging.holds stage state →
      (lock.inside stage = true → lock.locked state = true) →
      (lock.locked state = false → lock.resource state) → staging.moves β op stage state later →
      lock.Move op stage later state (handle β op state).2 ∧
        staging.holds later (handle β op state).2 ∧ test ⟨op, state⟩ ∧
        ∀ other, staging.holds other state →
          (lock.inside stage = true → lock.inside other = false) →
          staging.holds other (handle β op state).2)
    (path : ReachesIf handle program outside (fun crew β op => guard β op crew.shared) start crew) :
    ∃ posts, posts.map (·.thread) = crew.threads ∧ lock.Guards staging test crew.shared posts ∧
      ∀ post ∈ posts, post.thread.rest.Follows handle staging ends post.stage := by
  induction path with
  | refl =>
    exact ⟨[], idle.symm, ⟨by rw [unlocked, List.countP_nil, Bool.toNat_false], fun _ => kept,
      by simp, by simp, by simp⟩, by simp⟩
  | tail _ last ih =>
    obtain ⟨posts, staffed, guards, running⟩ := ih
    cases last with
    | arrive task =>
      obtain ⟨out, counted⟩ := begins task
      exact ⟨_, by rw [List.map_cons, staffed], guards.arrive task (program task) out (counted _),
        List.forall_mem_cons.mpr ⟨follows task, running⟩⟩
    | change later changed =>
      obtain ⟨same, resource, stages⟩ := changes _ _ changed
      exact ⟨posts, staffed, guards.change same resource stages, running⟩
    | @advance shared _ _ task β op next log permitted =>
      obtain ⟨left, others, rfl, rfl, rest⟩ := List.map_eq_append_iff.mp staffed
      obtain ⟨⟨thread, stage⟩, right, rfl, same, rfl⟩ := List.map_eq_cons_iff.mp rest
      cases same
      let own : Post Call Error σ ι κ α := ⟨⟨task, .call op next, log⟩, stage⟩
      have member : own ∈ left ++ own :: right := mem_middle.mpr (.inl rfl)
      have counted := guards.counts own member
      obtain ⟨later, moved, rest⟩ := running own member shared counted
      obtain ⟨move, now, passed, stay⟩ :=
        moves β op stage shared later permitted counted guards.locked guards.free moved
      refine ⟨left ++ ⟨⟨task, next (handle β op shared).1, log ++ [⟨op, shared⟩]⟩, later⟩ :: right, ?_,
        guards.move move now passed stay, ?_⟩
      · rw [List.map_append, List.map_cons]
      · intro post member
        rcases mem_middle.mp member with rfl | other
        · exact rest
        · exact running post (mem_middle.mpr (.inr other))

end Crew

end HostingService.Program
