import HostingService.Config.TaskLock
import Mathlib.Data.List.Nodup

/-! Why a lock has one holder: a lease is displaced by nobody, and released by its token. -/

namespace HostingService

open Program Text

/-! ### The stages of a worker -/

inductive LockStage where
  | entering
  | ready (token : PyStr)
  | inside (lease : Lease PyStr Time)
  | gone

inductive LockMove (key : PyStr) : ∀ β, LockCall β → LockStage → LockWorld → LockStage → Prop where
  | draws {world} : LockMove key _ .tokenHex .entering world (.ready world.draw)
  | takes {world token span}
      (told : (LockCall.handle _ (.set key token span) world).1 = .ok true) :
      LockMove key _ (.set key token span) (.ready token) world
        (.inside ⟨token, world.clock + seconds span⟩)
  | refused {world token span}
      (untold : (LockCall.handle _ (.set key token span) world).1 ≠ .ok true) :
      LockMove key _ (.set key token span) (.ready token) world .gone
  | works {world stage} {α : Type} (statement : Work α) :
      LockMove key _ (.work statement) stage world stage
  | leaves {world lease} : LockMove key _ (.eval key lease.token) (.inside lease) world .gone

def lockStaging (key : PyStr) : Staging LockCall LockWorld LockStage where
  holds _ _ := True
  moves := LockMove key

/-- A worker that is done holds nothing. -/
def Left {α : Type} (_ : Except TaskError α) (stage : LockStage) : Prop := stage = .gone

section
variable {key token : PyStr} {stage : LockStage}

theorem work_follows {α : Type} (body : Prog Work TaskError α) :
    (body.hoist fun _ => LockCall.work).Follows LockCall.handle (lockStaging key)
      (fun _ later => later = stage) stage := by
  have working : (body.hoist fun _ => LockCall.work).All
      (fun β call => ∃ statement : Work β, call = .work statement) := by
    rw [Prog.all_hoist]
    exact (Prog.all_true body).mono fun β statement _ => ⟨statement, rfl⟩
  refine working.follows (fun β call world => ?_) fun _ => rfl
  rintro ⟨statement, rfl⟩ _
  exact .works statement

/-- Whatever the release answers, the worker leaves. -/
theorem releaseLock_follows {lease : Lease PyStr Time} (result : Except TaskError Unit) :
    (releaseLock key lease.token true >>= fun _ => Prog.ofExcept result).Follows LockCall.handle
      (lockStaging key) Left (.inside lease) := by
  have evaluated : (Prog.perform (.eval key lease.token)).Follows LockCall.handle (lockStaging key)
      Left (.inside lease) :=
    Prog.follows_perform.mpr fun world _ => ⟨.gone, .leaves, rfl⟩
  have released : (Prog.perform (.eval key lease.token) >>= fun _ => Prog.ret ()).Follows
      LockCall.handle (lockStaging key) Left (.inside lease) :=
    evaluated.bind (fun _ _ gone => gone) fun _ _ gone => gone
  have logged : (releaseLock key lease.token true).Follows LockCall.handle (lockStaging key) Left
      (.inside lease) := by
    refine released.tryCatch (fun _ _ gone => gone) fun error stage gone => ?_
    cases error <;> exact gone
  refine logged.bind (fun _ _ gone => gone) fun _ stage gone => ?_
  cases result <;> exact gone

theorem taskLock_follows (schedulerLockPrefix name : PyStr) (ttl : Int)
    (body : Bool → Prog Work TaskError Unit) :
    (taskLock schedulerLockPrefix name ttl body).Follows LockCall.handle
      (lockStaging (lockKey schedulerLockPrefix name)) Left .entering := by
  generalize same : lockKey schedulerLockPrefix name = key
  have drawn : (Prog.perform .tokenHex).Follows LockCall.handle (lockStaging key)
      (fun result stage => ∃ token, result = .ok token ∧ stage = .ready token) .entering :=
    Prog.follows_perform.mpr fun world _ => ⟨.ready world.draw, .draws, world.draw, rfl, rfl⟩
  rw [taskLock, same]
  refine drawn.bind ?_ ?_
  · rintro error stage ⟨token, other, _⟩
    cases other
  rintro token stage ⟨_, found, rfl⟩
  obtain rfl := Except.ok.inj found
  have asked : (Prog.perform (.set key token (max 1 ttl))).Follows LockCall.handle (lockStaging key)
      (fun result stage => if result = .ok true then ∃ lease : Lease PyStr Time,
        lease.token = token ∧ stage = .inside lease else stage = .gone) (.ready token) := by
    refine Prog.follows_perform.mpr fun world _ => ?_
    by_cases told : (LockCall.handle _ (.set key token (max 1 ttl)) world).1 = .ok true
    · exact ⟨_, .takes told, by rw [if_pos told]; exact ⟨_, rfl, rfl⟩⟩
    · exact ⟨_, .refused told, by rw [if_neg told]⟩
  refine asked.bind (fun _ _ gone => by simpa [Left] using gone) fun acquired stage reached => ?_
  refine (work_follows (body acquired)).tryFinally fun result later still => ?_
  subst still
  cases acquired with
  | true =>
    obtain ⟨lease, rfl, rfl⟩ := by simpa using reached
    exact releaseLock_follows result
  | false =>
    have gone : later = .gone := by simpa using reached
    subst gone
    cases result <;> rfl

end

/-! ### The workers and the keys -/

namespace LockCall

/-- No command sets the clock. -/
theorem handle_clock {β : Type} (call : LockCall β) (world : LockWorld) :
    (handle _ call world).2.clock = world.clock := by
  cases call with
  | set | eval =>
    rw [handle, LockWorld.command]
    cases world.fate <;> rfl
  | _ => rfl

theorem handle_drawn {β : Type} (call : LockCall β) (world : LockWorld) :
    (handle _ call world).2.drawn =
      (LockEntry.drawn ⟨call, world⟩).toList ++ world.drawn := by
  cases call with
  | set | eval =>
    rw [handle, LockWorld.command]
    cases world.fate <;> rfl
  | _ => rfl

/-- A command changes the keys or leaves them as they are, as its fate is. -/
theorem command_leases (world : LockWorld) (executed : Bool × Leases PyStr PyStr Time) :
    (world.command executed).2.leases = if world.fate = .unsent then world.leases else executed.2 := by
  rw [LockWorld.command]
  cases world.fate <;> rfl

end LockCall

namespace LockEntry

variable {world : LockWorld} {key token : PyStr} {span : Int}

theorem told_set : told ⟨.set key token span, world⟩ =
    if (LockCall.handle _ (.set key token span) world).1 = .ok true then
      some (key, ⟨token, world.clock + seconds span⟩)
    else none := by
  rw [told]
  rcases (LockCall.handle _ (.set key token span) world).1 with error | _ | _ <;> rfl

/-- A worker is told what its command set. -/
theorem sets_of_told (told : (LockCall.handle _ (.set key token span) world).1 = .ok true) :
    sets ⟨.set key token span, world⟩ = some (key, ⟨token, world.clock + seconds span⟩) := by
  rw [LockCall.handle, LockWorld.command] at told
  rcases fate : world.fate <;> rw [fate] at told <;> simp only at told
  · simp [sets, fate, Except.ok.inj told]
  · cases told
  · cases told

theorem stored_of_told (told : (LockCall.handle _ (.set key token span) world).1 = .ok true) :
    (LockCall.handle _ (.set key token span) world).2.leases key =
      some ⟨token, world.clock + seconds span⟩ := by
  rw [LockCall.handle, LockWorld.command] at told ⊢
  rcases fate : world.fate <;> rw [fate] at told <;> simp only at told
  · exact Leases.grant_granted (Except.ok.inj told)
  · cases told
  · cases told

theorem sets_key {lock : PyStr × Lease PyStr Time}
    (set : sets ⟨.set key token span, world⟩ = some lock) :
    lock = (key, ⟨token, world.clock + seconds span⟩) := by
  simp only [sets, Option.ite_none_right_eq_some, Option.some.injEq] at set
  exact set.2.symm

theorem stored_set {other : PyStr} {lease : Lease PyStr Time}
    (stored : (LockCall.handle _ (.set key token span) world).2.leases other = some lease) :
    world.leases other = some lease ∨ sets ⟨.set key token span, world⟩ = some (other, lease) := by
  rw [LockCall.handle, LockCall.command_leases] at stored
  split at stored
  · exact .inl stored
  · rename_i sent
    rcases Leases.grant_cases stored with old | ⟨granted, rfl, rfl⟩
    · exact .inl old
    · exact .inr (by simp [sets, sent, granted])

theorem held_set {other : PyStr} {lease : Lease PyStr Time}
    (holds : world.leases.held world.clock other = some lease) :
    (LockCall.handle _ (.set key token span) world).2.leases.held world.clock other = some lease := by
  rw [LockCall.handle, LockCall.command_leases]
  split
  · exact holds
  · exact Leases.held_grant holds

theorem held_eval {other : PyStr} {lease : Lease PyStr Time} (foreign : lease.token ≠ token)
    (holds : world.leases.held world.clock other = some lease) :
    (LockCall.handle _ (.eval key token) world).2.leases.held world.clock other = some lease := by
  rw [LockCall.handle, LockCall.command_leases]
  split
  · exact holds
  · exact Leases.held_release holds foreign

theorem stored_eval {other : PyStr} {lease : Lease PyStr Time}
    (stored : (LockCall.handle _ (.eval key token) world).2.leases other = some lease) :
    world.leases other = some lease := by
  rw [LockCall.handle, LockCall.command_leases] at stored
  split at stored
  · exact stored
  · exact Leases.release_stored stored

/-- The key that a release removes had its token. -/
theorem Removes.own {lock : PyStr × Lease PyStr Time}
    (removed : Removes ⟨.eval key token, world⟩ lock) : lock.1 = key ∧ lock.2.token = token := by
  obtain ⟨_, stored, gone⟩ := removed
  simp only [LockCall.handle, LockCall.command_leases] at gone
  split at gone
  · rw [stored] at gone
    cases gone
  · exact Leases.release_removed stored gone

end LockEntry

/-- What the log of a worker and the keys show of its stage. -/
def LockStage.Fits {Job : Type} (key : PyStr) (world : LockWorld) (worker : LockWorker Job) :
    LockStage → Prop
  | .entering => worker.told = []
  | .ready token => worker.told = [] ∧ token ∈ worker.drawn
  | .inside lease => worker.told = [(key, lease)] ∧ (key, lease) ∈ worker.sets ∧
      (world.clock < lease.expires → world.leases.held world.clock key = some lease)
  | .gone => worker.told = [] ∨ worker.hasLeft = true

abbrev LockPost (Job : Type) := Post LockCall TaskError LockWorld (LockTask Job) LockStage Unit

section
variable {Job : Type} (schedulerLockPrefix : PyStr)

/-- Each key that is stored was set by a worker, under a token that this worker drew. -/
structure Guarded (world : LockWorld) (posts : List (LockPost Job)) : Prop where
  drawn : (posts.flatMap fun post => LockWorker.drawn post.thread).Perm world.drawn
  own : ∀ post ∈ posts, ∀ lock ∈ LockWorker.sets post.thread,
    lock.2.token ∈ LockWorker.drawn post.thread
  undone : ∀ post ∈ posts, ∀ entry ∈ post.thread.log, ∀ lock, LockEntry.Removes entry lock →
    lock ∈ LockWorker.sets post.thread
  fits : ∀ post ∈ posts,
    post.stage.Fits (lockKey schedulerLockPrefix post.thread.task.name) world post.thread
  stored : ∀ name lease, world.leases (lockKey schedulerLockPrefix name) = some lease →
    ∃ post ∈ posts, (lockKey schedulerLockPrefix name, lease) ∈ LockWorker.sets post.thread

theorem filterMap_logged {α : Type} (find : Entry LockCall LockWorld → Option α)
    (log : List (Entry LockCall LockWorld)) (entry : Entry LockCall LockWorld) :
    (log ++ [entry]).filterMap find = log.filterMap find ++ (find entry).toList := by
  rw [List.filterMap_append]
  cases found : find entry <;> simp [found]

theorem mem_logged {α : Type} {find : Entry LockCall LockWorld → Option α} {found : α}
    {log : List (Entry LockCall LockWorld)} {entry : Entry LockCall LockWorld} :
    found ∈ (log ++ [entry]).filterMap find ↔
      found ∈ log.filterMap find ∨ find entry = some found := by
  simp

variable {schedulerLockPrefix} {world after : LockWorld} {left right : List (LockPost Job)}
  {post later : LockPost Job} {entry : Entry LockCall LockWorld}

/-- Workers draw different tokens. -/
theorem Guarded.apart (guarded : Guarded schedulerLockPrefix world (left ++ post :: right))
    (distinct : world.drawn.Nodup) {other : LockPost Job} (member : other ∈ left ++ right)
    {token : PyStr} (own : token ∈ LockWorker.drawn post.thread) :
    token ∉ LockWorker.drawn other.thread := by
  have nodup := (guarded.drawn.nodup_iff.mpr distinct)
  have moved : (left ++ post :: right).Perm (post :: (left ++ right)) := List.perm_middle
  rw [(moved.flatMap_right _).nodup_iff, List.flatMap_cons, List.nodup_append] at nodup
  intro foreign
  exact nodup.2.2 token own token (List.mem_flatMap.mpr ⟨other, member, foreign⟩) rfl

variable {task : LockTask Job} {rest : Prog LockCall TaskError Unit}
  {log : List (Entry LockCall LockWorld)} {stage reached : LockStage}

/-- A worker moves on by one call: what the others hold is kept, and what it sets and removes
is its own. -/
theorem Guarded.advance (worker later : LockWorker Job) (logged : later.log = worker.log ++ [entry])
    (same : later.task = worker.task)
    (guarded : Guarded schedulerLockPrefix world (left ++ ⟨worker, stage⟩ :: right))
    (distinct : world.drawn.Nodup) (clock : after.clock = world.clock)
    (drawn : after.drawn = (LockEntry.drawn entry).toList ++ world.drawn)
    (sets : ∀ lock, LockEntry.sets entry = some lock → lock.2.token ∈ worker.drawn)
    (removes : ∀ lock, LockEntry.Removes entry lock → lock ∈ worker.sets)
    (stored : ∀ key lease, after.leases key = some lease →
      world.leases key = some lease ∨ LockEntry.sets entry = some (key, lease))
    (kept : ∀ key lease, lease.token ∉ worker.drawn →
      world.leases.held world.clock key = some lease →
      after.leases.held world.clock key = some lease)
    (fits : reached.Fits (lockKey schedulerLockPrefix worker.task.name) after later) :
    Guarded schedulerLockPrefix after (left ++ ⟨later, reached⟩ :: right) where
  drawn := by
    have own : later.drawn = worker.drawn ++ (LockEntry.drawn entry).toList := by
      rw [LockWorker.drawn, logged, filterMap_logged, LockWorker.drawn]
    have before := guarded.drawn
    simp only [List.flatMap_append, List.flatMap_cons, List.perm_iff_count, List.count_append]
      at before ⊢
    intro token
    have counted := before token
    rw [own, drawn, List.count_append, List.count_append]
    omega
  own other member lock set := by
    rcases mem_middle.mp member with rfl | old
    · rw [LockWorker.drawn, logged, mem_logged]
      rw [LockWorker.sets, logged, mem_logged] at set
      rcases set with before | last
      · exact .inl (guarded.own ⟨worker, stage⟩ (by simp) lock before)
      · exact .inl (sets lock last)
    · exact guarded.own other (mem_middle.mpr (.inr old)) lock set
  undone other member call made lock removed := by
    rcases mem_middle.mp member with rfl | old
    · rw [LockWorker.sets, logged, mem_logged]
      rw [logged, List.mem_append, List.mem_singleton] at made
      rcases made with before | rfl
      · exact .inl (guarded.undone ⟨worker, stage⟩ (by simp) call before lock removed)
      · exact .inl (removes lock removed)
    · exact guarded.undone other (mem_middle.mpr (.inr old)) call made lock removed
  fits other member := by
    rcases mem_middle.mp member with rfl | old
    · rw [same]
      exact fits
    · have present : other ∈ left ++ ⟨worker, stage⟩ :: right := mem_middle.mpr (.inr old)
      have before := guarded.fits other present
      rcases stage : other.stage with _ | token | lease | _ <;> rw [stage] at before
      · exact before
      · exact before
      · obtain ⟨told, set, holds⟩ := before
        have foreign : lease.token ∉ worker.drawn := fun drew =>
          guarded.apart distinct old drew (guarded.own other present _ set)
        refine ⟨told, set, fun running => ?_⟩
        rw [clock] at running ⊢
        exact kept _ lease foreign (holds running)
      · exact before
  stored name lease found := by
    have grown {lock : PyStr × Lease PyStr Time}
        (set : lock ∈ worker.sets ∨ LockEntry.sets entry = some lock) : lock ∈ later.sets := by
      rw [LockWorker.sets, logged, mem_logged]
      exact set
    rcases stored _ lease found with old | set
    · obtain ⟨other, member, set⟩ := guarded.stored name lease old
      rcases mem_middle.mp member with rfl | apart
      · exact ⟨⟨later, reached⟩, by simp, grown (.inl set)⟩
      · exact ⟨other, mem_middle.mpr (.inr apart), set⟩
    · exact ⟨⟨later, reached⟩, by simp, grown (.inr set)⟩

theorem Guarded.moves {β : Type} {call : LockCall β} (rest later : Prog LockCall TaskError Unit)
    (guarded : Guarded schedulerLockPrefix world (left ++ ⟨⟨task, rest, log⟩, stage⟩ :: right))
    (distinct : world.drawn.Nodup)
    (moved : LockMove (lockKey schedulerLockPrefix task.name) β call stage world reached) :
    Guarded schedulerLockPrefix (LockCall.handle β call world).2
      (left ++ ⟨⟨task, later, log ++ [⟨call, world⟩]⟩, reached⟩ :: right) := by
  have fits : stage.Fits (lockKey schedulerLockPrefix task.name) world
      (⟨task, rest, log⟩ : LockWorker Job) := guarded.fits ⟨_, stage⟩ (by simp)
  have own := guarded.own ⟨⟨task, rest, log⟩, stage⟩ (by simp)
  have told (entry : Entry LockCall LockWorld) :
      LockWorker.told (⟨task, later, log ++ [entry]⟩ : LockWorker Job) =
        LockWorker.told (⟨task, rest, log⟩ : LockWorker Job) ++ (LockEntry.told entry).toList :=
    filterMap_logged ..
  refine Guarded.advance ⟨task, rest, log⟩ ⟨task, later, log ++ [⟨call, world⟩]⟩ rfl rfl guarded distinct
    (LockCall.handle_clock call world) (LockCall.handle_drawn call world) ?_ ?_ ?_ ?_ ?_
  · rintro lock set
    cases moved with
    | takes | refused =>
      rw [LockEntry.sets_key set]
      exact fits.2
    | _ => cases set
  · intro lock removed
    cases moved with
    | leaves =>
      obtain ⟨atKey, token⟩ := LockEntry.Removes.own removed
      have stored := removed.2.1
      rw [atKey] at stored
      obtain ⟨other, member, set⟩ := guarded.stored _ _ stored
      rcases mem_middle.mp member with rfl | apart
      · rw [← atKey] at set
        exact set
      · have drew := guarded.own other member _ set
        rw [token] at drew
        exact absurd drew (guarded.apart distinct apart (own _ fits.2.1))
    | _ => cases removed.1
  · intro key lease stored
    cases moved with
    | takes | refused => exact LockEntry.stored_set stored
    | leaves => exact .inl (LockEntry.stored_eval stored)
    | _ => exact .inl stored
  · intro key lease foreign holds
    cases moved with
    | takes | refused => exact LockEntry.held_set holds
    | leaves =>
      refine LockEntry.held_eval ?_ holds
      rintro same
      rw [same] at foreign
      exact foreign (own _ fits.2.1)
    | _ => exact holds
  · cases moved with
    | draws => exact ⟨(told _).trans (by rw [fits]; rfl), by simp [LockWorker.drawn, LockEntry.drawn]⟩
    | takes heard =>
      refine ⟨?_, ?_, fun running => ?_⟩
      · rw [told, fits.1, LockEntry.told_set, if_pos heard]
        rfl
      · exact mem_logged.mpr (.inr (LockEntry.sets_of_told heard))
      · exact Leases.held_eq_some.mpr ⟨LockEntry.stored_of_told heard, running⟩
    | refused untold =>
      refine .inl ?_
      rw [told, fits.1, LockEntry.told_set, if_neg untold]
      rfl
    | works statement =>
      have quiet : LockWorker.told (⟨task, later, log ++ [⟨.work statement, world⟩]⟩ : LockWorker Job) =
          LockWorker.told (⟨task, rest, log⟩ : LockWorker Job) := by
        rw [told]
        exact List.append_nil _
      rcases stage with _ | token | lease | _
      · exact quiet.trans fits
      · exact ⟨quiet.trans fits.1, mem_logged.mpr (.inl fits.2)⟩
      · exact ⟨quiet.trans fits.1, mem_logged.mpr (.inl fits.2.1), fits.2.2⟩
      · refine fits.imp quiet.trans fun left => ?_
        rw [LockWorker.hasLeft, List.any_append, Bool.or_eq_true]
        exact .inl left
    | leaves => exact .inr (by simp [LockWorker.hasLeft, LockEntry.leaves])

/-- Time that passes ends leases, and changes no key of a lock. -/
theorem Guarded.outside {posts : List (LockPost Job)} (guarded : Guarded schedulerLockPrefix world posts)
    (outside : world.Outside schedulerLockPrefix after) : Guarded schedulerLockPrefix after posts where
  drawn := by
    rw [outside.drawn]
    exact guarded.drawn
  own := guarded.own
  undone := guarded.undone
  fits post member := by
    have before := guarded.fits post member
    rcases stage : post.stage with _ | token | lease | _ <;> rw [stage] at before
    · exact before
    · exact before
    · obtain ⟨told, set, holds⟩ := before
      refine ⟨told, set, fun running => Leases.held_eq_some.mpr ⟨?_, running⟩⟩
      rw [outside.locks]
      exact (Leases.held_eq_some.mp (holds (lt_of_le_of_lt outside.forward running))).1
    · exact before
  stored name lease found := by
    rw [outside.locks] at found
    exact guarded.stored name lease found

theorem Guarded.idle {posts : List (LockPost Job)} (guarded : Guarded schedulerLockPrefix world posts)
    (task : LockTask Job) (rest : Prog LockCall TaskError Unit) :
    Guarded schedulerLockPrefix world (⟨⟨task, rest, []⟩, .entering⟩ :: posts) where
  drawn := guarded.drawn
  own post member lock set := by
    rcases List.mem_cons.mp member with rfl | old
    · simp [LockWorker.sets] at set
    · exact guarded.own post old lock set
  undone post member entry made := by
    rcases List.mem_cons.mp member with rfl | old
    · simp at made
    · exact guarded.undone post old entry made
  fits post member := by
    rcases List.mem_cons.mp member with rfl | old
    · rfl
    · exact guarded.fits post old
  stored name lease found := by
    obtain ⟨post, member, set⟩ := guarded.stored name lease found
    exact ⟨post, List.mem_cons_of_mem _ member, set⟩

/-- A worker that holds the lock has the lease that Redis keeps for it. -/
theorem LockStage.Fits.held {key : PyStr} {worker : LockWorker Job}
    (fits : stage.Fits key world worker) (holds : worker.Holds world.clock) :
    ∃ lease, (key, lease) ∈ worker.sets ∧ world.leases key = some lease := by
  obtain ⟨present, lock, told, running⟩ := holds
  rcases stage with _ | token | lease | _
  · rw [show worker.told = [] from fits] at told
    cases told
  · rw [fits.1] at told
    cases told
  · rw [fits.1, List.mem_singleton] at told
    subst told
    exact ⟨lease, fits.2.1, (Leases.held_eq_some.mp (fits.2.2 running)).1⟩
  · rcases fits with untold | left
    · rw [untold] at told
      cases told
    · rw [left] at present
      cases present

end

/-- At every moment at most one worker holds a lock, and no worker that leaves removes the key
of another one. -/
theorem task_lock_exclusive {Job : Type} {schedulerLockPrefix : PyStr}
    {jobs : Job → Bool → Prog Work TaskError Unit} {crew : LockCrew Job}
    (reached : crew.Reached schedulerLockPrefix jobs) (distinct : crew.shared.drawn.Nodup) :
    crew.threads.Pairwise fun worker other =>
      (worker.task.name = other.task.name →
        ¬ (LockWorker.Holds worker crew.shared.clock ∧ LockWorker.Holds other crew.shared.clock)) ∧
      LockWorker.Spares worker other ∧ LockWorker.Spares other worker := by
  obtain ⟨clock, fate, draw, path⟩ := reached
  have follows (task : LockTask Job) :
      (taskLock schedulerLockPrefix task.name task.ttl (jobs task.job)).Follows LockCall.handle
        (lockStaging (lockKey schedulerLockPrefix task.name)) Left .entering :=
    taskLock_follows schedulerLockPrefix task.name task.ttl (jobs task.job)
  have empty : Guarded schedulerLockPrefix (.idle clock fate draw) ([] : List (LockPost Job)) :=
    ⟨.nil, by simp, by simp, by simp, fun name lease found => by cases found⟩
  obtain ⟨posts, staffed, guarded, _⟩ := path.staged
    (fun world (posts : List (LockPost Job)) =>
      world.drawn.Nodup → Guarded schedulerLockPrefix world posts)
    follows (fun _ => empty) rfl (fun _ _ task kept distinct => (kept distinct).idle task _)
    (fun before after _ (outside : before.Outside schedulerLockPrefix after) kept distinct =>
      (kept (outside.drawn ▸ distinct)).outside outside)
    (fun _ _ _ _ _ => trivial)
    (fun call next world left right task log stage later kept moved distinct => by
      have earlier : world.drawn.Nodup := by
        rw [LockCall.handle_drawn] at distinct
        exact distinct.of_append_right
      exact (kept earlier).moves _ _ earlier moved)
  have kept := guarded distinct
  have nodup := kept.drawn.nodup_iff.mpr distinct
  rw [← staffed, List.pairwise_map]
  refine (List.nodup_flatMap.mp nodup).2.imp_of_mem fun {post other} first second apart => ?_
  have foreign {entry lock} {post other : LockPost Job} (first : post ∈ posts) (second : other ∈ posts)
      (apart : (LockWorker.drawn post.thread).Disjoint (LockWorker.drawn other.thread))
      (made : entry ∈ post.thread.log) (removed : LockEntry.Removes entry lock) :
      lock ∉ LockWorker.sets other.thread := fun set =>
    apart (kept.own post first lock (kept.undone post first entry made lock removed))
      (kept.own other second lock set)
  refine ⟨?_, fun entry made lock => foreign first second apart made,
    fun entry made lock => foreign second first apart.symm made⟩
  rintro sameName ⟨holds, also⟩
  obtain ⟨lease, set, stored⟩ := (kept.fits post first).held holds
  obtain ⟨_, otherSet, again⟩ := (kept.fits other second).held also
  rw [← sameName, stored] at again
  obtain rfl := Option.some.inj again
  have drew : lease.token ∈ LockWorker.drawn post.thread := kept.own post first _ set
  exact apart drew (kept.own other second _ otherSet)

/-! ### A late release -/

def plainJob (_ : Unit) (_ : Bool) : Prog Work TaskError Unit := .ret ()

def purgeTask : LockTask Unit := ⟨lit "purge", 120, ()⟩

def purgeWorker : LockWorker Unit :=
  ⟨purgeTask, taskLock (lit "hosting-service:scheduler") purgeTask.name purgeTask.ttl (plainJob ()), []⟩

/-- The first worker takes the lock. -/
def lockTaken : LockWorker Unit × LockWorld :=
  purgeWorker.after LockCall.handle 2 (.idle 0 .answered (lit "a1"))

/-- The lock of the first worker runs out, and the second one takes it. -/
def lockRetaken : LockWorker Unit × LockWorld :=
  purgeWorker.after LockCall.handle 2 { lockTaken.2 with clock := seconds 130, draw := lit "b2" }

/-- The first worker leaves, and the second one keeps the lock. -/
def lateRelease : LockCrew Unit :=
  let left := lockTaken.1.after LockCall.handle 1 lockRetaken.2
  ⟨left.2, [lockRetaken.1, left.1]⟩

theorem lateRelease_reached : lateRelease.Reached (lit "hosting-service:scheduler") plainJob := by
  refine ⟨0, .answered, lit "a1", .head (.arrive purgeTask) ?_⟩
  refine (Crew.Reaches.after 2 purgeWorker _ [] []).trans ?_
  refine .head (.change { lockTaken.2 with clock := seconds 130, draw := lit "b2" }
    ⟨by decide, fun _ => rfl, rfl⟩) (.head (.arrive purgeTask) ?_)
  refine (Crew.Reaches.after 2 purgeWorker _ [] [lockTaken.1]).trans ?_
  exact Crew.Reaches.after 1 lockTaken.1 lockRetaken.2 [lockRetaken.1] []

theorem task_lock_exclusive_late :
    lateRelease.threads.Pairwise fun worker other =>
      (worker.task.name = other.task.name →
        ¬ (LockWorker.Holds worker lateRelease.shared.clock ∧
          LockWorker.Holds other lateRelease.shared.clock)) ∧
      LockWorker.Spares worker other ∧ LockWorker.Spares other worker :=
  task_lock_exclusive lateRelease_reached (by decide)

end HostingService
