import HostingService.Actions.CompanyDeletion

/-! Requests that flag a company beside the runs that purge the flagged companies: what
became of a request when the flag is gone. -/

namespace HostingService

open Program Text

/-! ### Crews of requests and runs -/

inductive DeletionTask where
  | flag (companyId : Nat)
  | purge (maxSeconds : Time)

section
variable {HookCall : Type → Type 1} {φ : Type}

def DeletionTask.program (hook : Option (Nat → Prog (HookStep HookCall) DeletionError Unit)) :
    DeletionTask → DeletionProg HookCall Unit
  | .flag companyId => do
    let _ ← DeletionProg.flagCompanyDeletion companyId
  | .purge maxSeconds => do
    let _ ← DeletionProg.purgeDeletedCompanies hook maxSeconds

abbrev DeletionThread (HookCall : Type → Type 1) (φ : Type) :=
  Thread (DeletionCall HookCall) DeletionError (DeletionWorld φ) DeletionTask Unit

abbrev DeletionCrew (HookCall : Type → Type 1) (φ : Type) :=
  Crew (DeletionCall HookCall) DeletionError (DeletionWorld φ) DeletionTask Unit

/-- What happens beside the calls leaves the flags alone. -/
structure DeletionWorld.Beside (before after : DeletionWorld φ) : Prop where
  flags : after.flags = before.flags
  nextId : after.nextId = before.nextId
  sweeps : after.sweeps = before.sweeps
  marked : after.marked = before.marked
  moment : before.moment ≤ after.moment

def DeletionCrew.Reaches (hook : Option (Nat → Prog (HookStep HookCall) DeletionError Unit))
    (files : Handler HookCall DeletionError φ) :
    DeletionCrew HookCall φ → DeletionCrew HookCall φ → Prop :=
  Crew.Reaches (DeletionCall.handle files) (DeletionTask.program hook) DeletionWorld.Beside

/-- Primary keys are unique and not used again. -/
structure DeletionWorld.Keyed (world : DeletionWorld φ) : Prop where
  ids : (world.flags.map (·.id)).Nodup
  fresh : ∀ flag ∈ world.flags, flag.id < world.nextId

/-- The next statement raises an error. -/
def DeletionWorld.Broken (world : DeletionWorld φ) : Prop :=
  ∃ error faults, world.faults = some error :: faults

/-- A request for the company has returned, and this was its last call. -/
def DeletionThread.Asked (companyId moment : Nat) (thread : DeletionThread HookCall φ) : Prop :=
  thread.task = .flag companyId ∧ thread.rest = .ret () ∧
    thread.log.getLast?.map (·.state.moment) = some moment

def DeletionCrew.Asked (crew : DeletionCrew HookCall φ) (companyId moment : Nat) : Prop :=
  ∃ thread ∈ crew.threads, DeletionThread.Asked companyId moment thread

/-- What a call meets. The row that a request resets is still there. The row that a run takes
away has a completion time, and for some purge of its company no request has returned from
the beginning of the purge until the completion time was stored. -/
def DeletionCall.Timely (asked : Nat → Nat → Prop) :
    {β : Type} → DeletionCall HookCall β → DeletionWorld φ → Prop
  | _, .statement (.update id none), world => ¬world.Broken → ∃ flag ∈ world.flags, flag.id = id
  | _, .statement (.delete id), world => ¬world.Broken → ∀ flag ∈ world.flags, flag.id = id →
      flag.completedAt.isSome = true ∧ ∃ sweep ∈ world.sweeps, sweep.companyId = flag.companyId ∧
        ∀ moment, asked flag.companyId moment → sweep.began ≤ moment → world.marked id ≤ moment
  | _, _, _ => True

/-- A purge of the company began after that moment, and returned. -/
def DeletionWorld.PurgedSince (world : DeletionWorld φ) (companyId moment : Nat) : Prop :=
  ∃ sweep ∈ world.sweeps, sweep.companyId = companyId ∧ moment < sweep.began

/-! ### What becomes of a request -/

/-- The company was purged since, or its row is there, and its completion time is not older. -/
def DeletionWorld.Owes (world : DeletionWorld φ) (companyId moment : Nat) : Prop :=
  world.PurgedSince companyId moment ∨ ∃ flag ∈ world.flags, flag.companyId = companyId ∧
    (flag.completedAt = none ∨ moment < world.marked flag.id)

variable {files : Handler HookCall DeletionError φ} {world : DeletionWorld φ}

theorem handle_broken {β : Type} (query : DeletionStatement β) {error : DeletionError}
    {faults : List (Option DeletionError)} (broken : world.faults = some error :: faults) :
    DeletionCall.handle files β (.statement query) world =
      (.error error, { world.tick with faults }) := by
  rw [DeletionCall.handle, broken]

theorem handle_unbroken {β : Type} (query : DeletionStatement β) (unbroken : ¬world.Broken) :
    DeletionCall.handle files β (.statement query) world = (.ok (query.exec world).1,
      { (query.exec world).2.tick with faults := world.faults.tail }) := by
  rw [DeletionCall.handle]
  split
  · rename_i error faults broken
    exact absurd ⟨error, faults, broken⟩ unbroken
  · rfl

/-- Every call takes its moment. -/
theorem handle_moment {β : Type} (op : DeletionCall HookCall β) :
    (DeletionCall.handle files β op world).2.moment = world.moment + 1 := by
  cases op with
  | now => rfl
  | monotonic => rfl
  | hook op => rfl
  | began => rfl
  | swept flag since => rfl
  | statement query =>
    by_cases broken : world.Broken
    · obtain ⟨error, faults, broken⟩ := broken
      rw [handle_broken query broken]
      rfl
    · rw [handle_unbroken query broken]
      cases query with
      | getOrCreate companyId =>
        simp only [DeletionStatement.exec]
        split <;> rfl
      | _ => rfl

section
variable {companyId moment : Nat}

theorem DeletionWorld.Owes.mono {after : DeletionWorld φ} (owes : world.Owes companyId moment)
    (flags : ∀ flag ∈ world.flags, flag ∈ after.flags) (marked : after.marked = world.marked)
    (sweeps : ∀ sweep ∈ world.sweeps, sweep ∈ after.sweeps) : after.Owes companyId moment := by
  rcases owes with ⟨sweep, member, own, later⟩ | ⟨flag, member, own, unmarked⟩
  · exact .inl ⟨sweep, sweeps sweep member, own, later⟩
  · exact .inr ⟨flag, flags flag member, own, marked ▸ unmarked⟩

/-- What is owed to a request stays owed. -/
theorem DeletionWorld.Owes.handle {asked : Nat → Nat → Prop} (owes : world.Owes companyId moment)
    (past : moment < world.moment) (request : asked companyId moment) {β : Type}
    (op : DeletionCall HookCall β) (timely : op.Timely asked world) :
    (DeletionCall.handle files β op world).2.Owes companyId moment := by
  cases op with
  | now => exact owes
  | monotonic => exact owes
  | hook op => exact owes
  | began => exact owes
  | swept flag since =>
    exact owes.mono (fun _ => id) rfl fun _ => List.mem_append_left _
  | statement query =>
    by_cases broken : world.Broken
    · obtain ⟨error, faults, broken⟩ := broken
      rw [handle_broken query broken]
      exact owes
    · rw [handle_unbroken query broken]
      cases query with
      | flags => exact owes
      | deleteRows model companyId => exact owes
      | deleteApp id => exact owes
      | getOrCreate companyId =>
        simp only [DeletionStatement.exec]
        split
        · exact owes
        · exact owes.mono (fun _ => List.mem_append_left _) rfl fun _ => id
      | update id completedAt =>
        rcases owes with purged | ⟨flag, member, own, unmarked⟩
        · exact .inl purged
        · right
          refine ⟨if flag.id = id then { flag with completedAt := completedAt } else flag,
            List.mem_map_of_mem member, ?_⟩
          by_cases same : flag.id = id
          · rw [if_pos same]
            refine ⟨own, ?_⟩
            cases completedAt with
            | none => exact .inl rfl
            | some time =>
              right
              show moment < Function.update world.marked id world.moment flag.id
              rw [same, Function.update_self]
              exact past
          · rw [if_neg same]
            refine ⟨own, unmarked.imp_right fun earlier => ?_⟩
            cases completedAt with
            | none => exact earlier
            | some time =>
              show moment < Function.update world.marked id world.moment flag.id
              rw [Function.update_of_ne same]
              exact earlier
      | delete id =>
        rcases owes with purged | ⟨flag, member, own, unmarked⟩
        · exact .inl purged
        · by_cases same : flag.id = id
          · obtain ⟨completed, sweep, swept, ofCompany, quiet⟩ := timely broken flag member same
            have earlier : moment < world.marked id := by
              rcases unmarked with none | earlier
              · rw [none] at completed
                cases completed
              · exact same ▸ earlier
            refine .inl ⟨sweep, swept, ofCompany.trans own, Nat.lt_of_not_le fun late => ?_⟩
            exact absurd (quiet moment (own ▸ request) late) (Nat.not_le_of_lt earlier)
          · exact .inr ⟨flag, List.mem_filter.mpr ⟨member, by simpa using same⟩, own, unmarked⟩

end

/-! ### The stages of a request -/

inductive RequestStage where
  | asking
  | resetting (id : Nat)
  | returned (moment : Nat)
  | failed
  /-- No request. -/
  | other

/-- The calls of a request, and where they lead to. -/
inductive RequestMoves (companyId : Nat) (world : DeletionWorld φ) :
    ∀ β, DeletionCall HookCall β → RequestStage → RequestStage → Prop where
  | failed {β : Type} (query : DeletionStatement β) (stage : RequestStage)
      (pending : ∀ moment, stage ≠ .returned moment) (broken : world.Broken) :
      RequestMoves companyId world β (.statement query) stage .failed
  | unset (unbroken : ¬world.Broken)
      (none : ((DeletionStatement.getOrCreate companyId).exec world).1.completedAt = none) :
      RequestMoves companyId world DeletionFlag (.statement (.getOrCreate companyId)) .asking
        (.returned world.moment)
  | completed (unbroken : ¬world.Broken)
      (some : ((DeletionStatement.getOrCreate companyId).exec world).1.completedAt.isSome = true) :
      RequestMoves companyId world DeletionFlag (.statement (.getOrCreate companyId)) .asking
        (.resetting ((DeletionStatement.getOrCreate companyId).exec world).1.id)
  | reset (id : Nat) (unbroken : ¬world.Broken) :
      RequestMoves companyId world Unit (.statement (.update id none)) (.resetting id)
        (.returned world.moment)

def requestStaging (companyId : Nat) : Staging (DeletionCall HookCall) (DeletionWorld φ) RequestStage where
  holds _ _ := True
  moves β op stage world later := RequestMoves companyId world β op stage later

/-- A request returns with its last call, or fails. -/
theorem flagCompanyDeletion_follows (companyId : Nat) :
    (DeletionProg.flagCompanyDeletion companyId >>= fun _ => Prog.ret ()).Follows
      (DeletionCall.handle files) (requestStaging companyId)
      (fun result later => result = .ok () ↔ ∃ moment, later = .returned moment) .asking := by
  rw [DeletionProg.flagCompanyDeletion, Prog.bind_assoc]
  refine Prog.follows_perform_bind fun world _ => ?_
  by_cases broken : world.Broken
  · refine ⟨.failed, .failed _ _ (fun _ same => by cases same) broken, ?_, fun error _ => iff_of_false (by simp) (by simp)⟩
    obtain ⟨error, faults, broken⟩ := broken
    intro value answer
    rw [handle_broken _ broken] at answer
    cases answer
  · rw [handle_unbroken _ broken]
    cases time : ((DeletionStatement.getOrCreate companyId).exec world).1.completedAt with
    | none =>
      refine ⟨_, .unset broken time, fun flag answer => ?_, fun error answer => by cases answer⟩
      cases answer
      rw [time]
      exact iff_of_true rfl ⟨_, rfl⟩
    | some stored =>
      have some : ((DeletionStatement.getOrCreate companyId).exec world).1.completedAt.isSome = true := by
        rw [time]
        rfl
      refine ⟨_, .completed broken some, fun flag answer => ?_, fun error answer => by cases answer⟩
      cases answer
      rw [time, Prog.bind_assoc]
      refine Prog.follows_perform_bind fun later _ => ?_
      by_cases broken : later.Broken
      · refine ⟨.failed, .failed _ _ (fun _ same => by cases same) broken, ?_, fun error _ => iff_of_false (by simp) (by simp)⟩
        obtain ⟨error, faults, broken⟩ := broken
        intro value answer
        rw [handle_broken _ broken] at answer
        cases answer
      · rw [handle_unbroken _ broken]
        exact ⟨_, .reset _ broken, fun _ _ => iff_of_true rfl ⟨_, rfl⟩, fun error answer => by cases answer⟩

def DeletionTask.staging : DeletionTask → Staging (DeletionCall HookCall) (DeletionWorld φ) RequestStage
  | .flag companyId => requestStaging companyId
  | .purge _ => ⟨fun _ _ => True, fun _ _ _ _ later => later = .other⟩

def DeletionTask.first : DeletionTask → RequestStage
  | .flag _ => .asking
  | .purge _ => .other

theorem DeletionTask.follows (hook : Option (Nat → Prog (HookStep HookCall) DeletionError Unit))
    (task : DeletionTask) :
    (task.program hook).Follows (DeletionCall.handle files) task.staging
      (fun result later => later ≠ .other → (result = .ok () ↔ ∃ moment, later = .returned moment))
      task.first := by
  cases task with
  | flag companyId => exact (flagCompanyDeletion_follows companyId).mono fun _ _ ends _ => ends
  | purge maxSeconds =>
    refine (Prog.all_true _).follows (fun _ _ _ _ _ => rfl) fun result request => ?_
    exact absurd rfl request

/-! ### Runs -/

/-- Where the rows are from. -/
theorem handle_flags {β : Type} (op : DeletionCall HookCall β) :
    world.nextId ≤ (DeletionCall.handle files β op world).2.nextId ∧
      ∀ flag ∈ (DeletionCall.handle files β op world).2.flags,
        (∃ old ∈ world.flags, old.id = flag.id ∧ old.companyId = flag.companyId) ∨
          flag.id = world.nextId := by
  have same {after : DeletionWorld φ} (next : after.nextId = world.nextId)
      (flags : after.flags = world.flags) : world.nextId ≤ after.nextId ∧
        ∀ flag ∈ after.flags, (∃ old ∈ world.flags, old.id = flag.id ∧ old.companyId = flag.companyId) ∨
          flag.id = world.nextId :=
    ⟨next.ge, fun flag member => .inl ⟨flag, flags ▸ member, rfl, rfl⟩⟩
  cases op with
  | now => exact same rfl rfl
  | monotonic => exact same rfl rfl
  | hook op => exact same rfl rfl
  | began => exact same rfl rfl
  | swept flag since => exact same rfl rfl
  | statement query =>
    by_cases broken : world.Broken
    · obtain ⟨error, faults, broken⟩ := broken
      rw [handle_broken query broken]
      exact same rfl rfl
    · rw [handle_unbroken query broken]
      cases query with
      | flags => exact same rfl rfl
      | deleteRows model companyId => exact same rfl rfl
      | deleteApp id => exact same rfl rfl
      | getOrCreate companyId =>
        simp only [DeletionStatement.exec]
        split
        · exact same rfl rfl
        · refine ⟨Nat.le_succ _, fun flag member => ?_⟩
          rcases List.mem_append.mp member with old | new
          · exact .inl ⟨flag, old, rfl, rfl⟩
          · rw [List.mem_singleton.mp new]
            exact .inr rfl
      | update id completedAt =>
        refine ⟨Nat.le_refl _, fun flag member => .inl ?_⟩
        obtain ⟨old, present, ⟨rfl, _⟩ | ⟨rfl, _⟩⟩ := mem_update member
        · exact ⟨old, present, rfl, rfl⟩
        · exact ⟨flag, present, rfl, rfl⟩
      | delete id =>
        exact ⟨Nat.le_refl _, fun flag member => .inl ⟨flag, List.mem_of_mem_filter member, rfl, rfl⟩⟩

theorem DeletionWorld.Keyed.handle (keyed : world.Keyed) {β : Type} (op : DeletionCall HookCall β) :
    (DeletionCall.handle files β op world).2.Keyed := by
  cases op with
  | now => exact ⟨keyed.ids, keyed.fresh⟩
  | monotonic => exact ⟨keyed.ids, keyed.fresh⟩
  | hook op => exact ⟨keyed.ids, keyed.fresh⟩
  | began => exact ⟨keyed.ids, keyed.fresh⟩
  | swept flag since => exact ⟨keyed.ids, keyed.fresh⟩
  | statement query =>
    by_cases broken : world.Broken
    · obtain ⟨error, faults, broken⟩ := broken
      rw [handle_broken query broken]
      exact ⟨keyed.ids, keyed.fresh⟩
    · rw [handle_unbroken query broken]
      cases query with
      | flags => exact ⟨keyed.ids, keyed.fresh⟩
      | deleteRows model companyId => exact ⟨keyed.ids, keyed.fresh⟩
      | deleteApp id => exact ⟨keyed.ids, keyed.fresh⟩
      | getOrCreate companyId =>
        simp only [DeletionStatement.exec]
        split
        · exact ⟨keyed.ids, keyed.fresh⟩
        · constructor
          · have new : world.nextId ∉ world.flags.map (·.id) := by
              intro member
              obtain ⟨flag, present, same⟩ := List.mem_map.mp member
              exact absurd (keyed.fresh flag present) (by omega)
            show ((world.flags ++ [world.newFlag companyId]).map (·.id)).Nodup
            rw [List.map_append, List.map_singleton, ← List.concat_eq_append]
            exact keyed.ids.concat new
          · intro flag member
            rcases List.mem_append.mp member with old | new
            · exact Nat.lt_succ_of_lt (keyed.fresh flag old)
            · rw [List.mem_singleton.mp new]
              exact Nat.lt_succ_self _
      | update id completedAt =>
        constructor
        · have same : (Program.update (·.id = id) (fun flag => { flag with completedAt := completedAt })
              world.flags).map (·.id) = world.flags.map (·.id) := update_map fun _ _ _ => rfl
          exact same ▸ keyed.ids
        · intro flag member
          obtain ⟨old, present, ⟨rfl, _⟩ | ⟨rfl, _⟩⟩ := mem_update member
          · exact keyed.fresh old present
          · exact keyed.fresh flag present
      | delete id =>
        exact ⟨keyed.ids.sublist (List.filter_sublist.map _),
          fun flag member => keyed.fresh flag (List.mem_of_mem_filter member)⟩

abbrev DeletionPost (HookCall : Type → Type 1) (φ : Type) :=
  Program.Post (DeletionCall HookCall) DeletionError (DeletionWorld φ) DeletionTask RequestStage Unit

/-- A request of the company has returned. -/
def RequestReturned (posts : List (DeletionPost HookCall φ)) (companyId moment : Nat) : Prop :=
  ∃ post ∈ posts, post.thread.task = .flag companyId ∧ post.stage = .returned moment

/-- What a thread knows in its stage. -/
def RequestStage.Knows (stage : RequestStage) (thread : DeletionThread HookCall φ)
    (world : DeletionWorld φ) : Prop :=
  match stage with
  | .resetting id => id < world.nextId ∧ ∀ companyId, thread.task = .flag companyId →
      ∀ flag ∈ world.flags, flag.id = id → flag.companyId = companyId
  | .returned moment => moment < world.moment ∧
      thread.log.getLast?.map (·.state.moment) = some moment
  | .other => ∀ companyId, thread.task ≠ .flag companyId
  | _ => True

/-- The requests that have returned are owed a purge, where every call was timely. -/
structure RequestsOwed (world : DeletionWorld φ) (posts : List (DeletionPost HookCall φ)) : Prop where
  keyed : world.Keyed
  known : ∀ post ∈ posts, post.stage.Knows post.thread world
  owed : (∀ post ∈ posts, ∀ entry ∈ post.thread.log,
      entry.op.Timely (RequestReturned posts) entry.state) →
    ∀ companyId moment, RequestReturned posts companyId moment → world.Owes companyId moment

theorem RequestStage.Knows.later {stage : RequestStage} {thread : DeletionThread HookCall φ}
    {after : DeletionWorld φ} (knows : stage.Knows thread world)
    (next : world.nextId ≤ after.nextId) (moment : world.moment ≤ after.moment)
    (flags : ∀ flag ∈ after.flags,
      (∃ old ∈ world.flags, old.id = flag.id ∧ old.companyId = flag.companyId) ∨
        flag.id = world.nextId) : stage.Knows thread after := by
  cases stage with
  | resetting id =>
    obtain ⟨less, own⟩ := knows
    refine ⟨by omega, fun companyId task flag member same => ?_⟩
    rcases flags flag member with ⟨old, present, sameId, sameCompany⟩ | new
    · rw [← sameCompany]
      exact own companyId task old present (sameId.trans same)
    · omega
  | returned last =>
    obtain ⟨past, logged⟩ := knows
    exact ⟨by omega, logged⟩
  | other => exact knows
  | asking => trivial
  | failed => trivial

theorem DeletionCall.Timely.anti {fewer more : Nat → Nat → Prop}
    (included : ∀ companyId moment, fewer companyId moment → more companyId moment) {β : Type}
    {op : DeletionCall HookCall β} (timely : op.Timely more world) : op.Timely fewer world := by
  cases op with
  | statement query =>
    cases query with
    | update id completedAt =>
      cases completedAt with
      | none => exact timely
      | some time => trivial
    | delete id =>
      intro unbroken flag member same
      obtain ⟨completed, sweep, swept, own, quiet⟩ := timely unbroken flag member same
      exact ⟨completed, sweep, swept, own, fun moment asked => quiet moment (included _ _ asked)⟩
    | _ => trivial
  | _ => trivial

theorem getOrCreate_found (companyId : Nat) :
    ((DeletionStatement.getOrCreate companyId).exec world).1 ∈
        ((DeletionStatement.getOrCreate companyId).exec world).2.flags ∧
      ((DeletionStatement.getOrCreate companyId).exec world).1.companyId = companyId := by
  simp only [DeletionStatement.exec]
  split
  · rename_i flag found
    exact ⟨List.mem_of_find?_eq_some found, by simpa using List.find?_some found⟩
  · exact ⟨List.mem_append_right _ (List.mem_singleton.mpr rfl), rfl⟩

/-- What a thread knows after its own call. -/
theorem RequestMoves.knows {companyId : Nat} {stage later : RequestStage} {β : Type}
    {op : DeletionCall HookCall β} {next : Prog (DeletionCall HookCall) DeletionError Unit}
    {log : List (Entry (DeletionCall HookCall) (DeletionWorld φ))} (keyed : world.Keyed)
    (moved : RequestMoves companyId world β op stage later) :
    later.Knows ⟨.flag companyId, next, log ++ [⟨op, world⟩]⟩
      (DeletionCall.handle files β op world).2 := by
  have past {β : Type} (op : DeletionCall HookCall β) : world.moment <
      (DeletionCall.handle files β op world).2.moment ∧
        (log ++ [(⟨op, world⟩ : Entry (DeletionCall HookCall) (DeletionWorld φ))]).getLast?.map
          (·.state.moment) = some world.moment := by
    rw [handle_moment, List.getLast?_concat]
    exact ⟨Nat.lt_succ_self _, rfl⟩
  cases moved with
  | failed query stage pending broken => trivial
  | unset unbroken none => exact past _
  | reset id unbroken => exact past _
  | completed unbroken some =>
    obtain ⟨found, own⟩ := @getOrCreate_found φ world companyId
    have after := @DeletionWorld.Keyed.handle HookCall φ files world keyed _
      (.statement (.getOrCreate companyId))
    rw [handle_unbroken _ unbroken] at after ⊢
    refine ⟨after.fresh _ found, fun other task flag member same => ?_⟩
    cases task
    rw [List.inj_on_of_nodup_map after.ids member found same]
    exact own

/-- What a request is owed when it returns. -/
theorem RequestMoves.owes {companyId moment : Nat} {stage : RequestStage} {β : Type}
    {op : DeletionCall HookCall β} {thread : DeletionThread HookCall φ} {asked : Nat → Nat → Prop}
    (own : thread.task = .flag companyId) (knows : stage.Knows thread world)
    (timely : op.Timely asked world)
    (moved : RequestMoves companyId world β op stage (.returned moment)) :
    (DeletionCall.handle files β op world).2.Owes companyId moment := by
  cases moved with
  | unset unbroken none =>
    obtain ⟨found, same⟩ := @getOrCreate_found φ world companyId
    rw [handle_unbroken _ unbroken]
    exact .inr ⟨_, found, same, .inl none⟩
  | reset id unbroken =>
    obtain ⟨flag, member, same⟩ := timely unbroken
    rw [handle_unbroken _ unbroken]
    refine .inr ⟨if flag.id = id then { flag with completedAt := none } else flag,
      List.mem_map_of_mem member, ?_⟩
    rw [if_pos same]
    exact ⟨knows.2 companyId own flag member same, .inl rfl⟩

theorem RequestsOwed.advance {left right : List (DeletionPost HookCall φ)} {task : DeletionTask}
    {stage later : RequestStage} {β : Type} {op : DeletionCall HookCall β}
    {next : Except DeletionError β → Prog (DeletionCall HookCall) DeletionError Unit}
    {log : List (Entry (DeletionCall HookCall) (DeletionWorld φ))}
    (owed : RequestsOwed world (left ++ ⟨⟨task, .call op next, log⟩, stage⟩ :: right))
    (moved : (task.staging : Staging (DeletionCall HookCall) (DeletionWorld φ) RequestStage).moves β op
      stage world later) :
    RequestsOwed (DeletionCall.handle files β op world).2
      (left ++ ⟨⟨task, next (DeletionCall.handle files β op world).1, log ++ [⟨op, world⟩]⟩, later⟩ ::
        right) := by
  obtain ⟨nextId, flags⟩ := @handle_flags HookCall φ files world β op
  have moment : world.moment ≤ (DeletionCall.handle files β op world).2.moment := by
    rw [handle_moment]
    exact Nat.le_succ _
  have pending (last : Nat) (companyId : Nat) (same : task = .flag companyId) :
      stage ≠ .returned last := by
    subst same
    cases moved with
    | failed query stage pending broken => exact pending last
    | unset | completed | reset => intro same; cases same
  have more (companyId last : Nat)
      (returned : RequestReturned (left ++ ⟨⟨task, .call op next, log⟩, stage⟩ :: right) companyId last) :
      ∃ post ∈ left ++ right, post.thread.task = .flag companyId ∧ post.stage = .returned last := by
    obtain ⟨post, member, own, ended⟩ := returned
    rcases mem_middle.mp member with rfl | other
    · exact absurd ended (pending last companyId own)
    · exact ⟨post, other, own, ended⟩
  have included (companyId last : Nat)
      (returned : RequestReturned (left ++ ⟨⟨task, .call op next, log⟩, stage⟩ :: right) companyId last) :
      RequestReturned (left ++ ⟨⟨task, next (DeletionCall.handle files β op world).1,
        log ++ [⟨op, world⟩]⟩, later⟩ :: right) companyId last := by
    obtain ⟨post, other, own, ended⟩ := more companyId last returned
    exact ⟨post, mem_middle.mpr (.inr other), own, ended⟩
  constructor
  · exact owed.keyed.handle op
  · intro post member
    rcases mem_middle.mp member with rfl | other
    · cases task with
      | flag companyId => exact RequestMoves.knows owed.keyed moved
      | purge maxSeconds =>
        cases moved
        intro companyId same
        cases same
    · exact (owed.known post (mem_middle.mpr (.inr other))).later nextId moment flags
  · intro timely companyId last returned
    have now : op.Timely (RequestReturned (left ++ ⟨⟨task, next (DeletionCall.handle files β op world).1,
        log ++ [⟨op, world⟩]⟩, later⟩ :: right)) world :=
      timely _ (mem_middle.mpr (.inl rfl)) ⟨op, world⟩ (List.mem_append_right _ (List.mem_singleton.mpr rfl))
    obtain ⟨post, member, own, ended⟩ := returned
    rcases mem_middle.mp member with rfl | other
    · cases own
      cases ended
      have knows := owed.known _ (mem_middle.mpr (.inl rfl))
      exact RequestMoves.owes rfl knows now moved
    · have before : RequestReturned (left ++ ⟨⟨task, .call op next, log⟩, stage⟩ :: right) companyId last :=
        ⟨post, mem_middle.mpr (.inr other), own, ended⟩
      have knows := owed.known post (mem_middle.mpr (.inr other))
      rw [ended] at knows
      have earlier := owed.owed (fun post member entry made => ?_) companyId last before
      · exact earlier.handle knows.1 (included companyId last before) op now
      · refine DeletionCall.Timely.anti included ?_
        rcases mem_middle.mp member with rfl | other
        · exact timely _ (mem_middle.mpr (.inl rfl)) entry (List.mem_append_left _ made)
        · exact timely post (mem_middle.mpr (.inr other)) entry made

/-- No purge has been made yet. -/
structure DeletionWorld.Initial (world : DeletionWorld φ) : Prop extends world.Keyed where
  sweeps : world.sweeps = []

theorem RequestsOwed.arrive {posts : List (DeletionPost HookCall φ)} (owed : RequestsOwed world posts)
    (task : DeletionTask) (body : Prog (DeletionCall HookCall) DeletionError Unit) :
    RequestsOwed world (⟨⟨task, body, []⟩, task.first⟩ :: posts) := by
  have same (companyId moment : Nat) :
      RequestReturned (⟨⟨task, body, []⟩, task.first⟩ :: posts) companyId moment ↔
        RequestReturned posts companyId moment := by
    rw [RequestReturned, List.exists_mem_cons_iff]
    exact or_iff_right fun ⟨_, ended⟩ => by cases task <;> cases ended
  refine ⟨owed.keyed, fun post member => ?_, fun timely companyId moment returned => ?_⟩
  · rcases List.mem_cons.mp member with rfl | old
    · cases task with
      | flag companyId => trivial
      | purge maxSeconds =>
        intro companyId same
        cases same
    · exact owed.known post old
  · refine owed.owed (fun post member entry made => ?_) companyId moment ((same _ _).mp returned)
    exact (timely post (List.mem_cons_of_mem _ member) entry made).anti fun _ _ => (same _ _).mpr

theorem RequestsOwed.beside {posts : List (DeletionPost HookCall φ)} {after : DeletionWorld φ}
    (owed : RequestsOwed world posts) (beside : world.Beside after) : RequestsOwed after posts := by
  refine ⟨⟨?_, ?_⟩, fun post member => ?_, fun timely companyId moment returned => ?_⟩
  · exact beside.flags ▸ owed.keyed.ids
  · exact beside.nextId ▸ beside.flags ▸ owed.keyed.fresh
  · refine (owed.known post member).later beside.nextId.ge beside.moment fun flag present => ?_
    exact .inl ⟨flag, beside.flags ▸ present, rfl, rfl⟩
  · refine (owed.owed timely companyId moment returned).mono (fun _ => ?_) beside.marked fun _ => ?_
    · exact fun member => beside.flags ▸ member
    · exact fun member => beside.sweeps ▸ member

theorem RequestsOwed.reached {hook : Option (Nat → Prog (HookStep HookCall) DeletionError Unit)}
    {start crew : DeletionCrew HookCall φ} (keyed : start.shared.Keyed) (idle : start.threads = [])
    (reached : DeletionCrew.Reaches hook files start crew) :
    ∃ posts : List (DeletionPost HookCall φ), posts.map (·.thread) = crew.threads ∧
      RequestsOwed crew.shared posts ∧
      ∀ companyId moment, RequestReturned posts companyId moment ↔ crew.Asked companyId moment := by
  obtain ⟨posts, staffed, owed, running⟩ := reached.staged RequestsOwed
    (DeletionTask.follows hook) ⟨keyed, by simp, by simp [RequestReturned]⟩ idle
    (fun state posts task owed => owed.arrive task _)
    (fun before after posts beside owed => owed.beside beside)
    (fun state posts _ post _ => by cases post.thread.task <;> trivial)
    (fun op next state left right task log stage later owed moved => owed.advance moved)
  refine ⟨posts, staffed, owed, fun companyId moment => ?_⟩
  have ends {post : DeletionPost HookCall φ} (member : post ∈ posts)
      (own : post.thread.task = .flag companyId) (value : Except DeletionError Unit)
      (finished : post.thread.rest = Prog.ofExcept value) :
      value = .ok () ↔ ∃ moment, post.stage = .returned moment := by
    have follows := running post member
    have request : post.stage ≠ .other := by
      intro other
      have known := owed.known post member
      rw [other] at known
      exact known companyId own
    rw [finished] at follows
    cases value <;> exact follows request
  constructor
  · rintro ⟨post, member, own, returned⟩
    have known := owed.known post member
    rw [returned] at known
    refine ⟨post.thread, staffed ▸ List.mem_map_of_mem member, own, ?_, known.2⟩
    cases rest : post.thread.rest with
    | ret value => rfl
    | raise error => cases (ends member own (.error error) rest).mpr ⟨moment, returned⟩
    | call op next =>
      have follows := running post member
      rw [rest, returned, own] at follows
      obtain ⟨later, moved, _⟩ := follows crew.shared trivial
      cases moved with
      | failed query stage pending broken => exact absurd rfl (pending moment)
  · rintro ⟨thread, member, own, finished, last⟩
    obtain ⟨post, present, rfl⟩ := List.mem_map.mp (staffed ▸ member)
    obtain ⟨other, returned⟩ := (ends present own (.ok ()) finished).mp rfl
    have known := owed.known post present
    rw [returned] at known
    rw [known.2] at last
    cases last
    exact ⟨post, present, own, returned⟩

/-- Where every call meets what it should, no request is lost: when the flag of a company is
gone, a purge of the company began after the request had returned. -/
theorem deletion_requests_kept {hook : Option (Nat → Prog (HookStep HookCall) DeletionError Unit)}
    {start crew : DeletionCrew HookCall φ} (initial : start.shared.Initial) (idle : start.threads = [])
    (reached : DeletionCrew.Reaches hook files start crew)
    (timely : crew.Logged fun entry => entry.op.Timely crew.Asked entry.state) {companyId : Nat}
    (gone : ∀ flag ∈ crew.shared.flags, flag.companyId ≠ companyId) {moment : Nat}
    (asked : crew.Asked companyId moment) : crew.shared.PurgedSince companyId moment := by
  obtain ⟨posts, staffed, owed, same⟩ := RequestsOwed.reached initial.toKeyed idle reached
  have every : ∀ post ∈ posts, ∀ entry ∈ post.thread.log,
      entry.op.Timely (RequestReturned posts) entry.state := by
    intro post member entry made
    have logged := timely post.thread (staffed ▸ List.mem_map_of_mem member) entry made
    exact logged.anti fun _ _ => (same _ _).mp
  rcases owed.owed every companyId moment ((same _ _).mpr asked) with purged | ⟨flag, member, own, _⟩
  · exact purged
  · exact absurd own (gone flag member)

end

/-! ### A company that is asked for -/

/-- No hook is configured. -/
def NoHookCall : Type → Type 1 := fun _ => PEmpty

def noHook : Option (Nat → Prog (HookStep NoHookCall) DeletionError Unit) := none

def noFiles : Handler NoHookCall DeletionError Unit := fun _ op _ => op.elim

def noDeletions : DeletionWorld Unit where
  flags := []
  nextId := 1
  rows := []
  files := ()
  clock := 0
  monotonic := 0
  faults := []
  moment := 0
  written := []
  sweeps := []
  marked := fun _ => 0

def fiftySeconds : Time := 50 * microsecondsPerSecond

/-- A task that makes some of its calls. -/
def DeletionWorld.works (world : DeletionWorld Unit) (task : DeletionTask) (calls : Nat) :
    DeletionThread NoHookCall Unit × DeletionWorld Unit :=
  Thread.after (DeletionCall.handle noFiles) calls ⟨task, task.program noHook, []⟩ world

theorem DeletionWorld.joined (world : DeletionWorld Unit) (task : DeletionTask) (calls : Nat)
    {outside : DeletionWorld Unit → DeletionWorld Unit → Prop}
    (threads : List (DeletionThread NoHookCall Unit)) :
    Crew.Reaches (DeletionCall.handle noFiles) (DeletionTask.program noHook) outside ⟨world, threads⟩
      ⟨(world.works task calls).2, (world.works task calls).1 :: threads⟩ :=
  Crew.Reaches.joins task calls world threads

/-- A request, and the run that purges the company. -/
def purgedWorld : DeletionWorld Unit :=
  ((noDeletions.works (.flag 3) 1).2.works (.purge fiftySeconds) 13).2

def purgedLater : DeletionWorld Unit := { purgedWorld with clock := 2 * sweepWindow }

/-- A run takes the flag away two hours later. -/
def purgedOnce : DeletionCrew NoHookCall Unit :=
  ⟨(purgedLater.works (.purge fiftySeconds) 5).2, [(purgedLater.works (.purge fiftySeconds) 5).1,
    ((noDeletions.works (.flag 3) 1).2.works (.purge fiftySeconds) 13).1,
    (noDeletions.works (.flag 3) 1).1]⟩

theorem purgedOnce_reached : DeletionCrew.Reaches noHook noFiles ⟨noDeletions, []⟩ purgedOnce := by
  refine .trans (noDeletions.joined (.flag 3) 1 []) (.trans (DeletionWorld.joined _ (.purge fiftySeconds) 13 _) ?_)
  refine .head (.change purgedLater ⟨rfl, rfl, rfl, rfl, Nat.le_refl _⟩) ?_
  exact purgedLater.joined (.purge fiftySeconds) 5 _

/-- Neither a reset nor a release. -/
def DeletionCall.isOther : {β : Type} → DeletionCall NoHookCall β → Bool
  | _, .statement (.update _ none) => false
  | _, .statement (.delete _) => false
  | _, _ => true

theorem DeletionCall.Timely.of_other {asked : Nat → Nat → Prop} {world : DeletionWorld Unit} {β : Type}
    {op : DeletionCall NoHookCall β} (other : op.isOther = true) : op.Timely asked world := by
  cases op with
  | statement query =>
    cases query with
    | update id completedAt =>
      cases completedAt with
      | none => cases other
      | some time => trivial
    | delete id => cases other
    | _ => trivial
  | _ => trivial

theorem purgedOnce_asked {moment : Nat} (asked : purgedOnce.Asked 3 moment) : moment = 0 := by
  obtain ⟨thread, member, own, _, last⟩ := asked
  simp only [purgedOnce, List.mem_cons, List.not_mem_nil, or_false] at member
  rcases member with rfl | rfl | rfl
  · cases own
  · cases own
  · exact (Option.some.inj last).symm

theorem purgedOnce_timely : purgedOnce.Logged fun entry => entry.op.Timely purgedOnce.Asked entry.state := by
  have others {log : List (Entry (DeletionCall NoHookCall) (DeletionWorld Unit))}
      (plain : log.all (·.op.isOther) = true) :
      ∀ entry ∈ log, entry.op.Timely purgedOnce.Asked entry.state :=
    fun entry made => .of_other (List.all_eq_true.mp plain entry made)
  have release (world : DeletionWorld Unit) (flags : world.flags = [⟨⟨3, some 0⟩, 1, 0⟩])
      (sweeps : world.sweeps = [⟨1, 3, 5, 0⟩]) :
      (.statement (.delete 1) : DeletionCall NoHookCall Unit).Timely purgedOnce.Asked world := by
    intro _ flag member _
    rw [flags] at member
    cases List.mem_singleton.mp member
    refine ⟨rfl, ⟨1, 3, 5, 0⟩, by simp [sweeps], rfl, fun moment asked late => ?_⟩
    rw [purgedOnce_asked asked] at late
    exact absurd late (by decide)
  refine List.forall_mem_cons.mpr ⟨?_, List.forall_mem_cons.mpr ⟨others rfl, List.forall_mem_cons.mpr
    ⟨others rfl, fun _ none => absurd none List.not_mem_nil⟩⟩⟩
  intro entry made
  rcases List.mem_append.mp (show entry ∈ (purgedLater.works (.purge fiftySeconds) 4).1.log ++
    [⟨.statement (.delete 1), (purgedLater.works (.purge fiftySeconds) 4).2⟩] from made) with other | last
  · exact others rfl entry other
  · rw [List.mem_singleton.mp last]
    exact release _ rfl rfl

theorem deletion_requests_kept_purged : purgedOnce.shared.PurgedSince 3 0 := by
  have asked : purgedOnce.Asked 3 0 := ⟨_, .tail _ (.tail _ (.head _)), rfl, rfl, rfl⟩
  exact deletion_requests_kept ⟨⟨by decide, by simp [noDeletions]⟩, rfl⟩ rfl purgedOnce_reached
    purgedOnce_timely (by decide +kernel) asked

/-- The flag of a company that was purged long ago. -/
def oldDeletion : DeletionWorld Unit :=
  { noDeletions with flags := [⟨⟨3, some 0⟩, 1, 0⟩], nextId := 2, clock := 2 * sweepWindow }

/-- A request comes when a run has read the rows, and before it takes the flag away. -/
def overtakenRequest : DeletionCrew NoHookCall Unit :=
  let reading := oldDeletion.works (.purge fiftySeconds) 4
  let asked := reading.2.works (.flag 3) 2
  let released := reading.1.after (DeletionCall.handle noFiles) 1 asked.2
  ⟨released.2, [asked.1, released.1]⟩

theorem overtakenRequest_reached :
    DeletionCrew.Reaches noHook noFiles ⟨oldDeletion, []⟩ overtakenRequest := by
  refine .trans (oldDeletion.joined (.purge fiftySeconds) 4 []) (.trans (DeletionWorld.joined _ (.flag 3) 2 _) ?_)
  exact Crew.Reaches.after 1 _ _ [_] []

/-- The flag is taken away, and the company is not purged again. -/
theorem deletion_request_lost : oldDeletion.Initial ∧
    DeletionCrew.Reaches noHook noFiles ⟨oldDeletion, []⟩ overtakenRequest ∧
    (∀ flag ∈ overtakenRequest.shared.flags, flag.companyId ≠ 3) ∧ overtakenRequest.Asked 3 5 ∧
    ¬overtakenRequest.shared.PurgedSince 3 5 := by
  refine ⟨⟨⟨by decide, by simp [oldDeletion]⟩, rfl⟩, overtakenRequest_reached, ?_, ?_, ?_⟩
  · decide +kernel
  · exact ⟨_, .head _, rfl, rfl, rfl⟩
  · rintro ⟨sweep, member, _⟩
    exact absurd member List.not_mem_nil

end HostingService
