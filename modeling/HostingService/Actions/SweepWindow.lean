import HostingService.Actions.DeletionRequests

/-! What is left of the rows of a company when its flag is taken away. -/

namespace HostingService

open Program Text

section
variable {HookCall : Type → Type 1} {φ : Type}

/-! ### Rows and purges -/

def DeletionWorld.newRow (world : DeletionWorld φ) (model : CompanyModel) (id companyId : Nat) :
    CompanyRow := ⟨model, id, companyId, world.clock, world.moment⟩

/-- What happens beside the calls: time passes, a row is written, rows are deleted. -/
inductive DeletionWorld.Passes : DeletionWorld φ → DeletionWorld φ → Prop where
  | time {world : DeletionWorld φ} (clock monotonic : Time) (forward : world.clock ≤ clock) :
      Passes world { world with clock, monotonic }
  | write {world : DeletionWorld φ} (model : CompanyModel) (id companyId : Nat) :
      Passes world { world with
        rows := world.rows ++ [world.newRow model id companyId]
        written := world.written ++ [world.newRow model id companyId]
        moment := world.moment + 1 }
  | delete {world : DeletionWorld φ} (keep : CompanyRow → Bool) :
      Passes world { world with rows := world.rows.filter keep }
  | elsewhere {world : DeletionWorld φ} (files : φ) (faults : List (Option DeletionError)) :
      Passes world { world with files, faults }

def DeletionCrew.Runs (hook : Option (Nat → Prog (HookStep HookCall) DeletionError Unit))
    (files : Handler HookCall DeletionError φ) :
    DeletionCrew HookCall φ → DeletionCrew HookCall φ → Prop :=
  Crew.Reaches (DeletionCall.handle files) (DeletionTask.program hook) DeletionWorld.Passes

/-- Rows are recorded when they are written, and a purge leaves no row from before. -/
structure DeletionWorld.Swept (world : DeletionWorld φ) : Prop where
  recorded : ∀ row ∈ world.rows, row ∈ world.written
  past : ∀ sweep ∈ world.sweeps, sweep.began ≤ world.moment
  clean : ∀ sweep ∈ world.sweeps, ∀ row ∈ world.rows, row.companyId = sweep.companyId →
    sweep.began ≤ row.moment

inductive SweepStage where
  | idle
  /-- A purge that began at that moment, and has deleted the rows of these models. -/
  | sweeping (companyId began : Nat) (done : List CompanyModel)

def SweepStage.Finds (stage : SweepStage) (world : DeletionWorld φ) : Prop :=
  match stage with
  | .idle => True
  | .sweeping companyId began done => began ≤ world.moment ∧
      ∀ row ∈ world.rows, row.companyId = companyId → row.model ∈ done → began ≤ row.moment

/-- Any call but the note that a purge has returned. -/
def DeletionCall.Silent : ∀ β, DeletionCall HookCall β → Prop
  | _, .swept _ _ => False
  | _, _ => True

inductive SweepMoves (world : DeletionWorld φ) :
    ∀ β, DeletionCall HookCall β → SweepStage → SweepStage → Prop where
  | began (companyId : Nat) (stage : SweepStage) :
      SweepMoves world Nat .began stage (.sweeping companyId world.moment [])
  | deleted (model : CompanyModel) (companyId began : Nat) (done : List CompanyModel)
      (unbroken : ¬world.Broken) :
      SweepMoves world Nat (.statement (.deleteRows model companyId)) (.sweeping companyId began done)
        (.sweeping companyId began (model :: done))
  | swept (flag : DeletionFlag) (began : Nat) (done : List CompanyModel)
      (every : ∀ model, model ∈ done) :
      SweepMoves world Unit (.swept flag began) (.sweeping flag.companyId began done) .idle
  | stays {β : Type} (op : DeletionCall HookCall β) (stage : SweepStage) (silent : op.Silent β) :
      SweepMoves world β op stage stage

def sweepStaging : Staging (DeletionCall HookCall) (DeletionWorld φ) SweepStage where
  holds _ _ := True
  moves β op stage world later := SweepMoves world β op stage later

/-! ### The purge by its stages -/

variable {files : Handler HookCall DeletionError φ}

theorem follows_silent {α : Type} {body : DeletionProg HookCall α} {stage : SweepStage}
    {ends : Except DeletionError α → SweepStage → Prop} (silent : body.All DeletionCall.Silent)
    (ended : ∀ result, ends result stage) :
    body.Follows (DeletionCall.handle files) sweepStaging ends stage :=
  silent.follows (fun _ op _ silent _ => .stays op _ silent) ended

/-- The rows of each model are deleted, or the model is protected. -/
def PassEnds (companyId began : Nat) (done models : List CompanyModel)
    (result : Except DeletionError (Nat × List CompanyModel)) (later : SweepStage) : Prop :=
  ∃ more, later = .sweeping companyId began more ∧ done ⊆ more ∧
    ∀ answer, result = .ok answer → ∀ model ∈ models, model ∈ answer.2 ∨ model ∈ more

section
variable {companyId began : Nat} {done models : List CompanyModel}

theorem PassEnds.error {later : SweepStage} (error : DeletionError) {more : List CompanyModel}
    (grown : done ⊆ more) (same : later = .sweeping companyId began more) :
    PassEnds companyId began done models (.error error) later :=
  ⟨more, same, grown, fun _ same => nomatch same⟩

theorem deleteRows_follows (model : CompanyModel) :
    (Prog.tryCatch (do return (← DeletionProg.statement (.deleteRows model companyId), []))
      fun
        | .protectedError => return (0, [model])
        | error => throw error).Follows (DeletionCall.handle files) sweepStaging
      (PassEnds companyId began done [model]) (.sweeping companyId began done) := by
  have asked : (do return (← DeletionProg.statement (.deleteRows model companyId), []) :
      DeletionProg HookCall (Nat × List CompanyModel)).Follows (DeletionCall.handle files) sweepStaging
      (fun result later => ∃ more, later = .sweeping companyId began more ∧ done ⊆ more ∧
        ∀ answer, result = .ok answer → model ∈ more) (.sweeping companyId began done) := by
    refine Prog.follows_perform_bind fun world _ => ?_
    by_cases broken : world.Broken
    · obtain ⟨error, faults, broken⟩ := broken
      rw [handle_broken _ broken]
      exact ⟨_, .stays _ _ trivial, nofun, fun _ _ => ⟨done, rfl, List.Subset.refl done, nofun⟩⟩
    · rw [handle_unbroken _ broken]
      refine ⟨_, .deleted model companyId began done broken, fun _ _ => ?_, nofun⟩
      exact ⟨_, rfl, List.subset_cons_self model done, fun _ _ => List.mem_cons_self⟩
  refine asked.tryCatch ?_ ?_
  · rintro value later ⟨more, rfl, grown, deleted⟩
    refine ⟨more, rfl, grown, fun answer same other member => .inr ?_⟩
    rw [List.mem_singleton.mp member]
    exact deleted value rfl
  · rintro error later ⟨more, rfl, grown, -⟩
    cases error with
    | protectedError =>
      refine ⟨more, rfl, grown, fun answer same other member => .inl ?_⟩
      cases same
      exact member
    | runtimeError _ _ => exact .error _ grown rfl
    | raised _ => exact .error _ grown rfl

theorem deletePass_follows :
    (DeletionProg.deletePass companyId models).Follows (DeletionCall.handle files) sweepStaging
      (PassEnds companyId began done models) (.sweeping companyId began done) := by
  induction models generalizing done with
  | nil => exact ⟨done, rfl, List.Subset.refl done, fun _ _ _ none => absurd none List.not_mem_nil⟩
  | cons model models ih =>
    rw [DeletionProg.deletePass]
    refine (deleteRows_follows model).bind ?_ ?_
    · rintro error later ⟨more, rfl, grown, -⟩
      exact .error _ grown rfl
    · rintro ⟨count, blocked⟩ later ⟨more, rfl, grown, first⟩
      refine ih.bind ?_ ?_
      · rintro error later ⟨most, rfl, larger, -⟩
        exact .error _ (List.Subset.trans grown larger) rfl
      · rintro ⟨others, rest⟩ later ⟨most, rfl, larger, second⟩
        refine ⟨most, rfl, List.Subset.trans grown larger, fun answer same other member => ?_⟩
        cases same
        rcases List.mem_cons.mp member with rfl | member
        · rcases first _ rfl other List.mem_cons_self with one | two
          · exact .inl (List.mem_append_left _ one)
          · exact .inr (larger two)
        · rcases second _ rfl other member with one | two
          · exact .inl (List.mem_append_right _ one)
          · exact .inr two

/-- The passes end when no model is left. -/
theorem deletePasses_follows (attempts deleted : Nat)
    (rest : ∀ model, model ∈ models ∨ model ∈ done) :
    (DeletionProg.deletePasses companyId attempts models deleted).Follows (DeletionCall.handle files)
      sweepStaging (fun result later => ∀ count, result = .ok count →
        ∃ more, later = .sweeping companyId began more ∧ ∀ model, model ∈ more)
      (.sweeping companyId began done) := by
  induction attempts generalizing models done deleted with
  | zero => exact nofun
  | succ attempts ih =>
    rw [DeletionProg.deletePasses]
    refine deletePass_follows.bind (fun _ _ _ => nofun) ?_
    rintro ⟨count, blocked⟩ later ⟨more, rfl, grown, passed⟩
    have left : ∀ model, model ∈ blocked ∨ model ∈ more := fun model => by
      rcases rest model with tried | before
      · exact passed _ rfl model tried
      · exact .inr (grown before)
    dsimp only
    by_cases finished : blocked = []
    · rw [if_pos finished]
      rw [finished] at left
      exact fun _ _ => ⟨more, rfl, fun model => (left model).resolve_left List.not_mem_nil⟩
    · rw [if_neg finished]
      exact ih _ left

theorem purgeCompany_follows (hook : Option (Nat → Prog (HookStep HookCall) DeletionError Unit)) :
    (DeletionProg.purgeCompany hook companyId).Follows (DeletionCall.handle files) sweepStaging
      (fun result later => ∀ count, result = .ok count →
        ∃ more, later = .sweeping companyId began more ∧ ∀ model, model ∈ more)
      (.sweeping companyId began []) := by
  have every : ∀ model, model ∈ companyScopedModels ∨ model ∈ ([] : List CompanyModel) :=
    fun model => .inl (mem_companyScopedModels model)
  unfold DeletionProg.purgeCompany
  cases hook with
  | none => exact deletePasses_follows _ _ every
  | some hook =>
    have silent : ((hook companyId).hoist HookStep.call).All DeletionCall.Silent :=
      Prog.all_hoist.mpr ((Prog.all_true _).mono fun _ op _ => by cases op <;> trivial)
    refine Prog.Follows.bind (follows_silent silent fun _ => rfl) (fun _ _ _ => nofun) ?_
    rintro _ later rfl
    exact deletePasses_follows _ _ every

end

/-- The note that a purge has returned stands where every model was swept. -/
theorem sweep_follows (hook : Option (Nat → Prog (HookStep HookCall) DeletionError Unit))
    (row : DeletionFlag) (stage : SweepStage) :
    (DeletionProg.sweep hook row).Follows (DeletionCall.handle files) sweepStaging
      (fun _ _ => True) stage := by
  unfold DeletionProg.sweep
  refine Prog.follows_perform_bind fun world _ => ⟨_, .began row.companyId stage, ?_, nofun⟩
  intro began answer
  cases answer
  have purged : (do
      let _ ← DeletionProg.purgeCompany hook row.companyId
      .perform (.swept row world.moment)
      return true : DeletionProg HookCall Bool).Follows (DeletionCall.handle files) sweepStaging
      (fun _ _ => True) (.sweeping row.companyId world.moment []) := by
    refine (purgeCompany_follows hook).bind (fun _ _ _ => trivial) fun count later swept => ?_
    obtain ⟨more, rfl, every⟩ := swept count rfl
    exact Prog.follows_perform_bind fun world _ => ⟨_, .swept row _ more every, fun _ _ => trivial, nofun⟩
  exact purged.tryCatch (fun _ _ _ => trivial) (fun _ _ _ => trivial)

theorem handleFlag_follows (hook : Option (Nat → Prog (HookStep HookCall) DeletionError Unit))
    (now : Time) (row : DeletionFlag) (stats : CompanyPurgeStats) (stage : SweepStage) :
    (DeletionProg.handleFlag hook now row stats).Follows (DeletionCall.handle files) sweepStaging
      (fun _ _ => True) stage := by
  have saved (query : DeletionStatement Unit) (after : CompanyPurgeStats) (stage : SweepStage) :
      (do DeletionProg.statement query; return after : DeletionProg HookCall CompanyPurgeStats).Follows
        (DeletionCall.handle files) sweepStaging (fun _ _ => True) stage :=
    follows_silent (Prog.all_perform_bind.mpr ⟨trivial, fun _ => trivial⟩) fun _ => trivial
  unfold DeletionProg.handleFlag
  by_cases released : row.isReleased now = true
  · rw [if_pos released]
    exact saved _ _ stage
  · rw [if_neg released]
    refine (sweep_follows hook row stage).bind (fun _ _ _ => trivial) fun swept later _ => ?_
    cases swept with
    | false => trivial
    | true =>
      by_cases first : row.completedAt = none
      · simp only [first, if_true, Bool.not_true, Bool.false_eq_true, if_false]
        exact saved _ _ later
      · simp only [first, if_false, Bool.not_true, Bool.false_eq_true]
        trivial

theorem handleFlags_follows (hook : Option (Nat → Prog (HookStep HookCall) DeletionError Unit))
    (now deadline : Time) (rows : List DeletionFlag) (stats : CompanyPurgeStats) (stage : SweepStage) :
    (DeletionProg.handleFlags hook now deadline rows stats).Follows (DeletionCall.handle files)
      sweepStaging (fun _ _ => True) stage := by
  induction rows generalizing stats stage with
  | nil => trivial
  | cons row rows ih =>
    unfold DeletionProg.handleFlags
    refine Prog.follows_perform_bind fun world _ => ⟨_, .stays _ stage trivial, ?_, nofun⟩
    intro monotonic _
    by_cases late : monotonic > deadline
    · rw [if_pos late]
      trivial
    · rw [if_neg late]
      refine (handleFlag_follows hook now row stats stage).bind (fun _ _ _ => trivial) ?_
      exact fun stats later _ => ih stats later

theorem DeletionTask.sweeps (hook : Option (Nat → Prog (HookStep HookCall) DeletionError Unit))
    (task : DeletionTask) :
    (task.program hook).Follows (DeletionCall.handle files) sweepStaging (fun _ _ => True) .idle := by
  cases task with
  | flag companyId =>
    refine follows_silent ?_ fun _ => trivial
    refine Prog.All.bind (Prog.all_perform_bind.mpr ⟨trivial, fun row => ?_⟩) fun _ => trivial
    cases row.completedAt with
    | none => trivial
    | some completed => exact Prog.all_perform_bind.mpr ⟨trivial, fun _ => trivial⟩
  | purge maxSeconds =>
    have purged : (DeletionProg.purgeDeletedCompanies hook maxSeconds).Follows
        (DeletionCall.handle files) sweepStaging (fun _ _ => True) .idle := ?_
    · exact purged.bind (fun _ _ _ => trivial) fun _ _ _ => trivial
    unfold DeletionProg.purgeDeletedCompanies
    refine Prog.follows_perform_bind fun world _ => ⟨_, .stays _ .idle trivial, fun now _ => ?_, nofun⟩
    refine Prog.follows_perform_bind fun world _ => ⟨_, .stays _ .idle trivial, fun start _ => ?_, nofun⟩
    refine Prog.follows_perform_bind fun world _ => ⟨_, .stays _ .idle trivial, fun rows _ => ?_, fun _ _ => trivial⟩
    exact handleFlags_follows hook now _ rows _ .idle

/-! ### Runs -/

variable {world : DeletionWorld φ}

/-- What a call leaves of the rows. -/
theorem handle_rowsLeft {β : Type} (op : DeletionCall HookCall β) :
    (∀ row ∈ (DeletionCall.handle files β op world).2.rows, row ∈ world.rows) ∧
      (DeletionCall.handle files β op world).2.written = world.written ∧
      (op.Silent β → (DeletionCall.handle files β op world).2.sweeps = world.sweeps) := by
  cases op with
  | now => exact ⟨fun _ => id, rfl, fun _ => rfl⟩
  | monotonic => exact ⟨fun _ => id, rfl, fun _ => rfl⟩
  | hook op => exact ⟨fun _ => id, rfl, fun _ => rfl⟩
  | began => exact ⟨fun _ => id, rfl, fun _ => rfl⟩
  | swept flag since => exact ⟨fun _ => id, rfl, False.elim⟩
  | statement query =>
    by_cases broken : world.Broken
    · obtain ⟨error, faults, broken⟩ := broken
      rw [handle_broken query broken]
      exact ⟨fun _ => id, rfl, fun _ => rfl⟩
    · rw [handle_unbroken query broken]
      cases query with
      | getOrCreate companyId =>
        simp only [DeletionStatement.exec]
        split <;> exact ⟨fun _ => id, rfl, fun _ => rfl⟩
      | deleteRows model companyId => exact ⟨fun _ => List.mem_of_mem_filter, rfl, fun _ => rfl⟩
      | deleteApp id => exact ⟨fun _ => List.mem_of_mem_filter, rfl, fun _ => rfl⟩
      | flags => exact ⟨fun _ => id, rfl, fun _ => rfl⟩
      | update key completedAt => exact ⟨fun _ => id, rfl, fun _ => rfl⟩
      | delete key => exact ⟨fun _ => id, rfl, fun _ => rfl⟩

theorem SweepStage.Finds.later {stage : SweepStage} {after : DeletionWorld φ} (finds : stage.Finds world)
    (moment : world.moment ≤ after.moment)
    (rows : ∀ row ∈ after.rows, row ∈ world.rows ∨ world.moment ≤ row.moment) : stage.Finds after := by
  cases stage with
  | idle => trivial
  | sweeping companyId began done =>
    obtain ⟨past, clean⟩ := finds
    refine ⟨past.trans moment, fun row member own deleted => ?_⟩
    rcases rows row member with old | new
    · exact clean row old own deleted
    · exact past.trans new

theorem DeletionWorld.Swept.later {after : DeletionWorld φ} (swept : world.Swept)
    (moment : world.moment ≤ after.moment) (recorded : ∀ row ∈ after.rows, row ∈ after.written)
    (sweeps : after.sweeps = world.sweeps)
    (rows : ∀ row ∈ after.rows, row ∈ world.rows ∨ world.moment ≤ row.moment) : after.Swept where
  recorded := recorded
  past sweep member := (swept.past sweep (sweeps ▸ member)).trans moment
  clean sweep member row present own := by
    rw [sweeps] at member
    rcases rows row present with old | new
    · exact swept.clean sweep member row old own
    · exact (swept.past sweep member).trans new

/-- What a call finds and leaves, as its stage says. -/
theorem SweepMoves.keeps {β : Type} {op : DeletionCall HookCall β} {stage later : SweepStage}
    (moved : SweepMoves world β op stage later) (swept : world.Swept) (finds : stage.Finds world) :
    (DeletionCall.handle files β op world).2.Swept ∧
      later.Finds (DeletionCall.handle files β op world).2 := by
  have moment (β : Type) (op : DeletionCall HookCall β) :
      world.moment ≤ (DeletionCall.handle files β op world).2.moment := by
    rw [handle_moment]
    exact Nat.le_succ _
  have quiet {β : Type} (op : DeletionCall HookCall β) (silent : op.Silent β) :
      (DeletionCall.handle files β op world).2.Swept := by
    obtain ⟨rows, written, sweeps⟩ := @handle_rowsLeft HookCall φ files world β op
    exact swept.later (moment _ op) (fun row member => written ▸ swept.recorded row (rows row member))
      (sweeps silent) fun row member => .inl (rows row member)
  cases moved with
  | began companyId =>
    exact ⟨quiet .began trivial, moment _ .began, fun _ _ _ none => absurd none List.not_mem_nil⟩
  | deleted model companyId began done unbroken =>
    refine ⟨quiet (.statement (.deleteRows model companyId)) trivial, finds.1.trans (moment _ _), ?_⟩
    intro row member own deleted
    rw [handle_unbroken _ unbroken] at member
    obtain ⟨present, other⟩ := List.mem_filter.mp member
    rcases List.mem_cons.mp deleted with same | before
    · simp [same, own] at other
    · exact finds.2 row present own before
  | stays op stage silent =>
    obtain ⟨rows, written, sweeps⟩ := @handle_rowsLeft HookCall φ files world β op
    exact ⟨quiet op silent, finds.later (moment _ op) fun row member => .inl (rows row member)⟩
  | swept flag began done every =>
    refine ⟨⟨swept.recorded, fun sweep member => ?_, fun sweep member row present own => ?_⟩, trivial⟩
    · rcases List.mem_append.mp member with old | new
      · exact (swept.past sweep old).trans (Nat.le_succ _)
      · rw [List.mem_singleton.mp new]
        exact finds.1.trans (Nat.le_succ _)
    · rcases List.mem_append.mp member with old | new
      · exact swept.clean sweep old row present own
      · rw [List.mem_singleton.mp new] at own ⊢
        exact finds.2 row present own (every row.model)

theorem DeletionWorld.Passes.grown {after : DeletionWorld φ} (passes : world.Passes after) :
    world.moment ≤ after.moment ∧ after.sweeps = world.sweeps ∧
      (∀ row ∈ after.rows, row ∈ world.rows ∨ world.moment ≤ row.moment) ∧
      ((∀ row ∈ world.rows, row ∈ world.written) → ∀ row ∈ after.rows, row ∈ after.written) := by
  cases passes with
  | time clock monotonic forward => exact ⟨Nat.le_refl _, rfl, fun _ => .inl, id⟩
  | elsewhere files faults => exact ⟨Nat.le_refl _, rfl, fun _ => .inl, id⟩
  | delete keep =>
    exact ⟨Nat.le_refl _, rfl, fun _ member => .inl (List.mem_of_mem_filter member),
      fun recorded row member => recorded row (List.mem_of_mem_filter member)⟩
  | write model id companyId =>
    refine ⟨Nat.le_succ _, rfl, fun row member => ?_, fun recorded row member => ?_⟩
    · rcases List.mem_append.mp member with old | new
      · exact .inl old
      · rw [List.mem_singleton.mp new]
        exact .inr (Nat.le_refl _)
    · rcases List.mem_append.mp member with old | new
      · exact List.mem_append_left _ (recorded row old)
      · exact List.mem_append_right _ new

/-- Every call was made where the purges that had returned had left nothing. -/
structure SweepsKept (world : DeletionWorld φ)
    (posts : List (Program.Post (DeletionCall HookCall) DeletionError (DeletionWorld φ) DeletionTask
      SweepStage Unit)) : Prop where
  swept : world.Swept
  finds : ∀ post ∈ posts, post.stage.Finds world
  logged : ∀ post ∈ posts, ∀ entry ∈ post.thread.log, entry.state.Swept

theorem SweepsKept.reached {hook : Option (Nat → Prog (HookStep HookCall) DeletionError Unit)}
    {start crew : DeletionCrew HookCall φ} (swept : start.shared.Swept) (idle : start.threads = [])
    (reached : DeletionCrew.Runs hook files start crew) :
    crew.Logged fun entry => entry.state.Swept := by
  obtain ⟨posts, staffed, kept, _⟩ := reached.staged SweepsKept (DeletionTask.sweeps hook)
    ⟨swept, by simp, by simp⟩ idle
    (fun state posts task kept => by
      refine ⟨kept.swept, fun post member => ?_, fun post member => ?_⟩
      · rcases List.mem_cons.mp member with rfl | old
        · trivial
        · exact kept.finds post old
      · rcases List.mem_cons.mp member with rfl | old
        · exact fun _ none => absurd none List.not_mem_nil
        · exact kept.logged post old)
    (fun before after posts passes kept => by
      obtain ⟨moment, sweeps, rows, recorded⟩ := passes.grown
      exact ⟨kept.swept.later moment (recorded kept.swept.recorded) sweeps rows,
        fun post member => (kept.finds post member).later moment rows, kept.logged⟩)
    (fun _ _ _ _ _ => trivial)
    (fun op next state left right task log stage later kept moved => by
      have own := kept.finds _ (mem_middle.mpr (.inl rfl))
      obtain ⟨swept, finds⟩ := SweepMoves.keeps moved kept.swept own
      refine ⟨swept, fun post member => ?_, fun post member entry made => ?_⟩
      · rcases mem_middle.mp member with rfl | other
        · exact finds
        · obtain ⟨rows, _, _⟩ := @handle_rowsLeft HookCall φ files state _ op
          refine (kept.finds post (mem_middle.mpr (.inr other))).later ?_ fun row member => .inl (rows row member)
          rw [handle_moment]
          exact Nat.le_succ _
      · rcases mem_middle.mp member with rfl | other
        · rcases List.mem_append.mp made with earlier | last
          · exact kept.logged _ (mem_middle.mpr (.inl rfl)) entry earlier
          · rw [List.mem_singleton.mp last]
            exact kept.swept
        · exact kept.logged post (mem_middle.mpr (.inr other)) entry made)
  intro thread member
  obtain ⟨post, present, rfl⟩ := List.mem_map.mp (staffed ▸ member)
  exact kept.logged post present

/-- When the window of a flag ends: `SWEEP_WINDOW` after its first completed purge. -/
def DeletionWorld.windowEnd (world : DeletionWorld φ) (flag : DeletionFlag) : Option Time :=
  (world.sweeps.find? (·.flag = flag.id)).map (·.endedAt + sweepWindow)

/-- Some purge of the company that has returned began after the last write of the window. -/
def DeletionWorld.PurgedAfterWindow (world : DeletionWorld φ) (flag : DeletionFlag) : Prop :=
  ∀ ends ∈ world.windowEnd flag, ∃ sweep ∈ world.sweeps, sweep.companyId = flag.companyId ∧
    ∀ row ∈ world.written, row.companyId = flag.companyId → row.writtenAt ≤ ends →
      row.moment < sweep.began

/-- Nothing that was written in the window is left. -/
def DeletionWorld.WindowSwept (world : DeletionWorld φ) (flag : DeletionFlag) : Prop :=
  ∀ ends ∈ world.windowEnd flag, ∀ row ∈ world.rows, row.companyId = flag.companyId →
    ends < row.writtenAt

/-- Where a purge was made after the last write of the window, nothing that was written in
the window is left when a run takes the flag away. -/
theorem window_swept {hook : Option (Nat → Prog (HookStep HookCall) DeletionError Unit)}
    {start crew : DeletionCrew HookCall φ} (initial : start.shared.Initial)
    (recorded : start.shared.written = start.shared.rows) (idle : start.threads = [])
    (reached : DeletionCrew.Runs hook files start crew) {thread : DeletionThread HookCall φ}
    (member : thread ∈ crew.threads) {flag : DeletionFlag}
    (released : ⟨.statement (.delete flag.id), world⟩ ∈ thread.log)
    (purged : world.PurgedAfterWindow flag) : world.WindowSwept flag := by
  intro ends window row present own
  obtain ⟨sweep, made, company, every⟩ := purged ends window
  have unswept : start.shared.Swept :=
    ⟨fun row member => recorded ▸ member, by simp [initial.sweeps], by simp [initial.sweeps]⟩
  have kept : world.Swept := SweepsKept.reached unswept idle reached thread member _ released
  by_contra early
  have before := every row (kept.recorded row present) own (Int.not_lt.mp early)
  have after := kept.clean sweep made row present (own.trans company.symm)
  omega

end

/-! ### A row that is written in the window -/

def halfHour : Time := 1800 * microsecondsPerSecond

/-- A row is written half an hour after the purge. -/
def lateRow : DeletionWorld Unit :=
  { purgedWorld with
    clock := halfHour
    rows := purgedWorld.rows ++ [⟨.eventLog, 7, 3, halfHour, purgedWorld.moment⟩]
    written := purgedWorld.written ++ [⟨.eventLog, 7, 3, halfHour, purgedWorld.moment⟩]
    moment := purgedWorld.moment + 1 }

/-- A run comes in between. -/
def lateRowSwept : DeletionWorld Unit :=
  { (lateRow.works (.purge fiftySeconds) 12).2 with clock := 2 * sweepWindow }

/-- None does. -/
def lateRowLeft : DeletionWorld Unit := { lateRow with clock := 2 * sweepWindow }

def lateThreads : List (DeletionThread NoHookCall Unit) :=
  [((noDeletions.works (.flag 3) 1).2.works (.purge fiftySeconds) 13).1, (noDeletions.works (.flag 3) 1).1]

theorem lateRow_reached :
    DeletionCrew.Runs noHook noFiles ⟨noDeletions, []⟩ ⟨lateRow, lateThreads⟩ := by
  refine .trans (noDeletions.joined (.flag 3) 1 []) (.trans (DeletionWorld.joined _ (.purge fiftySeconds) 13 _) ?_)
  refine .head (.change { purgedWorld with clock := halfHour } (.time halfHour 0 (by decide +kernel))) ?_
  exact .single (.change lateRow (.write .eventLog 7 3))

/-- The flag is taken away in the state in which a run has made 4 calls. -/
theorem release_logged (world : DeletionWorld Unit) (released : (world.works (.purge fiftySeconds) 5).1.log =
      (world.works (.purge fiftySeconds) 4).1.log ++
        [⟨.statement (.delete 1), (world.works (.purge fiftySeconds) 4).2⟩]) :
    (⟨.statement (.delete 1), (world.works (.purge fiftySeconds) 4).2⟩ :
      Entry (DeletionCall NoHookCall) (DeletionWorld Unit)) ∈ (world.works (.purge fiftySeconds) 5).1.log := by
  rw [released]
  exact List.mem_append_right _ (List.mem_singleton.mpr rfl)

theorem window_swept_between :
    (lateRowSwept.works (.purge fiftySeconds) 4).2.WindowSwept ⟨⟨3, some 0⟩, 1, 0⟩ := by
  have reached : DeletionCrew.Runs noHook noFiles ⟨noDeletions, []⟩
      ⟨(lateRowSwept.works (.purge fiftySeconds) 5).2, (lateRowSwept.works (.purge fiftySeconds) 5).1 ::
        (lateRow.works (.purge fiftySeconds) 12).1 :: lateThreads⟩ := by
    refine lateRow_reached.trans (.trans (lateRow.joined (.purge fiftySeconds) 12 _) ?_)
    refine .head (.change lateRowSwept (.time (2 * sweepWindow) 0 (by decide +kernel))) ?_
    exact lateRowSwept.joined (.purge fiftySeconds) 5 _
  refine window_swept ⟨⟨by decide, by simp [noDeletions]⟩, rfl⟩ rfl rfl reached List.mem_cons_self
    (release_logged lateRowSwept rfl) fun ends _ => ?_
  refine ⟨⟨1, 3, 19, halfHour⟩, by decide +kernel, rfl, fun row member _ _ => ?_⟩
  have every : ∀ row ∈ (lateRowSwept.works (.purge fiftySeconds) 4).2.written, row.moment < 19 := by
    decide +kernel
  exact every row member

/-- The row is there when the run takes the flag away. -/
theorem window_row_left : ∃ crew : DeletionCrew NoHookCall Unit,
    DeletionCrew.Runs noHook noFiles ⟨noDeletions, []⟩ crew ∧
      (∃ thread ∈ crew.threads, (⟨.statement (.delete 1), (lateRowLeft.works (.purge fiftySeconds) 4).2⟩ :
        Entry (DeletionCall NoHookCall) (DeletionWorld Unit)) ∈ thread.log) ∧
      crew.shared.flags = [] ∧
      ¬(lateRowLeft.works (.purge fiftySeconds) 4).2.WindowSwept ⟨⟨3, some 0⟩, 1, 0⟩ := by
  refine ⟨⟨(lateRowLeft.works (.purge fiftySeconds) 5).2,
    (lateRowLeft.works (.purge fiftySeconds) 5).1 :: lateThreads⟩, ?_, ?_, ?_, ?_⟩
  · refine lateRow_reached.trans (.head (.change lateRowLeft (.time (2 * sweepWindow) 0 (by decide +kernel))) ?_)
    exact lateRowLeft.joined (.purge fiftySeconds) 5 _
  · exact ⟨_, List.mem_cons_self, release_logged lateRowLeft rfl⟩
  · decide +kernel
  · intro swept
    have late := swept sweepWindow (by decide +kernel) ⟨.eventLog, 7, 3, halfHour, purgedWorld.moment⟩
      (by decide +kernel) rfl
    exact absurd late (by decide +kernel)

end HostingService
