import HostingService.Hosting.Services
import HostingService.Program.Ensures

/-! What the statements of a transaction ensure, and what no statement changes. -/

namespace HostingService

open Program Text Storage

section
variable {settings : Settings} {world : World} {α β : Type}

/-! ### Statement by statement -/

namespace Transaction

variable {post : Except Error α → World → Prop}

theorem ensures_select {query : Db → β} {rest : β → Transaction α} :
    (select query >>= rest).Ensures (Statement.handle settings) post world ↔
      (rest (query world.db)).Ensures (Statement.handle settings) post world := Iff.rfl

theorem ensures_now {rest : Time → Transaction α} :
    (now >>= rest).Ensures (Statement.handle settings) post world ↔
      (rest world.clock).Ensures (Statement.handle settings) post world := Iff.rfl

theorem ensures_uncache {slug : PyStr} {rest : Unit → Transaction α} :
    ((Prog.perform (.uncache slug) : Transaction Unit) >>= rest).Ensures
        (Statement.handle settings) post world ↔
      (rest ()).Ensures (Statement.handle settings) post
        { world with cache := world.cache.erase slug } := Iff.rfl

theorem ensures_execute_last {change : Change} {post : Except Error Unit → World → Prop} :
    (execute change).Ensures (Statement.handle settings) post world ↔
      (∀ error, change.apply world.db = .error error → post (.error error) world) ∧
        ∀ db, change.apply world.db = .ok db → post (.ok ()) { world with db } := by
  rw [execute, Prog.ensures_perform]
  rcases applied : change.apply world.db with error | db
  · simp [Statement.handle, applied]
  · simp [Statement.handle, applied]

theorem ensures_execute {change : Change} {rest : Unit → Transaction α} :
    (execute change >>= rest).Ensures (Statement.handle settings) post world ↔
      (∀ error, change.apply world.db = .error error → post (.error error) world) ∧
        ∀ db, change.apply world.db = .ok db →
          (rest ()).Ensures (Statement.handle settings) post { world with db } := by
  rw [Prog.ensures_bind, ensures_execute_last]
  rfl

theorem ensures_emitEvent {eventType : EventType} {companyId : Nat} {payload : Payload}
    {actor : Option Actor} {rest : Unit → Transaction α} :
    (emitEvent eventType companyId payload actor >>= rest).Ensures
        (Statement.handle settings) post world ↔
      (rest ()).Ensures (Statement.handle settings) post { world with db :=
        { world.db with events := world.db.events ++ [⟨eventType, companyId, payload, actor⟩] } } :=
  Iff.rfl

/-- Storage programs act on the disk alone. -/
theorem run_storage (body : StorageProg α) (world : World) :
    (storage body).run (Statement.handle settings) world =
      ((body.run (StorageCall.handle (storageBackend settings)) world.disk).1,
        { world with
          disk := (body.run (StorageCall.handle (storageBackend settings)) world.disk).2 }) :=
  Prog.run_hoist (fun _ op => Statement.storage op) World.disk (fun disk world => { world with disk })
    (fun _ _ => rfl) (fun _ => rfl) (fun _ _ _ => rfl) (fun _ _ _ => rfl) body world

theorem ensures_storage_last {body : StorageProg α} :
    (storage body).Ensures (Statement.handle settings) post world ↔
      body.Ensures (StorageCall.handle (storageBackend settings))
        (fun result disk => post result { world with disk }) world.disk := by
  rw [Prog.Ensures, run_storage]
  rfl

theorem ensures_storage {body : StorageProg β} {rest : β → Transaction α} :
    (storage body >>= rest).Ensures (Statement.handle settings) post world ↔
      body.Ensures (StorageCall.handle (storageBackend settings)) (fun result disk =>
        Prog.Continues (Statement.handle settings) rest post result { world with disk })
        world.disk := by
  rw [Prog.ensures_bind, ensures_storage_last]

theorem ensures_storage_frame (body : StorageProg α) :
    (storage body).Ensures (Statement.handle settings)
      (fun _ after => ∃ disk, after = { world with disk }) world :=
  ensures_storage_last.mpr ⟨_, rfl⟩

end Transaction

/-! ### Services -/

namespace Service

variable {post : Except Error α → World → Prop}

theorem run_autocommit (body : Transaction α) (world : World) :
    (autocommit body).run (Action.handle settings) world =
      body.run (Statement.handle settings) world :=
  Prog.run_hoist (fun _ statement => Action.autocommit statement) id (fun world _ => world)
    (fun _ _ => rfl) (fun _ => rfl) (fun _ _ _ => rfl) (fun _ _ _ => rfl) body world

theorem ensures_autocommit {body : Transaction α} :
    (autocommit body).Ensures (Action.handle settings) post world ↔
      body.Ensures (Statement.handle settings) post world := by
  rw [Prog.Ensures, run_autocommit]
  rfl

/-- A transaction that raises leaves the database as it was. -/
theorem ensures_atomic {body : Transaction α} {middle : Except Error α → World → Prop}
    (first : body.Ensures (Statement.handle settings) middle world)
    (returned : ∀ value after, middle (.ok value) after → post (.ok value) after)
    (raised : ∀ error after, middle (.error error) after →
      post (.error error) { after with db := world.db }) :
    (atomic body).Ensures (Action.handle settings) post world := by
  rw [atomic, Prog.ensures_perform, Action.handle]
  rcases ran : body.run (Statement.handle settings) world with ⟨error | value, after⟩
  · exact raised error after (first.of_run ran)
  · exact returned value after (first.of_run ran)

theorem ensures_atomic_returned {body : Transaction α} {post : α → World → Prop}
    (first : body.Ensures (Statement.handle settings) (Prog.Returned post) world) :
    (atomic body).Ensures (Action.handle settings) (Prog.Returned post) world :=
  ensures_atomic first (fun _ _ ended => ended) fun _ _ _ => trivial

end Service

/-! ### Frames -/

/-- The statements of an action. -/
def Action.All (allowed : ∀ β, Statement β → Prop) : ∀ β, Action β → Prop
  | _, .autocommit statement => allowed _ statement
  | _, .atomic body => body.All allowed

theorem all_autocommit {allowed : ∀ β, Statement β → Prop} {body : Transaction α} :
    (Service.autocommit body).All (Action.All allowed) ↔ body.All allowed := Prog.all_hoist

theorem all_atomic {allowed : ∀ β, Statement β → Prop} {body : Transaction α} :
    (Service.atomic body).All (Action.All allowed) ↔ body.All allowed := Prog.all_perform

/-- What allowed statements preserve, and a rollback of the database too, services preserve. -/
theorem service_related {allowed : ∀ β, Statement β → Prop} (related : World → World → Prop)
    (refl : ∀ world, related world world)
    (trans : ∀ {first second third}, related first second → related second third →
      related first third)
    (restore : ∀ {before after}, related before after → related before { after with db := before.db })
    (step : ∀ β (statement : Statement β), allowed β statement → ∀ world,
      related world (Statement.handle settings β statement world).2)
    {body : Service α} (every : body.All (Action.All allowed)) (world : World) :
    related world (body.run (Action.handle settings) world).2 := by
  refine every.run_related related refl trans (fun β action inside world => ?_) world
  cases action with
  | autocommit statement => exact step β statement inside world
  | atomic body =>
    have ran := Prog.All.run_related related refl trans step inside world
    rw [Action.handle]
    rcases ended : body.run (Statement.handle settings) world with ⟨error | value, after⟩
    · rw [ended] at ran
      exact restore ran
    · rw [ended] at ran
      exact ran

theorem all_statements (body : Service α) : body.All (Action.All fun _ _ => True) := by
  induction body with
  | ret value => trivial
  | raise error => trivial
  | call action next ih =>
    cases action with
    | autocommit statement => exact ⟨trivial, ih⟩
    | atomic body => exact ⟨Prog.all_true body, ih⟩

/-- Time does not pass within a request. -/
theorem service_clock (body : Service α) (world : World) :
    (body.run (Action.handle settings) world).2.clock = world.clock := by
  refine service_related (fun before after => after.clock = before.clock) (fun _ => rfl)
    (fun left right => right.trans left) id (fun β statement _ world => ?_) (all_statements body)
    world
  cases statement with
  | execute change =>
    simp only [Statement.handle]
    split <;> rfl
  | _ => rfl

/-- The calls to the file store are allowed. -/
def OnStorage (allowed : ∀ β, StorageCall β → Prop) : ∀ β, Statement β → Prop
  | _, .storage op => allowed _ op
  | _, _ => True

theorem onStorage_hoist {allowed : ∀ β, StorageCall β → Prop} {body : StorageProg α} :
    (Transaction.storage body).All (OnStorage allowed) ↔ body.All allowed := Prog.all_hoist

/-- What allowed storage calls do to the files, services do. -/
theorem service_objects {allowed : ∀ β, StorageCall β → Prop} (related : Objects → Objects → Prop)
    (refl : ∀ objects, related objects objects)
    (trans : ∀ {first second third}, related first second → related second third →
      related first third)
    (step : ∀ β (op : StorageCall β), allowed β op → ∀ disk,
      related disk.objects (op.handle (storageBackend settings) β disk).2.objects)
    {body : Service α} (every : body.All (Action.All (OnStorage allowed))) (world : World) :
    related world.disk.objects (body.run (Action.handle settings) world).2.disk.objects := by
  refine service_related (fun before after => related before.disk.objects after.disk.objects)
    (fun world => refl _) trans id (fun β statement inside world => ?_) every world
  cases statement with
  | storage op => exact step _ op inside world.disk
  | execute change =>
    simp only [Statement.handle]
    split <;> exact refl _
  | _ => exact refl _

/-- A service changes only the keys that its storage calls may change. -/
theorem service_sameOutside {inside : PyStr → Prop} {body : Service α}
    (writes : body.All (Action.All (OnStorage (Writes inside)))) (world : World) :
    SameOutside inside world.disk.objects
      (body.run (Action.handle settings) world).2.disk.objects :=
  service_objects (SameOutside inside) (SameOutside.refl inside) SameOutside.trans
    (fun _ _ writes disk => handle_sameOutside (storageBackend settings) writes disk) writes world

end

end HostingService
