import HostingService.Actions.Bookkeeping

/-! Whether the columns of an outbox row agree with its status, under any interleaving of new
rows, deliveries, claims, dry runs and requeues. -/

namespace HostingService

open Program Text OutboxTransaction

/-- The columns agree with the status. -/
structure ActionOutbox.Coherent (settings : ActionsSettings) (row : ActionOutbox) : Prop where
  deliveredAt : row.deliveredAt.isSome = true ↔ row.status = .delivered
  nextAttemptAt : row.nextAttemptAt.isSome = true ↔ row.status = .failed
  lockedUntil : row.status.isFinal = true → row.lockedUntil = none
  attemptCount : row.status = .failed → (row.attemptCount : Int) < settings.outboxMaxAttempts
  lastError : row.lastError ≠ [] ↔ row.status = .failed ∨ row.status = .dead

/-- A row as `ActionOutbox.objects.create` leaves it: every other column has its default. -/
structure ActionOutbox.New (row : ActionOutbox) : Prop where
  status : row.status = .pending
  attemptCount : row.attemptCount = 0
  nextAttemptAt : row.nextAttemptAt = none
  lockedUntil : row.lockedUntil = none
  lastError : row.lastError = []
  deliveredAt : row.deliveredAt = none

theorem ActionOutbox.New.coherent {settings : ActionsSettings} {row : ActionOutbox} (new : row.New) :
    row.Coherent settings where
  deliveredAt := by simp [new.deliveredAt, new.status]
  nextAttemptAt := by simp [new.nextAttemptAt, new.status]
  lockedUntil _ := new.lockedUntil
  attemptCount failed := by simp [new.status] at failed
  lastError := by simp [new.lastError, new.status]

structure ActionsDb.Coherent (settings : ActionsSettings) (db : ActionsDb) : Prop where
  ids : (db.outbox.map (·.id)).Nodup
  rows : ∀ row ∈ db.outbox, row.Coherent settings

/-! ### What each writer does to the columns -/

section
variable {settings : ActionsSettings} {library : ActionsLibrary}

theorem ActionOutbox.Coherent.undelivered {row : ActionOutbox} (coherent : row.Coherent settings)
    (unsettled : row.status.isFinal = false) : row.deliveredAt = none := by
  rcases delivered : row.deliveredAt with _ | time
  · rfl
  · have status : row.status = .delivered := coherent.deliveredAt.mp (by rw [delivered]; rfl)
    rw [status] at unsettled
    cases unsettled

/-- The lease of an open row may be set or released. -/
theorem ActionOutbox.Coherent.lease {row : ActionOutbox} (coherent : row.Coherent settings)
    {value : Option Time} (opens : row.status.isFinal = true → value = none) :
    (row.assign (.lockedUntil value)).Coherent settings where
  deliveredAt := coherent.deliveredAt
  nextAttemptAt := coherent.nextAttemptAt
  lockedUntil := opens
  attemptCount := coherent.attemptCount
  lastError := coherent.lastError

/-- A requeue sets every column that depends on the status but `delivered_at`. -/
theorem ActionOutbox.requeued_coherent_iff (row : ActionOutbox) :
    (row.assign .requeued).Coherent settings ↔ row.deliveredAt = none := by
  constructor
  · intro coherent
    exact coherent.undelivered rfl
  · intro undelivered
    exact {
      deliveredAt := by simp [ActionOutbox.assign, undelivered]
      nextAttemptAt := by simp [ActionOutbox.assign]
      lockedUntil := fun _ => rfl
      attemptCount := fun failed => by cases failed
      lastError := by simp [ActionOutbox.assign] }

theorem replaceSubstr_ne_nil {old new text : PyStr} (replacement : new ≠ []) (some : text ≠ []) :
    replaceSubstr old new text ≠ [] := by
  obtain ⟨c, rest, rfl⟩ := List.exists_cons_of_ne_nil some
  rw [replaceSubstr, replaceSubstr.go]
  split
  · exact fun nothing => replacement (List.append_eq_nil_iff.mp nothing).1
  · exact List.cons_ne_nil c _

theorem redactApiKey_ne_nil {text : PyStr} (some : text ≠ []) : redactApiKey settings text ≠ [] := by
  show (if emailServiceApiKey settings = [] then text
    else replaceSubstr (emailServiceApiKey settings) (lit "[redacted]") text) ≠ []
  split
  · exact some
  · exact replaceSubstr_ne_nil (by decide) some

/-- A failed attempt is always explained. -/
theorem formatAttemptError_ne_nil (errorMessage : PyStr) (httpStatus : Option Nat)
    (responseExcerpt : PyStr) : formatAttemptError errorMessage httpStatus responseExcerpt ≠ [] := by
  have explained : orElse errorMessage (lit "Delivery failed.") ≠ [] := by
    rw [orElse]
    split
    · decide
    · assumption
  intro nothing
  exact explained (List.append_eq_nil_iff.mp (List.append_eq_nil_iff.mp nothing).1).1

theorem loadRuleForDelivery_explains {row : ActionOutbox} {rule found : Option ActionRule}
    {error : PyStr} (loaded : loadRuleForDelivery row rule = .ok (found, some error)) : error ≠ [] := by
  unfold loadRuleForDelivery at loaded
  split at loaded
  · cases loaded
  · cases rule with
    | none => cases loaded
    | some rule =>
      simp only at loaded
      split at loaded
      · cases loaded
        decide
      · split at loaded
        · cases loaded
          decide
        · cases loaded

/-- The attempt says what went wrong with it. -/
def Outcome.Explained (outcome : Outcome) : Prop := outcome.attemptError ≠ []

theorem outcomeOf_explained {terminalError : Option PyStr} (success : Bool) (found : AttemptMeta)
    (explained : ∀ error, terminalError = some error → error ≠ []) :
    (outcomeOf settings terminalError success found).Explained := by
  cases terminalError with
  | some error => exact explained error rfl
  | none => exact redactApiKey_ne_nil (formatAttemptError_ne_nil _ _ _)

/-- The columns that a result saves agree with its status, if the row was open before. -/
theorem Outcome.Explained.columns_coherent {outcome : Outcome} (explained : outcome.Explained)
    {row : ActionOutbox} (undelivered : row.deliveredAt = none) (retryAfterSeconds : Option Int)
    (now : Time) (other : ActionOutbox) :
    (other.assign (outcome.columns settings row retryAfterSeconds now)).Coherent settings := by
  rw [Outcome.Explained] at explained
  simp only [Outcome.columns]
  split
  · constructor <;> simp [ActionOutbox.assign]
  · split
    · constructor <;> simp [ActionOutbox.assign, undelivered, explained]
    · next retried =>
      have few : ((row.attemptCount + 1 : Nat) : Int) < settings.outboxMaxAttempts := by
        simp only [Bool.or_eq_true, not_or, decide_eq_true_eq] at retried
        omega
      constructor <;> simp [ActionOutbox.assign, undelivered, explained]
      exact_mod_cast few

theorem ActionsDb.Coherent.assign {db : ActionsDb} (coherent : db.Coherent settings) {id : Uuid}
    {columns : OutboxColumns}
    (kept : ∀ row ∈ db.outbox, row.id = id → (row.assign columns).Coherent settings) :
    (db.assign id columns).Coherent settings where
  ids := by
    have same : ∀ row : ActionOutbox,
        (if row.id = id then row.assign columns else row).id = row.id := by
      intro row
      split <;> simp
    show ((db.outbox.map fun row => if row.id = id then row.assign columns else row).map (·.id)).Nodup
    rw [map_key_of_kept same]
    exact coherent.ids
  rows := by
    intro row member
    obtain ⟨old, present, rfl⟩ := List.mem_map.mp member
    split
    · next own => exact kept old present own
    · exact coherent.rows old present

/-! ### Deliveries -/

/-- Rows stay coherent, and whoever took a snapshot of an open row finds it open at the same count. -/
def coherentConduct (settings : ActionsSettings) : Conduct DeliveryCall OutboxWorld where
  holds world := world.db.Coherent settings
  evolves before after := before.db.Evolves after.db
  good _ call world := (DeliveryCall.handle _ call world).2.db.Coherent settings ∧
    world.db.Evolves (DeliveryCall.handle _ call world).2.db

theorem Quiet.coherent {β : Type} {call : DeliveryCall β} (quiet : Quiet β call) {world : OutboxWorld}
    (now : (coherentConduct settings).holds world) : (coherentConduct settings).good β call world := by
  rw [coherentConduct]
  simp only [quiet world]
  exact ⟨now, .refl world.db⟩

theorem recordResult_coherent {id : Uuid} {count : Nat} {terminalError : Option PyStr} {success : Bool}
    {found : AttemptMeta} {correlation : Correlation} {world : OutboxWorld}
    (explained : ∀ error, terminalError = some error → error ≠ [])
    (coherent : world.db.Coherent settings) (opened : OpenAt id count world.db) :
    (coherentConduct settings).good _
      (.atomic (recordResult settings id count terminalError success found correlation)) world := by
  rw [coherentConduct]
  simp only
  obtain ⟨row, stored, ⟨_, same⟩ | ⟨_, unsettled, same⟩⟩ :=
    @recordResult_ends settings world id count terminalError success found correlation opened
  · rw [same]
    exact ⟨coherent, .refl world.db⟩
  · obtain ⟨member, rfl⟩ := ActionsDb.row_mem stored
    have undelivered : row.deliveredAt = none := (coherent.rows row member).undelivered unsettled
    have explains : (outcomeOf settings terminalError success found).Explained :=
      outcomeOf_explained success found explained
    rw [same]
    refine ⟨?_, .record stored rfl fun other => columns_attemptCount ..⟩
    have recorded : ({ world.db with attempts := world.db.attempts ++ [(outcomeOf settings
        terminalError success found).attempt row correlation] } : ActionsDb).Coherent settings :=
      ⟨coherent.ids, coherent.rows⟩
    exact recorded.assign fun other _ _ => explains.columns_coherent undelivered _ _ other

theorem performDelivery_coherent {id : Uuid} {count : Nat} {world : OutboxWorld}
    {log : List (Entry DeliveryCall OutboxWorld)} (row : ActionOutbox) (rule : Option ActionRule)
    (opened : OpenAt id count world.db) :
    (performDelivery settings library row rule).Relies DeliveryCall.handle (coherentConduct settings)
      (fun _ _ after => OpenAt id count after.db) log world := by
  refine (performDelivery_quiet row rule).relies (fun _ _ _ quiet => quiet.coherent)
    (fun _ _ state quiet now => ?_) (fun _ _ evolved now => now.evolves evolved) opened
  rw [quiet state]
  exact now

theorem resultOf_coherent {id : Uuid} {count : Nat} {terminalError : Option PyStr} {success : Bool}
    {found : AttemptMeta} {correlation : Correlation} {world : OutboxWorld}
    {log : List (Entry DeliveryCall OutboxWorld)}
    (explained : ∀ error, terminalError = some error → error ≠ []) (opened : OpenAt id count world.db) :
    (Delivery.atomic (recordResult settings id count terminalError success found correlation) >>=
      fun after => .ret (some after)).Relies DeliveryCall.handle (coherentConduct settings)
        (fun _ _ _ => True) log world := by
  refine Prog.relies_perform_bind fun last coherent evolved => ?_
  exact ⟨recordResult_coherent explained coherent (opened.evolves evolved),
    fun _ _ => trivial, fun _ _ => trivial⟩

/-- A delivery keeps rows coherent beside whatever else keeps them so. -/
theorem deliverOutboxRow_coherent (id : Uuid) (correlation : Correlation) (world : OutboxWorld) :
    (deliverOutboxRow settings library id correlation).Relies DeliveryCall.handle
      (coherentConduct settings) (fun _ _ _ => True) [] world := by
  refine Prog.relies_perform_bind fun first coherent _ => ?_
  have quiet : Quiet _ (.atomic (takeSnapshot id)) := quiet_atomic (takeSnapshot_reads id)
  refine ⟨quiet.coherent coherent, fun found taken => ?_, fun _ _ => trivial⟩
  rw [quiet first]
  cases found with
  | missing => trivial
  | final row => trivial
  | taken row rule terminalError =>
    obtain ⟨stored, unsettled, loaded⟩ := takeSnapshot_loaded taken
    have opened : OpenAt id row.attemptCount first.db := ⟨row, stored, le_rfl, fun _ => unsettled⟩
    cases terminalError with
    | some error =>
      refine resultOf_coherent (fun other same => ?_) opened
      obtain rfl := Option.some.inj same
      exact loadRuleForDelivery_explains loaded
    | none =>
      refine (performDelivery_coherent row rule opened).bind (fun _ _ _ _ => trivial) ?_
      rintro log ⟨success, found⟩ middle still
      exact resultOf_coherent (fun _ same => by cases same) still

/-! ### What happens beside deliveries -/

/-- `mayRequeue` tells which rows requeues meet; a dry run releases the row that it claimed. -/
inductive OutboxOperation (settings : ActionsSettings) (mayRequeue : ActionOutbox → Prop) :
    OutboxWorld → OutboxWorld → Prop where
  | emits {world} (row : ActionOutbox) (new : row.New) :
      OutboxOperation settings mayRequeue world
        (DeliveryCall.handle _ (.autocommit (.execute (.createOutbox row))) world).2
  | claims {world} (now : Time) (view : ClaimView) :
      OutboxOperation settings mayRequeue world
        (DeliveryCall.handle _ (.atomic (claimNextPendingOutbox settings now view)) world).2
  | releases {world} (id : Uuid) :
      OutboxOperation settings mayRequeue world
        (DeliveryCall.handle _ (.autocommit (.execute (.updateOutbox id (.lockedUntil none)))) world).2
  | requeues {world} (id : Uuid) (may : ∀ row ∈ world.db.outbox, row.id = id → mayRequeue row) :
      OutboxOperation settings mayRequeue world
        (DeliveryCall.handle _ (.autocommit (.execute (.updateOutbox id .requeued))) world).2
  | passes {world} (span : Nat) :
      OutboxOperation settings mayRequeue world
        { world with clock := world.clock + span, monotonic := world.monotonic + span }
  | administers {world} (rules : List ActionRule) :
      OutboxOperation settings mayRequeue world { world with db := { world.db with rules } }
  | reroutes {world} (network : Post → Exchange) :
      OutboxOperation settings mayRequeue world { world with network }

/-- A request to requeue looks up the row, updates it and reads it back. -/
theorem requeueDelivery_calls (companyId : Nat) (deliveryId : Uuid) :
    (requeueDelivery companyId deliveryId).All fun β call => Quiet β call ∨
      ∀ world, Requeues world (DeliveryCall.handle β call world).2 := by
  refine Prog.all_perform_bind.mpr ⟨.inl fun _ => rfl, fun found => ?_⟩
  cases found with
  | none => trivial
  | some row =>
    refine Prog.all_perform_bind.mpr ⟨.inr fun world => .requeues row.id, fun _ => ?_⟩
    refine Prog.all_perform_bind.mpr ⟨.inl fun _ => rfl, fun refreshed => ?_⟩
    exact Prog.all_ofExcept_bind.mpr fun _ _ => trivial

theorem OutboxOperation.coherent {mayRequeue : ActionOutbox → Prop} {before after : OutboxWorld}
    (undelivered : ∀ row, mayRequeue row → row.deliveredAt = none)
    (operation : OutboxOperation settings mayRequeue before after)
    (coherent : before.db.Coherent settings) :
    after.db.Coherent settings ∧ before.db.Evolves after.db := by
  cases operation with
  | emits row new =>
    show (OutboxStatement.handle _ (.execute (.createOutbox row)) before).2.db.Coherent settings ∧ _
    rw [DeliveryCall.handle, OutboxStatement.handle]
    rcases applied : (ActionsChange.createOutbox row).apply before.db with error | db
    · exact ⟨coherent, .refl before.db⟩
    · obtain ⟨fresh, rfl⟩ := createOutbox_ends applied
      refine ⟨⟨nodup_concat coherent.ids fresh, fun other member => ?_⟩, fun id old stored => ?_⟩
      · rcases List.mem_append.mp member with old | fresh
        · exact coherent.rows other old
        · obtain rfl := List.mem_singleton.mp fresh
          exact new.coherent
      · exact ⟨old, ActionsDb.row_insert stored row, le_rfl, fun _ unsettled => unsettled⟩
  | claims now view =>
    rcases claim_ends settings now view before with same | ⟨row, member, due, leased⟩
    · rw [same]
      exact ⟨coherent, .refl before.db⟩
    · rw [leased]
      refine ⟨coherent.assign fun other present own => ?_, .assign _ _ (fun _ => rfl) fun _ => id⟩
      have unique : other = row := by
        have found : before.db.outbox.find? (·.id = row.id) = some row :=
          find?_of_unique coherent.ids member
        rw [← own, find?_of_unique coherent.ids present] at found
        exact Option.some.inj found
      subst unique
      refine (coherent.rows other present).lease fun final => ?_
      rw [isDue_unsettled due] at final
      cases final
  | releases id =>
    exact ⟨coherent.assign fun row member _ => (coherent.rows row member).lease fun _ => rfl,
      .assign _ id (fun _ => rfl) fun _ unsettled => unsettled⟩
  | requeues id may =>
    exact ⟨coherent.assign fun row member own => row.requeued_coherent_iff.mpr
      (undelivered row (may row member own)), .assign _ id (fun _ => rfl) fun _ _ => rfl⟩
  | passes span => exact ⟨coherent, .refl before.db⟩
  | administers rules => exact ⟨⟨coherent.ids, coherent.rows⟩, .refl before.db⟩
  | reroutes network => exact ⟨coherent, .refl before.db⟩

/-! ### Runs -/

/-- What deliveries of any rows and operations beside them reach. -/
def RowsReach (settings : ActionsSettings) (library : ActionsLibrary)
    (mayRequeue : ActionOutbox → Prop) :
    Crew DeliveryCall ActionsError OutboxWorld (Uuid × Correlation) (Option ActionOutbox) →
      Crew DeliveryCall ActionsError OutboxWorld (Uuid × Correlation) (Option ActionOutbox) → Prop :=
  Crew.Reaches DeliveryCall.handle (deliveryOf settings library) (OutboxOperation settings mayRequeue)

/-- As long as requeues meet only rows that were never delivered, every row is coherent. -/
theorem rows_coherent
    {start crew : Crew DeliveryCall ActionsError OutboxWorld (Uuid × Correlation) (Option ActionOutbox)}
    (initial : start.shared.Initial) (idle : start.threads = [])
    (path : RowsReach settings library (fun row => row.deliveredAt = none) start crew) :
    ∀ row ∈ crew.shared.db.outbox, row.Coherent settings := by
  have empty : start.shared.db.Coherent settings := by
    constructor <;> simp [initial.1]
  have kept : crew.Relying DeliveryCall.handle (coherentConduct settings) fun _ _ _ _ => True :=
    Crew.Reaches.relies (coherentConduct settings) (fun world => .refl world.db)
      (fun left right => left.trans right) (fun _ _ _ good _ => good)
      (fun _ _ operation coherent => operation.coherent (fun _ undelivered => undelivered) coherent)
      (fun _ _ _ _ _ _ _ => trivial) (fun task => deliverOutboxRow_coherent task.1 task.2) idle empty path
  exact kept.1.rows

end

/-! The row of one webhook: emitted, delivered and requeued. -/

def hookOutbox (status : Nat) : OutboxWorld :=
  { answeringWorld (plainAnswer status) with db := ⟨[hookRule], [], []⟩ }

def hookAttempted (status : Nat) :
    Thread DeliveryCall ActionsError OutboxWorld (Uuid × Correlation) (Option ActionOutbox) × OutboxWorld :=
  hookThread.after DeliveryCall.handle 9
    (DeliveryCall.handle _ (.autocommit (.execute (.createOutbox hookRow))) (hookOutbox status)).2

def hookRequeued (status : Nat) :
    Crew DeliveryCall ActionsError OutboxWorld (Uuid × Correlation) (Option ActionOutbox) where
  shared := (DeliveryCall.handle _ (.autocommit (.execute (.updateOutbox hookRow.id .requeued)))
    (hookAttempted status).2).2
  threads := [(hookAttempted status).1]

theorem hookRequeued_reached {mayRequeue : ActionOutbox → Prop} (status : Nat)
    (may : ∀ row ∈ (hookAttempted status).2.db.outbox, row.id = hookRow.id → mayRequeue row) :
    RowsReach mailSettings plainLibrary mayRequeue ⟨hookOutbox status, []⟩ (hookRequeued status) := by
  have requeues : OutboxOperation mailSettings mayRequeue (hookAttempted status).2
      (hookRequeued status).shared := .requeues hookRow.id may
  refine .head (.change _ (.emits hookRow ⟨rfl, rfl, rfl, rfl, rfl, rfl⟩)) (.head (.arrive hookTask) ?_)
  exact (Crew.Reaches.after 9 hookThread _ [] []).tail (.change _ requeues)

theorem rows_coherent_retried :
    (hookRequeued 503).shared.db.outbox.map (·.id) = [hookRow.id] ∧
      ∀ row ∈ (hookRequeued 503).shared.db.outbox, row.Coherent mailSettings :=
  ⟨by decide +kernel,
    rows_coherent ⟨rfl, rfl⟩ rfl (hookRequeued_reached 503 (by decide +kernel))⟩

/-- A requeue of a delivered row leaves the time of the delivery on a pending row. -/
theorem delivered_requeue_incoherent :
    ¬ ∀ (settings : ActionsSettings) (library : ActionsLibrary) (start crew :
        Crew DeliveryCall ActionsError OutboxWorld (Uuid × Correlation) (Option ActionOutbox)),
      start.shared.Initial → start.threads = [] →
        RowsReach settings library (fun _ => True) start crew →
          ∀ row ∈ crew.shared.db.outbox, row.Coherent settings := by
  intro every
  have coherent := every mailSettings plainLibrary ⟨hookOutbox 200, []⟩ (hookRequeued 200) ⟨rfl, rfl⟩ rfl
    (hookRequeued_reached 200 fun _ _ _ => trivial)
  have stored : ∃ row ∈ (hookRequeued 200).shared.db.outbox,
      row.status = .pending ∧ row.deliveredAt.isSome = true := by
    decide +kernel
  obtain ⟨row, member, pending, delivered⟩ := stored
  have status : row.status = .delivered := (coherent row member).deliveredAt.mp delivered
  rw [pending] at status
  cases status

end HostingService
