import HostingService.Actions.Bookkeeping
import HostingService.Actions.ScheduledJobs
import HostingService.Program.Warrants

/-! Data retention: purges of expired rows beside deliveries, claims, requeues and events. -/

namespace HostingService

open Program Text

/-! ### Tables -/

/-- A row of the event log; a purge reads no other column. -/
structure EventLog where
  id : Nat
  createdAt : Time
  deriving DecidableEq

/-- The order in which the database returns rows when none is asked for. -/
structure Scan where
  arrange : ∀ α : Type, List α → List α
  perm : ∀ α rows, (arrange α rows).Perm rows

def Scan.stored : Scan := ⟨fun _ rows => rows, fun _ _ => .refl _⟩

structure RetentionWorld where
  outbox : OutboxWorld
  /-- The ids that rows of the outbox have had. -/
  issued : List Uuid
  events : List EventLog
  jobRuns : List ScheduledJobRun
  scan : Scan

/-- The rows that a purge deletes: the targets of `_PURGE_TARGETS`, and the job runs. -/
inductive PurgeTable where
  | events
  | deliveries (kind : DeliveryKind)
  | jobRuns
  deriving DecidableEq

abbrev PurgeTable.Key : PurgeTable → Type
  | .events => Nat
  | .deliveries _ => Uuid
  | .jobRuns => Nat

/-- `_FINISHED_DELIVERY & Q(delivery_kind=kind)`, with `created_at__lt=cutoff` -/
def ActionOutbox.expired (kind : DeliveryKind) (cutoff : Time) (row : ActionOutbox) : Bool :=
  row.status.isFinal && row.deliveryKind = kind && row.createdAt < cutoff

/-- Deleting outbox rows cascades to their attempts. -/
def ActionsDb.deleteOutbox (db : ActionsDb) (ids : List Uuid) : ActionsDb :=
  { db with
    outbox := db.outbox.filter (·.id ∉ ids)
    attempts := db.attempts.filter (·.outbox ∉ ids) }

namespace RetentionWorld

def row (world : RetentionWorld) (id : Uuid) : Option ActionOutbox := world.outbox.db.row id

/-- The keys of the expired rows of a table. -/
def expired (world : RetentionWorld) (cutoff : Time) : ∀ table : PurgeTable, List table.Key
  | .events => (world.events.filter (·.createdAt < cutoff)).map (·.id)
  | .deliveries kind => (world.outbox.db.outbox.filter (·.expired kind cutoff)).map (·.id)
  | .jobRuns => (world.jobRuns.filter (·.startedAt < cutoff)).map (·.id)

def delete (world : RetentionWorld) : ∀ table : PurgeTable, List table.Key → RetentionWorld
  | .events, ids => { world with events := world.events.filter (·.id ∉ ids) }
  | .deliveries _, ids =>
    { world with outbox := { world.outbox with db := world.outbox.db.deleteOutbox ids } }
  | .jobRuns, ids => { world with jobRuns := world.jobRuns.filter (·.id ∉ ids) }

end RetentionWorld

/-! ### Statements -/

/-- A call of a delivery, a claim or a requeue, or a statement of a purge. -/
inductive RetentionCall : Type → Type 1 where
  | delivery {α : Type} (call : DeliveryCall α) : RetentionCall α
  | countExpired (table : PurgeTable) (cutoff : Time) : RetentionCall Nat
  /-- `list(ids_qs[:limit])` -/
  | selectExpired (table : PurgeTable) (cutoff : Time) (limit : Nat) : RetentionCall (List table.Key)
  /-- `model.objects.filter(pk__in=ids).delete()` -/
  | delete (table : PurgeTable) (ids : List table.Key) : RetentionCall Unit

def RetentionCall.handle : Handler RetentionCall ActionsError RetentionWorld
  | _, .delivery call, world =>
    ((call.handle _ world.outbox).1, { world with outbox := (call.handle _ world.outbox).2 })
  | _, .countExpired table cutoff, world => (.ok (world.expired cutoff table).length, world)
  | _, .selectExpired table cutoff limit, world =>
    (.ok ((world.scan.arrange _ (world.expired cutoff table)).take limit), world)
  | _, .delete table ids, world => (.ok (), world.delete table ids)

abbrev Retention := Prog RetentionCall ActionsError

namespace Retention

def delivery {α : Type} (body : Delivery α) : Retention α :=
  body.hoist fun _ => RetentionCall.delivery

def now : Retention Time := .perform (.delivery (.autocommit .now))

def monotonic : Retention Time := .perform (.delivery .monotonic)

end Retention

/-! ### The purge -/

def retentionDays (eventLogRetentionDays : Int) : Int := max 1 eventLogRetentionDays

def runRetentionDays : Int := 7

/-- `now - timedelta(days=retention_days())` -/
def retentionCutoff (eventLogRetentionDays : Int) (now : Time) : Time :=
  now - retentionDays eventLogRetentionDays * microsecondsPerDay

/-- The cutoff of the table: job runs have one of their own. -/
def PurgeTable.cutoff (eventLogRetentionDays : Int) (now : Time) : PurgeTable → Time
  | .jobRuns => now - runRetentionDays * microsecondsPerDay
  | _ => retentionCutoff eventLogRetentionDays now

structure PurgeOptions where
  batchSize : Nat
  /-- In microseconds. -/
  maxSeconds : Option Time
  dryRun : Bool

structure PurgeStats where
  events : Nat
  webhookDeliveries : Nat
  emailEvents : Nat
  scheduledJobRuns : Nat
  complete : Bool
  deriving DecidableEq

def PurgeStats.start : PurgeStats := ⟨0, 0, 0, 0, true⟩

/-- `stats[label] = count` -/
def PurgeStats.set (stats : PurgeStats) (count : Nat) : PurgeTable → PurgeStats
  | .events => { stats with events := count }
  | .deliveries .webhook => { stats with webhookDeliveries := count }
  | .deliveries .email => { stats with emailEvents := count }
  | .jobRuns => { stats with scheduledJobRuns := count }

/-- `deadline is not None and time.monotonic() >= deadline` -/
def deadlinePassed : Option Time → Retention Bool
  | none => .ret false
  | some deadline => do
    let time ← Retention.monotonic
    return decide (deadline ≤ time)

/-- `time.monotonic() + max_seconds if max_seconds else None` -/
def purgeDeadline : Option Time → Retention (Option Time)
  | none => .ret none
  | some maxSeconds =>
    if maxSeconds = 0 then .ret none
    else do
      let time ← Retention.monotonic
      return some (time + maxSeconds)

/-- Delete in primary-key batches; `none` while the loop is still busy after so many rounds. -/
def deleteInBatches (table : PurgeTable) (cutoff : Time) (batchSize : Nat)
    (deadline : Option Time) : (rounds deleted : Nat) → Retention (Option (Nat × Bool))
  | 0, _ => .ret none
  | rounds + 1, deleted => do
    if ← deadlinePassed deadline then return some (deleted, false)
    let ids ← .perform (.selectExpired table cutoff batchSize)
    if ids.isEmpty then return some (deleted, true)
    .perform (.delete table ids)
    deleteInBatches table cutoff batchSize deadline rounds (deleted + ids.length)

def purgeOldRuns (now : Time) (batchSize : Nat) (deadline : Option Time) (rounds : Nat) :
    Retention (Option (Nat × Bool)) :=
  deleteInBatches .jobRuns (now - runRetentionDays * microsecondsPerDay) batchSize deadline rounds 0

def countOldRuns (now : Time) : Retention Nat :=
  .perform (.countExpired .jobRuns (now - runRetentionDays * microsecondsPerDay))

/-- `_PURGE_TARGETS` -/
def purgeTargets : List PurgeTable := [.events, .deliveries .webhook, .deliveries .email]

/-- The loop over the targets, and then the job runs. -/
def purgeTables (cutoff now : Time) (options : PurgeOptions) (deadline : Option Time)
    (rounds : Nat) : List PurgeTable → PurgeStats → Retention (Option PurgeStats)
  | table :: tables, stats =>
    if options.dryRun then do
      let count ← .perform (.countExpired table cutoff)
      purgeTables cutoff now options deadline rounds tables (stats.set count table)
    else do
      match ← deleteInBatches table cutoff options.batchSize deadline rounds 0 with
      | none => return none
      | some (deleted, false) => return some { stats.set deleted table with complete := false }
      | some (deleted, true) =>
        purgeTables cutoff now options deadline rounds tables (stats.set deleted table)
  | [], stats =>
    if options.dryRun then do
      let count ← countOldRuns now
      return some (stats.set count .jobRuns)
    else do
      match ← purgeOldRuns now options.batchSize deadline rounds with
      | none => return none
      | some (deleted, false) => return some { stats.set deleted .jobRuns with complete := false }
      | some (deleted, true) => return some (stats.set deleted .jobRuns)

def purgeExpiredData (eventLogRetentionDays : Int) (options : PurgeOptions) (rounds : Nat) :
    Retention (Option PurgeStats) := do
  let now ← Retention.now
  let cutoff := retentionCutoff eventLogRetentionDays now
  let deadline ← purgeDeadline options.maxSeconds
  purgeTables cutoff now options deadline rounds purgeTargets .start

/-! ### Purges beside everything else -/

inductive RetentionTask where
  | purge (options : PurgeOptions) (rounds : Nat)
  | deliver (outboxId : Uuid) (correlation : Correlation)
  | claim (now : Time) (view : ClaimView)
  | requeue (companyId : Nat) (deliveryId : Uuid)

inductive RetentionResult where
  | purged (stats : Option PurgeStats)
  | row (row : Option ActionOutbox)

def retentionTask (settings : ActionsSettings) (library : ActionsLibrary)
    (eventLogRetentionDays : Int) : RetentionTask → Retention RetentionResult
  | .purge options rounds =>
    purgeExpiredData eventLogRetentionDays options rounds >>= fun stats => .ret (.purged stats)
  | .deliver outboxId correlation =>
    Retention.delivery (deliverOutboxRow settings library outboxId correlation) >>= fun row =>
      .ret (.row row)
  | .claim now view =>
    Retention.delivery (Delivery.atomic (claimNextPendingOutbox settings now view)) >>= fun row =>
      .ret (.row row)
  | .requeue companyId deliveryId =>
    Retention.delivery (requeueDelivery companyId deliveryId) >>= fun row => .ret (.row row)

/-- Time, events with new rows, job runs, and changes of the rules, of the network and of the
order in which rows are found. -/
inductive RetentionOutside : RetentionWorld → RetentionWorld → Prop where
  | passes {world} (span : Nat) :
      RetentionOutside world { world with outbox := { world.outbox with
        clock := world.outbox.clock + span, monotonic := world.outbox.monotonic + span } }
  | logs {world} (event : EventLog) (fresh : event.createdAt = world.outbox.clock) :
      RetentionOutside world { world with events := world.events ++ [event] }
  | emits {world} (row : ActionOutbox) (db : ActionsDb) (new : row.id ∉ world.issued)
      (unattempted : row.attemptCount = 0)
      (created : (ActionsChange.createOutbox row).apply world.outbox.db = .ok db) :
      RetentionOutside world { world with
        outbox := { world.outbox with db }, issued := row.id :: world.issued }
  | starts {world} (run : ScheduledJobRun) (fresh : run.startedAt = world.outbox.clock) :
      RetentionOutside world { world with jobRuns := world.jobRuns ++ [run] }
  | finishes {world} (id : Nat) (result : RunResult) :
      RetentionOutside world { world with
        jobRuns := world.jobRuns.map fun run => if run.id = id then run.assign result else run }
  | administers {world} (rules : List ActionRule) :
      RetentionOutside world { world with outbox := { world.outbox with
        db := { world.outbox.db with rules } } }
  | reroutes {world} (network : Post → Exchange) :
      RetentionOutside world { world with outbox := { world.outbox with network } }
  | replans {world} (scan : Scan) : RetentionOutside world { world with scan }

abbrev RetentionThread :=
  Thread RetentionCall ActionsError RetentionWorld RetentionTask RetentionResult

abbrev RetentionCrew :=
  Crew RetentionCall ActionsError RetentionWorld RetentionTask RetentionResult

end HostingService
