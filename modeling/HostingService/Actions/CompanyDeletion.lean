import HostingService.Api.AdminViews
import HostingService.Program.Stages
import Mathlib.Data.List.Sort

/-! The deletion of companies: requests that flag a company, and the scheduled runs that purge
the flagged companies and take the flags away again. -/

namespace HostingService

open Program Text

/-! ### Tables -/

def sweepWindow : Time := 3600 * microsecondsPerSecond

/-- A row of `CompanyDeletion` with all its columns. -/
structure DeletionFlag extends CompanyDeletion where
  id : Nat
  requestedAt : Time
  deriving DecidableEq

/-- The models with a column `company_id`, apart from `CompanyDeletion`. -/
inductive CompanyModel where
  | companyHostingAccess
  | app
  | deployToken
  | actionRule
  | actionOutbox
  | eventLog
  deriving DecidableEq

/-- In the order of `INSTALLED_APPS`. -/
def companyScopedModels : List CompanyModel :=
  [.companyHostingAccess, .app, .deployToken, .actionRule, .actionOutbox, .eventLog]

theorem mem_companyScopedModels (model : CompanyModel) : model ∈ companyScopedModels := by
  cases model <;> decide

/-- A row of such a model, and when it was written. -/
structure CompanyRow where
  model : CompanyModel
  id : Nat
  companyId : Nat
  writtenAt : Time
  /-- How many calls and writes came before. -/
  moment : Nat
  deriving DecidableEq

/-- A purge of a company that returned. -/
structure Sweep where
  flag : Nat
  companyId : Nat
  began : Nat
  endedAt : Time
  deriving DecidableEq

inductive DeletionError where
  | protectedError
  /-- `Could not delete rows for company=...: [...]` -/
  | runtimeError (companyId : Nat) (remaining : List CompanyModel)
  | raised (error : Error)
  deriving DecidableEq

/-- The tables, the state `files` that the hook works on, and what has happened so far. -/
structure DeletionWorld (φ : Type) where
  flags : List DeletionFlag
  nextId : Nat
  rows : List CompanyRow
  files : φ
  clock : Time
  monotonic : Time
  /-- The outcomes that the next statements are going to have, as those of a disk. -/
  faults : List (Option DeletionError)
  moment : Nat
  /-- Every row that was ever written. -/
  written : List CompanyRow
  sweeps : List Sweep
  /-- When the completion time of a flag was last stored. -/
  marked : Nat → Nat

/-! ### Calls -/

inductive DeletionStatement : Type → Type where
  /-- `CompanyDeletion.objects.order_by('requested_at')` -/
  | flags : DeletionStatement (List DeletionFlag)
  | getOrCreate (companyId : Nat) : DeletionStatement DeletionFlag
  /-- `filter(pk=id).update(completed_at=completedAt)` -/
  | update (id : Nat) (completedAt : Option Time) : DeletionStatement Unit
  | delete (id : Nat) : DeletionStatement Unit
  /-- `model._base_manager.filter(company_id=companyId).delete()` -/
  | deleteRows (model : CompanyModel) (companyId : Nat) : DeletionStatement Nat
  | deleteApp (id : Nat) : DeletionStatement Unit

/-- A statement, a look at a clock or a step of the hook. The last two make no call: they
note when a purge begins, and that it has returned. -/
inductive DeletionCall (HookCall : Type → Type 1) : Type → Type 1 where
  | now : DeletionCall HookCall Time
  | monotonic : DeletionCall HookCall Time
  | statement {α : Type} (statement : DeletionStatement α) : DeletionCall HookCall α
  | hook {α : Type} (op : HookCall α) : DeletionCall HookCall α
  | began : DeletionCall HookCall Nat
  | swept (flag : DeletionFlag) (since : Nat) : DeletionCall HookCall Unit

/-- A step of the hook: it may delete apps, and do what it likes outside the tables. -/
inductive HookStep (HookCall : Type → Type 1) : Type → Type 1 where
  | deleteApp (id : Nat) : HookStep HookCall Unit
  | other {α : Type} (op : HookCall α) : HookStep HookCall α

abbrev DeletionProg (HookCall : Type → Type 1) := Prog (DeletionCall HookCall) DeletionError

section
variable {HookCall : Type → Type 1} {φ : Type}

def HookStep.call : ∀ α, HookStep HookCall α → DeletionCall HookCall α
  | _, .deleteApp id => .statement (.deleteApp id)
  | _, .other op => .hook op

namespace DeletionWorld
variable (world : DeletionWorld φ)

def tick : DeletionWorld φ := { world with moment := world.moment + 1 }

/-- The row that `get_or_create` inserts. -/
def newFlag (companyId : Nat) : DeletionFlag := ⟨⟨companyId, none⟩, world.nextId, world.clock⟩

end DeletionWorld

def DeletionStatement.exec : {β : Type} → DeletionStatement β → DeletionWorld φ → β × DeletionWorld φ
  | _, .flags, world =>
    (world.flags.insertionSort fun first second => first.requestedAt ≤ second.requestedAt, world)
  | _, .getOrCreate companyId, world =>
    match world.flags.find? (·.companyId = companyId) with
    | some flag => (flag, world)
    | none => (world.newFlag companyId,
        { world with flags := world.flags ++ [world.newFlag companyId], nextId := world.nextId + 1 })
  | _, .update id completedAt, world =>
    ((), { world with
      flags := Program.update (·.id = id)
        (fun flag => { flag with completedAt := completedAt }) world.flags
      marked := if completedAt.isSome then Function.update world.marked id world.moment
        else world.marked })
  | _, .delete id, world => ((), { world with flags := world.flags.filter (·.id ≠ id) })
  | _, .deleteRows model companyId, world =>
    ((world.rows.filter fun row => row.model = model ∧ row.companyId = companyId).length,
      { world with rows :=
        world.rows.filter fun row => ¬ (row.model = model ∧ row.companyId = companyId) })
  | _, .deleteApp id, world =>
    ((), { world with rows := world.rows.filter fun row => ¬ (row.model = .app ∧ row.id = id) })

def DeletionCall.handle (hook : Handler HookCall DeletionError φ) :
    Handler (DeletionCall HookCall) DeletionError (DeletionWorld φ)
  | _, .now, world => (.ok world.clock, world.tick)
  | _, .monotonic, world => (.ok world.monotonic, world.tick)
  | _, .statement query, world =>
    match world.faults with
    | some error :: faults => (.error error, { world.tick with faults })
    | _ => (.ok (query.exec world).1,
        { (query.exec world).2.tick with faults := world.faults.tail })
  | _, .hook op, world =>
    ((hook _ op world.files).1, { world.tick with files := (hook _ op world.files).2 })
  | _, .began, world => (.ok world.moment, world.tick)
  | _, .swept flag since, world =>
    (.ok (), { world.tick with
      sweeps := world.sweeps ++ [⟨flag.id, flag.companyId, since, world.clock⟩] })

/-! ### Programs -/

namespace DeletionProg

def statement {α : Type} (statement : DeletionStatement α) : DeletionProg HookCall α :=
  .perform (.statement statement)

def flagCompanyDeletion (companyId : Nat) : DeletionProg HookCall DeletionFlag := do
  let row ← statement (.getOrCreate companyId)
  .when row.completedAt.isSome (statement (.update row.id none))
  return row

/-- One pass over the models: how many rows it deleted, and the models that were protected. -/
def deletePass (companyId : Nat) : List CompanyModel → DeletionProg HookCall (Nat × List CompanyModel)
  | [] => return (0, [])
  | model :: remaining => do
    let (count, blocked) ← Prog.tryCatch
      (do return (← statement (.deleteRows model companyId), []))
      fun
        | .protectedError => return (0, [model])
        | error => throw error
    let (others, later) ← deletePass companyId remaining
    return (count + others, blocked ++ later)

def deletePasses (companyId : Nat) :
    Nat → List CompanyModel → Nat → DeletionProg HookCall Nat
  | 0, remaining, _ => throw (.runtimeError companyId remaining)
  | attempts + 1, remaining, deleted => do
    let (count, blocked) ← deletePass companyId remaining
    if blocked = [] then return deleted + count
    else deletePasses companyId attempts blocked (deleted + count)

def deleteCompanyRows (companyId : Nat) : DeletionProg HookCall Nat :=
  deletePasses companyId (companyScopedModels.length + 1) companyScopedModels 0

/-- `hook` is what `COMPANY_DELETION_BLOB_HOOK` names, if it names anything. -/
def purgeCompany (hook : Option (Nat → Prog (HookStep HookCall) DeletionError Unit))
    (companyId : Nat) : DeletionProg HookCall Nat := do
  match hook with
  | some hook => (hook companyId).hoist HookStep.call
  | none => pure ()
  deleteCompanyRows companyId

end DeletionProg

structure CompanyPurgeStats where
  purged : Nat
  failed : Nat
  released : Nat
  deriving DecidableEq

/-- `row.completed_at is not None and row.completed_at < now - SWEEP_WINDOW` -/
def DeletionFlag.isReleased (now : Time) (row : DeletionFlag) : Bool :=
  row.completedAt.any (· < now - sweepWindow)

namespace DeletionProg
variable (hook : Option (Nat → Prog (HookStep HookCall) DeletionError Unit))

/-- Whether `purge_company` returned. -/
def sweep (row : DeletionFlag) : DeletionProg HookCall Bool := do
  let began ← .perform .began
  Prog.tryCatch
    (do
      let _ ← purgeCompany hook row.companyId
      .perform (.swept row began)
      return true)
    fun _ => return false

/-- The body of the loop of `purge_deleted_companies`. -/
def handleFlag (now : Time) (row : DeletionFlag) (stats : CompanyPurgeStats) :
    DeletionProg HookCall CompanyPurgeStats := do
  if row.isReleased now then
    statement (.delete row.id)
    return { stats with released := stats.released + 1 }
  else if !(← sweep hook row) then return { stats with failed := stats.failed + 1 }
  else if row.completedAt = none then
    statement (.update row.id (some now))
    return { stats with purged := stats.purged + 1 }
  else return stats

def handleFlags (now deadline : Time) :
    List DeletionFlag → CompanyPurgeStats → DeletionProg HookCall CompanyPurgeStats
  | [], stats => return stats
  | row :: rows, stats => do
    if (← .perform .monotonic) > deadline then return stats
    else handleFlags now deadline rows (← handleFlag hook now row stats)

def purgeDeletedCompanies (maxSeconds : Time) : DeletionProg HookCall CompanyPurgeStats := do
  let now ← .perform .now
  let deadline := (← .perform .monotonic) + maxSeconds
  handleFlags hook now deadline (← statement .flags) ⟨0, 0, 0⟩

end DeletionProg

end

end HostingService
