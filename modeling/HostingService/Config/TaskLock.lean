import HostingService.Hosting.Models
import HostingService.Program.Leases
import HostingService.Program.Stages
import Mathlib.Data.Int.Order.Basic

/-! The Redis lock of the scheduled tasks. -/

namespace HostingService

open Program Text

inductive TaskError where
  | redisError
  /-- What the task itself raises. -/
  | raised (message : PyStr)
  deriving DecidableEq

/-- Caught by `except redis.RedisError`. -/
def TaskError.isRedisError : TaskError → Bool
  | .redisError => true
  | .raised _ => false

/-- A statement of the task under the lock, with the answer that it gets. -/
abbrev Work (α : Type) := Except TaskError α

inductive LockCall : Type → Type 1 where
  /-- `secrets.token_hex(16)` -/
  | tokenHex : LockCall PyStr
  /-- `SET key token NX EX seconds` -/
  | set (key token : PyStr) (seconds : Int) : LockCall Bool
  /-- `_RELEASE_SCRIPT` -/
  | eval (key token : PyStr) : LockCall Bool
  | work {α : Type} (statement : Work α) : LockCall α

/-- What becomes of the next command: a command whose answer is lost may have been executed. -/
inductive Fate where
  | answered
  | unsent
  | unanswered
  deriving DecidableEq

/-- Redis with its clock, and the tokens that the workers have drawn, with the next one. -/
structure LockWorld where
  leases : Leases PyStr PyStr Time
  clock : Time
  fate : Fate
  draw : PyStr
  drawn : List PyStr

namespace LockWorld

/-- A command that changes the keys. -/
def command (world : LockWorld) (executed : Bool × Leases PyStr PyStr Time) :
    Except TaskError Bool × LockWorld :=
  match world.fate with
  | .answered => (.ok executed.1, { world with leases := executed.2 })
  | .unsent => (.error .redisError, world)
  | .unanswered => (.error .redisError, { world with leases := executed.2 })

end LockWorld

/-- Seconds in the unit of the clock. -/
def seconds (count : Int) : Time := count * 1000000

def LockCall.handle : Handler LockCall TaskError LockWorld
  | _, .tokenHex, world => (.ok world.draw, { world with drawn := world.draw :: world.drawn })
  | _, .set key token span, world =>
    world.command (world.leases.grant world.clock key ⟨token, world.clock + seconds span⟩)
  | _, .eval key token, world => world.command (world.leases.release world.clock key token)
  | _, .work statement, world => (statement, world)

section
variable (schedulerLockPrefix : PyStr)

def lockKey (name : PyStr) : PyStr := schedulerLockPrefix ++ lit ":lock:" ++ name

def beatHeartbeatKey : PyStr := schedulerLockPrefix ++ lit ":beat:heartbeat"

/-- The `finally` of `task_lock`: an error of Redis is logged, and the lock expires. -/
def releaseLock (key token : PyStr) (acquired : Bool) : Prog LockCall TaskError Unit :=
  Prog.when acquired ((Prog.perform (.eval key token) >>= fun _ => .ret ()).tryCatch fun error =>
    if error.isRedisError then .ret () else .raise error)

/-- `with task_lock(name, ttl) as acquired: body` -/
def taskLock (name : PyStr) (ttl : Int) (body : Bool → Prog Work TaskError Unit) :
    Prog LockCall TaskError Unit :=
  Prog.perform .tokenHex >>= fun token =>
  Prog.perform (.set (lockKey schedulerLockPrefix name) token (max 1 ttl)) >>= fun acquired =>
  ((body acquired).hoist fun _ => LockCall.work).tryFinally
    (releaseLock (lockKey schedulerLockPrefix name) token acquired)

theorem lockKey_injective : Function.Injective (lockKey schedulerLockPrefix) :=
  fun _ _ same => List.append_cancel_left same

/-- The key of the heartbeat is no lock. -/
theorem beatHeartbeatKey_ne_lockKey (name : PyStr) :
    beatHeartbeatKey schedulerLockPrefix ≠ lockKey schedulerLockPrefix name := by
  intro same
  rw [beatHeartbeatKey, lockKey, List.append_assoc] at same
  have tail : lit ":beat:heartbeat" = lit ":lock:" ++ name := List.append_cancel_left same
  have second := congrArg (·[1]?) tail
  simp [lit_eq] at second

end

/-! ### Workers -/

/-- A use of the lock: a worker enters with a time to live, for one of the jobs. -/
structure LockTask (Job : Type) where
  name : PyStr
  ttl : Int
  job : Job

abbrev LockWorker (Job : Type) := Thread LockCall TaskError LockWorld (LockTask Job) Unit

abbrev LockCrew (Job : Type) := Crew LockCall TaskError LockWorld (LockTask Job) Unit

/-- Time passes, and Redis is used for other things than the locks. -/
structure LockWorld.Outside (schedulerLockPrefix : PyStr) (before after : LockWorld) : Prop where
  forward : before.clock ≤ after.clock
  locks : ∀ name, after.leases (lockKey schedulerLockPrefix name) =
    before.leases (lockKey schedulerLockPrefix name)
  drawn : after.drawn = before.drawn

/-- No lock is taken, and no token is drawn. -/
def LockWorld.idle (clock : Time) (fate : Fate) (draw : PyStr) : LockWorld where
  leases _ := none
  clock := clock
  fate := fate
  draw := draw
  drawn := []

/-- The workers that enter and leave, command by command, in any order. -/
def LockCrew.Reached {Job : Type} (schedulerLockPrefix : PyStr)
    (jobs : Job → Bool → Prog Work TaskError Unit) (crew : LockCrew Job) : Prop :=
  ∃ clock fate draw, Crew.Reaches LockCall.handle
    (fun task : LockTask Job => taskLock schedulerLockPrefix task.name task.ttl (jobs task.job))
    (LockWorld.Outside schedulerLockPrefix) ⟨.idle clock fate draw, []⟩ crew

/-! ### What a worker has done -/

namespace LockEntry

/-- The token that a call drew. -/
def drawn : Entry LockCall LockWorld → Option PyStr
  | ⟨.tokenHex, world⟩ => some world.draw
  | _ => none

/-- The key that a call set, also where the answer was lost. -/
def sets : Entry LockCall LockWorld → Option (PyStr × Lease PyStr Time)
  | ⟨.set key token span, world⟩ =>
    let lease : Lease PyStr Time := ⟨token, world.clock + seconds span⟩
    if world.fate ≠ .unsent ∧ (world.leases.grant world.clock key lease).1 then some (key, lease)
    else none
  | _ => none

/-- The key that the worker was told it holds: `acquired = True`. -/
def told : Entry LockCall LockWorld → Option (PyStr × Lease PyStr Time)
  | ⟨.set key token span, world⟩ =>
    match (LockCall.handle _ (.set key token span) world).1 with
    | .ok true => some (key, ⟨token, world.clock + seconds span⟩)
    | _ => none
  | _ => none

def leaves : Entry LockCall LockWorld → Bool
  | ⟨.eval .., _⟩ => true
  | _ => false

/-- The key was in the store before the worker left, and not afterwards. -/
def Removes (entry : Entry LockCall LockWorld) (lock : PyStr × Lease PyStr Time) : Prop :=
  leaves entry = true ∧ entry.state.leases lock.1 = some lock.2 ∧
    (LockCall.handle _ entry.op entry.state).2.leases lock.1 = none

end LockEntry

namespace LockWorker

variable {Job : Type}

def drawn (worker : LockWorker Job) : List PyStr := worker.log.filterMap LockEntry.drawn

def sets (worker : LockWorker Job) : List (PyStr × Lease PyStr Time) :=
  worker.log.filterMap LockEntry.sets

/-- What the worker was told to hold. -/
def told (worker : LockWorker Job) : List (PyStr × Lease PyStr Time) :=
  worker.log.filterMap LockEntry.told

def hasLeft (worker : LockWorker Job) : Bool := worker.log.any LockEntry.leaves

/-- The worker was told that it holds the lock, it has not left, and the time to live of the
key has not passed. -/
def Holds (worker : LockWorker Job) (now : Time) : Prop :=
  worker.hasLeft = false ∧ ∃ lock ∈ worker.told, now < lock.2.expires

/-- Leaving, the worker removes no key that the other one has set. -/
def Spares (worker other : LockWorker Job) : Prop :=
  ∀ entry ∈ worker.log, ∀ lock, LockEntry.Removes entry lock → lock ∉ other.sets

end LockWorker

end HostingService
