import HostingService.Hosting.Storage

/-! The database, the file store, the serve cache and the clock, and the statements
that services run on them, one by one or in a transaction. -/

namespace HostingService

open Program Text Storage

structure Actor where
  userId : Nat
  email : PyStr
  deriving DecidableEq

inductive EventType where
  | appCreated
  | appDeleted
  | deploymentCreated
  | deploymentSucceeded
  | deploymentFailed
  deriving DecidableEq

structure AppPayload where
  appId : Uuid
  name : PyStr
  slug : PyStr
  displayName : PyStr
  companyId : Nat
  deriving DecidableEq

structure DeploymentPayload extends AppPayload where
  deploymentId : Uuid
  appVersion : PyStr
  shelluiVersion : PyStr
  status : DeploymentStatus
  error : Option PyStr
  deriving DecidableEq

inductive Payload where
  | app (payload : AppPayload)
  | deployment (payload : DeploymentPayload)
  deriving DecidableEq

structure Event where
  eventType : EventType
  companyId : Nat
  payload : Payload
  actor : Option Actor
  deriving DecidableEq

structure Db where
  apps : List App
  deployments : List Deployment
  access : List CompanyHostingAccess
  events : List Event

namespace Db

def app (db : Db) (id : Uuid) : Option App := db.apps.find? (·.id = id)

def deployment (db : Db) (id : Uuid) : Option Deployment := db.deployments.find? (·.id = id)

end Db

/-! ### Writes -/

/-- The columns of `deployment.save(update_fields=...)`; `none` for a column left alone. -/
structure DeploymentColumns where
  status : DeploymentStatus
  artifactSize : Option Nat
  finalizedAt : Option (Option Time)

def Deployment.assign (columns : DeploymentColumns) (row : Deployment) : Deployment :=
  { row with
    status := columns.status
    artifactSize := columns.artifactSize.getD row.artifactSize
    finalizedAt := columns.finalizedAt.getD row.finalizedAt }

/-- The columns of `app.save(update_fields=...)`. -/
inductive AppColumn where
  | expiresAt (value : Option Time)
  | currentDeployment (value : Option Uuid)

def App.assign : AppColumn → App → App
  | .expiresAt value, row => { row with expiresAt := value }
  | .currentDeployment value, row => { row with currentDeployment := value }

inductive Change where
  | insertApp (row : App)
  | insertDeployment (row : Deployment)
  | saveApp (id : Uuid) (column : AppColumn)
  | saveDeployment (id : Uuid) (columns : DeploymentColumns)
  /-- `filter(app=app, status=ACTIVE).exclude(id=id).update(status=SUPERSEDED)` -/
  | supersede (app id : Uuid)
  | deleteApp (id : Uuid)
  | recordEvent (event : Event)

/-- The row that the update of `supersede` makes of a row. -/
def Deployment.supersededBy (app id : Uuid) (row : Deployment) : Deployment :=
  if row.app = app ∧ row.status = .active ∧ row.id ≠ id then { row with status := .superseded }
  else row

/-- The database after a write, or the error of a constraint or of a save without a row.
Deleting an app cascades to its deployments; references to them become null. -/
def Change.apply (db : Db) : Change → Except Error Db
  | .insertApp row =>
    if db.apps.any fun other => other.id = row.id ∨ other.slug = row.slug ∨
        (other.companyId = row.companyId ∧ other.name = row.name) then .error .integrityError
    else .ok { db with apps := db.apps ++ [row] }
  | .insertDeployment row =>
    if (db.deployments.any (·.id = row.id)) ∨ ¬ (db.apps.any (·.id = row.app)) then
      .error .integrityError
    else .ok { db with deployments := db.deployments ++ [row] }
  | .saveApp id column =>
    if db.apps.any (·.id = id) then
      .ok { db with apps := db.apps.map fun row => if row.id = id then row.assign column else row }
    else .error .databaseError
  | .saveDeployment id columns =>
    if db.deployments.any (·.id = id) then
      .ok { db with deployments := db.deployments.map fun row =>
        if row.id = id then row.assign columns else row }
    else .error .databaseError
  | .supersede app id => .ok { db with deployments := db.deployments.map (·.supersededBy app id) }
  | .deleteApp id =>
    let doomed := (db.deployments.filter (·.app = id)).map (·.id)
    .ok { db with
      apps := (db.apps.filter (·.id ≠ id)).map fun row =>
        if row.currentDeployment.any (· ∈ doomed) then { row with currentDeployment := none }
        else row
      deployments := db.deployments.filter (·.app ≠ id) }
  | .recordEvent event => .ok { db with events := db.events ++ [event] }

/-! ### Statements and transactions -/

/-- An app as it is cached, with the row of its current deployment. -/
structure ServedApp where
  app : App
  currentDeployment : Option Deployment

/-- The slug cache of the process; an entry is good before its time. -/
abbrev ServeCache := AList fun _ : PyStr => Time × ServedApp

structure World where
  db : Db
  disk : Disk Error
  cache : ServeCache
  clock : Time

inductive Statement : Type → Type 1 where
  | select {α : Type} (query : Db → α) : Statement α
  | execute (change : Change) : Statement Unit
  | storage {α : Type} (op : StorageCall α) : Statement α
  | now : Statement Time
  | cached (slug : PyStr) : Statement (Option (Time × ServedApp))
  | cache (slug : PyStr) (entry : Time × ServedApp) : Statement Unit
  | uncache (slug : PyStr) : Statement Unit

/-- A statement that takes effect at once, or a transaction. -/
inductive Action : Type → Type 1 where
  | autocommit {α : Type} (statement : Statement α) : Action α
  | atomic {α : Type} (body : Prog Statement Error α) : Action α

abbrev Transaction := Prog Statement Error

abbrev Service := Prog Action Error

section
variable (settings : Settings)

def Statement.handle : Handler Statement Error World
  | _, .select query, world => (.ok (query world.db), world)
  | _, .execute change, world =>
    match change.apply world.db with
    | .ok db => (.ok (), { world with db })
    | .error error => (.error error, world)
  | _, .storage op, world =>
    let (answer, disk) := op.handle (storageBackend settings) _ world.disk
    (answer, { world with disk })
  | _, .now, world => (.ok world.clock, world)
  | _, .cached slug, world => (.ok (world.cache.lookup slug), world)
  | _, .cache slug entry, world => (.ok (), { world with cache := world.cache.insert slug entry })
  | _, .uncache slug, world => (.ok (), { world with cache := world.cache.erase slug })

/-- An error rolls the database back; the files and the cache stay as they are. -/
def Action.handle : Handler Action Error World
  | _, .autocommit statement, world => Statement.handle settings _ statement world
  | _, .atomic body, world =>
    match body.run (Statement.handle settings) world with
    | (.ok value, after) => (.ok value, after)
    | (.error error, after) => (.error error, { after with db := world.db })

end

namespace Transaction

def select {α : Type} (query : Db → α) : Transaction α := .perform (.select query)

def execute (change : Change) : Transaction Unit := .perform (.execute change)

def now : Transaction Time := .perform .now

/-- A program of the storage helpers, run inside a service. -/
def storage {α : Type} (body : StorageProg α) : Transaction α :=
  body.hoist fun _ op => .storage op

end Transaction

namespace Service

/-- Statement by statement, without a transaction. -/
def autocommit {α : Type} (body : Transaction α) : Service α :=
  body.hoist fun _ statement => .autocommit statement

def atomic {α : Type} (body : Transaction α) : Service α := .perform (.atomic body)

end Service

end HostingService
