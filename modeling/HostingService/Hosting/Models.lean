import HostingService.Hosting.Settings

/-! The rows of the hosting tables. -/

namespace HostingService

open Text

/-- Microseconds. -/
abbrev Time := Int

inductive AccessStatus where
  | pending
  | approved
  | denied
  deriving DecidableEq

structure CompanyHostingAccess where
  companyId : Nat
  status : AccessStatus
  deriving DecidableEq

inductive DeploymentStatus where
  | draft
  | uploading
  | ready
  | active
  | superseded
  | failed
  deriving DecidableEq

structure App where
  id : Uuid
  name : PyStr
  slug : PyStr
  companyId : Nat
  displayName : PyStr
  createdById : Option Nat
  expiresAt : Option Time
  currentDeployment : Option Uuid
  deriving DecidableEq

/-- `f'{app.id}/deployments/{deployment_id}/'` -/
def deploymentPrefix (app id : Uuid) : PyStr :=
  app.text ++ lit "/deployments/" ++ id.text ++ [slash]

structure Deployment where
  id : Uuid
  app : Uuid
  appVersion : PyStr
  shelluiVersion : PyStr
  status : DeploymentStatus
  pinned : Bool
  storagePrefix : PyStr
  deployedById : Option Nat
  artifactSize : Nat
  finalizedAt : Option Time
  /-- The only value the row is ever created with. -/
  storagePrefix_eq : storagePrefix = deploymentPrefix app id
  deriving DecidableEq

/-- The row that `create_deployment` inserts. -/
def Deployment.draft (app id : Uuid) (appVersion shelluiVersion : PyStr) (pinned : Bool)
    (deployedById : Nat) : Deployment where
  id := id
  app := app
  appVersion := appVersion
  shelluiVersion := shelluiVersion
  status := .draft
  pinned := pinned
  storagePrefix := deploymentPrefix app id
  deployedById := some deployedById
  artifactSize := 0
  finalizedAt := none
  storagePrefix_eq := rfl

end HostingService
