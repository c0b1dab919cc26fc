import HostingService.Hosting.Sessions
import HostingService.Text.Url

/-! `delete_app` with the OAuth redirect of the site, which the identity service keeps. Its
removal is asked for before the transaction commits. -/

namespace HostingService

open Program Text Storage

/-- Where `IDENTITY_JWKS_SOURCE` says the keys come from. -/
inductive JwksSource where
  | file
  | env
  deriving DecidableEq

structure RedirectSettings where
  hostingAppDomain : PyStr
  hostingAppScheme : PyStr
  identityServiceUrl : Option PyStr
  identityJwksSource : Option JwksSource
  identityJwksUrl : Option PyStr

/-! ### Public URLs -/

section
variable (tables : Unicode) (redirects : RedirectSettings)

def appDomain : PyStr := lstripBy (· == fullStop) (strip redirects.hostingAppDomain)

def appScheme : PyStr :=
  let scheme := tables.lower (strip (if redirects.hostingAppScheme = [] then lit "https"
    else redirects.hostingAppScheme))
  if scheme = lit "http" ∨ scheme = lit "https" then scheme else lit "https"

def buildAppUrl (slug : PyStr) : Except Error PyStr :=
  if strip slug = [] then .error (.valueError (lit "slug is required"))
  else if appDomain redirects = [] then .error (.valueError (lit "HOSTING_APP_DOMAIN is required"))
  else .ok (appScheme tables redirects ++ lit "://" ++ strip slug ++ lit "." ++ appDomain redirects ++
    lit "/")

/-- `app_origin_for_sync`; any exception leaves the app without an origin. -/
def appOrigin (app : App) : Option PyStr :=
  match buildAppUrl tables redirects app.slug with
  | .error _ => none
  | .ok url =>
    match urlsplit tables url with
    | .error _ => none
    | .ok parts =>
      if parts.scheme = [] ∨ parts.netloc = [] then none
      else some (parts.scheme ++ lit "://" ++ parts.netloc)

def jwksSuffix : PyStr := lit "/.well-known/jwks.json"

def placeholderOrigins : List PyStr := [lit "http://localhost:8000", lit "http://127.0.0.1:8000"]

def identityBaseUrl : Option PyStr :=
  let base := rstripSlash (strip (redirects.identityServiceUrl.getD []))
  if base ≠ [] then some base
  else if redirects.identityJwksSource = none then none
  else
    let jwks := rstripSlash (strip (redirects.identityJwksUrl.getD []))
    if ¬ jwksSuffix.isSuffixOf jwks then none
    else
      let origin := rstripSlash (jwks.take (jwks.length - jwksSuffix.length))
      if origin = [] ∨ origin ∈ placeholderOrigins then none else some origin

end

/-! ### The calls of `delete_app` -/

/-- What a request to the identity service comes to: the status of its answer, or none if a
`RequestException` is raised, and whether it removed the origin. -/
structure SyncOutcome where
  status : Option Nat
  removed : Bool

/-- The service, the allow-list of the identity service and what the next requests to it
come to, and whether the database is going to commit. -/
structure RemovalWorld where
  hosting : World
  allowlist : List PyStr
  identity : List SyncOutcome
  commits : Bool

inductive RemovalCall : Type → Type 1 where
  | session {α : Type} (statement : SessionStatement α) : RemovalCall α
  /-- `requests.delete(url, json={'base_url': origin}, headers=...)` -/
  | syncDelete (url origin token : PyStr) : RemovalCall (Option Nat)

def RemovalCall.handle (settings : Settings) : Handler RemovalCall Error RemovalWorld
  | _, .session (.commit pending), world =>
    if world.commits then
      let (answer, hosting) := (database settings).session _ (.commit pending) world.hosting
      (answer, { world with hosting })
    else (.error .databaseError, world)
  | _, .session statement, world =>
    let (answer, hosting) := (database settings).session _ statement world.hosting
    (answer, { world with hosting })
  | _, .syncDelete _ origin _, world =>
    match world.identity with
    | [] => (.ok none, world)
    | outcome :: identity =>
      (.ok outcome.status, { world with
        allowlist := if outcome.removed then world.allowlist.filter (· ≠ origin) else world.allowlist
        identity })

abbrev Removal := Prog RemovalCall Error

/-- `_sync_request`, with the attempts that are left. -/
def syncRequest (url origin token : PyStr) : Nat → Removal Unit
  | 0 => return ()
  | attempts + 1 => do
    let status ← .perform (.syncDelete url origin token)
    if status.all (· ≥ 500) then syncRequest url origin token attempts else return ()

section
variable (settings : Settings) (tables : Unicode) (redirects : RedirectSettings)

/-- The answer is logged and no more. -/
def deleteHostingOauthRedirectOrigin (origin : PyStr) (accessToken : Option PyStr) : Removal Unit :=
  let token := strip (accessToken.getD [])
  match identityBaseUrl redirects with
  | none => return ()
  | some base =>
    if token = [] then return ()
    else syncRequest (base ++ lit "/api/v1/hosting-oauth-redirects") origin token 3

/-- `delete_app`: everything stands inside the transaction, and it commits last. -/
def deleteAppAndRedirect (app : App) (accessToken : Option PyStr) (userId : Option Nat)
    (actorEmail : PyStr) : Removal Unit := do
  let origin := appOrigin tables redirects app
  let ended ← ((deleteApp settings app userId actorEmail).within (database settings) []).hoist
    fun _ statement => .session statement
  match origin with
  | none => pure ()
  | some origin => deleteHostingOauthRedirectOrigin redirects origin accessToken
  .perform (.session (.commit ended.2))

end

end HostingService
