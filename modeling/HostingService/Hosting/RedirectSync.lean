import HostingService.Hosting.Redirects
import HostingService.Text.Json

/-! The origins of the sites of a company on the redirect allow-list of the identity service: the
upsert of one origin with its retries, and the command that goes through all sites. -/

namespace HostingService

open Program Text Storage

/-! ### Requests and answers -/

/-- `body` is `response.json()`, where the answer is JSON. -/
structure SyncAnswer where
  status : Nat
  body : Option Json
  text : PyStr

/-- An answer, or the text of a `RequestException`. -/
abbrev SyncResult := Except PyStr SyncAnswer

/-- What a request comes to, and whether the identity service listed the origin for it. -/
structure UpsertOutcome where
  result : SyncResult
  listed : Bool

/-- `requests.put(url, json={'base_url': origin, 'label': label}, headers=...)` -/
structure Upsert where
  url : PyStr
  origin : PyStr
  label : PyStr
  token : PyStr

structure SyncLibrary where
  tables : Unicode
  /-- `str(value)` -/
  str : Json → PyStr
  /-- `repr(text)` -/
  quoted : PyStr → PyStr
  /-- The text of the error that `urlsplit(url)` raises. -/
  splitError : PyStr → PyStr
  /-- `jwt.decode` without any verification; `none` is a `PyJWTError`. -/
  decodeUnverified : PyStr → Option JsonObject

/-- The sites, the allow-list, what the requests to the identity service come to, in order, and
the requests that were sent. -/
structure SyncWorld where
  apps : List App
  allowlist : List PyStr
  identity : Nat → UpsertOutcome
  sent : List (Upsert × SyncResult)

inductive SyncError where
  | command (text : PyStr)
  /-- `int` of an infinite number -/
  | overflow
  deriving DecidableEq

inductive SyncCall : Type → Type
  /-- `App.objects.filter(company_id=company_id).order_by('id')` -/
  | companyApps (companyId : Int) : SyncCall (List App)
  | put (request : Upsert) : SyncCall SyncResult

def SyncWorld.companyApps (world : SyncWorld) (companyId : Int) : List App :=
  (world.apps.filter fun app => (app.companyId : Int) = companyId).mergeSort
    fun left right => left.id.int ≤ right.id.int

def SyncCall.handle : Handler SyncCall SyncError SyncWorld
  | _, .companyApps companyId, world => (.ok (world.companyApps companyId), world)
  | _, .put request, world =>
    let outcome := world.identity world.sent.length
    (.ok outcome.result, { world with
      sent := world.sent ++ [(request, outcome.result)]
      allowlist := if outcome.listed && !world.allowlist.contains request.origin then
        world.allowlist ++ [request.origin] else world.allowlist })

abbrev SyncProg := Prog SyncCall SyncError

/-! ### One upsert -/

/-- A network error or an HTTP 5xx. -/
def isRetried : SyncResult → Bool
  | .error _ => true
  | .ok answer => answer.status ≥ 500

/-- `_sync_request`, with the attempts that may follow this one. -/
def syncPut (request : Upsert) : Nat → SyncProg SyncResult
  | 0 => .perform (.put request)
  | more + 1 => do
    let result ← .perform (.put request)
    if isRetried result then syncPut request more else return result

def syncAttempts : Nat := 3

structure RedirectSyncResult where
  registered : Bool
  origin : PyStr
  warning : PyStr

section
variable (library : SyncLibrary) (redirects : RedirectSettings)

/-- `body.get('error') or body.get('detail') or ''`, as a stripped text -/
def answerDetail (fields : JsonObject) : PyStr :=
  match ([fields.get "error", fields.get "detail"].filterMap id).find? Json.truthy with
  | some value => strip (library.str value)
  | none => []

def identityErrorDetail (answer : SyncAnswer) : PyStr :=
  let told := match answer.body with
    | some (.obj fields) => answerDetail library fields
    | _ => []
  let detail := if told ≠ [] then told else (replaceChar newline 0x20 (strip answer.text)).take 200
  let reason := lit "Identity rejected the origin (HTTP " ++ lit (toString answer.status) ++ lit ")" ++
    if detail = [] then lit "." else lit ": " ++ detail
  if answer.status = 403 ∧ detail = lit "Forbidden" then
    reason ++ lit ". Only a company owner or staff user can register hosted origins."
  else reason

/-- `app_origin_for_sync`, with the text of the `ValueError` that it raises. -/
def appOriginForSync (app : App) : Except PyStr PyStr :=
  match buildAppUrl library.tables redirects app.slug with
  | .error (.valueError text) => .error text
  | .error _ => .error []
  | .ok url =>
    match urlsplit library.tables url with
    | .error _ => .error (library.splitError url)
    | .ok parts =>
      if parts.scheme = [] ∨ parts.netloc = [] then
        .error (lit "Invalid app URL for slug " ++ library.quoted app.slug ++ lit ": " ++
          library.quoted url)
      else .ok (parts.scheme ++ lit "://" ++ parts.netloc)

def upsertRequest (base origin token : PyStr) (app : App) : Upsert where
  url := base ++ lit "/api/v1/hosting-oauth-redirects"
  origin := origin
  label := (if app.displayName = [] then app.slug else app.displayName).take 150
  token := token

def skippedUpsert (origin : PyStr) (warning : String) : RedirectSyncResult := ⟨false, origin, lit warning⟩

def syncedUpsert (origin : PyStr) : SyncResult → RedirectSyncResult
  | .error text => ⟨false, origin, lit "Could not reach identity: " ++ text⟩
  | .ok answer =>
    if answer.status ≥ 400 then ⟨false, origin, identityErrorDetail library answer⟩
    else ⟨true, origin, []⟩

def upsertHostingOauthRedirect (app : App) (accessToken : Option PyStr) :
    SyncProg RedirectSyncResult :=
  let token := strip (accessToken.getD [])
  match appOriginForSync library redirects app, identityBaseUrl redirects with
  | .error text, _ => return ⟨false, [], text⟩
  | .ok origin, none => return skippedUpsert origin (if token = [] then
      "Identity service URL is not configured and the caller access token was missing."
      else "Identity service URL is not configured.")
  | .ok origin, some base =>
    if token = [] then
      return skippedUpsert origin "Caller access token was not available to forward."
    else do
      let result ← syncPut (upsertRequest base origin token app) (syncAttempts - 1)
      return syncedUpsert library origin result

/-! ### The command -/

def companyIdFromToken (token : PyStr) : Except SyncError Int :=
  match library.decodeUnverified token with
  | none => .error (.command (lit "Access token is not a JWT."))
  | some payload =>
    match ((payload.get "company_id").getD .null).toInt with
    | .error .typeOrValue => .error (.command (lit "Access token is missing company_id."))
    | .error .overflow => .error .overflow
    | .ok companyId =>
      if companyId ≤ 0 then .error (.command (lit "Access token company_id is invalid."))
      else .ok companyId

/-- The loop over the sites; the result is the number of those that failed. -/
def syncApps (token : PyStr) : List App → SyncProg Nat
  | [] => return 0
  | app :: apps => do
    let result ← upsertHostingOauthRedirect library redirects app (some token)
    let failed ← syncApps token apps
    return if result.registered then failed else failed + 1

def wrongCompany (requested companyId : Int) : SyncError :=
  .command (lit "--company-id " ++ lit (toString requested) ++ lit " does not match token company_id " ++
    lit (toString companyId) ++ lit ".")

def notRegistered (failed : Nat) : SyncError :=
  .command (lit (toString failed) ++ lit " origin(s) were not registered.")

/-- `sync_oauth_redirects` -/
def syncOauthRedirects (accessToken : PyStr) (requested : Option Int) : SyncProg Unit := do
  let token := strip accessToken
  .when (token = []) (throw (.command (lit "--access-token is required.")))
  let companyId ← .ofExcept (companyIdFromToken library token)
  .when (requested.any (· ≠ companyId)) (throw (wrongCompany (requested.getD 0) companyId))
  let apps ← .perform (.companyApps companyId)
  let failed ← syncApps library redirects token apps
  .when (failed ≠ 0) (throw (notRegistered failed))

end

/-! ### The requests for one origin -/

/-- The last answer has a status below 400. -/
def isAccepted : SyncResult → Bool
  | .error _ => false
  | .ok answer => answer.status < 400

def accepted (entries : List (Upsert × SyncResult)) : Bool :=
  entries.getLast?.any fun entry => isAccepted entry.2

/-- One request, sent again as long as it fails and attempts are left. -/
structure Burst (request : Upsert) (attempts : Nat) (entries : List (Upsert × SyncResult)) : Prop where
  same : ∀ entry ∈ entries, entry.1 = request
  few : entries.length ≤ attempts
  retried : ∀ entry ∈ entries.dropLast, isRetried entry.2 = true
  ends : ∃ last ∈ entries.getLast?, isRetried last.2 = true → entries.length = attempts

/-- The identity service lists every origin that it accepts. -/
def SyncWorld.Honest (world : SyncWorld) : Prop :=
  ∀ number, isAccepted (world.identity number).result = true → (world.identity number).listed = true

/-- What requests for some origins do to the world. -/
structure Upserted (origins : PyStr → Prop) (entries : List (Upsert × SyncResult))
    (before after : SyncWorld) : Prop where
  sent : after.sent = before.sent ++ entries
  apps : after.apps = before.apps
  identity : after.identity = before.identity
  kept : before.allowlist ⊆ after.allowlist
  added : ∀ origin ∈ after.allowlist, origin ∈ before.allowlist ∨ origins origin
  listed : before.Honest → ∀ entry ∈ entries, isAccepted entry.2 = true →
    entry.1.origin ∈ after.allowlist

section
variable {origins : PyStr → Prop}

theorem Upserted.nothing (world : SyncWorld) : Upserted origins [] world world where
  sent := (List.append_nil _).symm
  apps := rfl
  identity := rfl
  kept := List.Subset.refl _
  added := fun _ member => .inl member
  listed := fun _ _ member => by simp at member

theorem Upserted.mono {others : PyStr → Prop} {entries : List (Upsert × SyncResult)}
    {before after : SyncWorld} (sends : Upserted origins entries before after)
    (weaker : ∀ origin, origins origin → others origin) : Upserted others entries before after :=
  { sends with added := fun origin member => (sends.added origin member).imp_right (weaker origin) }

theorem Upserted.trans {first second : List (Upsert × SyncResult)} {before middle after : SyncWorld}
    (left : Upserted origins first before middle) (right : Upserted origins second middle after) :
    Upserted origins (first ++ second) before after where
  sent := by rw [right.sent, left.sent, List.append_assoc]
  apps := right.apps.trans left.apps
  identity := right.identity.trans left.identity
  kept := List.Subset.trans left.kept right.kept
  added := by
    intro origin member
    rcases right.added origin member with old | new
    · exact left.added origin old
    · exact .inr new
  listed := by
    intro honest entry member passed
    rcases List.mem_append.mp member with early | late
    · exact right.kept (left.listed honest entry early passed)
    · have still : middle.Honest := by
        intro number
        rw [left.identity]
        exact honest number
      exact right.listed still entry late passed

end

theorem put_sends (request : Upsert) (world : SyncWorld) :
    let outcome := (world.identity world.sent.length).result
    (SyncCall.handle _ (.put request) world).1 = .ok outcome ∧
      Upserted (· = request.origin) [(request, outcome)] world
        (SyncCall.handle _ (.put request) world).2 := by
  refine ⟨rfl, rfl, rfl, rfl, ?kept, ?added, ?listed⟩
  case kept =>
    intro origin member
    simp only [SyncCall.handle]
    split
    · exact List.mem_append_left _ member
    · exact member
  case added =>
    intro origin member
    simp only [SyncCall.handle] at member
    split at member
    · exact (List.mem_append.mp member).imp_right List.mem_singleton.mp
    · exact .inl member
  case listed =>
    intro honest entry member passed
    obtain rfl := List.mem_singleton.mp member
    have told : (world.identity world.sent.length).listed = true := honest _ passed
    simp only [SyncCall.handle, told, Bool.true_and, Bool.not_eq_true']
    split
    · simp
    · next present => simpa using present

/-- One more attempt in front. -/
theorem Burst.cons {request : Upsert} {attempts : Nat} {entries : List (Upsert × SyncResult)}
    (burst : Burst request attempts entries) {result : SyncResult} (failed : isRetried result = true) :
    Burst request (attempts + 1) ((request, result) :: entries) := by
  obtain ⟨last, ended, full⟩ := burst.ends
  have filled : entries ≠ [] := by
    rintro rfl
    simp at ended
  refine ⟨?same, Nat.succ_le_succ burst.few, ?retried, last, ?ended, fun again => by simp [full again]⟩
  case same =>
    intro entry member
    rcases List.mem_cons.mp member with rfl | later
    · rfl
    · exact burst.same entry later
  case retried =>
    intro entry member
    rw [List.dropLast_cons_of_ne_nil filled] at member
    rcases List.mem_cons.mp member with rfl | later
    · exact failed
    · exact burst.retried entry later
  case ended =>
    rw [List.getLast?_cons_of_ne_nil filled]
    exact ended

theorem Burst.single (request : Upsert) {attempts : Nat} (left : 0 < attempts) {result : SyncResult}
    (ended : isRetried result = true → attempts = 1) : Burst request attempts [(request, result)] where
  same := by
    intro entry member
    rw [List.mem_singleton.mp member]
  few := left
  retried := by simp
  ends := ⟨(request, result), by simp, fun again => (ended again).symm⟩

/-- The retries of one request, by induction on the attempts that are left. -/
theorem syncPut_sends (request : Upsert) (more : Nat) (world : SyncWorld) :
    ∃ entries result after, (syncPut request more).run SyncCall.handle world = (.ok result, after) ∧
      Burst request (more + 1) entries ∧ Upserted (· = request.origin) entries world after ∧
      entries.getLast?.map (·.2) = some result := by
  induction more generalizing world with
  | zero =>
    obtain ⟨answered, sends⟩ := put_sends request world
    refine ⟨_, _, _, ?_, .single request (by omega) fun _ => rfl, sends, rfl⟩
    rw [syncPut, Prog.run_perform]
    exact Prod.ext answered rfl
  | succ more ih =>
    obtain ⟨answered, sends⟩ := put_sends request world
    have first : (Prog.perform (SyncCall.put request) : SyncProg SyncResult).run SyncCall.handle world =
        (.ok (world.identity world.sent.length).result, (SyncCall.handle _ (.put request) world).2) := by
      rw [Prog.run_perform]
      exact Prod.ext answered rfl
    rw [syncPut, Prog.run_bind_ok _ first]
    cases again : isRetried (world.identity world.sent.length).result with
    | true =>
      obtain ⟨entries, result, after, ran, burst, rest, last⟩ :=
        ih (SyncCall.handle _ (.put request) world).2
      refine ⟨_ :: entries, result, after, by simpa using ran, burst.cons again,
        sends.trans rest, ?_⟩
      have filled : entries ≠ [] := by
        rintro rfl
        simp at last
      rw [List.getLast?_cons_of_ne_nil filled]
      exact last
    | false =>
      refine ⟨_, _, _, by simp, .single request (by omega) fun wrong => ?_, sends, rfl⟩
      rw [again] at wrong
      contradiction

/-! ### The requests for one site -/

section
variable {library : SyncLibrary} {redirects : RedirectSettings} {token : PyStr}

theorem appOriginForSync_ok_iff (app : App) (origin : PyStr) :
    appOriginForSync library redirects app = .ok origin ↔
      appOrigin library.tables redirects app = some origin := by
  rw [appOriginForSync, appOrigin]
  rcases buildAppUrl library.tables redirects app.slug with error | url
  · cases error <;> simp
  · simp only
    rcases urlsplit library.tables url with _ | parts
    · simp
    · simp only
      split <;> simp

/-- What a site with a token that is not empty is registered with. -/
inductive SiteSync (library : SyncLibrary) (redirects : RedirectSettings) (token : PyStr) (app : App) :
    List (Upsert × SyncResult) → Prop where
  | unnamed (absent : appOrigin library.tables redirects app = none) :
      SiteSync library redirects token app []
  | nowhere (absent : identityBaseUrl redirects = none) : SiteSync library redirects token app []
  | asked {entries} (base origin : PyStr) (host : identityBaseUrl redirects = some base)
      (named : appOrigin library.tables redirects app = some origin)
      (burst : Burst (upsertRequest base origin token app) syncAttempts entries) :
      SiteSync library redirects token app entries

/-- An origin that was accepted is the one of the site. -/
theorem SiteSync.accepted_origin {app : App} {entries : List (Upsert × SyncResult)}
    (site : SiteSync library redirects token app entries) (passed : accepted entries = true) :
    ∃ origin, appOrigin library.tables redirects app = some origin ∧
      ∃ entry ∈ entries, entry.1.origin = origin ∧ isAccepted entry.2 = true := by
  cases site with
  | unnamed absent => contradiction
  | nowhere absent => contradiction
  | asked base origin host named burst =>
    obtain ⟨last, ended, good⟩ := (Option.any_eq_true ..).mp passed
    refine ⟨origin, named, last, List.mem_of_getLast? ended, ?_, good⟩
    rw [burst.same last (List.mem_of_getLast? ended)]
    rfl

theorem accepted_origins {apps : List App} {bursts : List (List (Upsert × SyncResult))}
    (sites : List.Forall₂ (SiteSync library redirects token) apps bursts)
    (passed : ∀ entries ∈ bursts, accepted entries = true) {app : App} (member : app ∈ apps) :
    ∃ origin, appOrigin library.tables redirects app = some origin ∧
      ∃ entry ∈ bursts.flatten, entry.1.origin = origin ∧ isAccepted entry.2 = true := by
  induction sites with
  | nil => exact absurd member List.not_mem_nil
  | @cons first entries apps bursts site _ ih =>
    rcases List.mem_cons.mp member with rfl | later
    · obtain ⟨origin, found, entry, sent, good⟩ :=
        site.accepted_origin (passed entries List.mem_cons_self)
      exact ⟨origin, found, entry, List.mem_append_left _ sent, good⟩
    · obtain ⟨origin, found, entry, sent, good⟩ :=
        ih (fun other present => passed other (List.mem_cons_of_mem _ present)) later
      exact ⟨origin, found, entry, List.mem_append_right _ sent, good⟩

theorem upsert_sends (given : strip token = token) (filled : token ≠ []) (app : App)
    (world : SyncWorld) :
    ∃ entries result after, (upsertHostingOauthRedirect library redirects app (some token)).run
        SyncCall.handle world = (.ok result, after) ∧
      SiteSync library redirects token app entries ∧
      Upserted (fun origin => appOrigin library.tables redirects app = some origin) entries world after ∧
      result.registered = accepted entries := by
  have stripped : strip ((some token).getD []) = token := given
  rw [upsertHostingOauthRedirect]
  simp only [stripped, if_neg filled]
  rcases named : appOriginForSync library redirects app with text | origin
  · have absent : appOrigin library.tables redirects app = none := by
      refine Option.eq_none_iff_forall_not_mem.mpr fun origin found => ?_
      rw [(appOriginForSync_ok_iff app origin).mpr found] at named
      contradiction
    exact ⟨[], _, world, rfl, .unnamed absent, .nothing world, rfl⟩
  · have found := (appOriginForSync_ok_iff app origin).mp named
    rcases host : identityBaseUrl redirects with _ | base
    · exact ⟨[], _, world, rfl, .nowhere host, .nothing world, rfl⟩
    · obtain ⟨entries, result, after, ran, burst, sends, last⟩ :=
        syncPut_sends (upsertRequest base origin token app) (syncAttempts - 1) world
      refine ⟨entries, syncedUpsert library origin result, after, ?_, .asked base origin host found burst,
        sends.mono fun other same => by rw [found, same]; rfl, ?_⟩
      · simp only
        rw [Prog.run_bind_ok _ ran]
        rfl
      · obtain ⟨entry, ended, rfl⟩ := Option.map_eq_some_iff.mp last
        rw [accepted, ended]
        rcases entry with ⟨request, text | answer⟩
        · rfl
        · simp only [syncedUpsert, Option.any_some, isAccepted]
          split
          · next refused => simp only [decide_eq_false (Nat.not_lt.mpr refused)]
          · next passed => simp only [decide_eq_true (Nat.not_le.mp passed)]

/-! ### The command -/

theorem syncApps_sends (library : SyncLibrary) (redirects : RedirectSettings)
    (given : strip token = token) (filled : token ≠ []) (apps : List App) (world : SyncWorld) :
    ∃ bursts after, (syncApps library redirects token apps).run SyncCall.handle world =
        (.ok (bursts.countP fun entries => !accepted entries), after) ∧
      List.Forall₂ (SiteSync library redirects token) apps bursts ∧
      Upserted (fun origin => ∃ app ∈ apps, appOrigin library.tables redirects app = some origin)
        bursts.flatten world after := by
  induction apps generalizing world with
  | nil => exact ⟨[], world, rfl, .nil, .nothing world⟩
  | cons app apps ih =>
    obtain ⟨entries, result, middle, ran, site, first, same⟩ := upsert_sends given filled app world
    obtain ⟨bursts, after, rest, sites, later⟩ := ih middle
    refine ⟨entries :: bursts, after, ?_, .cons site sites, ?_⟩
    · rw [syncApps, Prog.run_bind_ok _ ran, Prog.run_bind_ok _ rest, same]
      cases passed : accepted entries <;> simp [passed]
    · rw [List.flatten_cons]
      refine (first.mono fun origin named => ⟨app, List.mem_cons_self, named⟩).trans ?_
      refine later.mono fun origin sent => ?_
      obtain ⟨other, member, named⟩ := sent
      exact ⟨other, List.mem_cons_of_mem _ member, named⟩

theorem SyncWorld.mem_companyApps {world : SyncWorld} {companyId : Int} {app : App} :
    app ∈ world.companyApps companyId ↔ app ∈ world.apps ∧ (app.companyId : Int) = companyId := by
  simp [SyncWorld.companyApps]

/-- For each site of the token's company, and for no other, the command sends one request, at most
three times; it succeeds if and only if every site was accepted, and then all their origins are listed. -/
theorem sync_registers (world : SyncWorld) {accessToken : PyStr} {requested : Option Int}
    {companyId : Int} (filled : strip accessToken ≠ [])
    (named : companyIdFromToken library (strip accessToken) = .ok companyId)
    (agreed : ∀ other, requested = some other → other = companyId) :
    ∃ bursts after, (syncOauthRedirects library redirects accessToken requested).run SyncCall.handle
        world = (if bursts.all accepted then .ok () else
          .error (notRegistered (bursts.countP fun entries => !accepted entries)), after) ∧
      List.Forall₂ (SiteSync library redirects (strip accessToken)) (world.companyApps companyId) bursts ∧
      after.sent = world.sent ++ bursts.flatten ∧
      world.allowlist ⊆ after.allowlist ∧
      (∀ origin ∈ after.allowlist, origin ∈ world.allowlist ∨ ∃ app ∈ world.apps,
        (app.companyId : Int) = companyId ∧ appOrigin library.tables redirects app = some origin) ∧
      (world.Honest → bursts.all accepted → ∀ app ∈ world.apps, (app.companyId : Int) = companyId →
        ∃ origin ∈ after.allowlist, appOrigin library.tables redirects app = some origin) := by
  obtain ⟨bursts, after, ran, sites, sends⟩ := syncApps_sends library redirects
    (strip_strip accessToken) filled (world.companyApps companyId) world
  refine ⟨bursts, after, ?_, sites, sends.sent, sends.kept, ?_, ?_⟩
  · have listed : (Prog.perform (.companyApps companyId) : SyncProg (List App)).run SyncCall.handle world =
        (.ok (world.companyApps companyId), world) := rfl
    have same : requested.any (· ≠ companyId) = false := by
      cases requested with
      | none => rfl
      | some other => simp [agreed other rfl]
    rw [syncOauthRedirects]
    simp only [filled, decide_false, named, same, Prog.when_false, Prog.ret_bind, Prog.ofExcept_ok]
    rw [Prog.run_bind_ok _ listed, Prog.run_bind_ok _ ran]
    by_cases passed : bursts.all accepted = true
    · have zero : bursts.countP (fun entries => !accepted entries) = 0 := by
        rw [List.countP_eq_zero]
        intro entries member
        simp [List.all_eq_true.mp passed entries member]
      simp [zero, passed]
    · have failures : bursts.countP (fun entries => !accepted entries) ≠ 0 := by
        intro zero
        refine passed (List.all_eq_true.mpr fun entries member => ?_)
        simpa using List.countP_eq_zero.mp zero entries member
      simp [failures, passed]
  · intro origin member
    refine (sends.added origin member).imp_right ?_
    rintro ⟨app, present, found⟩
    obtain ⟨stored, own⟩ := SyncWorld.mem_companyApps.mp present
    exact ⟨app, stored, own, found⟩
  · intro honest passed app stored own
    obtain ⟨origin, found, entry, sent, same, good⟩ := accepted_origins sites
      (List.all_eq_true.mp passed) (SyncWorld.mem_companyApps.mpr ⟨stored, own⟩)
    refine ⟨origin, ?_, found⟩
    rw [← same]
    exact sends.listed honest entry sent good

end

/-! One site of company 3 and one of another company; the first request is not answered. -/

def syncLibrary : SyncLibrary where
  tables := asciiTables
  str := fun _ => []
  quoted := id
  splitError := fun _ => lit "Invalid IPv6 URL"
  decodeUnverified := fun _ => some [(lit "company_id", .int 3)]

def syncDomain : RedirectSettings where
  hostingAppDomain := lit "apps.example.com"
  hostingAppScheme := lit "https"
  identityServiceUrl := some (lit "https://identity.example.com")
  identityJwksSource := none
  identityJwksUrl := none

def syncSite (id : Uuid) (slug : String) (companyId : Nat) : App where
  id := id
  name := lit slug
  slug := lit slug
  companyId := companyId
  displayName := lit slug
  createdById := none
  expiresAt := none
  currentDeployment := none

def syncStart : SyncWorld where
  apps := [syncSite ⟨1⟩ "demo" 3, syncSite ⟨2⟩ "other" 4]
  allowlist := []
  identity number :=
    if number = 0 then ⟨.error (lit "timed out"), false⟩ else ⟨.ok ⟨200, none, []⟩, true⟩
  sent := []

theorem sync_registers_demo :
    ∃ bursts after, (syncOauthRedirects syncLibrary syncDomain (lit "token") (some 3)).run
        SyncCall.handle syncStart = (if bursts.all accepted then .ok () else
          .error (notRegistered (bursts.countP fun entries => !accepted entries)), after) ∧
      List.Forall₂ (SiteSync syncLibrary syncDomain (strip (lit "token"))) (syncStart.companyApps 3)
        bursts ∧
      after.sent = syncStart.sent ++ bursts.flatten ∧
      syncStart.allowlist ⊆ after.allowlist ∧
      (∀ origin ∈ after.allowlist, origin ∈ syncStart.allowlist ∨ ∃ app ∈ syncStart.apps,
        (app.companyId : Int) = 3 ∧ appOrigin syncLibrary.tables syncDomain app = some origin) ∧
      (syncStart.Honest → bursts.all accepted → ∀ app ∈ syncStart.apps, (app.companyId : Int) = 3 →
        ∃ origin ∈ after.allowlist, appOrigin syncLibrary.tables syncDomain app = some origin) := by
  have filled : strip (lit "token") ≠ [] := by decide
  have named : companyIdFromToken syncLibrary (strip (lit "token")) = .ok 3 := rfl
  have agreed : ∀ other, some (3 : Int) = some other → other = 3 :=
    fun _ same => (Option.some.inj same).symm
  exact sync_registers syncStart filled named agreed

example :
    let ended := (syncOauthRedirects syncLibrary syncDomain (lit "token") (some 3)).run SyncCall.handle
      syncStart
    ended.2.sent.length = 2 ∧ ended.2.allowlist = [lit "https://demo.apps.example.com"] := by
  decide +kernel

end HostingService
