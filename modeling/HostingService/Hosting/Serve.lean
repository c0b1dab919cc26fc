import HostingService.Hosting.Services

/-! Serve deployed static sites from extracted artifacts. -/

namespace HostingService

open Program Text Storage Transaction

/-- Missing assets with these extensions stay hard 404s. -/
def assetExtensions : List PyStr :=
  [lit "js", lit "mjs", lit "cjs", lit "css", lit "map", lit "json", lit "svg", lit "png", lit "jpg",
    lit "jpeg", lit "gif", lit "webp", lit "ico", lit "woff", lit "woff2", lit "ttf", lit "otf",
    lit "eot", lit "txt", lit "xml", lit "wasm", lit "mp4", lit "webm", lit "mp3", lit "wav"]

/-- `PurePosixPath(path).name` -/
def pathName (path : PyStr) : PyStr :=
  (((segments path).filter fun part => part ≠ [] ∧ part ≠ dot).getLast?).getD []

def looksLikeStaticAsset (library : Library) (relativePath : PyStr) : Bool :=
  let name := pathName relativePath
  decide (0x2E ∈ name) &&
    decide (library.lower ((name.splitOn 0x2E).getLast?.getD []) ∈ assetExtensions)

/-- The reason on the page of a site that cannot be served. -/
inductive SiteMessage where
  | notFound
  | expired
  | unavailable
  deriving DecidableEq

/-- A file with status 200, or the unavailable page with status 404; `Http404` is an error. -/
inductive Response where
  | file (relativePath : PyStr) (content : Bytes)
  | siteUnavailable (reason : SiteMessage)
  deriving DecidableEq

def fileNotFound : Error := .http404 (lit "File not found")

section
variable (settings : Settings) (library : Library)

/-! ### Files of a deployment -/

def indexHtml : PyStr := lit "index.html"

/-- The candidates of `_pick_file` for a validated path. -/
def pickCandidates (rel : PyStr) : List PyStr :=
  let direct :=
    if rel = [] ∨ rel.getLast? = some slash then [if rel = [] then indexHtml else rel ++ indexHtml]
    else if looksLikeStaticAsset library rel then [rel]
    else [rel, rstripSlash rel ++ slash :: indexHtml]
  if rel ≠ [] ∧ looksLikeStaticAsset library rel then direct
  else direct ++ [lit "404.html", indexHtml]

/-- The first candidate that can be opened; an empty or repeated one is passed over. -/
def openFirst (deployment : Deployment) :
    List PyStr → List PyStr → StorageProg (PyStr × Bytes)
  | [], _ => throw fileNotFound
  | candidate :: candidates, seen =>
    if candidate = [] ∨ candidate ∈ seen then openFirst deployment candidates seen
    else do
      match ← openExtractedFile settings deployment candidate with
      | some content => return (candidate, content)
      | none => openFirst deployment candidates (candidate :: seen)

def pickFile (deployment : Deployment) (path : PyStr) : StorageProg (PyStr × Bytes) := do
  let rel ← .ofExcept (validateServePath path)
  openFirst settings deployment (pickCandidates library rel) []

/-- `_file_response` for the open file at a key: `mimetypes.guess_type` reads the path as a URL,
and the response has the name of the file in a header. -/
def fileResponse (key relativePath : PyStr) (content : Bytes) : Except Error Response :=
  match urlparse library.tables relativePath with
  | .error _ => .error (.valueError [])
  | .ok _ =>
    match library.headerRefusal key relativePath with
    | some message => .error (.valueError message)
    | none => .ok (.file relativePath content)

/-- The path can be read as a URL, and Django takes the headers. -/
def Respondable (key relativePath : PyStr) : Prop :=
  (∃ parsed, urlparse library.tables relativePath = .ok parsed) ∧
    library.headerRefusal key relativePath = none

section
variable {library : Library} {key relativePath : PyStr}

theorem fileResponse_ok (respondable : Respondable library key relativePath) (content : Bytes) :
    fileResponse library key relativePath content = .ok (.file relativePath content) := by
  obtain ⟨⟨parsed, read⟩, taken⟩ := respondable
  simp only [fileResponse, read, taken]

/-- Else it is a `ValueError`. -/
theorem fileResponse_raises (refused : ¬ Respondable library key relativePath) (content : Bytes) :
    ∃ message, fileResponse library key relativePath content = .error (.valueError message) := by
  rw [fileResponse]
  rcases read : urlparse library.tables relativePath with error | parsed
  · exact ⟨[], rfl⟩
  · rcases taken : library.headerRefusal key relativePath with _ | message
    · exact absurd ⟨⟨parsed, read⟩, taken⟩ refused
    · exact ⟨message, rfl⟩

end

/-- The part of `get` after the deployment is resolved. -/
def serveDeployment (deployment : Deployment) (path : PyStr) : StorageProg Response := do
  let relPath ← .ofExcept (validateServePath path)
  if relPath ≠ [] ∧ looksLikeStaticAsset library relPath then
    match ← openExtractedFile settings deployment relPath with
    | some content =>
      .ofExcept (fileResponse library (extractedFileKey settings deployment relPath) relPath content)
    | none => throw fileNotFound
  else
    match ← extractedIndexExists settings deployment with
    | false => return .siteUnavailable .unavailable
    | true => do
      let (rel, content) ← pickFile settings library deployment path
      .ofExcept (fileResponse library (extractedFileKey settings deployment rel) rel content)

/-! ### The app of a host -/

def serveCacheTtl : Int := settings.hostingServeCacheTtlSeconds * 1000000

def cacheGetApp (slug : PyStr) : Transaction (Option ServedApp) := do
  if serveCacheTtl settings ≤ 0 then return none
  let now ← now
  match ← .perform (.cached slug) with
  | none => return none
  | some (expires, app) =>
    if expires ≤ now then do
      .perform (.uncache slug)
      return none
    else return some app

def cacheSetApp (slug : PyStr) (app : ServedApp) : Transaction Unit := do
  if serveCacheTtl settings ≤ 0 then return ()
  let now ← now
  .perform (.cache slug (now + serveCacheTtl settings, app))

/-- `App.objects.select_related('current_deployment').filter(slug=slug).first()` -/
def Db.servedApp (db : Db) (slug : PyStr) : Option ServedApp :=
  (db.apps.find? (·.slug = slug)).map fun app => ⟨app, app.currentDeployment.bind db.deployment⟩

def loadApp (slug : PyStr) : Transaction (Option ServedApp) := do
  match ← cacheGetApp settings slug with
  | some app => return some app
  | none =>
    match ← select fun db => db.servedApp slug with
    | none => return none
    | some app => do
      cacheSetApp settings slug app
      return some app

def resolveDeployment (app : ServedApp) : Option Deployment :=
  app.currentDeployment.filter fun deployment =>
    deployment.status ∈ [.active, .ready, .superseded]

/-- The part of `get` after the app is loaded. -/
def serveApp (app : ServedApp) (path : PyStr) : Transaction Response := do
  match ← isPreviewExpired app.app with
  | true => return .siteUnavailable .expired
  | false =>
    match resolveDeployment app with
    | none => return .siteUnavailable .unavailable
    | some deployment => storage (serveDeployment settings library deployment path)

/-- `AppServeView.get`; the slug is the one of the host, if it has one. -/
def appServeGet (slug : Option PyStr) (path : PyStr) : Transaction Response :=
  match slug with
  | none => throw (.http404 (lit "Not found"))
  | some slug => do
    match ← loadApp settings slug with
    | none => return .siteUnavailable .notFound
    | some app => serveApp settings library app path

/-- `HostedAppServeMiddleware`: every path of an app's host is served by the view. -/
def hostedAppServe (slug pathInfo : PyStr) : Transaction Response :=
  appServeGet settings library (some slug) (lstripSlash pathInfo)

end

end HostingService
