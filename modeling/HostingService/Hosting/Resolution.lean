import HostingService.Hosting.Visits

/-! Which file of a site answers a path. -/

namespace HostingService

open Program Text Storage Transaction

/-- The files that may answer a path, in the order in which they are tried. -/
def resolutionOrder (library : Library) (rel : PyStr) : List PyStr :=
  if rel = [] then [indexHtml, lit "404.html"]
  else if looksLikeStaticAsset library rel then [rel]
  else [rel, rel ++ slash :: indexHtml, lit "404.html", indexHtml]

/-- The content of a file of the site by its path; `none` if it is not stored. -/
abbrev SiteTree := PyStr → Option Bytes

/-- The first file of the order that is stored. -/
def SiteTree.first (tree : SiteTree) (order : List PyStr) : Option (PyStr × Bytes) :=
  order.findSome? fun rel => (tree rel).map (Prod.mk rel)

/-- An answer follows the order: a file that looks like an asset or nothing, the unavailable
page without an index, else the first file of the order that is stored. -/
structure AnswersInOrder (library : Library) (tree : SiteTree) (hasIndex : Bool) (rel : PyStr)
    (picked : Except Error (PyStr × Bytes)) (answer : Except Error Response) : Prop where
  asset : looksLikeStaticAsset library rel = true →
    answer = ((tree rel).elim (.error fileNotFound) fun content => .ok (.file rel content))
  unavailable : looksLikeStaticAsset library rel = false → hasIndex = false →
    answer = .ok (.siteUnavailable .unavailable)
  page : looksLikeStaticAsset library rel = false → hasIndex = true →
    answer = ((tree.first (resolutionOrder library rel)).elim (.error fileNotFound)
      fun file => .ok (.file file.1 file.2))
  picked : looksLikeStaticAsset library rel = true ∨ hasIndex = true →
    answer = picked.map fun file => .file file.1 file.2
  found : looksLikeStaticAsset library rel = false → tree indexHtml ≠ none →
    ∃ file content, answer = .ok (.file file content)

/-! ### The answers of the storage -/

/-- What a storage answers to the two calls of serving. -/
structure FileAnswers where
  opens : PyStr → Except Error Bytes
  present : PyStr → Bool

/-- In this state the storage answers so, and stays in it. -/
structure FileAnswers.Of {σ : Type} (handle : Handler StorageCall Error σ) (state : σ)
    (files : FileAnswers) : Prop where
  read : ∀ key, handle _ (.read key) state = (files.opens key, state)
  hasKey : ∀ key, handle _ (.hasKey key) state = (.ok (files.present key), state)

namespace FileAnswers

section
variable (settings : Settings) (library : Library) (row : Deployment) (files : FileAnswers)

/-- What `open_extracted_file` returns. -/
def opening (rel : PyStr) : Except Error (Option Bytes) :=
  match files.opens (extractedFileKey settings row rel) with
  | .ok content => .ok (some content)
  | .error error => if error.isOSError then .ok none else .error error

/-- The first file that opens; an error that opening raises ends the search. -/
def first : List PyStr → Except Error (PyStr × Bytes)
  | [] => .error fileNotFound
  | rel :: order =>
    match files.opening settings row rel with
    | .error error => .error error
    | .ok (some content) => .ok (rel, content)
    | .ok none => first order

/-- The response with a file of the site. -/
def respond (file : PyStr × Bytes) : Except Error Response :=
  fileResponse library (extractedFileKey settings row file.1) file.1 file.2

def answer (rel : PyStr) : Except Error Response :=
  if looksLikeStaticAsset library rel ||
      files.present (extractedFileKey settings row indexHtml) then
    (files.first settings row (resolutionOrder library rel)).bind (respond settings library row)
  else .ok (.siteUnavailable .unavailable)

end

section
variable {settings : Settings} {library : Library} {row : Deployment} {files : FileAnswers}

/-- A file that does not open may as well not be tried. -/
theorem first_append_closed {closed : PyStr} (missing : files.opening settings row closed = .ok none)
    (order later : List PyStr) :
    files.first settings row (order ++ closed :: later) =
      files.first settings row (order ++ later) := by
  induction order with
  | nil => simp only [List.nil_append, first, missing]
  | cons rel order ih =>
    simp only [List.cons_append, first, ih]

/-- Nor need a file be tried again. -/
theorem first_again (again : PyStr) (order later : List PyStr) :
    files.first settings row (again :: (order ++ again :: later)) =
      files.first settings row (again :: (order ++ later)) := by
  rcases tried : files.opening settings row again with error | _ | content
  · simp only [first, tried]
  · simp only [first, tried, first_append_closed tried]
  · simp only [first, tried]

/-! ### Serving from them -/

variable {σ : Type} {handle : Handler StorageCall Error σ} {state : σ}

theorem Of.run_openExtractedFile (answers : files.Of handle state) (rel : PyStr) :
    (openExtractedFile settings row rel).run handle state =
      (files.opening settings row rel, state) := by
  have read := answers.read (extractedFileKey settings row rel)
  rw [openExtractedFile, Prog.run_tryCatch, opening]
  rcases opened : files.opens (extractedFileKey settings row rel) with error | content
  · rw [opened] at read
    rw [Prog.run_bind_error _ ((Prog.run_perform _ _ _).trans read)]
    cases caught : error.isOSError <;> simp [caught]
  · rw [opened] at read
    rw [Prog.run_bind_ok _ ((Prog.run_perform _ _ _).trans read)]
    rfl

/-- Passing over what was tried before changes nothing. -/
theorem Of.run_openFirst (answers : files.Of handle state) {candidates : List PyStr}
    (named : [] ∉ candidates) {seen : List PyStr}
    (closed : ∀ tried ∈ seen, files.opening settings row tried = .ok none) :
    (openFirst settings row candidates seen).run handle state =
      (files.first settings row candidates, state) := by
  induction candidates generalizing seen with
  | nil => rfl
  | cons candidate candidates ih =>
    obtain ⟨full, others⟩ := not_or.mp (mt List.mem_cons.mpr named)
    rw [openFirst]
    by_cases again : candidate ∈ seen
    · rw [if_pos (.inr again), ih others closed, first, closed candidate again]
    · have opened : (openExtractedFile settings row candidate).run handle state = _ :=
        answers.run_openExtractedFile candidate
      rw [if_neg (not_or.mpr ⟨Ne.symm full, again⟩), first, Prog.run_bind, opened]
      rcases tried : files.opening settings row candidate with error | _ | content
      · rfl
      · refine ih others fun other member => ?_
        rcases List.mem_cons.mp member with rfl | member
        · exact tried
        · exact closed other member
      · rfl

/-- The candidates of a path that was accepted give the order, one or two of them again. -/
theorem first_pickCandidates {path rel : PyStr} (accepted : validateServePath path = .ok rel) :
    [] ∉ pickCandidates library rel ∧
      files.first settings row (pickCandidates library rel) =
        files.first settings row (resolutionOrder library rel) := by
  by_cases empty : rel = []
  · subst empty
    have candidates : pickCandidates library [] = [indexHtml, lit "404.html", indexHtml] := rfl
    rw [candidates]
    refine ⟨by decide, ?_⟩
    exact first_again indexHtml [lit "404.html"] []
  · have safe := validateServePath_safe accepted empty
    have noSlash := safe.last_ne_slash
    simp only [pickCandidates, resolutionOrder, empty, noSlash, or_self, ↓reduceIte, ne_eq,
      not_false_eq_true, true_and, safe.rstripSlash]
    cases looksLikeStaticAsset library rel with
    | true => simp [Ne.symm empty]
    | false => simp [Ne.symm empty, indexHtml, lit_eq]

theorem Of.run_pickFile (answers : files.Of handle state) {path rel : PyStr}
    (accepted : validateServePath path = .ok rel) :
    (pickFile settings library row path).run handle state =
      (files.first settings row (resolutionOrder library rel), state) := by
  obtain ⟨named, same⟩ := @first_pickCandidates settings library row files _ _ accepted
  rw [pickFile, accepted, Prog.ofExcept_ok, Prog.ret_bind, answers.run_openFirst named (by simp), same]

theorem Of.run_serveDeployment (answers : files.Of handle state) {path rel : PyStr}
    (accepted : validateServePath path = .ok rel) :
    (serveDeployment settings library row path).run handle state =
      (files.answer settings library row rel, state) := by
  rw [serveDeployment, accepted, Prog.ofExcept_ok, Prog.ret_bind, answer]
  by_cases asset : looksLikeStaticAsset library rel = true
  · have full : rel ≠ [] := by
      rintro rfl
      contradiction
    have order : resolutionOrder library rel = [rel] := by
      rw [resolutionOrder, if_neg full, if_pos asset]
    have opened : (openExtractedFile settings row rel).run handle state = _ :=
      answers.run_openExtractedFile rel
    rw [if_pos ⟨full, asset⟩, if_pos (by rw [asset]; rfl), order, first, Prog.run_bind, opened]
    rcases files.opening settings row rel with error | _ | content
    · rfl
    · rfl
    · exact Prog.run_ofExcept handle _ state
  · have index := answers.hasKey (extractedFileKey settings row indexHtml)
    have asked : (extractedIndexExists settings row).run handle state = _ :=
      (Prog.run_perform handle _ state).trans index
    rw [if_neg fun both => asset both.2, Prog.run_bind_ok _ asked, Bool.eq_false_iff.mpr asset,
      Bool.false_or]
    cases files.present (extractedFileKey settings row indexHtml) with
    | false => rfl
    | true =>
      simp only [if_true]
      rw [Prog.run_bind, answers.run_pickFile accepted]
      rcases files.first settings row (resolutionOrder library rel) with error | file
      · rfl
      · exact Prog.run_ofExcept handle _ state

end

end FileAnswers

/-! ### Serving from a store -/

/-- The extracted tree of a deployment: a file is stored under its key. -/
def siteTree (settings : Settings) (row : Deployment) (objects : Objects) : SiteTree :=
  fun rel => objects.lookup (extractedFileKey settings row rel)

/-- `exists`: a stored file, or a folder of a file system. -/
def keyPresent (settings : Settings) (objects : Objects) (key : PyStr) : Bool :=
  decide (key ∈ objects) || ((storageBackend settings).folders && isFolder objects key)

def FileAnswers.stored (settings : Settings) (objects : Objects) : FileAnswers where
  opens key := ((StorageCall.read key).exec (storageBackend settings) objects).1
  present := keyPresent settings objects

/-- The app of the slug has a servable deployment: the app is found and has not expired, and the
status of its deployment is one that is served. -/
def World.Serves (settings : Settings) (world : World) (slug : PyStr) (row : Deployment) : Prop :=
  ∃ app, ((loadApp settings slug).run (Statement.handle settings) world).1 = .ok (some app) ∧
    app.app.unexpired world.clock = true ∧ resolveDeployment app = some row

section
variable {settings : Settings} {library : Library} {row : Deployment} {objects : Objects}

theorem stored_of : (FileAnswers.stored settings objects).Of
    (StorageCall.handle (storageBackend settings)) (answering objects) where
  read key := by
    rw [handle_answering, FileAnswers.stored]
    simp only [StorageCall.exec]
    rcases objects.lookup key with _ | content
    · cases (storageBackend settings).folders && isFolder objects key <;> rfl
    · rfl
  hasKey key := handle_answering (storageBackend settings) (.hasKey key) objects

theorem opening_stored (rel : PyStr) :
    (FileAnswers.stored settings objects).opening settings row rel =
      .ok (siteTree settings row objects rel) := by
  simp only [FileAnswers.opening, FileAnswers.stored, StorageCall.exec, siteTree]
  rcases objects.lookup (extractedFileKey settings row rel) with _ | content
  · cases (storageBackend settings).folders &&
      isFolder objects (extractedFileKey settings row rel) <;> rfl
  · rfl

theorem first_stored (order : List PyStr) :
    (FileAnswers.stored settings objects).first settings row order =
      ((siteTree settings row objects).first order).elim (.error fileNotFound) .ok := by
  induction order with
  | nil => rfl
  | cons rel order ih =>
    rw [FileAnswers.first, opening_stored, SiteTree.first, List.findSome?_cons]
    rcases siteTree settings row objects rel with _ | content
    · exact ih
    · rfl

/-- The index page ends every order but that of an asset. -/
theorem first_index {rel : PyStr} (page : looksLikeStaticAsset library rel = false)
    {tree : SiteTree} (stored : tree indexHtml ≠ none) :
    ∃ file, tree.first (resolutionOrder library rel) = some file := by
  rw [← Option.isSome_iff_exists, SiteTree.first, List.findSome?_isSome_iff]
  refine ⟨indexHtml, ?_, by simpa [Option.isSome_iff_ne_none] using stored⟩
  unfold resolutionOrder
  split
  · simp
  · simp [page]

theorem keyPresent_of_stored {key : PyStr} (stored : objects.lookup key ≠ none) :
    keyPresent settings objects key = true := by
  have member : key ∈ objects := AList.lookup_isSome.mp (Option.isSome_iff_ne_none.mpr stored)
  simp [keyPresent, member]

/-- Without an error of the response, the answers are those of the order. -/
theorem answer_responding {rel : PyStr}
    (responds : looksLikeStaticAsset library rel = true ∨
        keyPresent settings objects (extractedFileKey settings row indexHtml) = true →
      ∀ file, (siteTree settings row objects).first (resolutionOrder library rel) = some file →
        Respondable library (extractedFileKey settings row file.1) file.1) :
    (FileAnswers.stored settings objects).answer settings library row rel =
      if looksLikeStaticAsset library rel ||
          keyPresent settings objects (extractedFileKey settings row indexHtml) then
        ((siteTree settings row objects).first (resolutionOrder library rel)).elim
          (.error fileNotFound) fun file => .ok (.file file.1 file.2)
      else .ok (.siteUnavailable .unavailable) := by
  have present : (FileAnswers.stored settings objects).present = keyPresent settings objects := rfl
  rw [FileAnswers.answer, present, first_stored]
  split
  · rename_i tried
    rcases found : (siteTree settings row objects).first (resolutionOrder library rel) with _ | file
    · rfl
    · exact fileResponse_ok (responds (Bool.or_eq_true_iff.mp tried) file found) file.2
  · rfl

/-- What is answered in order has its response built, and only this may fail. -/
theorem answer_inOrder_iff (rel : PyStr) :
    AnswersInOrder library (siteTree settings row objects)
      (keyPresent settings objects (extractedFileKey settings row indexHtml)) rel
      ((FileAnswers.stored settings objects).first settings row (resolutionOrder library rel))
      ((FileAnswers.stored settings objects).answer settings library row rel) ↔
    (looksLikeStaticAsset library rel = true ∨
        keyPresent settings objects (extractedFileKey settings row indexHtml) = true →
      ∀ file, (siteTree settings row objects).first (resolutionOrder library rel) = some file →
        Respondable library (extractedFileKey settings row file.1) file.1) := by
  have present : (FileAnswers.stored settings objects).present = keyPresent settings objects := rfl
  constructor
  · intro inOrder tried file found
    by_contra refused
    obtain ⟨message, raised⟩ := fileResponse_raises refused file.2
    have answered := inOrder.picked tried
    rw [FileAnswers.answer, present, if_pos (Bool.or_eq_true_iff.mpr tried), first_stored,
      found] at answered
    have response : fileResponse library (extractedFileKey settings row file.1) file.1 file.2 =
        .ok (.file file.1 file.2) := answered
    rw [raised] at response
    contradiction
  · intro responds
    rw [answer_responding responds, first_stored]
    constructor
    · intro asset
      have full : rel ≠ [] := by
        rintro rfl
        contradiction
      have order : resolutionOrder library rel = [rel] := by
        rw [resolutionOrder, if_neg full, if_pos asset]
      rw [order, asset, Bool.true_or, if_pos rfl, SiteTree.first, List.findSome?_cons]
      rcases siteTree settings row objects rel with _ | content <;> rfl
    · intro page absent
      rw [page, absent]
      rfl
    · intro page index
      rw [page, index, Bool.false_or, if_pos rfl]
    · intro tried
      rw [if_pos (by simpa using tried)]
      rcases (siteTree settings row objects).first (resolutionOrder library rel) with _ | file <;> rfl
    · intro page stored
      obtain ⟨file, first⟩ := first_index page stored
      have index : keyPresent settings objects (extractedFileKey settings row indexHtml) = true :=
        keyPresent_of_stored stored
      rw [index, Bool.or_true, if_pos rfl, first]
      exact ⟨file.1, file.2, rfl⟩

theorem ensures_serveApp_path {app : ServedApp} (resolved : resolveDeployment app = some row)
    (path : PyStr) {world : World} (live : app.app.unexpired world.clock = true) :
    (serveApp settings library app path).Ensures (Statement.handle settings)
      (fun result _ => result = ((serveDeployment settings library row path).run
        (StorageCall.handle (storageBackend settings)) world.disk).1) world := by
  rw [serveApp]
  refine ensures_isPreviewExpired.mpr ?_
  rw [live]
  simp only [Bool.not_true, resolved]
  exact ensures_storage_last.mpr rfl

/-- A visitor of a servable deployment is answered from its files alone. -/
theorem run_appServeGet {slug path : PyStr} {world : World}
    (serves : world.Serves settings slug row) :
    ((appServeGet settings library (some slug) path).run (Statement.handle settings) world).1 =
      ((serveDeployment settings library row path).run
        (StorageCall.handle (storageBackend settings)) world.disk).1 := by
  obtain ⟨app, loaded, live, resolved⟩ := serves
  have loads : Loads slug world _ _ := @ensures_loadApp settings slug world
  rcases ran : (loadApp settings slug).run (Statement.handle settings) world with ⟨result, after⟩
  rw [ran] at loaded loads
  obtain ⟨cache, rfl⟩ := loads.frame
  obtain rfl : result = .ok (some app) := loaded
  simp only [appServeGet]
  rw [Prog.run_bind_ok _ ran]
  exact @ensures_serveApp_path _ _ _ _ resolved path { world with cache } live

end

/-- The site server answers an accepted path in the order of resolution, and with the file that
`_pick_file` returns, exactly if the response with the first stored file of the order can be
built: whatever is extracted, and wherever the app was found. -/
theorem appServeGet_inOrder_iff (settings : Settings) (library : Library) (world : World)
    (objects : Objects) (slug path rel : PyStr) (row : Deployment)
    (serves : world.Serves settings slug row) (store : world.disk = answering objects)
    (accepted : validateServePath path = .ok rel) :
    AnswersInOrder library (siteTree settings row objects)
      (keyPresent settings objects (extractedFileKey settings row indexHtml)) rel
      ((pickFile settings library row path).run
        (StorageCall.handle (storageBackend settings)) (answering objects)).1
      ((appServeGet settings library (some slug) path).run (Statement.handle settings) world).1 ↔
    (looksLikeStaticAsset library rel = true ∨
        keyPresent settings objects (extractedFileKey settings row indexHtml) = true →
      ∀ file, (siteTree settings row objects).first (resolutionOrder library rel) = some file →
        Respondable library (extractedFileKey settings row file.1) file.1) := by
  have served : (FileAnswers.stored settings objects).Of _ (answering objects) := stored_of
  rw [run_appServeGet serves, store, served.run_pickFile accepted,
    served.run_serveDeployment accepted]
  exact answer_inOrder_iff rel

/-! A site with an index page and one folder. -/

def docsRow : Deployment := firstDraft.assign ⟨.active, some 104, some (some 0)⟩

def docsFiles : Objects :=
  (AList.singleton (extractedFileKey defaultSettings docsRow indexHtml) page).insert
    (extractedFileKey defaultSettings docsRow (lit "docs/index.html")) page

def docsSite : World :=
  { emptyWorld with db := ⟨[servedFirst.app], [docsRow], [], []⟩, disk := answering docsFiles }

theorem docsSite_serves : docsSite.Serves defaultSettings (lit "abcdefghijkl") docsRow :=
  ⟨servedFirst, rfl, by decide, by decide⟩

theorem appServeGet_inOrder_docs :
    AnswersInOrder (.knowing [] []) (siteTree defaultSettings docsRow docsFiles)
      (keyPresent defaultSettings docsFiles (extractedFileKey defaultSettings docsRow indexHtml))
      (lit "docs")
      ((pickFile defaultSettings (.knowing [] []) docsRow (lit "docs/")).run
        (StorageCall.handle (storageBackend defaultSettings)) (answering docsFiles)).1
      ((appServeGet defaultSettings (.knowing [] []) (some (lit "abcdefghijkl"))
        (lit "docs/")).run (Statement.handle defaultSettings) docsSite).1 := by
  refine (appServeGet_inOrder_iff defaultSettings (.knowing [] []) docsSite docsFiles
    (lit "abcdefghijkl") (lit "docs/") (lit "docs") docsRow docsSite_serves rfl
    (by decide +kernel)).mpr fun _ file found => ?_
  have first : (siteTree defaultSettings docsRow docsFiles).first
      (resolutionOrder (.knowing [] []) (lit "docs")) =
      some (lit "docs/index.html", page) := by decide +kernel
  obtain rfl := Option.some.inj (first.symm.trans found)
  exact ⟨⟨_, rfl⟩, rfl⟩

/-- The same site with a file whose name `urllib` does not read as a URL: without its tab, there
is a bracket in the place of the host. -/
def bracketName : PyStr := lit "ab:/\t/[x.js"

def bracketFiles : Objects :=
  docsFiles.insert (extractedFileKey defaultSettings docsRow bracketName) page

def bracketSite : World := { docsSite with disk := answering bracketFiles }

theorem bracketSite_serves : bracketSite.Serves defaultSettings (lit "abcdefghijkl") docsRow :=
  ⟨servedFirst, rfl, by decide, by decide⟩

/-- A visitor of the file is not answered with it: a `ValueError` leaves the view. -/
theorem appServeGet_bracket_raises :
    bracketSite.Serves defaultSettings (lit "abcdefghijkl") docsRow ∧
    0 ∉ bracketName ∧ validateServePath bracketName = .ok bracketName ∧
    siteTree defaultSettings docsRow bracketFiles bracketName = some page ∧
    ((appServeGet defaultSettings (.knowing [] []) (some (lit "abcdefghijkl"))
      bracketName).run (Statement.handle defaultSettings) bracketSite).1 = .error (.valueError []) ∧
    ¬ AnswersInOrder (.knowing [] []) (siteTree defaultSettings docsRow bracketFiles)
      (keyPresent defaultSettings bracketFiles (extractedFileKey defaultSettings docsRow indexHtml))
      bracketName
      ((pickFile defaultSettings (.knowing [] []) docsRow bracketName).run
        (StorageCall.handle (storageBackend defaultSettings)) (answering bracketFiles)).1
      ((appServeGet defaultSettings (.knowing [] []) (some (lit "abcdefghijkl"))
        bracketName).run (Statement.handle defaultSettings) bracketSite).1 := by
  have raised : ((appServeGet defaultSettings (.knowing [] []) (some (lit "abcdefghijkl"))
      bracketName).run (Statement.handle defaultSettings) bracketSite).1 =
      .error (.valueError []) := by rfl
  have stored : siteTree defaultSettings docsRow bracketFiles bracketName = some page := by
    decide +kernel
  refine ⟨bracketSite_serves, by decide, by decide +kernel, stored, raised, fun inOrder => ?_⟩
  have answered := inOrder.asset (by decide +kernel)
  rw [raised, stored] at answered
  contradiction

end HostingService
