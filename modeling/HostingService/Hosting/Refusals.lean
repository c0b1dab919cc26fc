import HostingService.Hosting.Resolution

/-! Which paths make the site server fail: a storage refuses names with a NUL character by an
error that `open_extracted_file` does not catch, and the name of an opened file may have no
response. -/

namespace HostingService

open Program Text Storage Transaction

/-- Caught by `except Http404`. -/
def Error.isHttp404 : Error → Bool
  | .http404 _ => true
  | _ => false

/-- A response, or `Http404`. -/
def Answered (result : Except Error Response) : Prop :=
  ∀ error, result = .error error → error.isHttp404 = true

/-- The database, the cache and the clock are those of the world, the files those of any
storage. -/
def Statement.handleOver (settings : Settings) {τ : Type} (files : Handler StorageCall Error τ) :
    Handler Statement Error (World × τ)
  | _, .storage op, (world, state) => ((files _ op state).1, world, (files _ op state).2)
  | _, statement, (world, state) =>
    ((Statement.handle settings _ statement world).1,
      (Statement.handle settings _ statement world).2, state)

/-- `open` returns the file or raises an `OSError`, but a `ValueError` for a name with NUL. -/
structure FileAnswers.RefusesNul (files : FileAnswers) : Prop where
  plain : ∀ key error, 0 ∉ key → files.opens key = .error error → error.isOSError = true
  refused : ∀ key, 0 ∈ key → ∃ message, files.opens key = .error (.valueError message)

/-! ### The keys with NUL -/

theorem nul_mem_trimTail {path : PyStr} : 0 ∈ trimTail path ↔ 0 ∈ path := by
  rw [trimTail, rstripSlash, mem_rstripBy (by decide), rstrip, mem_rstripBy (by decide)]

section
variable {settings : Settings} {library : Library} {row : Deployment} {files : FileAnswers}

/-- A key has NUL if the folder of the deployment has it or the path. -/
theorem nul_mem_extractedFileKey {rel : PyStr} :
    0 ∈ extractedFileKey settings row rel ↔ 0 ∈ extractedFileKey settings row [] ∨ 0 ∈ rel := by
  have anchored := storagePrefix_anchored row
  have keyOf (path : PyStr) : extractedFileKey settings row path =
      memberKey settings (extractedPrefix row.storagePrefix) (lstripSlash path) := rfl
  have root : trimTail (lstripSlash []) = [] := rfl
  have path : 0 ∈ rel ↔ 0 ∈ trimTail (lstripSlash rel) := by
    rw [nul_mem_trimTail, lstripSlash, mem_lstripBy (by decide)]
  rw [keyOf, keyOf, memberKey_eq settings anchored, memberKey_eq settings anchored, if_pos root, path]
  by_cases bare : trimTail (lstripSlash rel) = []
  · rw [if_pos bare, bare]
    simp
  · rw [if_neg bare]
    simp [slash, or_assoc]

/-- An accepted path has NUL exactly when the request path has it, plain or percent-encoded. -/
theorem nul_mem_validated {path rel : PyStr} (accepted : validateServePath path = .ok rel) :
    0 ∈ rel ↔ 0 ∈ unquote path := by
  unfold validateServePath at accepted
  split at accepted
  · rename_i bare
    obtain rfl := Except.ok.inj accepted
    have slashes : ∀ c ∈ path, c = slash := by
      intro c member
      by_contra other
      have kept : c ∈ stripSlash path := (mem_stripBy (by simpa [isSlash] using other)).mpr member
      rw [bare] at kept
      contradiction
    have absent : percent ∉ path := fun member => absurd (slashes _ member) (by decide)
    rw [unquote_of_plain (hasEscape_of_not_mem absent)]
    exact iff_of_false (by simp) fun member => absurd (slashes _ member) (by decide)
  · split at accepted
    · contradiction
    · split at accepted
      · contradiction
      · rename_i normal
        obtain rfl := Except.ok.inj accepted
        obtain ⟨_, _, _, rfl⟩ := normalizeRelativePath_eq_some.mp normal
        constructor
        · intro member
          rcases mem_joinSegments member with same | ⟨part, present, inside⟩
          · contradiction
          · have inPath := (segment_within (List.mem_of_mem_filter present)).subset inside
            have replaced := stripBy_subset isSlash _ inPath
            obtain ⟨c, original, same⟩ := List.mem_map.mp replaced
            split at same
            · contradiction
            · exact same ▸ original
        · intro member
          have replaced : 0 ∈ slashed (unquote path) := by
            rw [slashed, stripSlash, mem_stripBy (by decide)]
            exact List.mem_map.mpr ⟨0, member, rfl⟩
          rw [← join_segments (slashed (unquote path))] at replaced
          rcases mem_joinSegments replaced with same | ⟨part, present, inside⟩
          · contradiction
          · have kept : part ∈ keptSegments (unquote path) := by
              refine List.mem_filter.mpr ⟨present, ?_⟩
              simp only [ne_eq, decide_not, Bool.not_eq_true', decide_eq_false_iff_not]
              rintro rfl
              exact absurd inside (by decide)
            exact (infix_joinSegments kept).subset inside

/-! ### What is raised while a file is looked for -/

theorem first_answered (refuses : files.RefusesNul) {order : List PyStr}
    (plain : ∀ rel ∈ order, 0 ∉ extractedFileKey settings row rel) :
    ∀ error, files.first settings row order = .error error → error.isHttp404 = true := by
  induction order with
  | nil =>
    intro error raised
    obtain rfl := Except.error.inj raised
    rfl
  | cons rel order ih =>
    intro error raised
    have later := ih fun other member => plain other (List.mem_cons_of_mem rel member)
    rw [FileAnswers.first, FileAnswers.opening] at raised
    rcases opened : files.opens (extractedFileKey settings row rel) with refusal | content
    · have caught := refuses.plain _ refusal (plain rel (List.mem_cons_self ..)) opened
      rw [opened] at raised
      simp only [caught, if_true] at raised
      exact later error raised
    · rw [opened] at raised
      contradiction

theorem first_refused (refuses : files.RefusesNul) {rel : PyStr} {order : List PyStr}
    (nul : 0 ∈ extractedFileKey settings row rel) :
    ∃ message, files.first settings row (rel :: order) = .error (.valueError message) := by
  obtain ⟨message, opened⟩ := refuses.refused _ nul
  refine ⟨message, ?_⟩
  rw [FileAnswers.first, FileAnswers.opening, opened]
  rfl

/-- The first file that is tried has NUL in its key if any has. -/
theorem resolutionOrder_nul (rel : PyStr) :
    (∃ first later, resolutionOrder library rel = first :: later ∧
      (0 ∈ extractedFileKey settings row rel → 0 ∈ extractedFileKey settings row first)) ∧
    (0 ∉ extractedFileKey settings row rel →
      ∀ file ∈ resolutionOrder library rel, 0 ∉ extractedFileKey settings row file) := by
  have fixed {file : PyStr} (plain : 0 ∉ file) (absent : 0 ∉ extractedFileKey settings row rel) :
      0 ∉ extractedFileKey settings row file := by
    rw [nul_mem_extractedFileKey] at absent ⊢
    exact not_or.mpr ⟨fun root => absent (.inl root), plain⟩
  have index : (0 : Nat) ∉ indexHtml := by decide
  have missing : (0 : Nat) ∉ lit "404.html" := by decide
  unfold resolutionOrder
  split
  · rename_i empty
    subst empty
    refine ⟨⟨_, _, rfl, fun root => nul_mem_extractedFileKey.mpr (.inl root)⟩, ?_⟩
    intro absent file member
    rcases List.mem_pair.mp member with rfl | rfl
    · exact fixed index absent
    · exact fixed missing absent
  · split
    · refine ⟨⟨rel, [], rfl, id⟩, ?_⟩
      intro absent file member
      obtain rfl := List.mem_singleton.mp member
      exact absent
    · refine ⟨⟨rel, _, rfl, id⟩, ?_⟩
      intro absent file member
      have bare : 0 ∉ rel := fun inside => absent (nul_mem_extractedFileKey.mpr (.inr inside))
      simp only [List.mem_cons, List.not_mem_nil, or_false] at member
      rcases member with rfl | rfl | rfl | rfl
      · exact absent
      · refine fixed (fun inside => ?_) absent
        rcases List.mem_append.mp inside with front | back
        · exact bare front
        · exact absurd back (by decide)
      · exact fixed missing absent
      · exact fixed index absent

theorem answer_answered_iff (refuses : files.RefusesNul) (rel : PyStr) :
    Answered (files.answer settings library row rel) ↔
      (looksLikeStaticAsset library rel = true ∨
        files.present (extractedFileKey settings row indexHtml) = true →
          0 ∉ extractedFileKey settings row rel ∧
          ∀ file, files.first settings row (resolutionOrder library rel) = .ok file →
            Respondable library (extractedFileKey settings row file.1) file.1) := by
  obtain ⟨⟨first, later, order, head⟩, plain⟩ := @resolutionOrder_nul settings library row rel
  rw [FileAnswers.answer, ← Bool.or_eq_true]
  cases looksLikeStaticAsset library rel ||
      files.present (extractedFileKey settings row indexHtml) with
  | false => simp [Answered]
  | true =>
    rw [if_pos rfl]
    constructor
    · intro answered _
      constructor
      · intro nul
        obtain ⟨message, refused⟩ := @first_refused _ _ _ refuses _ later (head nul)
        rw [order, refused] at answered
        exact absurd (answered _ rfl) (by simp [Error.isHttp404])
      · intro file found
        by_contra unrespondable
        obtain ⟨message, raised⟩ := fileResponse_raises unrespondable file.2
        have failed : (files.first settings row (resolutionOrder library rel)).bind
            (FileAnswers.respond settings library row) = .error (.valueError message) := by
          rw [found]
          exact raised
        exact absurd (answered _ failed) (by simp [Error.isHttp404])
    · intro condition error raised
      obtain ⟨absent, responds⟩ := condition rfl
      rcases found : files.first settings row (resolutionOrder library rel) with other | file
      · rw [found] at raised
        obtain rfl := Except.error.inj raised
        exact first_answered refuses (plain absent) _ found
      · rw [found] at raised
        have response : fileResponse library (extractedFileKey settings row file.1) file.1 file.2 =
            .error error := raised
        rw [fileResponse_ok (responds file found)] at response
        contradiction

/-! ### Visits over any storage -/

section
variable {τ : Type} {handle : Handler StorageCall Error τ} {state : τ} {α : Type}

/-- A program without storage calls runs as on the world alone. -/
theorem run_handleOver {body : Transaction α} (free : body.All Loading)
    (world : World) :
    body.run (Statement.handleOver settings handle) (world, state) =
      ((body.run (Statement.handle settings) world).1,
        (body.run (Statement.handle settings) world).2, state) := by
  induction body generalizing world with
  | ret value => rfl
  | raise error => rfl
  | call statement next ih =>
    have step : Statement.handleOver settings handle _ statement (world, state) =
        ((Statement.handle settings _ statement world).1,
          (Statement.handle settings _ statement world).2, state) := by
      cases statement with
      | storage op => exact free.1.elim
      | _ => rfl
    rw [Prog.run_call, Prog.run_call, step]
    exact ih _ (free.2 _) _

theorem run_storage_over (body : StorageProg α) (world : World) :
    (storage body).run (Statement.handleOver settings handle) (world, state) =
      ((body.run handle state).1, world, (body.run handle state).2) :=
  Prog.run_hoist (fun _ op => Statement.storage op) (Prod.snd (α := World))
    (fun state both => (both.1, state)) (fun _ _ => rfl) (fun _ => rfl) (fun _ _ _ => rfl)
    (fun _ _ _ => rfl) body (world, state)

theorem run_serveApp_over {app : ServedApp} (resolved : resolveDeployment app = some row)
    (path : PyStr) {world : World} (live : app.app.unexpired world.clock = true) :
    ((serveApp settings library app path).run (Statement.handleOver settings handle)
      (world, state)).1 = ((serveDeployment settings library row path).run handle state).1 := by
  have asked : (isPreviewExpired app.app).run (Statement.handleOver settings handle)
      (world, state) = (.ok false, world, state) := by
    rw [App.unexpired] at live
    rw [isPreviewExpired]
    rcases expiry : app.app.expiresAt with _ | expiresAt
    · rfl
    · rw [expiry, Option.all_some, decide_eq_true_eq] at live
      have later : decide (expiresAt ≤ world.clock) = false := decide_eq_false (not_le.mpr live)
      show (Except.ok (decide (expiresAt ≤ world.clock)), world, state) = _
      rw [later]
  rw [serveApp, Prog.run_bind_ok _ asked]
  simp only [resolved]
  rw [run_storage_over]

theorem run_appServeGet_over {slug path : PyStr} {world : World}
    (serves : world.Serves settings slug row) :
    ((appServeGet settings library (some slug) path).run (Statement.handleOver settings handle)
      (world, state)).1 = ((serveDeployment settings library row path).run handle state).1 := by
  obtain ⟨app, loaded, live, resolved⟩ := serves
  have loads : Loads slug world _ _ := @ensures_loadApp settings slug world
  have beyond : (loadApp settings slug).run (Statement.handleOver settings handle) (world, state) = _ :=
    run_handleOver (loadApp_loading slug) world
  rcases ran : (loadApp settings slug).run (Statement.handle settings) world with ⟨result, after⟩
  rw [ran] at loaded loads beyond
  obtain ⟨cache, rfl⟩ := loads.frame
  obtain rfl : result = .ok (some app) := loaded
  simp only [appServeGet]
  rw [Prog.run_bind_ok _ beyond]
  exact @run_serveApp_over _ _ _ _ handle state _ resolved path { world with cache } live

end

end

/-- The site server answers a path, or has no page for it, exactly when no name with NUL is
opened and the file that opens has a response: the path is refused, or is not one of an asset and
the site has no index page, or the key of its file has no NUL and the first file of the order that
opens can be answered. -/
theorem appServeGet_answered_iff {τ : Type} (settings : Settings) (library : Library)
    (world : World) (handle : Handler StorageCall Error τ) (state : τ) (files : FileAnswers)
    (slug path : PyStr) (row : Deployment) (serves : world.Serves settings slug row)
    (answers : files.Of handle state) (refuses : files.RefusesNul) :
    Answered ((appServeGet settings library (some slug) path).run
        (Statement.handleOver settings handle) (world, state)).1 ↔
      ∀ rel, validateServePath path = .ok rel →
        (looksLikeStaticAsset library rel = true ∨
          files.present (extractedFileKey settings row indexHtml) = true) →
        0 ∉ extractedFileKey settings row rel ∧
        ∀ file, files.first settings row (resolutionOrder library rel) = .ok file →
          Respondable library (extractedFileKey settings row file.1) file.1 := by
  rw [run_appServeGet_over serves]
  rcases checked : validateServePath path with error | rel
  · have refused : error.isHttp404 = true := by
      unfold validateServePath at checked
      repeat' split at checked
      all_goals first | contradiction | (obtain rfl := Except.error.inj checked; rfl)
    rw [serveDeployment, checked]
    constructor
    · intro _ rel accepted
      contradiction
    · intro _ other raised
      obtain rfl := Except.error.inj raised
      exact refused
  · rw [answers.run_serveDeployment checked, answer_answered_iff refuses]
    constructor
    · rintro plain other accepted
      obtain rfl := Except.ok.inj accepted
      exact plain
    · intro plain
      exact plain rel rfl

/-! A file system with the site of one page and one folder. -/

/-- The store with names with NUL refused. -/
def FileAnswers.refusing (files : FileAnswers) : FileAnswers where
  opens key := if 0 ∈ key then .error (.valueError (lit "embedded null byte")) else files.opens key
  present := files.present

/-- A storage that gives the same answers all the time; serving makes no other calls. -/
def FileAnswers.handle : Handler StorageCall Error FileAnswers
  | _, .read key, files => (files.opens key, files)
  | _, .hasKey key, files => (.ok (files.present key), files)
  | _, _, files => (.error .clientError, files)

def docsAnswers : FileAnswers := (FileAnswers.stored defaultSettings docsFiles).refusing

theorem docsAnswers_of : docsAnswers.Of FileAnswers.handle docsAnswers :=
  ⟨fun _ => rfl, fun _ => rfl⟩

theorem docsAnswers_refusesNul : docsAnswers.RefusesNul where
  plain := by
    intro key error plain raised
    rw [docsAnswers, FileAnswers.refusing, FileAnswers.stored] at raised
    simp only [if_neg plain, StorageCall.exec] at raised
    repeat' split at raised
    all_goals first | contradiction | (obtain rfl := Except.error.inj raised; rfl)
  refused := fun key nul => ⟨_, if_pos nul⟩

theorem appServeGet_answered_docs :
    Answered ((appServeGet defaultSettings (.knowing [] []) (some (lit "abcdefghijkl"))
      (lit "docs/")).run (Statement.handleOver defaultSettings FileAnswers.handle)
        (docsSite, docsAnswers)).1 := by
  refine (appServeGet_answered_iff defaultSettings (.knowing [] []) docsSite FileAnswers.handle
    docsAnswers docsAnswers (lit "abcdefghijkl") (lit "docs/") docsRow docsSite_serves
    docsAnswers_of docsAnswers_refusesNul).mpr fun rel accepted _ => ?_
  have same : validateServePath (lit "docs/") = .ok (lit "docs") := by decide +kernel
  obtain rfl := Except.ok.inj (same.symm.trans accepted)
  refine ⟨by decide +kernel, fun file found => ?_⟩
  have first : docsAnswers.first defaultSettings docsRow
      (resolutionOrder (.knowing [] []) (lit "docs")) = .ok (lit "docs/index.html", page) := by
    decide +kernel
  obtain rfl := Except.ok.inj (first.symm.trans found)
  exact ⟨⟨_, rfl⟩, rfl⟩

/-- `GET /%00` of the same site fails with the `ValueError` of the storage. -/
theorem appServeGet_nul_unanswered :
    ¬ Answered ((appServeGet defaultSettings (.knowing [] []) (some (lit "abcdefghijkl"))
      [0]).run (Statement.handleOver defaultSettings FileAnswers.handle)
        (docsSite, docsAnswers)).1 := by
  intro answered
  have raised : ((appServeGet defaultSettings (.knowing [] []) (some (lit "abcdefghijkl"))
      [0]).run (Statement.handleOver defaultSettings FileAnswers.handle)
        (docsSite, docsAnswers)).1 = .error (.valueError (lit "embedded null byte")) := rfl
  exact absurd (answered _ raised) (by decide)

end HostingService
