import HostingService.Hosting.Runs

/-! What a visitor of a site is answered. -/

namespace HostingService

open Program Text Storage Transaction

/-- What is cached for the slug is what is stored. -/
def World.CacheSound (slug : PyStr) (world : World) : Prop :=
  ∀ entry, world.cache.lookup slug = some entry → world.db.servedApp slug = some entry.2

/-- Only the cache entry of the slug changes, and a sound one stays sound. -/
structure Loads (slug : PyStr) (before : World) (result : Except Error (Option ServedApp))
    (after : World) : Prop where
  frame : ∃ cache, after = { before with cache }
  others : ∀ other, other ≠ slug → after.cache.lookup other = before.cache.lookup other
  sound : before.CacheSound slug → result = .ok (before.db.servedApp slug) ∧ after.CacheSound slug

/-- What a visitor of the deployment is answered from the files on the disk. -/
def siteAnswer (settings : Settings) (library : Library) (row : Deployment) (pathInfo : PyStr)
    (disk : Disk Error) : Except Error Response :=
  ((serveDeployment settings library row (lstripSlash pathInfo)).run
    (StorageCall.handle (storageBackend settings)) disk).1

section
variable {settings : Settings} {library : Library} {world : World} {slug pathInfo : PyStr}

/-! ### Loading the app -/

theorem World.cacheSound_of_lookup_none (absent : world.cache.lookup slug = none) :
    world.CacheSound slug := by
  intro entry found
  rw [absent] at found
  contradiction

theorem ensures_cacheGetApp (slug : PyStr) (world : World) :
    (cacheGetApp settings slug).Ensures (Statement.handle settings) (fun result after =>
      (result = .ok none ∧
        (after = world ∨ after = { world with cache := world.cache.erase slug })) ∨
      ∃ entry, world.cache.lookup slug = some entry ∧ world.clock < entry.1 ∧
        result = .ok (some entry.2) ∧ after = world)
      world := by
  rw [cacheGetApp]
  split
  · exact .inl ⟨rfl, .inl rfl⟩
  · rw [ensures_now, Prog.ensures_bind, Prog.ensures_perform]
    simp only [Statement.handle, Prog.Continues]
    rcases found : world.cache.lookup slug with _ | ⟨expires, app⟩
    · exact .inl ⟨rfl, .inl rfl⟩
    · simp only
      split
      · exact .inl ⟨rfl, .inr rfl⟩
      · rename_i live
        exact .inr ⟨(expires, app), rfl, not_le.mp live, rfl, rfl⟩

theorem ensures_cacheSetApp (slug : PyStr) (app : ServedApp) (world : World) :
    (cacheSetApp settings slug app).Ensures (Statement.handle settings) (fun result after =>
      result = .ok () ∧ (after = world ∨
        ∃ expires, after = { world with cache := world.cache.insert slug (expires, app) })) world := by
  rw [cacheSetApp]
  split
  · exact ⟨rfl, .inl rfl⟩
  · exact ensures_now.mpr (Prog.ensures_perform.mpr ⟨rfl, .inr ⟨_, rfl⟩⟩)

theorem ensures_loadApp (slug : PyStr) (world : World) :
    (loadApp settings slug).Ensures (Statement.handle settings) (Loads slug world) world := by
  rw [loadApp]
  refine (ensures_cacheGetApp slug world).bind ?_ fun found middle ended => ?_
  · rintro error after (⟨failed, _⟩ | ⟨entry, _, _, failed, _⟩) <;> contradiction
  · rcases ended with ⟨missed, kept⟩ | ⟨entry, cached, _, same, rfl⟩
    · obtain rfl := Except.ok.inj missed
      have others (other : PyStr) (apart : other ≠ slug) :
          middle.cache.lookup other = world.cache.lookup other := by
        rcases kept with rfl | rfl
        · rfl
        · exact AList.lookup_erase_ne apart
      have sound (before : world.CacheSound slug) : middle.CacheSound slug := by
        rcases kept with rfl | rfl
        · exact before
        · exact World.cacheSound_of_lookup_none (AList.lookup_erase _ _)
      obtain ⟨cache, rfl⟩ : ∃ cache, middle = { world with cache } := by
        rcases kept with rfl | rfl <;> exact ⟨_, rfl⟩
      refine ensures_select.mpr ?_
      rcases stored : world.db.servedApp slug with _ | app
      · exact ⟨⟨_, rfl⟩, others, fun before => ⟨congrArg Except.ok stored.symm, sound before⟩⟩
      · refine (ensures_cacheSetApp slug app _).bind (fun _ _ failed => by cases failed.1)
          fun _ after ended => ?_
        rcases ended.2 with rfl | ⟨expires, rfl⟩
        · exact ⟨⟨_, rfl⟩, others, fun before => ⟨congrArg Except.ok stored.symm, sound before⟩⟩
        · refine ⟨⟨_, rfl⟩, fun other apart => ?_, fun _ => ⟨congrArg Except.ok stored.symm, ?_⟩⟩
          · exact (AList.lookup_insert_ne apart).trans (others other apart)
          · intro entry found
            have inserted : (cache.insert slug (expires, app)).lookup slug = some (expires, app) :=
              AList.lookup_insert cache
            obtain rfl := Option.some.inj (inserted.symm.trans found)
            exact stored
    · obtain rfl := Except.ok.inj same
      exact ⟨⟨_, rfl⟩, fun _ _ => rfl, fun before => ⟨congrArg Except.ok (before entry cached).symm, before⟩⟩

/-! ### Serving it -/

theorem serveApp_frame (app : ServedApp) (path : PyStr) (world : World) :
    (serveApp settings library app path).Ensures (Statement.handle settings)
      (fun _ after => ∃ disk, after = { world with disk }) world := by
  rw [serveApp]
  refine ensures_isPreviewExpired.mpr ?_
  cases app.app.unexpired world.clock with
  | false => exact ⟨world.disk, rfl⟩
  | true =>
    rcases resolveDeployment app with _ | row
    · exact ⟨world.disk, rfl⟩
    · exact ensures_storage_frame _

theorem ensures_serveApp {app : ServedApp} {row : Deployment}
    (resolved : resolveDeployment app = some row) (world : World) :
    (serveApp settings library app (lstripSlash pathInfo)).Ensures (Statement.handle settings)
      (fun result _ => result = if app.app.unexpired world.clock then
        siteAnswer settings library row pathInfo world.disk
        else .ok (.siteUnavailable .expired)) world := by
  rw [serveApp]
  refine ensures_isPreviewExpired.mpr ?_
  cases app.app.unexpired world.clock with
  | false => exact rfl
  | true =>
    simp only [resolved]
    exact ensures_storage_last.mpr rfl

/-- The page of an expired preview, or an answer from the files of the deployment. -/
theorem visit_answer {app : ServedApp} {row : Deployment} (sound : world.CacheSound slug)
    (found : world.db.servedApp slug = some app) (resolved : resolveDeployment app = some row)
    (faults : List (Option Error)) :
    (visit settings library slug pathInfo faults world).1 =
      if app.app.unexpired world.clock then
        siteAnswer settings library row pathInfo ⟨world.disk.objects, faults⟩
      else .ok (.siteUnavailable .expired) := by
  suffices ensures : (hostedAppServe settings library slug pathInfo).Ensures
      (Statement.handle settings) (fun result _ => result = if app.app.unexpired world.clock then
        siteAnswer settings library row pathInfo ⟨world.disk.objects, faults⟩
        else .ok (.siteUnavailable .expired)) (world.withFaults faults) from
    Service.ensures_autocommit.mpr ensures
  refine (ensures_loadApp slug (world.withFaults faults)).bind (fun error after loads => ?_)
    fun loaded after loads => ?_
  · obtain ⟨returned, _⟩ := loads.sound sound
    contradiction
  · obtain ⟨returned, _⟩ := loads.sound sound
    obtain ⟨cache, rfl⟩ := loads.frame
    obtain rfl := Except.ok.inj (returned.trans (congrArg Except.ok found))
    exact ensures_serveApp resolved _

theorem visit_cacheSound (visited pathInfo : PyStr) (faults : List (Option Error))
    (sound : world.CacheSound slug) :
    (visit settings library visited pathInfo faults world).2.CacheSound slug := by
  have loaded : (loadApp settings visited).Ensures (Statement.handle settings)
      (fun _ after => after.CacheSound slug) (world.withFaults faults) := by
    refine (ensures_loadApp visited (world.withFaults faults)).mono fun _ after loads => ?_
    by_cases same : slug = visited
    · subst same
      exact (loads.sound sound).2
    · obtain ⟨cache, rfl⟩ := loads.frame
      intro entry cached
      exact sound entry ((loads.others slug same).symm.trans cached)
  suffices ensures : (hostedAppServe settings library visited pathInfo).Ensures
      (Statement.handle settings) (fun _ after => after.CacheSound slug) (world.withFaults faults) from
    Service.ensures_autocommit.mpr ensures
  refine loaded.bind (fun _ _ kept => kept) fun app after kept => ?_
  rcases app with _ | app
  · exact kept
  · refine (serveApp_frame app _ after).mono fun _ last ended => ?_
    obtain ⟨disk, rfl⟩ := ended
    exact kept

/-! ### The site of a deployment that was made current -/

theorem servedApp_current {app : App} {row : Deployment} (formed : world.db.sites.WellFormed)
    (present : app ∈ world.db.apps) (found : row ∈ world.db.deployments)
    (current : app.currentDeployment = some row.id) :
    world.db.servedApp app.slug = some ⟨app, some row⟩ := by
  have bySlug : world.db.apps.find? (·.slug = app.slug) = some app :=
    find?_of_unique formed.slugs present
  have byId : app.currentDeployment.bind world.db.deployment = some row := by
    rw [current]
    exact Db.deployment_of_mem formed found
  rw [Db.servedApp, bySlug, Option.map_some, byId]

theorem servedApp_of_makeCurrent {before : Sites} {row : Deployment} {finalizedAt : Time}
    {renewed : Option Time} {app : App} (formed : world.db.sites.WellFormed)
    (applied : world.db.sites = (Act.makeCurrent row finalizedAt renewed).apply before)
    (found : row ∈ before.deployments) (present : app ∈ world.db.apps) (owner : app.id = row.app) :
    world.db.servedApp app.slug =
      some ⟨app, some (row.assign ⟨.active, none, some (some finalizedAt)⟩)⟩ := by
  have apps : world.db.apps = _ := congrArg Sites.apps applied
  have rows : world.db.deployments = _ := congrArg Sites.deployments applied
  have current : app.currentDeployment = some row.id := by
    rw [apps] at present
    obtain ⟨old, _, rfl⟩ := List.mem_map.mp present
    by_cases target : old.id = row.app
    · rw [if_pos target]
    · rw [if_neg target] at owner
      exact absurd owner target
  have promoted : row.assign ⟨.active, none, some (some finalizedAt)⟩ ∈ world.db.deployments := by
    rw [rows]
    exact List.mem_map.mpr ⟨row, found, if_pos rfl⟩
  exact servedApp_current formed present promoted current

theorem resolveDeployment_active {app : App} {row : Deployment} (active : row.status = .active) :
    resolveDeployment ⟨app, some row⟩ = some row := by
  simp [resolveDeployment, active]

/-! ### Answers depend on the files of the deployment alone -/

theorem extractedFileKey_inFolder (settings : Settings) (row : Deployment) (rel : PyStr) :
    InFolder (folderKey settings row) (extractedFileKey settings row rel) :=
  memberKey_inFolder settings row (lstripSlash rel)

/-- Equal files in the folder of the deployment give equal answers. -/
theorem siteAnswer_files {row : Deployment} {first second : Objects}
    (same : SameWithin (InFolder (folderKey settings row)) first second)
    (faults : List (Option Error)) :
    siteAnswer settings library row pathInfo ⟨second, faults⟩ =
      siteAnswer settings library row pathInfo ⟨first, faults⟩ := by
  have looks : (serveDeployment settings library row (lstripSlash pathInfo)).All
      (Looks (InFolder (folderKey settings row))) :=
    serveDeployment_all (fun rel => extractedFileKey_inFolder settings row rel)
      (extractedFileKey_inFolder settings row indexHtml) _
  exact run_looks _ looks (fun _ _ inside => inside.deeper _) same faults

theorem openFirst_row {first second : Deployment} (same : first.storagePrefix = second.storagePrefix)
    (candidates seen : List PyStr) :
    openFirst settings first candidates seen = openFirst settings second candidates seen := by
  induction candidates generalizing seen with
  | nil => rfl
  | cons candidate candidates ih =>
    simp only [openFirst, openExtractedFile, extractedFileKey, same, ih]

/-- Of a deployment, only its storage prefix matters. -/
theorem siteAnswer_row {first second : Deployment}
    (same : first.storagePrefix = second.storagePrefix) (disk : Disk Error) :
    siteAnswer settings library first pathInfo disk =
      siteAnswer settings library second pathInfo disk := by
  simp only [siteAnswer, serveDeployment, pickFile, openExtractedFile, extractedIndexExists,
    extractedFileKey, openFirst_row same, same]

end

end HostingService
