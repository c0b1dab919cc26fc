import HostingService.Api.Reach

/-! A company that waits for its approval stays without sites. -/

namespace HostingService

open Program Text Storage

/-- Anything but a request of staff or a write of an admin. -/
def Incident.unstaffed (library : ApiLibrary) (world : ApiWorld) : Incident → Bool
  | .request asked => (asked.principal library world).all (!·.isStaff)
  | .grants .. => false
  | _ => true

/-- The company has no app, and is not approved. -/
structure ApiWorld.Waiting (companyId : Nat) (world : ApiWorld) : Prop where
  empty : ∀ app ∈ world.hosting.db.apps, app.companyId ≠ companyId
  status : world.statusOf companyId ≠ some .approved

/-- A key in the folder of a deployment of another company. -/
def ApiWorld.ForeignKey (settings : ApiSettings) (companyId : Nat) (world : ApiWorld) (key : PyStr) :
    Prop :=
  ∃ row ∈ world.hosting.db.deployments, ∃ app ∈ world.hosting.db.apps, row.app = app.id ∧
    app.companyId ≠ companyId ∧ InFolder (folderKey settings.hosting row) key

section
variable {settings : ApiSettings} {library : ApiLibrary} {companyId : Nat} {world : ApiWorld}

theorem closed_of_status (gated : settings.hosting.hostingDebugOpen = false)
    (status : world.statusOf companyId ≠ some .approved) :
    world.hosting.db.open settings.hosting companyId = false := by
  rw [Db.open, gated, Bool.false_or]
  rw [ApiWorld.statusOf, ApiWorld.accessRow] at status
  revert status
  generalize world.hosting.db.access.find? _ = found
  cases found with
  | none => exact fun _ => rfl
  | some row => simp

/-- A denied creation leaves the tables. -/
theorem serve_denied {asked : Request} (creates : asked.creates = true)
    (concerns : asked.Concerns companyId world.hosting.db)
    (closed : world.hosting.db.open settings.hosting companyId = false)
    (faults : List (Option Error)) (draws : Draws) :
    (world.serve settings library asked faults draws).2.hosting.db = world.hosting.db := by
  have stayed : (asked.run settings.hosting library.hosting faults world.hosting).2.db =
      world.hosting.db := by
    have about : asked.Concerns companyId (world.hosting.withFaults faults).db := concerns
    rw [Request.run]
    rcases Request.run_denied creates about closed with denied | ⟨error, fails⟩
    · rw [denied]
      rfl
    · rw [fails _ rfl]
      rfl
  rcases ApiWorld.serve_cases settings library asked faults draws world with same | same
  · rw [same]
    exact stayed
  · rw [same]

theorem Served.waiting {principal : HostingPrincipal} {asked : Request} {own : Nat}
    {after : ApiWorld} (served : Served settings library principal asked own world after)
    (company : principal.companyId = some own) (waiting : world.Waiting companyId)
    (denied : own = companyId → asked.creates = true → after.hosting.db = world.hosting.db) :
    after.Waiting companyId where
  empty := by
    intro app member
    rcases served.sites.app_from member with ⟨old, stored, same⟩ | ⟨blank, covered, creates⟩
    · have kept : app.companyId = old.companyId := congrArg (·.companyId) same
      rw [kept]
      exact waiting.empty old stored
    · intro ours
      have named : own = companyId := by
        rw [← ours]
        exact Option.some.inj (company.symm.trans (HostingPrincipal.covers_company covered))
      have stayed := denied named creates
      exact waiting.empty app (by rwa [← stayed]) ours
  status := by
    rw [ApiWorld.statusOf, ApiWorld.accessRow, served.announces.access]
    exact waiting.status

theorem Deed.waiting {principal : HostingPrincipal} {request : ApiRequest} {after : ApiWorld}
    (gated : settings.hosting.hostingDebugOpen = false) (sound : world.Sound)
    (reaches : request.Reaches settings library principal) (member : principal.isStaff = false)
    (deed : Deed settings library principal request world after) (waiting : world.Waiting companyId) :
    after.Waiting companyId := by
  cases deed with
  | serves asks =>
    obtain ⟨own, company, served⟩ := asks.served reaches.permitted sound.sites.formed
    refine served.waiting company waiting fun same creates => ?_
    obtain ⟨other, company', concerns⟩ := asks.concerns sound.sites.formed
    obtain rfl := Option.some.inj (company.symm.trans company')
    exact serve_denied creates concerns (same ▸ closed_of_status gated waiting.status) _ _
  | requestsAccess endpoint own =>
    rename_i requester
    have sets := ApiWorld.setsAccess_requestAccess world requester principal.userId
    have status := ApiWorld.statusOf_requestAccess world requester principal.userId companyId
    generalize world.requestAccess requester principal.userId = after at sets status
    cases sets with
    | sets =>
      refine ⟨waiting.empty, ?_⟩
      rcases status with same | pending
      · rw [same]
        exact waiting.status
      · simp [pending]
  | @reviews reviewed status notes endpoint scope decides =>
    obtain rfl := decides member
    have sets := ApiWorld.setsAccess_updateAccess world reviewed .pending principal.userId notes
    have status := ApiWorld.statusOf_updateAccess world reviewed .pending principal.userId notes companyId
    generalize world.updateAccess reviewed .pending principal.userId notes = after at sets status
    cases sets with
    | sets =>
      refine ⟨waiting.empty, ?_⟩
      rcases status with same | pending | pending
      · rw [same]
        exact waiting.status
      · simp [pending]
      · simp [pending]
  | createsToken => exact ⟨waiting.empty, waiting.status⟩
  | revokesToken => exact ⟨waiting.empty, waiting.status⟩
  | writes => exact ⟨waiting.empty, waiting.status⟩

theorem ApiRequest.run_waiting {request : ApiRequest}
    (gated : settings.hosting.hostingDebugOpen = false) (sound : world.Sound)
    (unstaffed : (request.principal library world).all (!·.isStaff) = true) (waiting : world.Waiting companyId) :
    (request.run settings library world).2.Waiting companyId := by
  have effect := request.run_effect settings library world
  generalize (request.run settings library world).2 = after at effect
  cases effect with
  | nothing => exact waiting
  | touches => exact ⟨waiting.empty, waiting.status⟩
  | flags => exact ⟨waiting.empty, waiting.status⟩
  | @acts principal tokens _ authenticated reaches deed =>
    have member : principal.isStaff = false := by
      rw [principal_eq authenticated] at unstaffed
      simpa using unstaffed
    have used : ({ world with tokens } : ApiWorld).Waiting companyId :=
      ⟨waiting.empty, waiting.status⟩
    exact deed.waiting gated (authenticate_sound authenticated sound) reaches member used

/-! ### Stored objects -/

/-- What the second state stores, the first one did, or it is another company's. -/
def ApiWorld.StoresForOthers (settings : ApiSettings) (companyId : Nat) (before after : ApiWorld) :
    Prop :=
  ∀ key content, after.hosting.disk.objects.lookup key = some content →
    before.hosting.disk.objects.lookup key = some content ∨
      before.ForeignKey settings companyId key

theorem ApiRequest.run_stores {request : ApiRequest} (sound : world.Sound)
    (waiting : world.Waiting companyId) :
    world.StoresForOthers settings companyId (request.run settings library world).2 := by
  have effect := request.run_effect settings library world
  generalize (request.run settings library world).2 = after at effect
  cases effect with
  | nothing | touches | flags => exact fun key content stored => .inl stored
  | @acts principal tokens _ authenticated reaches deed =>
    intro key content stored
    by_cases covered : Covered settings.hosting principal world.hosting.db.sites key
    · obtain ⟨row, listed, app, present, owner, _, inside⟩ := covered
      exact .inr ⟨row, listed, app, present, owner, waiting.empty app present, inside⟩
    · have kept := deed.objects reaches.permitted (authenticate_sound authenticated sound) key covered
      exact .inl (kept ▸ stored)

theorem shrinks_foldl_erase (files : List PyStr) (objects : Objects) :
    Shrinks objects (files.foldl (fun objects key => objects.erase key) objects) := by
  induction files generalizing objects with
  | nil => exact Shrinks.refl _
  | cons file files ih => exact (shrinks_erase objects file).trans (ih _)

theorem Incident.next_waiting {incident : Incident}
    (gated : settings.hosting.hostingDebugOpen = false) (sound : world.Sound)
    (unstaffed : incident.unstaffed library world = true) (waiting : world.Waiting companyId) :
    (incident.next settings library world).Waiting companyId ∧
      world.StoresForOthers settings companyId (incident.next settings library world) := by
  have kept : world.StoresForOthers settings companyId world := fun key content stored => .inl stored
  cases incident with
  | request asked => exact ⟨asked.run_waiting gated sound unstaffed waiting,
      asked.run_stores sound waiting⟩
  | visit slug pathInfo faults =>
    have db := visit_db settings.hosting library.hosting slug pathInfo faults world.hosting
    refine ⟨⟨?_, ?_⟩, fun key content stored => .inl ?_⟩
    · simp only [next, db]
      exact waiting.empty
    · simp only [next, ApiWorld.statusOf, ApiWorld.accessRow, db]
      exact waiting.status
    · rwa [next, visit_objects] at stored
  | delivers change =>
    simp only [next]
    split
    · exact ⟨⟨waiting.empty, waiting.status⟩, kept⟩
    · exact ⟨waiting, kept⟩
  | grants => contradiction
  | purgesApp app files =>
    refine ⟨⟨fun other member => ?_, ?_⟩, fun key content stored =>
      .inl (shrinks_foldl_erase files _ key content stored)⟩
    · rcases world.hosting.withoutApp_db app files with same | ⟨_, _, deleted⟩
      · exact waiting.empty other (by rwa [← same])
      · have listed : other ∈ ((Act.delete app).apply world.hosting.db.sites).apps := by
          rwa [← deleted]
        rcases Act.app_from listed with ⟨old, stored, same⟩ | inserts
        · have company : other.companyId = old.companyId := congrArg (·.companyId) same
          rw [company]
          exact waiting.empty old stored
        · exact inserts.elim
    · rw [ApiWorld.statusOf, ApiWorld.accessRow, next]
      rcases world.hosting.withoutApp_db app files with same | ⟨_, same, _⟩
      · rw [same]
        exact waiting.status
      · rw [same]
        exact waiting.status
  | purgesRows other =>
    refine ⟨⟨waiting.empty, ?_⟩, kept⟩
    simp only [next, ApiWorld.withoutCompany, ApiWorld.statusOf, ApiWorld.accessRow]
    rw [find?_delete]
    split
    · simp
    · exact waiting.status
  | _ => exact ⟨⟨waiting.empty, waiting.status⟩, kept⟩

/-- Along a run, with the state in which each foreign key was one. -/
theorem runs_waiting (gated : settings.hosting.hostingDebugOpen = false) {incidents : List Incident}
    (sound : world.Sound) (waiting : world.Waiting companyId)
    (unstaffed : Meets (Incident.next settings library) (fun world incident =>
      incident.unstaffed library world = true) world incidents) :
    (world.runs settings library incidents).Waiting companyId ∧
      ∀ key content,
        (world.runs settings library incidents).hosting.disk.objects.lookup key = some content →
        world.hosting.disk.objects.lookup key = some content ∨
          ∃ earlier later, incidents = earlier ++ later ∧
            (world.runs settings library earlier).ForeignKey settings companyId key := by
  induction incidents generalizing world with
  | nil => exact ⟨waiting, fun key content stored => .inl stored⟩
  | cons incident rest ih =>
    obtain ⟨first, others⟩ := unstaffed
    obtain ⟨stays, stores⟩ := incident.next_waiting gated sound first waiting
    obtain ⟨ends, stored⟩ := ih (incident.next_sound sound) stays others
    refine ⟨ends, fun key content found => ?_⟩
    rcases stored key content found with next | ⟨earlier, later, same, foreign⟩
    · rcases stores key content next with start | foreign
      · exact .inl start
      · exact .inr ⟨[], incident :: rest, rfl, foreign⟩
    · exact .inr ⟨incident :: earlier, later, by rw [same]; rfl, foreign⟩

/-- Whatever the others ask for, a company that waits for the staff stays unapproved, and
gets no app, no deployment and no file. -/
theorem waiting_company_stays_empty (settings : ApiSettings) (library : ApiLibrary) (companyId : Nat)
    (world : ApiWorld) (incidents : List Incident) (reachable : world.Reachable settings library)
    (gated : settings.hosting.hostingDebugOpen = false)
    (empty : ∀ app ∈ world.hosting.db.apps, app.companyId ≠ companyId)
    (waiting : world.statusOf companyId ≠ some .approved)
    (unstaffed : Meets (Incident.next settings library) (fun world incident =>
      incident.unstaffed library world = true) world incidents) :
    let after := world.runs settings library incidents
    after.statusOf companyId ≠ some .approved ∧
      (∀ app ∈ after.hosting.db.apps, app.companyId ≠ companyId) ∧
      (∀ row ∈ after.hosting.db.deployments, ∃ app ∈ after.hosting.db.apps, app.id = row.app ∧
        app.companyId ≠ companyId) ∧
      ∀ key content, after.hosting.disk.objects.lookup key = some content →
        world.hosting.disk.objects.lookup key = some content ∨
          ∃ earlier later, incidents = earlier ++ later ∧
            (world.runs settings library earlier).ForeignKey settings companyId key := by
  intro after
  have sound := reachable.sound
  obtain ⟨ends, stored⟩ := runs_waiting gated sound ⟨empty, waiting⟩ unstaffed
  refine ⟨ends.status, ends.empty, fun row member => ?_, stored⟩
  obtain ⟨app, present, owner⟩ := (ApiWorld.runs_sound sound incidents).sites.formed.owned row member
  exact ⟨app, present, owner, ends.empty app present⟩

end

/-- A member asks for access, and does not wait for the answer. -/
def impatientMember : List Incident :=
  [.request (call "h.waiting.s" .post .accessRequest), .request (call "h.waiting.s" .post .apps),
    .request (call "h.waiting.s" .post .preview)]

theorem waiting_company_stays_empty_member :
    (emptyApi.runs apiSettings demoApi impatientMember).statusOf 4 = some .pending ∧
      ∀ app ∈ (emptyApi.runs apiSettings demoApi impatientMember).hosting.db.apps,
        app.companyId ≠ 4 :=
  ⟨by decide +kernel, (waiting_company_stays_empty apiSettings demoApi 4 emptyApi impatientMember
    emptyApi_reachable rfl (by decide) (by decide)
    (by decide +kernel)).2.1⟩

end HostingService
