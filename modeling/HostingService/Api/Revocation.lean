import HostingService.Api.Waitlist
import HostingService.Hosting.Progress

/-! What the members of a company may still do once its access is not approved any more:
the gate is asked when rows are created, and not when a deployment goes on. -/

namespace HostingService

open Program Text Storage Transaction

/-- The deployment, if it belongs to an app of the company. -/
def ApiWorld.deploymentOf (world : ApiWorld) (companyId : Nat) (id : Uuid) : Option Deployment :=
  (world.hosting.db.deployment id).filter fun row =>
    (world.hosting.db.app row.app).any (·.companyId = companyId)

/-- The request uploads to, finalizes or rolls back to a deployment of the company that lets
it through. -/
def ApiRequest.proceeds (companyId : Nat) (world : ApiWorld) (request : ApiRequest) : Bool :=
  match request.endpoint, request.method with
  | .upload _ id, .put => (world.deploymentOf companyId id).any (·.isOpen)
  | .finalize _ id, .post => (world.deploymentOf companyId id).any (·.isReady)
  | .rollback _ id, .post => (world.deploymentOf companyId id).any (·.isRestorable)
  | _, _ => false

/-- The answer of the gate. -/
def deniedAnswer : Answer := accessDenied.answer true

section
variable {settings : ApiSettings} {library : ApiLibrary} {companyId : Nat} {world : ApiWorld}
  {principal : HostingPrincipal} {request : ApiRequest}

theorem HostingPrincipal.Redeploys.deploymentOf {app : App} {row : Deployment}
    (redeploys : principal.Redeploys world.hosting.db app row)
    (formed : world.hosting.db.sites.WellFormed) (own : principal.companyId = some companyId) :
    world.deploymentOf companyId row.id = some row := by
  have company : app.companyId = companyId :=
    Option.some.inj (redeploys.company.symm.trans own)
  rw [ApiWorld.deploymentOf, Db.deployment_of_mem formed redeploys.stored, Option.filter_some,
    redeploys.owner, Db.app_of_mem formed redeploys.present, if_pos (by simp [company])]

theorem Asks.stopped {asked : Request}
    (asks : Asks principal world.hosting.db request.endpoint request.method asked)
    (formed : world.hosting.db.sites.WellFormed) (own : principal.companyId = some companyId)
    (stopped : request.proceeds companyId world = false) :
    ¬ asked.Proceeds world.hosting.db.sites := by
  have refused {app : App} {row : Deployment} {test : Deployment → Bool}
      (redeploys : principal.Redeploys world.hosting.db app row)
      (fails : (world.deploymentOf companyId row.id).any test = false) :
      ¬ ∃ other ∈ world.hosting.db.sites.deployments, other.id = row.id ∧ test other = true := by
    rintro ⟨other, present, same, passes⟩
    obtain rfl := formed.deployment_eq present redeploys.stored same
    rw [redeploys.deploymentOf formed own, Option.any_some, passes] at fails
    contradiction
  rw [ApiRequest.proceeds] at stopped
  generalize request.endpoint = endpoint at asks stopped
  generalize request.method = method at asks stopped
  cases asks with
  | createApp | prepare | createDeployment | renew | delete => exact id
  | upload redeploys => exact refused redeploys stopped
  | finalize redeploys => exact refused redeploys stopped
  | rollback redeploys => exact refused redeploys stopped

/-! ### Requests that do not proceed -/

/-- The service of a stopped request moves nothing, if its creation is denied. -/
theorem Asks.unmoved {asked : Request} {faults : List (Option Error)} {draws : Draws}
    (asks : Asks principal world.hosting.db request.endpoint request.method asked)
    (permitted : request.endpoint.permits principal request.method = true) (sound : world.Sound)
    (own : principal.companyId = some companyId)
    (stopped : request.proceeds companyId world = false)
    (denied : asked.creates = true → asked.Concerns companyId world.hosting.db →
      (world.serve settings library asked faults draws).2.hosting.db = world.hosting.db) :
    world.hosting.db.sites.Unmoved
      (world.serve settings library asked faults draws).2.hosting.db.sites := by
  have formed := sound.sites.formed
  cases creates : asked.creates with
  | true =>
    obtain ⟨other, same, concerns⟩ := asks.concerns formed
    obtain rfl := Option.some.inj (own.symm.trans same)
    rw [denied creates concerns]
    exact Sites.Unmoved.refl _
  | false =>
    obtain ⟨_, _, served⟩ := asks.served permitted formed
    rcases served.sites with same | ⟨act, admitted, _, same⟩
    · rw [same]
      exact Sites.Unmoved.refl _
    · rw [same]
      exact admitted.unmoved sound.sites creates (asks.stopped formed own stopped)

theorem serve_shrinks {asked : Request} {faults : List (Option Error)} {draws : Draws}
    (stopped : ¬ asked.Proceeds world.hosting.db.sites) :
    Shrinks world.hosting.disk.objects
      (world.serve settings library asked faults draws).2.hosting.disk.objects := by
  have halts : ¬ asked.Proceeds (world.hosting.withFaults faults).db.sites := stopped
  have ran : Shrinks world.hosting.disk.objects
      (asked.run settings.hosting library.hosting faults world.hosting).2.disk.objects :=
    Request.shrinks halts
  rw [ApiWorld.serve_disk]
  exact ran

theorem ApiWorld.SetsAccess.unmoved {other : Nat} {after : ApiWorld}
    (sets : world.SetsAccess other after) :
    world.hosting.db.sites.Unmoved after.hosting.db.sites ∧
      Shrinks world.hosting.disk.objects after.hosting.disk.objects := by
  cases sets with
  | sets => exact ⟨Sites.Unmoved.refl _, Shrinks.refl _⟩

theorem Deed.unmoved {after : ApiWorld} (deed : Deed settings library principal request world after)
    (permitted : request.endpoint.permits principal request.method = true) (sound : world.Sound)
    (gated : settings.hosting.hostingDebugOpen = false)
    (revoked : world.statusOf companyId ≠ some .approved) (own : principal.companyId = some companyId)
    (stopped : request.proceeds companyId world = false) :
    world.hosting.db.sites.Unmoved after.hosting.db.sites ∧
      Shrinks world.hosting.disk.objects after.hosting.disk.objects := by
  cases deed with
  | serves asks =>
    refine ⟨asks.unmoved permitted sound own stopped fun creates concerns => ?_,
      serve_shrinks (asks.stopped sound.sites.formed own stopped)⟩
    exact serve_denied creates concerns (closed_of_status gated revoked) _ _
  | requestsAccess => exact (world.setsAccess_requestAccess _ _).unmoved
  | reviews => exact (world.setsAccess_updateAccess _ _ _ _).unmoved
  | _ => exact ⟨Sites.Unmoved.refl _, Shrinks.refl _⟩

theorem ApiRequest.run_unmoved (sound : world.Sound)
    (gated : settings.hosting.hostingDebugOpen = false)
    (revoked : world.statusOf companyId ≠ some .approved)
    (named : request.principal library world = some principal)
    (own : principal.companyId = some companyId)
    (stopped : request.proceeds companyId world = false) :
    world.hosting.db.sites.Unmoved (request.run settings library world).2.hosting.db.sites ∧
      Shrinks world.hosting.disk.objects
        (request.run settings library world).2.hosting.disk.objects := by
  have effect := request.run_effect settings library world
  generalize (request.run settings library world).2 = after at effect
  cases effect with
  | nothing | touches | flags => exact ⟨Sites.Unmoved.refl _, Shrinks.refl _⟩
  | acts authenticated reaches deed =>
    obtain rfl := Option.some.inj (named.symm.trans (principal_eq authenticated))
    exact deed.unmoved reaches.permitted (authenticate_sound authenticated sound) gated revoked own
      stopped

/-! ### The answer of the gate -/

theorem seesApps_resolve {companyId : Option Nat} {ref : PyStr} :
    SeesApps settings.hosting _ (.select fun db => db.resolve companyId ref) := by
  intro left right same
  exact ⟨by simp only [Statement.handle, Db.resolve, Db.scope, same], same⟩

theorem scopedApp_seesApps (ref : PyStr) :
    (scopedApp principal ref).All (SeesApps settings.hosting) := by
  have resolved : (companyApp principal ref).All (SeesApps settings.hosting) := by
    refine .bind (Prog.all_ofExcept _) fun companyId => all_check.bind fun _ => ?_
    exact .bind (Prog.all_perform.mpr seesApps_resolve) fun _ => Prog.all_ofExcept _
  exact resolved.bind fun _ => .bind (Prog.all_ofExcept _) fun _ => Prog.all_ret _

/-- What a view asks for is the same in states with the same apps. -/
theorem ask_same {α : Type} {asked : Transaction α} {other : ApiWorld}
    (sees : asked.All (SeesApps settings.hosting))
    (same : other.hosting.db.apps = world.hosting.db.apps) :
    other.ask settings asked = world.ask settings asked :=
  (sees.run_simulated (fun left right : World => left.db.apps = right.db.apps)
    (fun _ _ sees _ _ same => sees _ _ same) same).1

/-- Without an event there is no outbox row. -/
theorem serve_of_error {asked : Request} {faults : List (Option Error)} {draws : Draws} {error : Error}
    (ran : asked.run settings.hosting library.hosting faults world.hosting =
      (.error error, world.hosting.withFaults faults)) :
    world.serve settings library asked faults draws =
      (.error error, { world with hosting := world.hosting.withFaults faults }) := by
  simp only [ApiWorld.serve, ran, World.withFaults, List.drop_length, outboxRows, List.zipIdx_nil,
    List.flatMap_nil, List.map_nil, createOutboxRows]

/-- A view that would create rows if the company were approved. -/
theorem serviceView_denied (world approved : ApiWorld) {asked : Transaction Request}
    {failed : Error → Answer} {shown : Db → Content}
    (asks : asked.Ensures (Statement.handle settings.hosting) (Prog.Returned fun given _ =>
      Asks principal world.hosting.db request.endpoint request.method given) world.hosting)
    (creates : ∀ given, Asks principal world.hosting.db request.endpoint request.method given →
      given.creates = true)
    (sees : asked.All (SeesApps settings.hosting))
    (formed : world.hosting.db.sites.WellFormed) (own : principal.companyId = some companyId)
    (closed : world.hosting.db.open settings.hosting companyId = false)
    (same : approved.hosting.db.apps = world.hosting.db.apps)
    (moved : ¬ approved.hosting.db.sites.Unmoved
      (serviceView settings library request asked failed shown approved).2.hosting.db.sites) :
    (serviceView settings library request asked failed shown world).1 = failed accessDenied := by
  have alike := ask_same sees same
  rw [serviceView] at moved ⊢
  rw [Prog.Ensures] at asks
  rcases answered : world.ask settings asked with error | given
  all_goals
    rw [answered] at alike
    simp only [alike] at moved
  · exact absurd (Sites.Unmoved.refl _) moved
  · rw [ApiWorld.ask] at answered
    rw [answered] at asks
    obtain ⟨other, same', concerns⟩ := Asks.concerns asks formed
    obtain rfl := Option.some.inj (own.symm.trans same')
    have about : given.Concerns companyId (world.hosting.withFaults request.faults).db := concerns
    have denied : given.run settings.hosting library.hosting request.faults world.hosting =
          (.error accessDenied, world.hosting.withFaults request.faults) ∨
        ∃ error, ∀ other : World, other.db.apps = world.hosting.db.apps →
          (given.service settings.hosting library.hosting).run (Action.handle settings.hosting) other =
            (.error error, other) := Request.run_denied (creates given asks) about closed
    rcases denied with denied | ⟨error, fails⟩
    · simp only [serve_of_error denied]
    · have refused : given.run settings.hosting library.hosting request.faults approved.hosting =
          (.error error, approved.hosting.withFaults request.faults) := fails _ same
      simp only [serve_of_error refused] at moved
      exact absurd (Sites.Unmoved.refl _) moved

/-- A principal that gets through runs its view. -/
theorem ApiRequest.run_of_reaches {tokens : List DeployToken} {view : View}
    (authenticates : request.endpoint.authenticates = true)
    (authenticated : authenticate library request.authorization world.hosting.clock world.tokens =
      .ok (some principal, tokens))
    (reaches : request.Reaches settings library principal)
    (handled : request.handler settings library principal = some view) :
    request.run settings library world = view { world with tokens } := by
  rw [run, if_pos authenticates, authenticated]
  simp only [handleChecked, handle, reaches.permitted, reaches.unthrottled, handled]
  rfl

/-- Only a creation moves something when the request does not proceed. -/
theorem Deed.creates {after : ApiWorld} (deed : Deed settings library principal request world after)
    (permitted : request.endpoint.permits principal request.method = true) (sound : world.Sound)
    (own : principal.companyId = some companyId)
    (stopped : request.proceeds companyId world = false)
    (moved : ¬ world.hosting.db.sites.Unmoved after.hosting.db.sites) :
    ∃ asked, Asks principal world.hosting.db request.endpoint request.method asked ∧
      asked.creates = true := by
  cases deed with
  | @serves asked asks =>
    refine ⟨asked, asks, ?_⟩
    by_contra plain
    exact moved (asks.unmoved permitted sound own stopped fun creates => absurd creates plain)
  | requestsAccess => exact absurd (world.setsAccess_requestAccess _ _).unmoved.1 moved
  | reviews => exact absurd (world.setsAccess_updateAccess _ _ _ _).unmoved.1 moved
  | _ => exact absurd (Sites.Unmoved.refl _) moved

theorem ApiRequest.creating_denied {asked : Request} {db : Db} {approved : ApiWorld}
    {tokens : List DeployToken} (asks : Asks principal db request.endpoint request.method asked)
    (creates : asked.creates = true)
    (authenticated : authenticate library request.authorization world.hosting.clock world.tokens =
      .ok (some principal, tokens))
    (again : authenticate library request.authorization approved.hosting.clock approved.tokens =
      .ok (some principal, tokens))
    (reaches : request.Reaches settings library principal)
    (formed : world.hosting.db.sites.WellFormed) (own : principal.companyId = some companyId)
    (closed : world.hosting.db.open settings.hosting companyId = false)
    (same : approved.hosting.db.apps = world.hosting.db.apps)
    (moved : ¬ approved.hosting.db.sites.Unmoved
      (request.run settings library approved).2.hosting.db.sites) :
    (request.run settings library world).1 = deniedAnswer := by
  generalize endpoint : request.endpoint = path at asks
  generalize method : request.method = verb at asks
  cases asks with
  | createApp =>
    have handled : request.handler settings library principal =
        some (appListViewPost settings library principal request) := by
      rw [handler, method, endpoint]
      rfl
    rw [run_of_reaches (by rw [endpoint]; rfl) again reaches handled] at moved
    rw [run_of_reaches (by rw [endpoint]; rfl) authenticated reaches handled]
    refine serviceView_denied { world with tokens } { approved with tokens }
      (requireCompanyId_asks fun company required => ?_)
      (fun given asks => ?_) (.bind (Prog.all_ofExcept _) fun _ => Prog.all_ret _) formed own closed
      same moved
    · rw [endpoint, method]
      exact .createApp required
    · rw [endpoint, method] at asks
      cases asks
      rfl
  | prepare =>
    have handled : request.handler settings library principal =
        some (previewPrepareViewPost settings library principal request) := by
      rw [handler, method, endpoint]
      rfl
    rw [run_of_reaches (by rw [endpoint]; rfl) again reaches handled] at moved
    rw [run_of_reaches (by rw [endpoint]; rfl) authenticated reaches handled]
    refine serviceView_denied { world with tokens } { approved with tokens }
      (requireCompanyId_asks fun company required => ?_)
      (fun given asks => ?_) (.bind (Prog.all_ofExcept _) fun _ => Prog.all_ret _) formed own closed
      same moved
    · rw [endpoint, method]
      exact .prepare required rfl
    · rw [endpoint, method] at asks
      cases asks
      rfl
  | @createDeployment ref =>
    have handled : request.handler settings library principal =
        some (deploymentListViewPost settings library principal request ref) := by
      rw [handler, method, endpoint]
      rfl
    rw [run_of_reaches (by rw [endpoint]; rfl) again reaches handled] at moved
    rw [run_of_reaches (by rw [endpoint]; rfl) authenticated reaches handled]
    refine serviceView_denied { world with tokens } { approved with tokens }
      (scopedApp_asks fun app deploys => ?_) (fun given asks => ?_)
      ((scopedApp_seesApps ref).bind fun _ => Prog.all_ret _) formed own closed same moved
    · rw [endpoint, method]
      exact .createDeployment deploys
    · rw [endpoint, method] at asks
      cases asks
      rfl
  | _ => contradiction

/-- What an approval would let through is denied with the error of the gate. -/
theorem ApiRequest.run_denied {other : Nat} {approved : ApiWorld}
    (sets : world.SetsAccess other approved) (sound : world.Sound)
    (gated : settings.hosting.hostingDebugOpen = false)
    (revoked : world.statusOf companyId ≠ some .approved)
    (named : request.principal library world = some principal)
    (own : principal.companyId = some companyId)
    (stopped : request.proceeds companyId world = false)
    (moved : ¬ approved.hosting.db.sites.Unmoved
      (request.run settings library approved).2.hosting.db.sites) :
    (request.run settings library world).1 = deniedAnswer := by
  have approvedSound := sets.sound sound
  cases sets with
  | @sets access reviews =>
    have effect := request.run_effect settings library { world with
      hosting := { world.hosting with db := { world.hosting.db with access } }
      reviews }
    rcases ran : request.run settings library { world with
      hosting := { world.hosting with db := { world.hosting.db with access } }
      reviews } with ⟨answer, after⟩
    have moves := moved
    rw [ran] at effect moves
    cases effect with
    | nothing | touches | flags => exact absurd (Sites.Unmoved.refl _) moves
    | acts authenticated reaches deed =>
      obtain rfl := Option.some.inj (named.symm.trans (principal_eq authenticated))
      obtain ⟨asked, asks, creates⟩ := deed.creates reaches.permitted
        (authenticate_sound authenticated approvedSound) own stopped moves
      exact creating_denied asks creates authenticated authenticated reaches sound.sites.formed own
        (closed_of_status gated revoked) rfl moved

/-- While its access is not approved, and unless it goes on with a deployment that it has, a
company creates nothing, stores nothing and moves no site; what an approval would let through
is answered with the error of the gate. -/
theorem revoked_company_halts (settings : ApiSettings) (library : ApiLibrary) (companyId : Nat)
    (world : ApiWorld) (request : ApiRequest) (principal : HostingPrincipal)
    (reachable : world.Reachable settings library)
    (gated : settings.hosting.hostingDebugOpen = false)
    (revoked : world.statusOf companyId ≠ some .approved)
    (named : request.principal library world = some principal)
    (own : principal.companyId = some companyId)
    (stopped : request.proceeds companyId world = false) :
    let after := (request.run settings library world).2
    world.hosting.db.sites.Unmoved after.hosting.db.sites ∧
      Shrinks world.hosting.disk.objects after.hosting.disk.objects ∧
      ∀ reviewerId notes,
        let approved := world.updateAccess companyId .approved reviewerId notes
        ¬ approved.hosting.db.sites.Unmoved
            (request.run settings library approved).2.hosting.db.sites →
          (request.run settings library world).1 = deniedAnswer := by
  intro after
  have sound := reachable.sound
  obtain ⟨unmoved, shrinks⟩ := request.run_unmoved sound gated revoked named own stopped
  refine ⟨unmoved, shrinks, fun reviewerId notes moved => ?_⟩
  exact request.run_denied (world.setsAccess_updateAccess companyId .approved reviewerId notes) sound
    gated revoked named own stopped moved

end

/-- The staff denies the company of its own token. -/
def denies : ApiRequest :=
  { call "h.staff.s" .post .access with body := { demoBody with status := lit "denied" } }

/-- After the denial an app that an approval would let through is denied. -/
theorem revoked_company_halts_app :
    ((call "h.owner.s" .post .apps).run apiSettings demoApi
      (emptyApi.runs apiSettings demoApi [.request denies])).1 = deniedAnswer := by
  refine (revoked_company_halts apiSettings demoApi 3 _ _ _ (reachable_of_empty [.request denies]) rfl
    (by decide +kernel) rfl rfl rfl).2.2 1 [] fun unmoved => ?_
  have created := unmoved.any_app (fun _ _ => true) (by decide +kernel)
  have none : ((emptyApi.runs apiSettings demoApi [.request denies]).updateAccess 3 .approved 1
      []).hosting.db.apps.any (fun _ => true) = false := by decide +kernel
  rw [none] at created
  contradiction

def demoOwner : HostingPrincipal where
  userId := 7
  companyId := some 3
  email := []
  isStaff := false
  isCompanyOwner := true
  accessGlobalMetrics := false
  deployTokenId := none
  patRo := false

/-- A preview is prepared and uploaded, and then the access of its company is denied. -/
def deniedUpload : List Incident :=
  [.request (call "h.owner.s" .post .preview),
    .request (call "h.owner.s" .put (.upload (Uuid.text ⟨1⟩) ⟨2⟩)), .request denies]

/-- A company that was denied after its upload finalizes it, and its site is served. -/
theorem denied_company_finalizes :
    ¬ ∀ (world : ApiWorld) (request : ApiRequest) (principal : HostingPrincipal),
      world.Reachable apiSettings demoApi → apiSettings.hosting.hostingDebugOpen = false →
        world.statusOf 3 ≠ some .approved → request.principal demoApi world = some principal →
          principal.companyId = some 3 → world.hosting.db.sites.Unmoved
            (request.run apiSettings demoApi world).2.hosting.db.sites := by
  intro halts
  have unmoved := halts (emptyApi.runs apiSettings demoApi deniedUpload)
    (call "h.owner.s" .post (.finalize (Uuid.text ⟨1⟩) ⟨2⟩)) demoOwner
    (reachable_of_empty deniedUpload) rfl (by decide +kernel) (by decide +kernel) rfl
  have served := unmoved.any_app (fun _ current => current = some ⟨2⟩) (by decide +kernel)
  have before : ((emptyApi.runs apiSettings demoApi deniedUpload).hosting.db.apps.any fun app =>
      app.currentDeployment = some ⟨2⟩) = false := by decide +kernel
  rw [before] at served
  contradiction

end HostingService
