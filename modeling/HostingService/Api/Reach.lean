import HostingService.Actions.Bookkeeping
import HostingService.Api.Served
import HostingService.Program.Runs

/-! Runs of the whole service: API requests, visits, time, and the work of the admins,
the delivery worker and the maintenance jobs. -/

namespace HostingService

open Program Text Storage

/-- The writes of the delivery worker. -/
def ActionsChange.isDelivery : ActionsChange → Bool
  | .createAttempt _ | .saveOutbox .. | .updateOutbox .. => true
  | _ => false

inductive Incident where
  | request (request : ApiRequest)
  | visit (slug pathInfo : PyStr) (faults : List (Option Error))
  | passes (span : Nat)
  /-- The admin site, or `approve_hosting_access`. -/
  | grants (access : List CompanyHostingAccess) (reviews : List AccessReview)
  /-- One write of the delivery worker. -/
  | delivers (change : ActionsChange)
  /-- `purge_expired_data`: events, and outbox rows that are finished. -/
  | expires (event : Event → Bool) (row : ActionOutbox → Bool)
  /-- `delete_company_artifacts` on one app, with the files that it removes. -/
  | purgesApp (app : App) (files : List PyStr)
  /-- `delete_company_rows`, once the apps are gone. -/
  | purgesRows (companyId : Nat)
  /-- `purge_deleted_companies` on its flags. -/
  | sweeps (deletions : List CompanyDeletion)

/-- The outbox rows that stay, with their attempts. -/
def ActionsDb.keepOutbox (keep : ActionOutbox → Bool) (db : ActionsDb) : ActionsDb :=
  { db with
    outbox := db.outbox.filter keep
    attempts := db.attempts.filter fun attempt =>
      (db.outbox.filter keep).any (·.id = attempt.outbox) }

/-- Deleting the rules of a company cascades to the outbox rows of these rules. -/
def ActionsDb.withoutCompany (companyId : Nat) (db : ActionsDb) : ActionsDb :=
  let rules := db.rules.filter (·.companyId ≠ companyId)
  { db.keepOutbox (fun row => row.companyId ≠ companyId &&
      row.actionRule.all fun id => rules.any (·.id = id)) with rules := rules }

def ApiWorld.withoutCompany (companyId : Nat) (world : ApiWorld) : ApiWorld :=
  { world with
    hosting := { world.hosting with db := { world.hosting.db with
      access := world.hosting.db.access.filter (·.companyId ≠ companyId)
      events := world.hosting.db.events.filter (·.companyId ≠ companyId) } }
    reviews := world.reviews.filter (·.companyId ≠ companyId)
    tokens := world.tokens.filter (·.companyId ≠ companyId)
    actions := world.actions.withoutCompany companyId }

/-- `app.delete()`, and the files that were removed before it. -/
def World.withoutApp (app : App) (files : List PyStr) (world : World) : World :=
  match (Change.deleteApp app.id).apply world.db with
  | .ok db =>
    { world with
      db := if app ∈ world.db.apps then db else world.db
      disk := { world.disk with
        objects := files.foldl (fun objects key => objects.erase key) world.disk.objects } }
  | .error _ => world

section
variable (settings : ApiSettings) (library : ApiLibrary)

def Incident.next (world : ApiWorld) : Incident → ApiWorld
  | .request asked => (asked.run settings library world).2
  | .visit slug pathInfo faults => { world with
      hosting := (HostingService.visit settings.hosting library.hosting slug pathInfo faults
        world.hosting).2 }
  | .passes span => { world with
      hosting := { world.hosting with clock := world.hosting.clock + span } }
  | .grants access reviews => { world with
      hosting := { world.hosting with db := { world.hosting.db with access } }
      reviews := reviews }
  | .delivers change =>
    match change.isDelivery, change.apply world.actions with
    | true, .ok actions => { world with actions }
    | _, _ => world
  | .expires event row => { world with
      hosting := { world.hosting with db := { world.hosting.db with
        events := world.hosting.db.events.filter event } }
      actions := world.actions.keepOutbox fun stored => !stored.status.isFinal || row stored }
  | .purgesApp app files => { world with hosting := world.hosting.withoutApp app files }
  | .purgesRows companyId => world.withoutCompany companyId
  | .sweeps deletions => { world with deletions }

/-- There are no apps, tokens, rules and deliveries yet. -/
structure ApiWorld.Initial (world : ApiWorld) : Prop where
  hosting : world.hosting.Initial
  tokens : world.tokens = []
  rules : world.actions.rules = []
  outbox : world.actions.outbox = []
  attempts : world.actions.attempts = []

def ApiWorld.runs (world : ApiWorld) (incidents : List Incident) : ApiWorld :=
  incidents.foldl (Incident.next settings library) world

def ApiWorld.Reachable (world : ApiWorld) : Prop :=
  ∃ start incidents, ApiWorld.Initial start ∧ world = start.runs settings library incidents

end

/-! ### The invariant -/

/-- Keys are unique, and an outbox row is of the company of its rule. -/
structure ActionsDb.Sound (db : ActionsDb) : Prop where
  ruleIds : (db.rules.map (·.id)).Nodup
  outboxIds : (db.outbox.map (·.id)).Nodup
  linked : ∀ row ∈ db.outbox, ∀ ruleId, row.actionRule = some ruleId →
    ∃ rule ∈ db.rules, rule.id = ruleId ∧ rule.companyId = row.companyId

structure ApiWorld.Sound (world : ApiWorld) : Prop where
  sites : world.hosting.db.sites.Consistent
  plain : world.hosting.db.sites.Plain
  tokenIds : (world.tokens.map (·.id)).Nodup
  actions : world.actions.Sound

/-- A saved rule keeps its company. -/
def ActionsChange.Fits (db : ActionsDb) : ActionsChange → Prop
  | .saveRule rule => ∀ old ∈ db.rules, old.id = rule.id → old.companyId = rule.companyId
  | .createOutbox _ => False
  | _ => True

section
variable {settings : ApiSettings} {library : ApiLibrary} {world : ApiWorld} {db after : ActionsDb}
  {change : ActionsChange}

theorem ActionsDb.Sound.rule_eq (sound : db.Sound) {first second : ActionRule}
    (one : first ∈ db.rules) (two : second ∈ db.rules) (same : first.id = second.id) :
    first = second := List.inj_on_of_nodup_map sound.ruleIds one two same

theorem ActionsDb.Sound.row_eq (sound : db.Sound) {first second : ActionOutbox}
    (one : first ∈ db.outbox) (two : second ∈ db.outbox) (same : first.id = second.id) :
    first = second := List.inj_on_of_nodup_map sound.outboxIds one two same

theorem ActionsDb.Sound.keepOutbox (sound : db.Sound) (keep : ActionOutbox → Bool) :
    (db.keepOutbox keep).Sound where
  ruleIds := sound.ruleIds
  outboxIds := sound.outboxIds.sublist (List.filter_sublist.map _)
  linked := fun row member => sound.linked row (List.mem_filter.mp member).1

theorem ActionsDb.Sound.withoutCompany (sound : db.Sound) (companyId : Nat) :
    (db.withoutCompany companyId).Sound where
  ruleIds := sound.ruleIds.sublist (List.filter_sublist.map _)
  outboxIds := sound.outboxIds.sublist (List.filter_sublist.map _)
  linked := by
    intro row member ruleId same
    obtain ⟨present, stays⟩ := List.mem_filter.mp member
    obtain ⟨rule, listed, known, company⟩ := sound.linked row present ruleId same
    have foreign : row.companyId ≠ companyId := by
      simpa using (Bool.and_eq_true_iff.mp stays).1
    refine ⟨rule, List.mem_filter.mpr ⟨listed, ?_⟩, known, company⟩
    exact decide_eq_true (company ▸ foreign)

theorem ActionOutbox.assign_keys (columns : OutboxColumns) (row : ActionOutbox) :
    (row.assign columns).companyId = row.companyId ∧
      (row.assign columns).actionRule = row.actionRule := by
  cases columns <;> exact ⟨rfl, rfl⟩

theorem ActionsDb.Sound.assign (sound : db.Sound) (id : Uuid) (columns : OutboxColumns) :
    (db.assign id columns).Sound where
  ruleIds := sound.ruleIds
  outboxIds := by
    rw [ActionsDb.assign, map_key_of_kept fun row => by split <;> simp]
    exact sound.outboxIds
  linked := by
    intro row member ruleId same
    obtain ⟨old, present, rfl⟩ := List.mem_map.mp member
    have keys := ActionOutbox.assign_keys columns old
    split at same
    · rename_i target
      rw [if_pos target, keys.1]
      exact sound.linked old present ruleId (keys.2.symm.trans same)
    · rename_i target
      rw [if_neg target]
      exact sound.linked old present ruleId same

theorem ActionsChange.apply_sound (sound : db.Sound) (fits : change.Fits db)
    (applied : change.apply db = .ok after) : after.Sound := by
  cases change with
  | createRule rule =>
    simp only [apply] at applied
    split at applied
    · contradiction
    · rename_i free
      obtain rfl := Except.ok.inj applied
      refine ⟨nodup_concat sound.ruleIds fun other member same => ?_, sound.outboxIds,
        fun row member ruleId same => ?_⟩
      · exact free (List.any_eq_true.mpr ⟨other, member, by simpa using same⟩)
      · obtain ⟨rule, listed, known⟩ := sound.linked row member ruleId same
        exact ⟨rule, List.mem_append_left _ listed, known⟩
  | saveRule rule =>
    simp only [apply] at applied
    split at applied
    · obtain rfl := Except.ok.inj applied
      refine ⟨?_, sound.outboxIds, fun row member ruleId same => ?_⟩
      · rw [map_key_of_kept fun old => by split <;> simp_all]
        exact sound.ruleIds
      · obtain ⟨old, listed, known, company⟩ := sound.linked row member ruleId same
        refine ⟨_, List.mem_map_of_mem listed, ?_⟩
        split
        · rename_i target
          exact ⟨target.symm.trans known, (fits old listed target).symm.trans company⟩
        · exact ⟨known, company⟩
    · contradiction
  | deleteRule id =>
    obtain rfl := Except.ok.inj applied
    refine ⟨sound.ruleIds.sublist (List.filter_sublist.map _),
      sound.outboxIds.sublist (List.filter_sublist.map _), fun row member ruleId same => ?_⟩
    obtain ⟨present, stays⟩ := List.mem_filter.mp member
    obtain ⟨rule, listed, known, company⟩ := sound.linked row present ruleId same
    refine ⟨rule, List.mem_filter.mpr ⟨listed, decide_eq_true fun doomed => ?_⟩, known, company⟩
    exact of_decide_eq_true stays (same.trans (congrArg some (known.symm.trans doomed)))
  | createOutbox row => exact fits.elim
  | createAttempt attempt =>
    simp only [apply] at applied
    split at applied
    · obtain rfl := Except.ok.inj applied
      exact ⟨sound.ruleIds, sound.outboxIds, sound.linked⟩
    · contradiction
  | saveOutbox id columns =>
    simp only [apply] at applied
    split at applied
    · obtain rfl := Except.ok.inj applied
      exact sound.assign id columns
    · contradiction
  | updateOutbox id columns =>
    obtain rfl := Except.ok.inj applied
    exact sound.assign id columns

theorem ActionsChange.Concerns.fits {companyId : Nat} (sound : db.Sound)
    (concerns : change.Concerns companyId db) : change.Fits db := by
  cases concerns with
  | @saveRule old rule present company id kept =>
    intro other member same
    rw [sound.rule_eq member present (same.trans id), kept]
  | _ => trivial

/-! ### Requests keep the invariant -/

theorem Request.Acts.plain {principal : HostingPrincipal} {asked : Request} {sites : Sites}
    (acts : asked.Acts settings library principal world sites) (sound : world.Sound) :
    sites.Plain := by
  rcases acts with rfl | ⟨act, admitted, _, rfl⟩
  · exact sound.plain
  · exact admitted.plain sound.sites.formed sound.plain

theorem Served.sound {principal : HostingPrincipal} {asked : Request} {companyId : Nat}
    {after : ApiWorld} (served : Served settings library principal asked companyId world after)
    (sound : world.Sound) : after.Sound where
  sites := served.consistent sound.sites
  plain := served.sites.plain sound
  tokenIds := by
    rw [served.tokens]
    exact sound.tokenIds
  actions := by
    obtain ⟨created, appended, ours⟩ := served.outbox
    refine ⟨?_, served.outboxIds sound.actions.outboxIds, fun row member ruleId same => ?_⟩
    · rw [served.rules]
      exact sound.actions.ruleIds
    · rw [appended] at member
      rw [served.rules]
      rcases List.mem_append.mp member with old | new
      · exact sound.actions.linked row old ruleId same
      · obtain ⟨company, linked⟩ := ours row new
        rw [company]
        exact linked ruleId same

theorem ApiWorld.SetsAccess.sound {companyId : Nat} {after : ApiWorld}
    (sets : world.SetsAccess companyId after) (sound : world.Sound) : after.Sound := by
  cases sets with
  | sets => exact ⟨sound.sites, sound.plain, sound.tokenIds, sound.actions⟩

theorem Deed.sound {principal : HostingPrincipal} {request : ApiRequest} {after : ApiWorld}
    (permitted : request.endpoint.permits principal request.method = true)
    (deed : Deed settings library principal request world after) (sound : world.Sound) :
    after.Sound := by
  cases deed with
  | serves asks =>
    obtain ⟨companyId, _, served⟩ := asks.served permitted sound.sites.formed
    exact served.sound sound
  | requestsAccess => exact (ApiWorld.setsAccess_requestAccess ..).sound sound
  | reviews => exact (ApiWorld.setsAccess_updateAccess ..).sound sound
  | createsToken endpoint own created =>
    exact ⟨sound.sites, sound.plain, nodup_concat sound.tokenIds (createDeployToken_ok created).2,
      sound.actions⟩
  | revokesToken =>
    refine ⟨sound.sites, sound.plain, ?_, sound.actions⟩
    rw [revokeDeployToken_ids]
    exact sound.tokenIds
  | writes family governs concerns applied =>
    exact ⟨sound.sites, sound.plain, sound.tokenIds,
      ActionsChange.apply_sound sound.actions (concerns.fits sound.actions) applied⟩

/-- What a deed changes in the file store lies in the folders of covered apps. -/
theorem Deed.objects {principal : HostingPrincipal} {request : ApiRequest} {after : ApiWorld}
    (permitted : request.endpoint.permits principal request.method = true) (sound : world.Sound)
    (deed : Deed settings library principal request world after) :
    SameOutside (Covered settings.hosting principal world.hosting.db.sites)
      world.hosting.disk.objects after.hosting.disk.objects := by
  cases deed with
  | serves asks =>
    obtain ⟨_, _, served⟩ := asks.served permitted sound.sites.formed
    exact served.objects
  | @requestsAccess requester =>
    have sets := ApiWorld.setsAccess_requestAccess world requester principal.userId
    rw [sets.kept.2.2.2]
    exact SameOutside.refl _ _
  | @reviews reviewed status notes =>
    have sets := ApiWorld.setsAccess_updateAccess world reviewed status principal.userId notes
    rw [sets.kept.2.2.2]
    exact SameOutside.refl _ _
  | _ => exact SameOutside.refl _ _

/-- The use of a token changes no key. -/
theorem authenticate_sound {authorization : Authorization} {now : Time}
    {principal : Option HostingPrincipal} {tokens : List DeployToken}
    (authenticated : authenticate library authorization now world.tokens = .ok (principal, tokens))
    (sound : world.Sound) : ({ world with tokens } : ApiWorld).Sound := by
  refine ⟨sound.sites, sound.plain, ?_, sound.actions⟩
  rcases authenticate_cases authenticated with ⟨rfl, _⟩ | ⟨token, _, _, rfl⟩
  · exact sound.tokenIds
  · rw [touchToken_ids]
    exact sound.tokenIds

theorem ApiRequest.run_sound (request : ApiRequest) (sound : world.Sound) :
    (request.run settings library world).2.Sound := by
  have effect := request.run_effect settings library world
  generalize (request.run settings library world).2 = after at effect
  cases effect with
  | nothing => exact sound
  | touches authenticated => exact authenticate_sound authenticated sound
  | flags => exact ⟨sound.sites, sound.plain, sound.tokenIds, sound.actions⟩
  | acts authenticated reaches deed =>
    exact deed.sound reaches.permitted (authenticate_sound authenticated sound)

/-! ### Runs keep the invariant -/

/-- The app is deleted, or it was gone already. -/
theorem World.withoutApp_db (app : App) (files : List PyStr) (world : World) :
    (world.withoutApp app files).db = world.db ∨ app ∈ world.db.apps ∧
      (world.withoutApp app files).db.access = world.db.access ∧
      (world.withoutApp app files).db.sites = (Act.delete app).apply world.db.sites := by
  simp only [withoutApp, Change.apply]
  split
  · rename_i present
    exact .inr ⟨present, rfl, rfl⟩
  · exact .inl rfl

theorem World.withoutApp_consistent (settings : Settings) (library : Library) {world : World}
    (app : App) (files : List PyStr) (consistent : world.db.sites.Consistent)
    (plain : world.db.sites.Plain) :
    (world.withoutApp app files).db.sites.Consistent ∧
      (world.withoutApp app files).db.sites.Plain := by
  rcases world.withoutApp_db app files with same | ⟨present, _, deleted⟩
  · rw [same]
    exact ⟨consistent, plain⟩
  · have admitted : (Request.delete app.id none []).Admits settings library world.clock
        world.db.sites (.delete app) := .delete present
    have formed : ((Act.delete app).apply world.db.sites).WellFormed :=
      Change.apply_wellFormed (show (Change.deleteApp app.id).apply world.db = .ok _ from rfl)
        consistent.formed
    rw [deleted]
    exact ⟨⟨formed, Act.settled consistent.formed (admitted.legal consistent.formed)
      consistent.settled, admitted.stored consistent.formed consistent.stored⟩,
      admitted.plain consistent.formed plain⟩

theorem visit_db (settings : Settings) (library : Library) (slug pathInfo : PyStr)
    (faults : List (Option Error)) (world : World) :
    (visit settings library slug pathInfo faults world).2.db = world.db := (visit_reads ..).1

theorem visit_objects (settings : Settings) (library : Library) (slug pathInfo : PyStr)
    (faults : List (Option Error)) (world : World) (key : PyStr) :
    (visit settings library slug pathInfo faults world).2.disk.objects.lookup key =
      world.disk.objects.lookup key := (visit_reads ..).2 key not_false

theorem ActionsChange.isDelivery_fits (sends : change.isDelivery = true) : change.Fits db := by
  cases change with
  | createOutbox | saveRule => contradiction
  | _ => trivial

theorem Incident.next_sound (incident : Incident) (sound : world.Sound) :
    (incident.next settings library world).Sound := by
  cases incident with
  | request asked => exact asked.run_sound sound
  | visit slug pathInfo faults =>
    have same := visit_db settings.hosting library.hosting slug pathInfo faults world.hosting
    have consistent := sound.sites
    have plain := sound.plain
    rw [← same] at consistent plain
    exact ⟨consistent, plain, sound.tokenIds, sound.actions⟩
  | passes => exact ⟨sound.sites, sound.plain, sound.tokenIds, sound.actions⟩
  | grants => exact ⟨sound.sites, sound.plain, sound.tokenIds, sound.actions⟩
  | delivers change =>
    simp only [next]
    split
    · rename_i sends applied
      exact ⟨sound.sites, sound.plain, sound.tokenIds,
        ActionsChange.apply_sound sound.actions (ActionsChange.isDelivery_fits sends) applied⟩
    · exact sound
  | expires => exact ⟨sound.sites, sound.plain, sound.tokenIds, sound.actions.keepOutbox _⟩
  | purgesApp app files =>
    obtain ⟨consistent, plain⟩ := World.withoutApp_consistent settings.hosting
      library.hosting app files sound.sites sound.plain
    exact ⟨consistent, plain, sound.tokenIds, sound.actions⟩
  | purgesRows companyId =>
    exact ⟨sound.sites, sound.plain, sound.tokenIds.sublist (List.filter_sublist.map _),
      sound.actions.withoutCompany companyId⟩
  | sweeps => exact ⟨sound.sites, sound.plain, sound.tokenIds, sound.actions⟩

/-! ### What happens to the tables -/

/-- The tables are as before, or a service request of the principal changed them. -/
theorem Deed.sites {after : ApiWorld} (deed : Deed settings library principal request world after)
    (permitted : request.endpoint.permits principal request.method = true)
    (formed : world.hosting.db.sites.WellFormed) :
    after.hosting.db.sites = world.hosting.db.sites ∨ ∃ asked act,
      Asks principal world.hosting.db request.endpoint request.method asked ∧
      asked.Admits settings.hosting library.hosting world.hosting.clock world.hosting.db.sites act ∧
      after.hosting.db.sites = act.apply world.hosting.db.sites := by
  cases deed with
  | @serves asked asks =>
    obtain ⟨_, _, served⟩ := asks.served permitted formed
    rcases served.sites with same | ⟨act, admitted, _, same⟩
    · exact .inl same
    · exact .inr ⟨asked, act, asks, admitted, same⟩
  | requestsAccess => exact .inl (world.setsAccess_requestAccess _ _).sites
  | reviews => exact .inl (world.setsAccess_updateAccess _ _ _ _).sites
  | _ => exact .inl rfl

/-- The tables stay, or an app is purged, or a service request changes them. -/
theorem Incident.next_sites (incident : Incident) (sound : world.Sound) :
    (incident.next settings library world).hosting.db.sites = world.hosting.db.sites ∨
      (∃ target, (incident.next settings library world).hosting.db.sites =
        (Act.delete target).apply world.hosting.db.sites) ∨
      ∃ asked principal given act, incident = .request asked ∧
        asked.principal library world = some principal ∧
        Asks principal world.hosting.db asked.endpoint asked.method given ∧
        given.Admits settings.hosting library.hosting world.hosting.clock world.hosting.db.sites act ∧
        (incident.next settings library world).hosting.db.sites = act.apply world.hosting.db.sites := by
  cases incident with
  | request asked =>
    have effect := asked.run_effect settings library world
    rw [next]
    generalize (asked.run settings library world).2 = after at effect
    cases effect with
    | nothing | touches | flags => exact .inl rfl
    | @acts principal tokens _ authenticated reaches deed =>
      have used := authenticate_sound authenticated sound
      rcases deed.sites reaches.permitted used.sites.formed with stays | ⟨given, act, asks, admitted, moves⟩
      · exact .inl stays
      · exact .inr (.inr ⟨asked, principal, given, act, rfl, ApiRequest.principal_eq authenticated, asks,
          admitted, moves⟩)
  | visit slug pathInfo faults =>
    exact .inl (congrArg Db.sites
      (visit_db settings.hosting library.hosting slug pathInfo faults world.hosting))
  | delivers change =>
    simp only [next]
    split <;> exact .inl rfl
  | purgesApp target files =>
    rcases world.hosting.withoutApp_db target files with stays | ⟨_, _, deleted⟩
    · exact .inl (congrArg Db.sites stays)
    · exact .inr (.inl ⟨target, deleted⟩)
  | _ => exact .inl rfl

theorem Sites.mem_apps {first second : Sites} (same : first = second) {app : App}
    (member : app ∈ first.apps) : app ∈ second.apps := same ▸ member

theorem ApiWorld.Initial.sound (initial : world.Initial) : world.Sound := by
  refine ⟨initial.hosting.consistent, ?_, ?_, ?_⟩
  · simp [Sites.Plain, Db.sites, initial.hosting.1]
  · simp [initial.tokens]
  · constructor <;> simp [initial.rules, initial.outbox]

theorem ApiWorld.runs_sound (sound : world.Sound) (incidents : List Incident) :
    (world.runs settings library incidents).Sound :=
  Meets.always.invariant ApiWorld.Sound (fun _ incident _ => incident.next_sound) sound

theorem ApiWorld.Reachable.later (reachable : world.Reachable settings library)
    (incidents : List Incident) :
    (world.runs settings library incidents).Reachable settings library := by
  obtain ⟨start, earlier, initial, rfl⟩ := reachable
  exact ⟨start, earlier ++ incidents, initial, List.foldl_append.symm⟩

theorem ApiWorld.Reachable.sound (reachable : world.Reachable settings library) : world.Sound := by
  obtain ⟨start, incidents, initial, rfl⟩ := reachable
  exact runs_sound initial.sound incidents

end

/-! A service with the users of two companies, of which one is approved. -/

def personClaims (userId companyId : Nat) : Claims where
  userId := .value userId
  companyId := .value companyId
  email := []
  isStaff := false
  isCompanyOwner := false
  patAgm := false
  patRo := false

def demoClaims (raw : PyStr) : Option Claims :=
  if raw = lit "h.owner.s" then some { personClaims 7 3 with isCompanyOwner := true }
  else if raw = lit "h.colleague.s" then some (personClaims 8 3)
  else if raw = lit "h.reader.s" then
    some { personClaims 7 3 with isCompanyOwner := true, patRo := true }
  else if raw = lit "h.waiting.s" then some (personClaims 9 4)
  else if raw = lit "h.staff.s" then some { personClaims 1 3 with isStaff := true }
  else none

def demoSecret : PyStr := lit "q3Zk7Xv0pTt2bLw9sYd5Hf8Jm1Rn6Cg4aVe_uK-iOxE"

/-- The hash of one token is known. -/
def demoApi : ApiLibrary where
  hosting := demoLibrary
  actions := plainLibrary
  sha256 data :=
    if data = (tokenPrefix ++ demoSecret).flatMap encodeChar then
      lit "0d59b6e2e8e1cd093fb66b267e8dee5d1e00a17a5bef457b56a629f5fa3d5679"
    else []
  decodeToken := demoClaims
  verifyAssertion _ := none

def apiSettings : ApiSettings := ⟨defaultSettings, defaultActionsSettings⟩

def emptyApi : ApiWorld where
  hosting := emptyWorld
  reviews := []
  tokens := []
  actions := ⟨[], [], []⟩
  deletions := []

theorem emptyApi_reachable : emptyApi.Reachable apiSettings demoApi :=
  ⟨emptyApi, [], ⟨emptyWorld_initial, rfl, rfl, rfl, rfl⟩, rfl⟩

theorem reachable_of_empty (incidents : List Incident) :
    (emptyApi.runs apiSettings demoApi incidents).Reachable apiSettings demoApi :=
  emptyApi_reachable.later incidents

def demoBody : Body where
  slug := []
  name := lit "demo"
  displayName := []
  appVersion := lit "1.0.0"
  shelluiVersion := lit "0.5.0"
  pinned := false
  companyId := .absent
  status := lit "pending"
  notes := []
  expiresInDays := .absent
  rule := none

def demoDraws : Draws where
  appId := ⟨1⟩
  deploymentId := ⟨2⟩
  slugs _ := letterDraw 3
  tokenId := ⟨4⟩
  tokenSecret := demoSecret
  ruleId := 5
  signingKey := ⟨List.replicate 32 7, rfl⟩
  eventIds index := ⟨Fin.ofNat _ (100 + index)⟩
  outboxIds index := ⟨Fin.ofNat _ (200 + index)⟩
  sample := .app ⟨⟨1⟩, [], [], [], 3⟩

/-- A request with a token of a user, whose storage calls all go through. -/
def call (raw : String) (method : Method) (endpoint : Endpoint) : ApiRequest where
  endpoint := endpoint
  method := method
  authorization := .bearer true (lit raw)
  companyQuery := .absent
  body := demoBody
  upload := ⟨indexArchive.length, some ⟨[indexArchive], none⟩, none⟩
  throttled := false
  faults := []
  draws := demoDraws
  network _ := .osError []

end HostingService
