import HostingService.Api.Principals
import HostingService.Hosting.Runs

/-! The state of the service behind its APIs, the access of companies, and hosting
requests with the outbox rows that their events leave. -/

namespace HostingService

open Program Text Storage

structure ApiSettings where
  hosting : Settings
  actions : ActionsSettings

/-- A company that the identity service deleted. -/
structure CompanyDeletion where
  companyId : Nat
  completedAt : Option Time
  deriving DecidableEq

structure ApiWorld where
  hosting : World
  reviews : List AccessReview
  tokens : List DeployToken
  actions : ActionsDb
  deletions : List CompanyDeletion

/-! ### Access -/

namespace ApiWorld

def accessRow (world : ApiWorld) (companyId : Nat) : Option CompanyHostingAccess :=
  world.hosting.db.access.find? (·.companyId = companyId)

def statusOf (world : ApiWorld) (companyId : Nat) : Option AccessStatus :=
  (world.accessRow companyId).map (·.status)

/-- `get_access` -/
def getAccess (world : ApiWorld) (companyId : Nat) :
    Option (CompanyHostingAccess × AccessReview) := do
  return (← world.accessRow companyId, ← world.reviews.find? (·.companyId = companyId))

/-- `get_or_create`: the row as it is, or a pending one. -/
def withAccess (world : ApiWorld) (companyId requestedById : Nat) : ApiWorld :=
  if (world.accessRow companyId).isSome then world
  else
    { world with
      hosting := { world.hosting with db := { world.hosting.db with
        access := world.hosting.db.access ++ [⟨companyId, .pending⟩] } }
      reviews := world.reviews ++
        [⟨companyId, some requestedById, world.hosting.clock, none, none, []⟩] }

/-- `record.save()` -/
def saveAccess (world : ApiWorld) (companyId : Nat) (status : AccessStatus)
    (review : AccessReview → AccessReview) : ApiWorld :=
  { world with
    hosting := { world.hosting with db := { world.hosting.db with
      access := update (·.companyId = companyId) (fun row => { row with status })
        world.hosting.db.access } }
    reviews := update (·.companyId = companyId) review world.reviews }

def requestAccess (world : ApiWorld) (companyId userId : Nat) : ApiWorld :=
  if (world.accessRow companyId).any (·.status = .denied) then
    world.saveAccess companyId .pending fun review => { review with
      requestedById := some userId
      requestedAt := world.hosting.clock
      reviewedById := none
      reviewedAt := none }
  else world.withAccess companyId userId

def updateAccess (world : ApiWorld) (companyId : Nat) (status : AccessStatus) (reviewerId : Nat)
    (notes : PyStr) : ApiWorld :=
  (world.withAccess companyId reviewerId).saveAccess companyId status fun review => { review with
    reviewedById := some reviewerId
    reviewedAt := some world.hosting.clock
    notes := if notes = [] then review.notes else notes }

end ApiWorld

/-- `AccessStatus.values` -/
def parseAccessStatus (text : PyStr) : Option AccessStatus :=
  if text = lit "pending" then some .pending
  else if text = lit "approved" then some .approved
  else if text = lit "denied" then some .denied
  else none

/-! ### Events become outbox rows -/

/-- What `uuid.uuid4` and the other generators give a request. -/
structure Draws where
  appId : Uuid
  deploymentId : Uuid
  slugs : Fin 32 → SlugDraw
  tokenId : Uuid
  tokenSecret : PyStr
  ruleId : Nat
  /-- `secrets.token_bytes(32)` for a signing secret. -/
  signingKey : { raw : Bytes // raw.length = 32 }
  eventIds : Nat → Uuid
  outboxIds : Nat → Uuid
  /-- The sample data of a test event. -/
  sample : Payload

def Draws.webhookSecret (draws : Draws) : PyStr := generateWebhookSigningSecret draws.signingKey

def newOutbox (event : Event) (actionRule : Option Nat) (deliveryKind : DeliveryKind)
    (envelopeId : Option PyStr) (now : Time) (id : Uuid) : ActionOutbox where
  id := id
  companyId := event.companyId
  actionRule := actionRule
  deliveryKind := deliveryKind
  eventType := event.eventType
  envelope := ⟨envelopeId, event⟩
  status := .pending
  attemptCount := 0
  nextAttemptAt := none
  lockedUntil := none
  lastError := []
  createdAt := now
  deliveredAt := none

/-- The enabled webhook rules of the company for the event. -/
def ActionRule.listensTo (event : Event) (rule : ActionRule) : Bool :=
  rule.companyId = event.companyId && rule.eventType = event.eventType && rule.enabled &&
    rule.actionKind = .webhook

/-- The rows of `emit_event`: mail if it is configured, then one a rule. -/
def outboxDrafts (settings : ActionsSettings) (rules : List ActionRule) (now : Time) (event : Event)
    (eventId : Uuid) : List (Uuid → ActionOutbox) :=
  (if emailServiceConfigured settings then [newOutbox event none .email none now] else []) ++
    (rules.filter (·.listensTo event)).map fun rule =>
      newOutbox event (some rule.id) .webhook (some eventId.text) now

def outboxRows (settings : ActionsSettings) (rules : List ActionRule) (now : Time) (draws : Draws)
    (events : List Event) : List ActionOutbox :=
  (events.zipIdx.flatMap fun (event, index) =>
    outboxDrafts settings rules now event (draws.eventIds index)).zipIdx.map
      fun (draft, index) => draft (draws.outboxIds index)

/-- Row after row, until a constraint refuses one. -/
def createOutboxRows (actions : ActionsDb) : List ActionOutbox → Bool × ActionsDb
  | [] => (true, actions)
  | row :: rows =>
    match (ActionsChange.createOutbox row).apply actions with
    | .ok actions => createOutboxRows actions rows
    | .error _ => (false, actions)

/-- The services that run in one transaction. -/
def Request.isAtomic : Request → Bool
  | .preparePreviewDeploy .. | .finalize .. | .rollback .. | .delete .. => true
  | _ => false

section
variable (settings : ApiSettings) (library : ApiLibrary)

/-- A hosting request with the outbox rows of the events that it recorded. -/
def ApiWorld.serve (asked : Request) (faults : List (Option Error)) (draws : Draws)
    (world : ApiWorld) : Except Error Unit × ApiWorld :=
  let (result, hosting) := asked.run settings.hosting library.hosting faults world.hosting
  let news := hosting.db.events.drop world.hosting.db.events.length
  match createOutboxRows world.actions
    (outboxRows settings.actions world.actions.rules hosting.clock draws news) with
  | (true, actions) => (result, { world with hosting, actions })
  | (false, actions) =>
    if asked.isAtomic then
      (.error .integrityError,
        { world with hosting := { hosting with db := world.hosting.db } })
    else (.error .integrityError, { world with hosting, actions })

end

/-! ### What writes of access leave -/

/-- At most the access rows of the company differ. -/
inductive ApiWorld.SetsAccess (companyId : Nat) (world : ApiWorld) : ApiWorld → Prop where
  | sets {access : List CompanyHostingAccess} {reviews : List AccessReview}
      (rows : access.filter (·.companyId ≠ companyId) =
        world.hosting.db.access.filter (·.companyId ≠ companyId))
      (others : reviews.filter (·.companyId ≠ companyId) =
        world.reviews.filter (·.companyId ≠ companyId)) :
      SetsAccess companyId world
        { world with hosting := { world.hosting with db := { world.hosting.db with access } }, reviews }

namespace ApiWorld
variable {companyId : Nat} {first second third : ApiWorld}

theorem SetsAccess.trans (left : first.SetsAccess companyId second)
    (right : second.SetsAccess companyId third) : first.SetsAccess companyId third := by
  cases left with
  | sets rows others =>
    cases right with
    | sets rows' others' => exact .sets (rows'.trans rows) (others'.trans others)

theorem SetsAccess.kept (sets : first.SetsAccess companyId second) :
    second.hosting.db.apps = first.hosting.db.apps ∧
      second.hosting.db.deployments = first.hosting.db.deployments ∧
      second.hosting.db.events = first.hosting.db.events ∧
      second.hosting.disk = first.hosting.disk := by
  cases sets with
  | sets => exact ⟨rfl, rfl, rfl, rfl⟩

theorem SetsAccess.sites (sets : first.SetsAccess companyId second) :
    second.hosting.db.sites = first.hosting.db.sites := by
  cases sets with
  | sets => rfl

theorem SetsAccess.actions (sets : first.SetsAccess companyId second) :
    second.actions = first.actions := by
  cases sets with
  | sets => rfl

theorem setsAccess_withAccess (world : ApiWorld) (companyId requestedById : Nat) :
    world.SetsAccess companyId (world.withAccess companyId requestedById) := by
  rw [withAccess]
  split
  · exact .sets rfl rfl
  · exact .sets (filter_concat (by simp)) (filter_concat (by simp))

theorem setsAccess_saveAccess (world : ApiWorld) (companyId : Nat) (status : AccessStatus)
    {review : AccessReview → AccessReview} (kept : ∀ row, (review row).companyId = row.companyId) :
    world.SetsAccess companyId (world.saveAccess companyId status review) := by
  refine .sets (filter_update fun row _ same => ?_) (filter_update fun row _ same => ?_)
  · simp [same]
  · simp [kept, same]

theorem statusOf_withAccess (world : ApiWorld) (companyId requestedById other : Nat) :
    (world.withAccess companyId requestedById).statusOf other = world.statusOf other ∨
      (world.withAccess companyId requestedById).statusOf other = some .pending := by
  rw [withAccess]
  split
  · exact .inl rfl
  · simp only [statusOf, accessRow, List.find?_append]
    generalize world.hosting.db.access.find? _ = found
    cases found with
    | some row => exact .inl rfl
    | none =>
      by_cases same : companyId = other
      · exact .inr (by simp [same])
      · exact .inl (by simp [same])

theorem statusOf_saveAccess (world : ApiWorld) (companyId : Nat) (status : AccessStatus)
    (review : AccessReview → AccessReview) (other : Nat) :
    (world.saveAccess companyId status review).statusOf other = world.statusOf other ∨
      companyId = other ∧ (world.saveAccess companyId status review).statusOf other = some status := by
  simp only [statusOf, accessRow, saveAccess]
  rw [find?_update]
  · generalize read : world.hosting.db.access.find? _ = found
    cases found with
    | none => exact .inl rfl
    | some row =>
      have known : row.companyId = other := by simpa using List.find?_some read
      by_cases same : row.companyId = companyId
      · exact .inr ⟨same.symm.trans known, by simp [same]⟩
      · exact .inl (by simp [same])
  · exact fun _ => rfl

/-- A request for access approves nobody. -/
theorem statusOf_requestAccess (world : ApiWorld) (companyId userId other : Nat) :
    (world.requestAccess companyId userId).statusOf other = world.statusOf other ∨
      (world.requestAccess companyId userId).statusOf other = some .pending := by
  rw [requestAccess]
  split
  · exact (statusOf_saveAccess world companyId .pending _ other).imp_right And.right
  · exact statusOf_withAccess world companyId userId other

theorem statusOf_updateAccess (world : ApiWorld) (companyId : Nat) (status : AccessStatus)
    (reviewerId : Nat) (notes : PyStr) (other : Nat) :
    (world.updateAccess companyId status reviewerId notes).statusOf other = world.statusOf other ∨
      (world.updateAccess companyId status reviewerId notes).statusOf other = some .pending ∨
        (world.updateAccess companyId status reviewerId notes).statusOf other = some status := by
  rw [updateAccess]
  rcases statusOf_saveAccess (world.withAccess companyId reviewerId) companyId status _ other with
    same | saved
  · rw [same]
    exact (statusOf_withAccess world companyId reviewerId other).imp_right .inl
  · exact .inr (.inr saved.2)

theorem setsAccess_requestAccess (world : ApiWorld) (companyId userId : Nat) :
    world.SetsAccess companyId (world.requestAccess companyId userId) := by
  rw [requestAccess]
  split
  · exact setsAccess_saveAccess world companyId .pending fun _ => rfl
  · exact setsAccess_withAccess world companyId userId

theorem setsAccess_updateAccess (world : ApiWorld) (companyId : Nat) (status : AccessStatus)
    (reviewerId : Nat) (notes : PyStr) :
    world.SetsAccess companyId (world.updateAccess companyId status reviewerId notes) :=
  (setsAccess_withAccess world companyId reviewerId).trans
    (setsAccess_saveAccess _ companyId status fun _ => rfl)

end ApiWorld

/-! ### What emission leaves -/

theorem outboxDrafts_row {settings : ActionsSettings} {rules : List ActionRule} {now : Time}
    {event : Event} {eventId : Uuid} {draft : Uuid → ActionOutbox}
    (member : draft ∈ outboxDrafts settings rules now event eventId) (id : Uuid) :
    (draft id).companyId = event.companyId ∧ ∀ ruleId, (draft id).actionRule = some ruleId →
      ∃ rule ∈ rules, rule.id = ruleId ∧ rule.companyId = event.companyId := by
  rcases List.mem_append.mp member with mail | hook
  · split at mail
    · obtain rfl := List.mem_singleton.mp mail
      exact ⟨rfl, fun ruleId same => by contradiction⟩
    · contradiction
  · obtain ⟨rule, listed, rfl⟩ := List.mem_map.mp hook
    obtain ⟨present, listens⟩ := List.mem_filter.mp listed
    simp only [ActionRule.listensTo, Bool.and_eq_true, decide_eq_true_eq] at listens
    refine ⟨rfl, fun ruleId same => ⟨rule, present, ?_, listens.1.1.1⟩⟩
    exact Option.some.inj same

theorem outboxRows_row {settings : ActionsSettings} {rules : List ActionRule} {now : Time}
    {draws : Draws} {events : List Event} {row : ActionOutbox}
    (member : row ∈ outboxRows settings rules now draws events) :
    ∃ event ∈ events, row.companyId = event.companyId ∧ ∀ ruleId, row.actionRule = some ruleId →
      ∃ rule ∈ rules, rule.id = ruleId ∧ rule.companyId = event.companyId := by
  obtain ⟨⟨draft, place⟩, drafted, rfl⟩ := List.mem_map.mp member
  obtain ⟨⟨event, index⟩, listed, inside⟩ :=
    List.mem_flatMap.mp (List.fst_mem_of_mem_zipIdx drafted)
  exact ⟨event, List.fst_mem_of_mem_zipIdx listed, outboxDrafts_row inside _⟩

/-- A created row has a new key; the rules and the attempts stay. -/
theorem createOutbox_ok {actions after : ActionsDb} {row : ActionOutbox}
    (applied : (ActionsChange.createOutbox row).apply actions = .ok after) :
    after = { actions with outbox := actions.outbox ++ [row] } ∧
      ∀ other ∈ actions.outbox, other.id ≠ row.id := by
  simp only [ActionsChange.apply] at applied
  split at applied
  · contradiction
  · rename_i free
    refine ⟨(Except.ok.inj applied).symm, fun other present same => ?_⟩
    exact (not_or.mp free).1 (List.any_eq_true.mpr ⟨other, present, by simpa using same⟩)

/-- Some of the rows are appended, with keys of their own. -/
theorem createOutboxRows_appends (rows : List ActionOutbox) (actions : ActionsDb) :
    ∃ created, created <+: rows ∧ (createOutboxRows actions rows).2 =
        { actions with outbox := actions.outbox ++ created } ∧
      ((actions.outbox.map (·.id)).Nodup → ((actions.outbox ++ created).map (·.id)).Nodup) := by
  induction rows generalizing actions with
  | nil => exact ⟨[], List.prefix_rfl, by simp [createOutboxRows], by simp⟩
  | cons row rows ih =>
    rw [createOutboxRows]
    rcases applied : (ActionsChange.createOutbox row).apply actions with error | middle
    · exact ⟨[], List.nil_prefix, by simp, by simp⟩
    · obtain ⟨rfl, fresh⟩ := createOutbox_ok applied
      obtain ⟨created, listed, same, unique⟩ := ih { actions with outbox := actions.outbox ++ [row] }
      refine ⟨row :: created, List.cons_prefix_cons.mpr ⟨rfl, listed⟩, ?_, fun keys => ?_⟩
      · rw [same]
        simp
      · rw [← List.singleton_append, ← List.append_assoc]
        exact unique (nodup_concat keys fresh)

end HostingService
