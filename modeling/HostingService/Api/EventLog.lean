import HostingService.Actions.Retention
import HostingService.Actions.SecretRedaction
import HostingService.Api.Reach
import HostingService.Hosting.Sites
import HostingService.Program.Pages
import Mathlib.Data.Prod.Lex

/-! The event log: its rows, the list of staff and company owners, and readers who go
through its pages while events arrive and expire. -/

namespace HostingService

open Program Text

/-- A row of the event log with all its columns. -/
structure EventLogRow extends EventLog where
  /-- Null for platform events. -/
  companyId : Option Nat
  userId : Option Int
  eventType : PyStr
  data : JsonObject

structure EventLogStore where
  rows : List EventLogRow
  nextId : Nat
  clock : Time

/-- The parts that the database, Django and Unicode tables give. -/
structure EventLogLibrary where
  tables : Unicode
  /-- `parse_datetime`: a `ValueError`, or `None`, or a time. -/
  parseDatetime : PyStr → Except Unit (Option Time)
  /-- `icontains` on a key of a JSON column. -/
  icontains : PyStr → Json → Bool

/-! ### Recording -/

/-- `_actor_user_id` -/
def actorUserId (actor : JsonObject) : Option Int :=
  match actor.get "user_id" with
  | some (.int raw) => if raw ≤ 0 then none else some raw
  | _ => none

/-- `record_event`; a transaction may commit its row `age` after it wrote it. -/
def EventLogStore.recordEvent (tables : Unicode) (eventType : PyStr) (companyId : Option Nat)
    (payload : JsonObject) (actor : Option JsonObject) (age : Nat) (store : EventLogStore) :
    EventLogStore :=
  { store with
    rows := store.rows ++ [{
      id := store.nextId
      createdAt := store.clock - age
      companyId := companyId
      userId := actorUserId (actor.getD [])
      eventType := eventType
      data := compactEventData tables payload actor }]
    nextId := store.nextId + 1 }

/-! ### The catalog -/

/-- `_REGISTRY`: the ids and labels. -/
def registeredEvents : List (PyStr × PyStr) :=
  [(EventType.appCreated.text, lit "Hosted app created"),
    (EventType.appDeleted.text, lit "Hosted app deleted"),
    (EventType.deploymentCreated.text, lit "Deployment created"),
    (EventType.deploymentSucceeded.text, lit "Deployment succeeded"),
    (EventType.deploymentFailed.text, lit "Deployment failed"),
    (lit "hosting.scheduled_job.succeeded", lit "Scheduled job succeeded"),
    (lit "hosting.scheduled_job.failed", lit "Scheduled job failed")]

def isRegisteredEvent (eventType : PyStr) : Bool := registeredEvents.any (·.1 = eventType)

def eventLabel (eventType : PyStr) : PyStr :=
  ((registeredEvents.find? (·.1 = eventType)).map (·.2)).getD eventType

/-! ### The list view -/

def maxPageSize : Int := 100

structure EventQuery where
  companyId : Nat
  userId : Option Int
  email : PyStr
  types : List PyStr
  createdAfter : Option Time
  createdBefore : Option Time
  page : Nat
  pageSize : Nat
  page_pos : 1 ≤ page
  pageSize_pos : 1 ≤ pageSize
  pageSize_le : pageSize ≤ maxPageSize

structure EventPayload where
  id : Nat
  companyId : Option Nat
  createdAt : Time
  eventType : PyStr
  label : PyStr
  userId : Option Int
  userEmail : Option Json
  data : JsonObject

def EventLogRow.payload (row : EventLogRow) : EventPayload where
  id := row.id
  companyId := row.companyId
  createdAt := row.createdAt
  eventType := row.eventType
  label := eventLabel row.eventType
  userId := row.userId
  userEmail := row.data.get "actor_email"
  data := row.data

structure EventPage where
  count : Nat
  page : Nat
  pageSize : Nat
  results : List EventPayload

/-- `int(request.GET.get(name) or default)` -/
def intParam (raw : Option PyStr) (default : Int) : Option Int :=
  match raw with
  | none | some [] => some default
  | some text => intBase10 text

section
variable (library : EventLogLibrary) (principal : HostingPrincipal) (request : ApiRequest)
  (get : String → Option PyStr)

/-- `(request.GET.get(name) or '').strip()` -/
def stripped (name : String) : PyStr := strip ((get name).getD [])

def dateParam (name : String) : Except Answer (Option Time) :=
  if stripped get name = [] then .ok none
  else
    match library.parseDatetime (stripped get name) with
    | .error _ => .error (refusal 500 "Internal Server Error")
    | .ok none => .error (refusal 400 ("Invalid " ++ name ++ "."))
    | .ok (some time) => .ok (some time)

theorem clampedPage_pos (page : Int) : 1 ≤ (max 1 page).toNat := by
  omega

theorem clampedSize_pos (pageSize : Int) : 1 ≤ (min maxPageSize (max 1 pageSize)).toNat := by
  rw [maxPageSize]
  omega

theorem clampedSize_le (pageSize : Int) : (min maxPageSize (max 1 pageSize)).toNat ≤ maxPageSize := by
  rw [maxPageSize]
  omega

def eventQuery : Except Answer EventQuery := do
  let companyId ← requireStaffOrCompanyOwner principal request
  match intParam (get "page") 1, intParam (get "page_size") 20 with
  | some page, some pageSize =>
    let userId ←
      if stripped get "user_id" = [] then .ok none
      else match intBase10 (stripped get "user_id") with
        | some id => .ok (some id)
        | none => .error (refusal 400 "Invalid user_id.")
    let types := ((((get "event_type").getD []).splitOn 0x2C).map strip).filter (· ≠ [])
    if !types.all isRegisteredEvent then .error (refusal 400 "Invalid event_type.")
    let createdAfter ← dateParam library get "created_after"
    let createdBefore ← dateParam library get "created_before"
    return {
      companyId, userId, types, createdAfter, createdBefore
      email := stripped get "user"
      page := (max 1 page).toNat
      pageSize := (min maxPageSize (max 1 pageSize)).toNat
      page_pos := clampedPage_pos page
      pageSize_pos := clampedSize_pos pageSize
      pageSize_le := clampedSize_le pageSize }
  | _, _ => .error (refusal 400 "Invalid page or page_size.")

/-- `_filtered_events` -/
def EventQuery.selects (query : EventQuery) (row : EventLogRow) : Bool :=
  row.companyId = some query.companyId &&
    query.userId.all (fun id => row.userId = some id) &&
    (query.email = [] || (row.data.get "actor_email").any (library.icontains query.email)) &&
    (query.types = [] || row.eventType ∈ query.types) &&
    query.createdAfter.all (· ≤ row.createdAt) && query.createdBefore.all (row.createdAt < ·)

/-- `ordering = ['-created_at', '-id']` -/
def EventLogRow.place (row : EventLogRow) : Lex (Int × Nat) := toLex (row.createdAt, row.id)

def EventQuery.listed (query : EventQuery) (store : EventLogStore) : List EventLogRow :=
  newestFirst EventLogRow.place (store.rows.filter (query.selects library))

def EventQuery.answer (query : EventQuery) (store : EventLogStore) : EventPage where
  count := (query.listed library store).length
  page := query.page
  pageSize := query.pageSize
  results := (Program.page query.pageSize (query.page - 1) (query.listed library store)).map
    EventLogRow.payload

def eventLogList (store : EventLogStore) : Except Answer EventPage :=
  (eventQuery library principal request get).map (·.answer library store)

end

/-! ### What happens between two pages -/

inductive LogStep where
  | record (eventType : PyStr) (companyId : Option Nat) (payload : JsonObject)
      (actor : Option JsonObject) (age : Nat)
  /-- A batch of `purge_expired_data`. -/
  | purge (ids : List Nat)
  | deleteCompany (companyId : Nat)
  | passes (span : Nat)

/-- `eventLogRetentionDays` is the setting. -/
def LogStep.next (library : EventLogLibrary) (eventLogRetentionDays : Int) (store : EventLogStore) :
    LogStep → EventLogStore
  | .record eventType companyId payload actor age =>
    store.recordEvent library.tables eventType companyId payload actor age
  | .purge ids => { store with rows := store.rows.filter fun row =>
      !(row.id ∈ ids && row.createdAt < retentionCutoff eventLogRetentionDays store.clock) }
  | .deleteCompany companyId =>
    { store with rows := store.rows.filter (·.companyId ≠ some companyId) }
  | .passes span => { store with clock := store.clock + span }

def logFrom (library : EventLogLibrary) (days : Int) (store : EventLogStore) (steps : List LogStep) :
    EventLogStore := steps.foldl (LogStep.next library days) store

section
variable {library : EventLogLibrary} {days : Int} {store : EventLogStore} {query : EventQuery}
  {row : EventLogRow}

/-! ### Keys and times -/

/-- The ids were given one after the other. -/
structure EventLogStore.Numbered (store : EventLogStore) : Prop where
  ids : (store.rows.map fun row : EventLogRow => row.id).Nodup
  bound : ∀ row ∈ store.rows, row.id < store.nextId

theorem EventLogStore.Numbered.filter (numbered : store.Numbered) (keep : EventLogRow → Bool) :
    ({ store with rows := store.rows.filter keep } : EventLogStore).Numbered :=
  ⟨numbered.ids.sublist (List.filter_sublist.map _),
    fun row member => numbered.bound row (List.mem_filter.mp member).1⟩

theorem LogStep.next_numbered (step : LogStep) (numbered : store.Numbered) :
    (step.next library days store).Numbered := by
  cases step with
  | record eventType companyId payload actor age =>
    refine ⟨?_, fun row member => ?_⟩
    · refine nodup_concat numbered.ids fun other present same => ?_
      exact absurd same (numbered.bound other present).ne
    · rcases List.mem_append.mp member with old | new
      · exact (numbered.bound row old).trans (Nat.lt_succ_self _)
      · rw [List.mem_singleton.mp new]
        exact Nat.lt_succ_self _
  | purge ids => exact numbered.filter _
  | deleteCompany companyId => exact numbered.filter _
  | passes span => exact ⟨numbered.ids, numbered.bound⟩

theorem LogStep.next_clock (step : LogStep) (library : EventLogLibrary) (days : Int)
    (store : EventLogStore) : store.clock ≤ (step.next library days store).clock := by
  cases step with
  | passes span => exact Int.le_add_of_nonneg_right (Int.natCast_nonneg span)
  | _ => exact le_rfl

/-- A row that is there after a step was there before it, or has a new id. -/
theorem LogStep.next_rows (step : LogStep) (member : row ∈ (step.next library days store).rows) :
    row ∈ store.rows ∨ store.nextId ≤ row.id := by
  cases step with
  | record eventType companyId payload actor age =>
    rcases List.mem_append.mp member with old | new
    · exact .inl old
    · rw [List.mem_singleton.mp new]
      exact .inr le_rfl
  | purge ids => exact .inl (List.mem_filter.mp member).1
  | deleteCompany companyId => exact .inl (List.mem_filter.mp member).1
  | passes span => exact .inl member

theorem LogStep.next_nextId (step : LogStep) (library : EventLogLibrary) (days : Int)
    (store : EventLogStore) : store.nextId ≤ (step.next library days store).nextId := by
  cases step with
  | record eventType companyId payload actor age => exact Nat.le_succ _
  | _ => exact le_rfl

/-- How far a later log is from an earlier one, for a reader. -/
structure EventLogStore.Later (store later : EventLogStore) : Prop where
  clock : store.clock ≤ later.clock
  nextId : store.nextId ≤ later.nextId
  rows : ∀ row ∈ later.rows, row ∈ store.rows ∨ store.nextId ≤ row.id

theorem EventLogStore.Later.trans {first second third : EventLogStore} (one : first.Later second)
    (two : second.Later third) : first.Later third where
  clock := one.clock.trans two.clock
  nextId := one.nextId.trans two.nextId
  rows row member := by
    rcases two.rows row member with old | new
    · exact one.rows row old
    · exact .inr (one.nextId.trans new)

theorem logFrom_later (library : EventLogLibrary) (days : Int) (steps : List LogStep)
    (store : EventLogStore) : store.Later (logFrom library days store steps) := by
  induction steps generalizing store with
  | nil => exact ⟨le_rfl, le_rfl, fun row member => .inl member⟩
  | cons step steps ih =>
    have one : store.Later (step.next library days store) :=
      ⟨step.next_clock library days store, step.next_nextId library days store,
        fun row member => step.next_rows member⟩
    exact one.trans (ih (step.next library days store))

theorem logFrom_numbered (steps : List LogStep) (numbered : store.Numbered) :
    (logFrom library days store steps).Numbered := by
  induction steps generalizing store with
  | nil => exact numbered
  | cons step steps ih => exact ih (step.next_numbered numbered)

/-! ### The place of a row -/

/-- The rows that a reader sees before this one. -/
def EventQuery.above (query : EventQuery) (library : EventLogLibrary) (row : EventLogRow)
    (store : EventLogStore) : Nat :=
  rank EventLogRow.place row (store.rows.filter (query.selects library))

theorem place_created {first second : EventLogRow} (before : first.place < second.place) :
    first.createdAt ≤ second.createdAt := by
  rcases Prod.Lex.toLex_lt_toLex.mp before with earlier | ⟨same, _⟩
  · exact earlier.le
  · exact same.le

theorem EventLogStore.Numbered.places (numbered : store.Numbered) :
    ((store.rows.filter (query.selects library)).map EventLogRow.place).Nodup := by
  have ids := numbered.ids.sublist ((List.filter_sublist (p := query.selects library)).map _)
  refine List.Nodup.of_map (fun place => (ofLex place).2) ?_
  rwa [List.map_map]

theorem getElem?_listed (numbered : store.Numbered) (member : row ∈ store.rows)
    (selected : query.selects library row = true) :
    (query.listed library store)[query.above library row store]? = some row :=
  getElem?_newestFirst numbered.places (List.mem_filter.mpr ⟨member, selected⟩)

/-- What is still there and has not expired only moves back in the list. -/
theorem LogStep.above_le (step : LogStep) (present : row ∈ (step.next library days store).rows)
    (fresh : retentionCutoff days store.clock ≤ row.createdAt)
    (selected : query.selects library row = true) :
    query.above library row store ≤ query.above library row (step.next library days store) := by
  have gone (keep : EventLogRow → Bool) (kept : ∀ other ∈ store.rows, query.selects library other = true →
      row.place < other.place → keep other = true) :
      query.above library row store =
        rank EventLogRow.place row ((store.rows.filter keep).filter (query.selects library)) := by
    rw [List.filter_comm]
    refine (rank_filter fun other member above => ?_).symm
    obtain ⟨listed, chosen⟩ := List.mem_filter.mp member
    exact kept other listed chosen above
  cases step with
  | record eventType companyId payload actor age =>
    rw [EventQuery.above, EventQuery.above, LogStep.next, EventLogStore.recordEvent, List.filter_append]
    exact rank_append _ _
  | purge ids =>
    refine (gone _ fun other _ _ above => ?_).le
    have young := fresh.trans (place_created above)
    simp [not_lt.mpr young]
  | deleteCompany companyId =>
    have mine {other : EventLogRow} (chosen : query.selects library other = true) :
        other.companyId = some query.companyId := by
      simp only [EventQuery.selects, Bool.and_eq_true, decide_eq_true_eq] at chosen
      exact chosen.1.1.1.1.1
    have kept := (List.mem_filter.mp present).2
    refine (gone _ fun other _ chosen _ => ?_).le
    rwa [mine chosen, ← mine selected]
  | passes span => exact le_rfl

theorem retentionCutoff_mono (days : Int) {first second : Time} (passed : first ≤ second) :
    retentionCutoff days first ≤ retentionCutoff days second := Int.sub_le_sub_right passed _

/-- A row that is there at the end, and did not expire, was there all along. -/
theorem logFrom_above_le (steps : List LogStep)
    (present : row ∈ (logFrom library days store steps).rows) (old : row.id < store.nextId)
    (fresh : retentionCutoff days (logFrom library days store steps).clock ≤ row.createdAt)
    (selected : query.selects library row = true) :
    query.above library row store ≤ query.above library row (logFrom library days store steps) := by
  induction steps generalizing store with
  | nil => exact le_rfl
  | cons step steps ih =>
    have later := logFrom_later library days steps (step.next library days store)
    have grown := step.next_nextId library days store
    have here : row ∈ (step.next library days store).rows :=
      (later.rows row present).resolve_right fun new => by omega
    have before := (step.next_clock library days store).trans later.clock
    refine (step.above_le here ((retentionCutoff_mono days before).trans fresh) selected).trans ?_
    exact ih present (by omega) fresh

end

/-! ### Readers -/

/-- A request of a reader, and what happens before it. -/
structure Visit where
  get : String → Option PyStr
  steps : List LogStep

/-- Another page of the same list. -/
def EventQuery.turned (query : EventQuery) (number : Nat) : EventQuery :=
  { query with page := number + 1, page_pos := by omega }

section
variable (library : EventLogLibrary) (days : Int) (principal : HostingPrincipal) (request : ApiRequest)

/-- The log at each request of a reader. -/
def logsAt : EventLogStore → List Visit → List EventLogStore
  | _, [] => []
  | store, visit :: visits =>
    logFrom library days store visit.steps :: logsAt (logFrom library days store visit.steps) visits

/-- The answers that a reader gets. -/
def readEvents (store : EventLogStore) (visits : List Visit) : List (Except Answer EventPage) :=
  (visits.zip (logsAt library days store visits)).map fun (visit, store) =>
    eventLogList library principal request visit.get store

end

/-- The log of a service that has run since it was set up. -/
def EventLogStore.Reachable (library : EventLogLibrary) (days : Int) (store : EventLogStore) : Prop :=
  ∃ clock history, store = logFrom library days ⟨[], 1, clock⟩ history

section
variable {library : EventLogLibrary} {days : Int} {store : EventLogStore} {query : EventQuery}
  {row : EventLogRow} {principal : HostingPrincipal} {request : ApiRequest}

theorem EventLogStore.Reachable.numbered (reachable : store.Reachable library days) :
    store.Numbered := by
  obtain ⟨clock, history, rfl⟩ := reachable
  exact logFrom_numbered history ⟨List.nodup_nil, fun row member => by contradiction⟩

theorem logsAt_length (store : EventLogStore) (visits : List Visit) :
    (logsAt library days store visits).length = visits.length := by
  induction visits generalizing store with
  | nil => rfl
  | cons visit visits ih => rw [logsAt, List.length_cons, List.length_cons, ih]

/-- The log at the request of that number, counted from zero. -/
def logAt (library : EventLogLibrary) (days : Int) (store : EventLogStore) (visits : List Visit)
    (number : Nat) : EventLogStore :=
  logFrom library days store ((visits.take (number + 1)).flatMap (·.steps))

theorem logFrom_append (store : EventLogStore) (first second : List LogStep) :
    logFrom library days store (first ++ second) =
      logFrom library days (logFrom library days store first) second := List.foldl_append

theorem logsAt_getElem? {visits : List Visit} {number : Nat} (within : number < visits.length) :
    (logsAt library days store visits)[number]? = some (logAt library days store visits number) := by
  induction visits generalizing store number with
  | nil => exact absurd within (Nat.not_lt_zero _)
  | cons visit visits ih =>
    cases number with
    | zero => simp [logsAt, logAt]
    | succ number =>
      rw [logsAt, List.getElem?_cons_succ, ih (Nat.lt_of_succ_lt_succ within), logAt, logAt,
        List.take_succ_cons, List.flatMap_cons, logFrom_append]

theorem logAt_next {visits : List Visit} {number : Nat} {visit : Visit}
    (next : visits[number + 1]? = some visit) :
    logAt library days store visits (number + 1) =
      logFrom library days (logAt library days store visits number) visit.steps := by
  rw [logAt, List.take_add_one, next, List.flatMap_append, logFrom_append, logAt]
  simp

/-- The answer to the request of that number. -/
theorem readEvents_getElem? {visits : List Visit} {number : Nat} {visit : Visit}
    (asked : visits[number]? = some visit)
    (asks : eventQuery library principal request visit.get = .ok (query.turned number)) :
    (readEvents library days principal request store visits)[number]? =
      some (.ok ((query.turned number).answer library (logAt library days store visits number))) := by
  have within := (List.getElem?_eq_some_iff.mp asked).1
  have both : (visits.zip (logsAt library days store visits))[number]? =
      some (visit, logAt library days store visits number) :=
    List.getElem?_zip_eq_some.mpr ⟨asked, logsAt_getElem? within⟩
  rw [readEvents, List.getElem?_map, both, Option.map_some]
  simp only [eventLogList, asks]
  rfl

/-- The log after all requests. -/
abbrev logAfter (library : EventLogLibrary) (days : Int) (store : EventLogStore)
    (visits : List Visit) : EventLogStore :=
  logFrom library days store (visits.flatMap (·.steps))

theorem logAt_later (library : EventLogLibrary) (days : Int) (store : EventLogStore)
    (visits : List Visit) (number : Nat) :
    (logAt library days store visits number).Later (logAfter library days store visits) := by
  have split : visits.flatMap (·.steps) = (visits.take (number + 1)).flatMap (·.steps) ++
      (visits.drop (number + 1)).flatMap (·.steps) := by
    rw [← List.flatMap_append, List.take_append_drop]
  rw [logAfter, split, logFrom_append]
  exact logFrom_later library days _ _

/-- What a page shows, and how much of it. -/
theorem answer_results {page : EventPage} (answered : page = query.answer library store) :
    (page.results.length : Int) ≤ maxPageSize ∧
      ∀ shown ∈ page.results, shown.companyId = some query.companyId := by
  subst answered
  refine ⟨?_, fun shown member => ?_⟩
  · have short := List.length_take_le query.pageSize
      ((query.listed library store).drop ((query.page - 1) * query.pageSize))
    rw [EventQuery.answer, List.length_map, Program.page]
    exact (Int.ofNat_le.mpr short).trans query.pageSize_le
  · obtain ⟨row, listed, rfl⟩ := List.mem_map.mp member
    have inside := mem_newestFirst.mp (List.mem_of_mem_drop (List.mem_of_mem_take listed))
    have chosen := (List.mem_filter.mp inside).2
    simp only [EventQuery.selects, Bool.and_eq_true, decide_eq_true_eq] at chosen
    exact chosen.1.1.1.1.1

end

/-- A reader of the event log who asks for page after page, until a page reaches the reported
count, has seen every event of the filter that was there at the start and has not expired
by the end, whatever is recorded, purged or deleted between the requests. No page shows an
event of another company. -/
theorem event_pages_complete (library : EventLogLibrary) (days : Int) (principal : HostingPrincipal)
    (request : ApiRequest) (store : EventLogStore) (reachable : store.Reachable library days)
    (query : EventQuery) (visits : List Visit)
    (asks : ∀ number visit, visits[number]? = some visit →
      eventQuery library principal request visit.get = .ok (query.turned number)) :
    (∀ page, .ok page ∈ readEvents library days principal request store visits →
      (page.results.length : Int) ≤ maxPageSize ∧
        ∀ shown ∈ page.results, shown.companyId = some query.companyId) ∧
    ∀ page, (readEvents library days principal request store visits).getLast? = some (.ok page) →
      page.count ≤ page.page * page.pageSize →
      ∀ row ∈ store.rows, query.selects library row = true →
        row ∈ (logAfter library days store visits).rows →
        retentionCutoff days (logAfter library days store visits).clock ≤ row.createdAt →
        ∃ page, .ok page ∈ readEvents library days principal request store visits ∧
          row.payload ∈ page.results := by
  have count : (readEvents library days principal request store visits).length = visits.length := by
    rw [readEvents, List.length_map, List.length_zip, logsAt_length, Nat.min_self]
  have answered {number : Nat} (within : number < visits.length) :
      (readEvents library days principal request store visits)[number]? = some
        (.ok ((query.turned number).answer library (logAt library days store visits number))) :=
    readEvents_getElem? (List.getElem?_eq_getElem within)
      (asks number _ (List.getElem?_eq_getElem within))
  refine ⟨fun page member => ?_, fun page last reaches row present selected still fresh => ?_⟩
  · obtain ⟨number, found⟩ := List.mem_iff_getElem?.mp member
    have within := (List.getElem?_eq_some_iff.mp found).1
    rw [answered (count ▸ within)] at found
    have results := answer_results (Except.ok.inj (Option.some.inj found)).symm
    exact results
  have asked : visits.length ≠ 0 := by
    intro empty
    rw [List.getLast?_eq_getElem?, List.getElem?_eq_none (by omega)] at last
    contradiction
  obtain ⟨final, size⟩ := Nat.exists_eq_succ_of_ne_zero asked
  rw [List.getLast?_eq_getElem?, count, size, Nat.succ_sub_one, answered (by omega)] at last
  obtain rfl := Except.ok.inj (Option.some.inj last)
  have old (number : Nat) : row.id < (logAt library days store visits number).nextId :=
    (reachable.numbered.bound row present).trans_le (logFrom_later library days _ store).nextId
  have here (number : Nat) : row ∈ (logAt library days store visits number).rows :=
    ((logAt_later library days store visits number).rows row still).resolve_right
      fun new => absurd (old number) (not_lt.mpr new)
  have stands : ∀ number ≤ final, (query.listed library (logAt library days store visits number))[
      query.above library row (logAt library days store visits number)]? = some row :=
    fun number _ => getElem?_listed (logFrom_numbered _ reachable.numbered) (here number) selected
  have back : ∀ number < final, query.above library row (logAt library days store visits number) ≤
      query.above library row (logAt library days store visits (number + 1)) := by
    intro number before
    have next := List.getElem?_eq_getElem (l := visits) (i := number + 1) (by omega)
    have later := (logAt_later library days store visits (number + 1)).clock
    have young := (retentionCutoff_mono days later).trans fresh
    have there := here (number + 1)
    rw [logAt_next next] at young there ⊢
    exact logFrom_above_le _ there (old number) young selected
  obtain ⟨number, within, seen⟩ := seen_of_walk stands back reaches
  exact ⟨_, List.mem_of_getElem? (answered (by omega)), List.mem_map_of_mem seen⟩

/-! An owner who reads a short log in pages of one event. -/

def asciiLog : EventLogLibrary where
  tables := asciiTables
  parseDatetime _ := .ok none
  icontains _ _ := false

def logOwner : HostingPrincipal where
  userId := 7
  companyId := some 3
  email := []
  isStaff := false
  isCompanyOwner := true
  accessGlobalMetrics := false
  deployTokenId := none
  patRo := false

def eventHappens (eventType : EventType) (companyId : Nat) : LogStep :=
  .record eventType.text (some companyId) [] none 0

def twoEvents : EventLogStore :=
  logFrom asciiLog 90 ⟨[], 1, 0⟩
    [eventHappens .appCreated 3, .passes 5, eventHappens .deploymentCreated 3]

def pageOf (number : String) : String → Option PyStr
  | "page" => some (lit number)
  | "page_size" => some (lit "1")
  | _ => none

/-- A third event comes between the first two pages, and one of another company later. -/
def threePages : List Visit :=
  [⟨pageOf "1", []⟩, ⟨pageOf "2", [.passes 1, eventHappens .deploymentSucceeded 3]⟩,
    ⟨pageOf "3", [.purge [1], eventHappens .appCreated 4]⟩]

def firstPage : EventQuery where
  companyId := 3
  userId := none
  email := []
  types := []
  createdAfter := none
  createdBefore := none
  page := 1
  pageSize := 1
  page_pos := le_rfl
  pageSize_pos := le_rfl
  pageSize_le := by decide

def firstEvent : EventLogRow where
  id := 1
  createdAt := 0
  companyId := some 3
  userId := none
  eventType := EventType.appCreated.text
  data := []

theorem event_pages_complete_threePages :
    ∃ page, .ok page ∈ readEvents asciiLog 90 logOwner (call "owner" .get .eventLog) twoEvents threePages ∧
      firstEvent.payload ∈ page.results := by
  have asks : ∀ number visit, threePages[number]? = some visit →
      eventQuery asciiLog logOwner (call "owner" .get .eventLog) visit.get =
        .ok (firstPage.turned number) := by
    intro number visit asked
    rcases number with _ | _ | _ | number
    all_goals cases asked
    all_goals rfl
  exact (event_pages_complete asciiLog 90 logOwner (call "owner" .get .eventLog) twoEvents
    ⟨0, _, rfl⟩ firstPage threePages asks).2 _ rfl (by decide) firstEvent
    (List.mem_of_getElem? (i := 0) rfl) rfl (List.mem_of_getElem? (i := 0) rfl) (by decide)

end HostingService
