import HostingService.Api.Coverage
import HostingService.Hosting.Previews

/-! A hosting request with the outbox rows of its events, as one step of the state. -/

namespace HostingService

open Program Text Storage Transaction

section
variable (settings : ApiSettings) (library : ApiLibrary) (principal : HostingPrincipal)
  (asked : Request) (companyId : Nat) (before : ApiWorld)

/-- The tables do not change, or an act of the request about covered apps changes them. -/
def Request.Acts (after : Sites) : Prop :=
  after = before.hosting.db.sites ∨ ∃ act,
    asked.Admits settings.hosting library.hosting before.hosting.clock before.hosting.db.sites act ∧
      act.Within principal.covers before.hosting.db.sites ∧ after = act.apply before.hosting.db.sites

/-- What a service request of the principal, who is of the company, leaves of the state. -/
structure Served (after : ApiWorld) : Prop where
  reviews : after.reviews = before.reviews
  tokens : after.tokens = before.tokens
  deletions : after.deletions = before.deletions
  rules : after.actions.rules = before.actions.rules
  attempts : after.actions.attempts = before.actions.attempts
  outbox : ∃ created, after.actions.outbox = before.actions.outbox ++ created ∧
    ∀ row ∈ created, row.companyId = companyId ∧ ∀ ruleId, row.actionRule = some ruleId →
      ∃ rule ∈ before.actions.rules, rule.id = ruleId ∧ rule.companyId = companyId
  outboxIds : (before.actions.outbox.map (·.id)).Nodup → (after.actions.outbox.map (·.id)).Nodup
  announces : Announces companyId before.hosting.db after.hosting.db
  consistent : before.hosting.db.sites.Consistent → after.hosting.db.sites.Consistent
  sites : asked.Acts settings library principal before after.hosting.db.sites
  objects : SameOutside (Covered settings.hosting principal before.hosting.db.sites)
    before.hosting.disk.objects after.hosting.disk.objects

end

section
variable {settings : ApiSettings} {library : ApiLibrary} {principal : HostingPrincipal}
  {endpoint : Endpoint} {method : Method} {asked : Request} {companyId : Nat}
  {faults : List (Option Error)} {draws : Draws} {before : ApiWorld}

/-- The tables after the service of a request that a view made. -/
theorem Asks.run_acts (asks : Asks principal before.hosting.db endpoint method asked)
    (permitted : endpoint.permits principal method = true)
    (formed : before.hosting.db.sites.WellFormed) :
    asked.Acts settings library principal before
      (asked.run settings.hosting library.hosting faults before.hosting).2.db.sites := by
  rcases asked.performs (before.hosting.withFaults faults) with
    ⟨act, admitted, applied, _⟩ | refused
  · refine .inr ⟨act, admitted, asks.covered permitted formed admitted ?_, applied⟩
    rintro preview slug anyUser new row rfl rfl
    exact Request.placed preview slug anyUser new (before.hosting.withFaults faults) row applied
  · exact .inl refused.2

/-- Where an app comes from that is there after the request. -/
theorem Request.Acts.app_from {after : Sites}
    (acts : asked.Acts settings library principal before after) {app : App}
    (member : app ∈ after.apps) :
    (∃ old ∈ before.hosting.db.apps, app.identity = old.identity) ∨
      before.hosting.db.sites.BlankApp app ∧ principal.covers app = true ∧ asked.creates = true := by
  rcases acts with rfl | ⟨act, admitted, within, rfl⟩
  · exact .inl ⟨app, member, rfl⟩
  · rcases act.app_from member with old | inserts
    · exact .inl old
    · obtain ⟨blank, created⟩ := admitted.inserts inserts
      have covered : principal.covers app = true := by
        cases act with
        | createApp new => exact inserts ▸ within
        | createPreview new row => exact inserts ▸ within.1
        | _ => exact inserts.elim
      refine .inr ⟨blank, covered, ?_⟩
      rcases created with ⟨new, rfl, _⟩ | ⟨preview, slug, anyUser, new, rfl, _⟩
      · rfl
      · rfl

/-- The apps that a request may change, as a set that a table can be split by. -/
theorem Request.Acts.others {asked : Request} {inside : App → Bool} {sites : Sites}
    (acts : asked.Acts settings library principal before sites)
    (consistent : before.hosting.db.sites.Consistent) (lasting : Lasting inside)
    (wider : ∀ app, principal.covers app = true → inside app = true) :
    sites.others inside = before.hosting.db.sites.others inside := by
  rcases acts with rfl | ⟨act, _, within, rfl⟩
  · rfl
  · exact Act.others consistent lasting (within.mono wider)

/-- The outbox rows of a request are about its company. -/
theorem outboxRows_company {rules : List ActionRule} {now : Time} {news : List Event}
    (ours : ∀ event ∈ news, event.companyId = companyId) {row : ActionOutbox}
    (member : row ∈ outboxRows settings.actions rules now draws news) :
    row.companyId = companyId ∧ ∀ ruleId, row.actionRule = some ruleId →
      ∃ rule ∈ rules, rule.id = ruleId ∧ rule.companyId = companyId := by
  obtain ⟨event, recorded, company, linked⟩ := outboxRows_row member
  rw [ours event recorded] at company linked
  exact ⟨company, linked⟩

/-- Of a request whose outbox rows clash only the files and the cache may stay. -/
theorem ApiWorld.serve_cases (settings : ApiSettings) (library : ApiLibrary) (asked : Request)
    (faults : List (Option Error)) (draws : Draws) (before : ApiWorld) :
    let ran := (asked.run settings.hosting library.hosting faults before.hosting).2
    let rows := outboxRows settings.actions before.actions.rules ran.clock draws
      (ran.db.events.drop before.hosting.db.events.length)
    (before.serve settings library asked faults draws).2 =
        { before with hosting := ran, actions := (createOutboxRows before.actions rows).2 } ∨
      (before.serve settings library asked faults draws).2 =
        { before with hosting := { ran with db := before.hosting.db } } := by
  intro ran rows
  simp only [serve]
  rcases created : createOutboxRows before.actions rows with ⟨_ | _, actions⟩
  · cases asked.isAtomic with
    | true => exact .inr rfl
    | false => exact .inl rfl
  · exact .inl rfl

/-- Files stay as the service leaves them. -/
theorem ApiWorld.serve_disk (settings : ApiSettings) (library : ApiLibrary) (asked : Request)
    (faults : List (Option Error)) (draws : Draws) (before : ApiWorld) :
    (before.serve settings library asked faults draws).2.hosting.disk =
      (asked.run settings.hosting library.hosting faults before.hosting).2.disk := by
  rcases ApiWorld.serve_cases settings library asked faults draws before with same | same
  · rw [same]
  · rw [same]

theorem ApiWorld.serve_confined (settings : ApiSettings) (library : ApiLibrary) (asked : Request)
    (faults : List (Option Error)) (draws : Draws) (before : ApiWorld) :
    SameOutside (asked.Footprint settings.hosting before.hosting.db.sites)
      before.hosting.disk.objects
      (before.serve settings library asked faults draws).2.hosting.disk.objects := by
  rw [ApiWorld.serve_disk]
  exact asked.confined (before.hosting.withFaults faults)

theorem Asks.served (asks : Asks principal before.hosting.db endpoint method asked)
    (permitted : endpoint.permits principal method = true)
    (formed : before.hosting.db.sites.WellFormed) :
    ∃ companyId, principal.companyId = some companyId ∧
      Served settings library principal asked companyId before
        (before.serve settings library asked faults draws).2 := by
  obtain ⟨companyId, own, concerns⟩ := asks.concerns formed
  refine ⟨companyId, own, ?_⟩
  have about : asked.Concerns companyId (before.hosting.withFaults faults).db := concerns
  have announces : Announces companyId before.hosting.db
      (asked.run settings.hosting library.hosting faults before.hosting).2.db :=
    Request.announces about
  have objects := SameOutside.mono
    (ApiWorld.serve_confined settings library asked faults draws before)
    fun key inside => asks.footprint permitted formed inside
  obtain ⟨news, recorded, ours⟩ := announces.news
  rcases ApiWorld.serve_cases settings library asked faults draws before with same | same
  · rw [same] at objects
    rw [recorded, List.drop_left] at same
    obtain ⟨created, listed, appended, keys⟩ := createOutboxRows_appends
      (outboxRows settings.actions before.actions.rules
        (asked.run settings.hosting library.hosting faults before.hosting).2.clock draws news)
      before.actions
    rw [appended] at same
    rw [same]
    exact ⟨rfl, rfl, rfl, rfl, rfl, ⟨created, rfl, fun row member =>
      outboxRows_company ours (listed.subset member)⟩, keys, announces,
      fun consistent => Occurrence.next_consistent (.request asked faults) consistent,
      asks.run_acts permitted formed, objects⟩
  · rw [same] at objects ⊢
    exact ⟨rfl, rfl, rfl, rfl, rfl, ⟨[], by simp, by simp⟩, id, .refl _ _, id, .inl rfl,
      objects⟩

end

end HostingService
