import HostingService.Actions.JobHealth
import HostingService.Hosting.CompanyPurge
import HostingService.Program.Tallies

/-! Hosting statistics and the gauges of the metrics endpoints. -/

namespace HostingService

open Program Text

/-! ### Rows of a company -/

namespace Db
variable (db : Db)

/-- `app__company_id` -/
def companyOf (row : Deployment) : Option Nat := (db.app row.app).map (·.companyId)

def companyDeployments (companyId : Nat) : List Deployment :=
  db.deployments.filter fun row => db.companyOf row = some companyId

def companyAccess (companyId : Nat) : List CompanyHostingAccess :=
  db.access.filter fun row => row.companyId = companyId

/-- `_company_ids` -/
def companyIds : List Nat :=
  (db.apps.map (·.companyId) ++ db.access.map (·.companyId) ++
    db.deployments.filterMap db.companyOf).dedup.insertionSort (· ≤ ·)

end Db

/-! ### Statistics -/

def DeploymentStatus.values : List DeploymentStatus :=
  [.draft, .uploading, .ready, .active, .superseded, .failed]

/-- `deployments.values('status').annotate(count=Count('id'))` -/
def deploymentCounts (rows : List Deployment) : List (DeploymentStatus × Nat) :=
  (DeploymentStatus.values.map fun status =>
    (status, (rows.filter (·.status = status)).length)).filter (·.2 ≠ 0)

/-- `deployment_counts.get(status, 0)` -/
def countOf (counts : List (DeploymentStatus × Nat)) (status : DeploymentStatus) : Nat :=
  ((counts.find? (·.1 = status)).map (·.2)).getD 0

def accessCount (rows : List CompanyHostingAccess) (status : AccessStatus) : Nat :=
  (rows.filter (·.status = status)).length

structure HostingStats where
  companyId : Option Nat
  apps : Nat
  deployments : Nat
  deploymentsByStatus : List (DeploymentStatus × Nat)
  activeDeployments : Nat
  accessPending : Nat
  accessApproved : Nat
  accessDenied : Nat
  artifactBytes : Nat

/-- `build_hosting_stats`, of one company or of all. -/
def buildHostingStats (db : Db) (companyId : Option Nat) : HostingStats :=
  let apps := companyId.elim db.apps db.companyApps
  let deployments := companyId.elim db.deployments db.companyDeployments
  let access := companyId.elim db.access db.companyAccess
  { companyId
    apps := apps.length
    deployments := deployments.length
    deploymentsByStatus := deploymentCounts deployments
    activeDeployments := countOf (deploymentCounts deployments) .active
    accessPending := accessCount access .pending
    accessApproved := accessCount access .approved
    accessDenied := accessCount access .denied
    artifactBytes := (deployments.map (·.artifactSize)).sum }

/-! ### Gauges -/

inductive Gauge where
  | appsTotal
  | appsExpired
  | deploymentsTotal
  | activeDeployments
  | artifactBytes
  | deployments24h
  | deployments7d
  | deployments30d
  | accessPending
  | accessApproved
  | accessDenied
  deriving DecidableEq

def Gauge.name : Gauge → PyStr
  | .appsTotal => lit "shellui_hosting_apps_total"
  | .appsExpired => lit "shellui_hosting_apps_expired"
  | .deploymentsTotal => lit "shellui_hosting_deployments_total"
  | .activeDeployments => lit "shellui_hosting_active_deployments"
  | .artifactBytes => lit "shellui_hosting_artifact_bytes"
  | .deployments24h => lit "shellui_hosting_deployments_24h"
  | .deployments7d => lit "shellui_hosting_deployments_7d"
  | .deployments30d => lit "shellui_hosting_deployments_30d"
  | .accessPending => lit "shellui_hosting_access_pending"
  | .accessApproved => lit "shellui_hosting_access_approved"
  | .accessDenied => lit "shellui_hosting_access_denied"

/-- `_bind_gauges` -/
def Gauge.bound : List Gauge :=
  [.appsTotal, .appsExpired, .deploymentsTotal, .activeDeployments, .artifactBytes, .deployments24h,
    .deployments7d, .deployments30d, .accessPending, .accessApproved, .accessDenied]

/-! ### Series of the scheduled jobs -/

/-- What the collector of the scheduled jobs may yield, by its labels. -/
inductive JobSeries where
  | runs (job : PyStr) (status : RunStatus)
  | items (job kind : PyStr)
  | lastSuccess (job : PyStr)
  | lastRun (job : PyStr)
  | lastRunDuration (job : PyStr)
  | overdue (job : PyStr)
  | schedulerEnabled
  | redisUp
  | beatLastSeen
  deriving DecidableEq

/-- `METRIC_NAMES` -/
def JobSeries.name : JobSeries → PyStr
  | .runs _ _ => lit "shellui_hosting_scheduled_job_runs_total"
  | .items _ _ => lit "shellui_hosting_scheduled_job_items_total"
  | .lastSuccess _ => lit "shellui_hosting_scheduled_job_last_success_timestamp_seconds"
  | .lastRun _ => lit "shellui_hosting_scheduled_job_last_run_timestamp_seconds"
  | .lastRunDuration _ => lit "shellui_hosting_scheduled_job_last_run_duration_seconds"
  | .overdue _ => lit "shellui_hosting_scheduled_job_overdue"
  | .schedulerEnabled => lit "shellui_hosting_scheduler_enabled"
  | .redisUp => lit "shellui_hosting_scheduler_redis_up"
  | .beatLastSeen => lit "shellui_hosting_scheduler_beat_last_seen_timestamp_seconds"

/-- The series in the order of `collect`, with those that are left out at times. -/
def JobSeries.collected : List JobSeries :=
  let names := jobs.map (·.name)
  let statuses : List RunStatus := [.succeeded, .failed, .skippedLocked]
  [ jobs.flatMap fun spec => statuses.map (JobSeries.runs spec.name),
    jobs.flatMap fun spec => spec.itemKinds.map (JobSeries.items spec.name),
    names.map JobSeries.lastSuccess,
    names.map JobSeries.lastRun,
    names.map JobSeries.lastRunDuration,
    names.map JobSeries.overdue,
    [.schedulerEnabled, .redisUp, .beatLastSeen] ].flatten

/-- A value of a series: a count, a time in microseconds, or a duration in milliseconds. -/
structure JobSample where
  series : JobSeries
  value : Int
  deriving DecidableEq

/-- `scheduler_enabled`, `redis_reachable` and `beat_last_seen` at the scrape. -/
structure SchedulerStatus where
  enabled : Bool
  redisReachable : Option Bool
  beatLastSeen : Option Time

section
variable (world : JobsWorld) (scheduler : SchedulerStatus) (now : Time)

def JobSeries.value : JobSeries → Option Int
  | .runs job status => some (world.counter job (runsCounter status))
  | .items job kind => some (world.counter job (itemsCounter kind))
  | .lastSuccess job => some ((world.ensuredState job now).lastSuccessAt.getD 0)
  | .lastRun job => some ((world.ensuredState job now).lastStartedAt.getD 0)
  | .lastRunDuration job => (world.ensuredState job now).lastDurationMs
  | .overdue job => (jobSchedules.find? (·.spec.name = job)).map fun schedule =>
      if isOverdue schedule (world.ensuredState job now) now then 1 else 0
  | .schedulerEnabled => some (if scheduler.enabled then 1 else 0)
  | .redisUp => scheduler.redisReachable.map fun reachable => if reachable then 1 else 0
  | .beatLastSeen => if scheduler.redisReachable = some true then scheduler.beatLastSeen else none

/-- `scheduled_jobs_metrics_body` -/
def scheduledJobsMetricsBody : List JobSample :=
  JobSeries.collected.filterMap fun series =>
    (series.value world scheduler now).map (JobSample.mk series)

theorem mem_scheduledJobsMetricsBody {sample : JobSample} :
    sample ∈ scheduledJobsMetricsBody world scheduler now ↔
      sample.series ∈ JobSeries.collected ∧
        sample.series.value world scheduler now = some sample.value := by
  simp only [scheduledJobsMetricsBody, List.mem_filterMap, Option.map_eq_some_iff]
  constructor
  · rintro ⟨series, listed, value, shown, rfl⟩
    exact ⟨listed, shown⟩
  · rintro ⟨listed, shown⟩
    exact ⟨sample.series, listed, sample.value, shown, rfl⟩

theorem series_sublist :
    ((scheduledJobsMetricsBody world scheduler now).map (·.series)).Sublist JobSeries.collected := by
  rw [scheduledJobsMetricsBody]
  induction JobSeries.collected with
  | nil => exact .slnil
  | cons series later ih =>
    rw [List.filterMap_cons]
    rcases series.value world scheduler now with _ | value
    · exact .cons _ ih
    · exact .cons_cons _ ih

end

/-! ### The scrapes -/

section
variable (createdAt : Uuid → Time) (now : Time)

/-- Deployments that were created in the last days. -/
def createdWithin (days : Int) (rows : List Deployment) : Nat :=
  (rows.filter fun row => now - days * microsecondsPerDay ≤ createdAt row.id).length

/-- What the gauges count of some rows. -/
def Gauge.measure (apps : List App) (deployments : List Deployment)
    (access : List CompanyHostingAccess) : Gauge → Nat
  | .appsTotal => apps.length
  | .appsExpired => (apps.filter fun app => app.expiresAt.any (· < now)).length
  | .deploymentsTotal => deployments.length
  | .activeDeployments => countOf (deploymentCounts deployments) .active
  | .artifactBytes => (deployments.map (·.artifactSize)).sum
  | .deployments24h => createdWithin createdAt now 1 deployments
  | .deployments7d => createdWithin createdAt now 7 deployments
  | .deployments30d => createdWithin createdAt now 30 deployments
  | .accessPending => accessCount access .pending
  | .accessApproved => accessCount access .approved
  | .accessDenied => accessCount access .denied

/-- `_snapshot`; the creation times are a column that nothing else reads. -/
def snapshot (db : Db) (companyId : Nat) : Gauge → Nat :=
  Gauge.measure createdAt now (db.companyApps companyId) (db.companyDeployments companyId)
    (db.companyAccess companyId)

structure Sample where
  gauge : Gauge
  companyId : Nat
  value : Nat
  deriving DecidableEq

/-- The samples of the gauges, gauge by gauge. -/
def gaugeSamples (db : Db) (companies : List Nat) : List Sample :=
  Gauge.bound.flatMap fun gauge => companies.map fun companyId =>
    ⟨gauge, companyId, snapshot createdAt now db companyId gauge⟩

/-- What a scrape returns: the gauges, and behind them the series of the scheduled jobs. -/
structure MetricsBody where
  samples : List Sample
  jobs : List JobSample
  deriving DecidableEq

/-- `metrics_http_body`; the scheduled jobs are in the scrape of all companies alone. -/
def metricsHttpBody (world : JobsWorld) (scheduler : SchedulerStatus) (db : Db) :
    Option Nat → MetricsBody
  | none => ⟨gaugeSamples createdAt now db db.companyIds,
      scheduledJobsMetricsBody world scheduler now⟩
  | some companyId => ⟨gaugeSamples createdAt now db [companyId], []⟩

end

/-- The field of the statistics that a gauge shows too. -/
def HostingStats.shown (stats : HostingStats) : Gauge → Option Nat
  | .appsTotal => some stats.apps
  | .deploymentsTotal => some stats.deployments
  | .activeDeployments => some stats.activeDeployments
  | .artifactBytes => some stats.artifactBytes
  | .accessPending => some stats.accessPending
  | .accessApproved => some stats.accessApproved
  | .accessDenied => some stats.accessDenied
  | _ => none

section
variable {createdAt : Uuid → Time} {now : Time} {db : Db} {companyId : Nat} {gauge : Gauge}

/-! ### Counts by status -/

theorem DeploymentStatus.mem_values (status : DeploymentStatus) : status ∈ DeploymentStatus.values := by
  cases status <;> decide

/-- Statuses without a row are left out, and count as none. -/
theorem countOf_filter (count : DeploymentStatus → Nat) {statuses : List DeploymentStatus}
    {status : DeploymentStatus} (listed : status ∈ statuses) :
    countOf ((statuses.map fun status => (status, count status)).filter (·.2 ≠ 0)) status =
      count status := by
  induction statuses with
  | nil => exact absurd listed List.not_mem_nil
  | cons first rest ih =>
    rw [List.map_cons, List.filter_cons]
    by_cases same : first = status
    · subst same
      by_cases empty : count first = 0
      · have absent : ((rest.map fun status => (status, count status)).filter (·.2 ≠ 0)).find?
            (·.1 = first) = none := by
          refine List.find?_eq_none.mpr fun entry member other => ?_
          obtain ⟨inside, counted⟩ := List.mem_filter.mp member
          obtain ⟨status, _, rfl⟩ := List.mem_map.mp inside
          obtain rfl : status = first := by simpa using other
          simp [empty] at counted
        rw [if_neg (by simpa using empty), countOf, absent, empty]
        rfl
      · rw [if_pos (by simpa using empty), countOf, List.find?_cons_of_pos (by simp)]
        rfl
    · have later := ih ((List.mem_cons.mp listed).resolve_left (Ne.symm same))
      split
      · rw [countOf, List.find?_cons_of_neg (by simpa using same)]
        exact later
      · exact later

theorem countOf_deploymentCounts (rows : List Deployment) (status : DeploymentStatus) :
    countOf (deploymentCounts rows) status = (rows.filter (·.status = status)).length := by
  rw [deploymentCounts]
  exact countOf_filter _ status.mem_values

theorem sum_filter_ne_zero {α : Type} (count : α → Nat) (items : List α) :
    (((items.map fun item => (item, count item)).filter (·.2 ≠ 0)).map (·.2)).sum =
      (items.map count).sum := by
  induction items with
  | nil => rfl
  | cons item items ih =>
    rw [List.map_cons, List.filter_cons, List.map_cons, List.sum_cons, ← ih]
    by_cases empty : count item = 0
    · simp [empty]
    · simp [empty]

/-- Every deployment is counted under one status. -/
theorem sum_deploymentCounts (rows : List Deployment) :
    ((deploymentCounts rows).map (·.2)).sum = rows.length := by
  have grouped : _ = (rows.map fun _ => 1).sum :=
    sum_groups (by decide : DeploymentStatus.values.Nodup)
      (fun row _ => (Deployment.status row).mem_values) fun _ => 1
  rw [deploymentCounts, sum_filter_ne_zero fun status => (rows.filter fun row => row.status = status).length]
  simpa using grouped

/-! ### Companies -/

theorem mem_companyIds : companyId ∈ db.companyIds ↔ (∃ app ∈ db.apps, app.companyId = companyId) ∨
    (∃ row ∈ db.access, row.companyId = companyId) ∨
      ∃ row ∈ db.deployments, db.companyOf row = some companyId := by
  rw [Db.companyIds, List.mem_insertionSort, List.mem_dedup]
  simp

theorem companyIds_nodup (db : Db) : db.companyIds.Nodup :=
  (List.perm_insertionSort _ _).nodup_iff.mpr (List.nodup_dedup _)

/-- The gauges of all companies add up to what they count of all rows. -/
theorem sum_snapshot (formed : db.sites.WellFormed) (gauge : Gauge) :
    (db.companyIds.map fun companyId => snapshot createdAt now db companyId gauge).sum =
      gauge.measure createdAt now db.apps db.deployments db.access := by
  have apps (test : App → Bool) : (db.companyIds.map fun companyId =>
      ((db.companyApps companyId).filter test).length).sum = (db.apps.filter test).length :=
    count_groups (companyIds_nodup db) (fun app member => mem_companyIds.mpr (.inl ⟨app, member, rfl⟩)) test
  have access (status : AccessStatus) : (db.companyIds.map fun companyId =>
      accessCount (db.companyAccess companyId) status).sum = accessCount db.access status :=
    count_groups (companyIds_nodup db)
      (fun row member => mem_companyIds.mpr (.inr (.inl ⟨row, member, rfl⟩))) _
  have owners : (db.companyIds.map some).Nodup :=
    (companyIds_nodup db).map fun _ _ same => Option.some.inj same
  have owned : ∀ row ∈ db.deployments, db.companyOf row ∈ db.companyIds.map some := by
    intro row member
    obtain ⟨app, present, owner⟩ := formed.owned row member
    have found : db.companyOf row = some app.companyId := by
      rw [Db.companyOf, ← owner, Db.app_of_mem formed present]
      rfl
    rw [found]
    exact List.mem_map_of_mem (mem_companyIds.mpr (.inr (.inr ⟨row, member, found⟩)))
  have deployments (test : Deployment → Bool) : (db.companyIds.map fun companyId =>
      ((db.companyDeployments companyId).filter test).length).sum = (db.deployments.filter test).length := by
    have grouped := count_groups owners owned test
    rwa [List.map_map] at grouped
  cases gauge with
  | appsTotal => simpa [snapshot, Gauge.measure] using apps fun _ => true
  | appsExpired => exact apps _
  | deploymentsTotal => simpa [snapshot, Gauge.measure] using deployments fun _ => true
  | activeDeployments =>
    simp only [snapshot, Gauge.measure, countOf_deploymentCounts]
    exact deployments _
  | artifactBytes =>
    have grouped := sum_groups owners owned fun row => row.artifactSize
    rwa [List.map_map] at grouped
  | deployments24h | deployments7d | deployments30d => exact deployments _
  | accessPending | accessApproved | accessDenied => exact access _

/-! ### Active deployments -/

/-- The app has a deployment that visitors get. -/
def App.live (app : App) : Bool := app.currentDeployment.isSome

/-- An app that is settled has one active deployment if it is live, and else none. -/
theorem active_of_settled {rows : List Deployment} {app : App} (unique : rows.Nodup)
    (settled : Settled rows app) :
    ((rows.filter fun row => row.app = app.id).filter fun row => row.status = .active).length =
      if app.live then 1 else 0 := by
  rcases settled with ⟨empty, quiet⟩ | ⟨row, member, current, owner, active, only⟩
  · rw [App.live, empty, List.filter_filter, List.filter_eq_nil_iff.mpr]
    · rfl
    · intro row member both
      simp only [Bool.and_eq_true, decide_eq_true_eq] at both
      exact quiet row member both.2 (by simp [both.1])
  · have alone : (rows.filter fun row => row.app = app.id).filter (fun row => row.status = .active) =
        [row] := by
      refine List.Perm.eq_singleton ((List.perm_ext_iff_of_nodup ((unique.filter _).filter _)
        (List.nodup_singleton row)).mpr fun other => ?_)
      simp only [List.mem_filter, decide_eq_true_eq, List.mem_singleton]
      constructor
      · rintro ⟨⟨present, ours⟩, live⟩
        exact only other present ours live
      · rintro rfl
        exact ⟨⟨member, owner⟩, active⟩
    rw [alone, App.live, current]
    rfl

theorem filter_length_eq_sum {α : Type} (test : α → Bool) (rows : List α) :
    (rows.filter test).length = (rows.map fun row => if test row then 1 else 0).sum := by
  induction rows with
  | nil => rfl
  | cons row rows ih =>
    rw [List.filter_cons, List.map_cons, List.sum_cons, ← ih]
    split
    · rw [List.length_cons, Nat.add_comm]
    · rw [Nat.zero_add]

/-- In consistent tables the active deployments of a company are those of its live apps. -/
theorem active_deployments (createdAt : Uuid → Time) (now : Time) (consistent : db.sites.Consistent)
    (companyId : Nat) :
    snapshot createdAt now db companyId .activeDeployments =
      ((db.companyApps companyId).filter App.live).length := by
  have formed := consistent.formed
  have rows : db.deployments.Nodup := formed.deploymentIds.of_map _
  have apps : ((db.companyApps companyId).map (·.id)).Nodup :=
    formed.appIds.sublist (List.filter_sublist.map _)
  have ours : ∀ row ∈ db.companyDeployments companyId,
      row.app ∈ (db.companyApps companyId).map (·.id) := by
    intro row member
    obtain ⟨stored, owned⟩ := List.mem_filter.mp member
    obtain ⟨app, found, same⟩ := Option.map_eq_some_iff.mp (of_decide_eq_true owned)
    obtain ⟨present, id⟩ := Db.mem_of_app found
    rw [← id]
    exact List.mem_map_of_mem (List.mem_filter.mpr ⟨present, decide_eq_true same⟩)
  have grouped := count_groups apps ours fun row => row.status = .active
  simp only [snapshot, Gauge.measure, countOf_deploymentCounts]
  rw [← grouped, List.map_map, filter_length_eq_sum]
  refine congrArg List.sum (List.map_congr_left fun app member => ?_)
  obtain ⟨present, company⟩ := List.mem_filter.mp member
  have same : (db.companyDeployments companyId).filter (fun row => row.app = app.id) =
      db.deployments.filter fun row => row.app = app.id := by
    rw [Db.companyDeployments, List.filter_comm]
    refine List.filter_eq_self.mpr fun row inside => ?_
    obtain ⟨_, owner⟩ := List.mem_filter.mp inside
    have owner : row.app = app.id := by simpa using owner
    rw [Db.companyOf, owner, Db.app_of_mem formed present]
    simpa using company
  rw [Function.comp_apply, same]
  exact active_of_settled rows (consistent.settled app present)

end

/-! ### The endpoints together -/

section
variable (createdAt : Uuid → Time) (now : Time) (world : JobsWorld) (scheduler : SchedulerStatus)
  (db : Db)

/-- What the metrics and the statistics of one moment have to do with each other. -/
structure Db.MetricsAgree : Prop where
  /-- The gauges of all companies are the gauges of the companies. -/
  tenants : ∀ sample,
    sample ∈ (metricsHttpBody createdAt now world scheduler db none).samples ↔
      sample.companyId ∈ db.companyIds ∧ sample ∈
        (metricsHttpBody createdAt now world scheduler db (some sample.companyId)).samples
  /-- Each gauge is there once for a company. -/
  once : ((metricsHttpBody createdAt now world scheduler db none).samples.map fun sample =>
    (sample.gauge, sample.companyId)).Nodup
  /-- The scrape of all companies has the scheduled jobs too, each series once and under a name
  that no gauge has. -/
  jobs : ((metricsHttpBody createdAt now world scheduler db none).jobs.map (·.series)).Nodup ∧
    (∀ sample, sample ∈ (metricsHttpBody createdAt now world scheduler db none).jobs ↔
      sample.series ∈ JobSeries.collected ∧
        sample.series.value world scheduler now = some sample.value) ∧
    ∀ (gauge : Gauge) (series : JobSeries), gauge.name ≠ series.name
  /-- The scrape of a company has none of them. -/
  separate : ∀ companyId,
    (metricsHttpBody createdAt now world scheduler db (some companyId)).jobs = []
  /-- The statistics of a company show what its gauges show. -/
  shown : ∀ companyId gauge value, (buildHostingStats db (some companyId)).shown gauge = some value →
    ⟨gauge, companyId, value⟩ ∈
      (metricsHttpBody createdAt now world scheduler db (some companyId)).samples
  /-- The statistics of all companies show the sum of the gauges. -/
  totals : ∀ gauge value, (buildHostingStats db none).shown gauge = some value →
    (((metricsHttpBody createdAt now world scheduler db none).samples.filter
      (·.gauge = gauge)).map (·.value)).sum = value
  statuses : ∀ companyId, ((buildHostingStats db companyId).deploymentsByStatus.map (·.2)).sum =
    (buildHostingStats db companyId).deployments
  /-- As many deployments of a company are active as it has apps that serve one. -/
  active : ∀ companyId, (buildHostingStats db (some companyId)).activeDeployments =
    ((db.companyApps companyId).filter App.live).length

variable {createdAt now world scheduler db}

theorem mem_gaugeSamples {companies : List Nat} {sample : Sample} :
    sample ∈ gaugeSamples createdAt now db companies ↔
      sample.companyId ∈ companies ∧
        sample.value = snapshot createdAt now db sample.companyId sample.gauge := by
  have bound (gauge : Gauge) : gauge ∈ Gauge.bound := by cases gauge <;> decide
  simp only [gaugeSamples, List.mem_flatMap, List.mem_map]
  constructor
  · rintro ⟨gauge, _, company, listed, rfl⟩
    exact ⟨listed, rfl⟩
  · rintro ⟨listed, same⟩
    refine ⟨sample.gauge, bound _, sample.companyId, listed, ?_⟩
    rw [← same]

/-- The samples of one gauge. -/
theorem gaugeSamples_gauge (gauge : Gauge) (companies : List Nat) :
    (gaugeSamples createdAt now db companies).filter (·.gauge = gauge) = companies.map fun companyId =>
      ⟨gauge, companyId, snapshot createdAt now db companyId gauge⟩ := by
  have block (other : Gauge) : (companies.map fun companyId =>
      Sample.mk other companyId (snapshot createdAt now db companyId other)).filter (·.gauge = gauge) =
      if other = gauge then companies.map fun companyId =>
        ⟨gauge, companyId, snapshot createdAt now db companyId gauge⟩ else [] := by
    rw [List.filter_map]
    split
    · rename_i same
      subst same
      simp [Function.comp_def]
    · rename_i different
      simp [Function.comp_def, different]
  rw [gaugeSamples, List.filter_flatMap]
  simp only [block]
  cases gauge <;> simp [Gauge.bound]

/-- The names differ in the first letter behind `shellui_hosting_`. -/
theorem gauge_name_ne_series (gauge : Gauge) (series : JobSeries) : gauge.name ≠ series.name := by
  have jobs : series.name[16]? = some 0x73 := by cases series <;> rfl
  have plain : gauge.name[16]? ≠ some 0x73 := by cases gauge <;> decide
  intro same
  rw [same] at plain
  exact plain jobs

theorem shown_measure {stats : HostingStats} {gauge : Gauge} {value : Nat} {companyId : Option Nat}
    (built : stats = buildHostingStats db companyId) (shown : stats.shown gauge = some value) :
    value = gauge.measure createdAt now (companyId.elim db.apps db.companyApps)
      (companyId.elim db.deployments db.companyDeployments) (companyId.elim db.access db.companyAccess) := by
  subst built
  cases gauge with
  | appsExpired | deployments24h | deployments7d | deployments30d => cases shown
  | _ => exact (Option.some.inj shown).symm

theorem metricsAgree (consistent : db.sites.Consistent) :
    db.MetricsAgree createdAt now world scheduler where
  tenants sample := by
    simp only [metricsHttpBody, mem_gaugeSamples, List.mem_singleton, true_and]
  once := by
    have pairs : (gaugeSamples createdAt now db db.companyIds).map
        (fun sample => (sample.gauge, sample.companyId)) = Gauge.bound.product db.companyIds := by
      rw [gaugeSamples, List.map_flatMap]
      simp only [List.map_map]
      rfl
    rw [metricsHttpBody, pairs]
    exact List.Nodup.product (by decide) (companyIds_nodup db)
  jobs := by
    have once : JobSeries.collected.Nodup := by decide +kernel
    exact ⟨(series_sublist world scheduler now).nodup once,
      fun _ => mem_scheduledJobsMetricsBody world scheduler now, gauge_name_ne_series⟩
  separate companyId := rfl
  shown companyId gauge value shown := by
    refine mem_gaugeSamples.mpr ⟨List.mem_singleton_self _, ?_⟩
    exact shown_measure rfl shown
  totals gauge value shown := by
    rw [metricsHttpBody, gaugeSamples_gauge, List.map_map, shown_measure rfl shown]
    exact sum_snapshot consistent.formed gauge
  statuses companyId := sum_deploymentCounts _
  active companyId := active_deployments createdAt now consistent companyId

end

end HostingService
