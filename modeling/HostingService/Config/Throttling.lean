import HostingService.Config.ClientIp
import HostingService.Program.Leases
import HostingService.Program.Windows
import Mathlib.Algebra.Order.Ring.Unbundled.Rat
import Mathlib.Tactic.Linarith

/-! The rate limits of the hosting endpoints, a sliding window in the cache. -/

namespace HostingService

open Program Text

structure ThrottleSettings where
  hostingRateLimitEnabled : Bool
  /-- The limit and the window of a scope. -/
  hostingRateLimits : PyStr → Option (Int × Int)
  trustedProxyIps : List PyStr

/-- `_limits_for_scope` -/
def limitsForScope (settings : ThrottleSettings) (scope : PyStr) : Int × Int :=
  (settings.hostingRateLimits scope).getD (60, 60)

/-- The network of an IPv6 address, by its first 64 bits. -/
def networkAddress (address : IPv6Address) : IPv6Address :=
  if (address.int : Nat) % 2 ^ 64 = 0 then address
  else ⟨Fin.ofNat _ (address.int / 2 ^ 64 * 2 ^ 64), none⟩

/-- `client_ip_rate_limit_key` -/
def clientIpRateLimitKey (ip : Option PyStr) : PyStr :=
  match strip (ip.getD []) with
  | [] => lit "unknown"
  | text =>
    match (ipAddress text).map addrForTrustedMatch with
    | none => text
    | some (.v4 address) => address.text
    | some (.v6 address) => (networkAddress address).compressed ++ lit "/64"

structure ThrottleRequest where
  /-- Of the authenticated user. -/
  userId : Option Int
  remoteAddr : Option PyStr
  xForwardedFor : Option PyStr
  now : Rat

/-- The histories, the newest time first, each until it expires. -/
abbrev ThrottleCache := Leases PyStr (List Rat) Rat

section Requests
variable (settings : ThrottleSettings)

/-- The bucket: the user, else the client. -/
def throttleIdent (request : ThrottleRequest) : PyStr :=
  match request.userId with
  | some id => lit "user_" ++ lit (toString id)
  | none => lit "ip_" ++ clientIpRateLimitKey
      (getClientIp settings.trustedProxyIps request.remoteAddr request.xForwardedFor)

def throttleKey (scope ident : PyStr) : PyStr := lit "hosting_throttle_" ++ scope ++ lit "_" ++ ident

/-- `get_cache_key` -/
def getCacheKey (scope : Option PyStr) (request : ThrottleRequest) : Option PyStr :=
  if !settings.hostingRateLimitEnabled then none
  else
    match scope with
    | none | some [] => none
    | some scope => some (throttleKey scope (throttleIdent settings request))

/-- `allow_request` -/
def allowRequest (cache : ThrottleCache) (scope : Option PyStr) (request : ThrottleRequest) :
    Bool × ThrottleCache :=
  if !settings.hostingRateLimitEnabled then (true, cache)
  else
    let (numRequests, duration) := limitsForScope settings (scope.getD (lit "default"))
    match getCacheKey settings scope request with
    | none => (true, cache)
    | some key =>
      let history := ((cache.held request.now key).map (·.token)).getD []
      let history := history.rdropWhile (· ≤ request.now - duration)
      -- `throttle_failure` stores nothing.
      if numRequests ≤ history.length then (false, cache)
      else (true, Function.update cache key
        (some ⟨request.now :: history, request.now + duration⟩))

/-- The cache, and the times that were allowed so far, the newest first. -/
abbrev Throttled := ThrottleCache × List Rat

def serveThrottled (scope : PyStr) (served : Throttled) (request : ThrottleRequest) : Throttled :=
  match allowRequest settings served.1 (some scope) request with
  | (true, cache) => (cache, request.now :: served.2)
  | (false, cache) => (cache, served.2)

/-- The requests of a bucket, one after another. -/
def serveAllThrottled (cache : ThrottleCache) (scope : PyStr) (requests : List ThrottleRequest) :
    Throttled :=
  requests.foldl (serveThrottled settings scope) (cache, [])

/-- Requests of one bucket at times that do not decrease. -/
structure SameBucket (ident : PyStr) (requests : List ThrottleRequest) : Prop where
  bucket : ∀ request ∈ requests, throttleIdent settings request = ident
  inOrder : (requests.map (·.now)).Pairwise (· ≤ ·)

variable {settings} {scope ident : PyStr}

theorem SameBucket.past {requests : List ThrottleRequest}
    (same : SameBucket settings ident requests) :
    ∃ last, ∀ request ∈ requests, request.now ≤ last := by
  rcases List.eq_nil_or_concat requests with rfl | ⟨front, last, rfl⟩
  · exact ⟨0, fun _ member => absurd member List.not_mem_nil⟩
  · have order := same.inOrder
    rw [List.concat_eq_append, List.map_append, List.pairwise_append] at order
    refine ⟨last.now, fun request member => ?_⟩
    rw [List.concat_eq_append, List.mem_append, List.mem_singleton] at member
    rcases member with before | rfl
    · exact order.2.2 _ (List.mem_map_of_mem before) _ (by simp)
    · exact le_rfl

/-! ### What the cache remembers -/

/-- The history that a request finds. -/
def remembered (cache : ThrottleCache) (key : PyStr) (now : Rat) : List Rat :=
  ((cache.held now key).map (·.token)).getD []

/-- From now on the cache has all the allowed times, up to those that have left the window. -/
def Remembers (window : Int) (key : PyStr) (now : Rat) (served : Throttled) : Prop :=
  ∀ later, now ≤ later → ∃ dropped, served.2 = remembered served.1 key later ++ dropped ∧
    ∀ t ∈ dropped, t ≤ later - window

/-- Invariant: what is allowed is recorded, admitted by the window, and remembered. -/
structure KeepsWindow (limit window : Int) (key : PyStr) (now : Rat) (served : Throttled) : Prop where
  recorded : Windows.Recorded now served.2
  admitted : Windows.Admitted limit (window : Rat) served.2
  remembers : Remembers window key now served

theorem KeepsWindow.later {limit window : Int} {key : PyStr} {now later : Rat} {served : Throttled}
    (keeps : KeepsWindow limit window key now served) (passes : now ≤ later) :
    KeepsWindow limit window key later served where
  recorded := keeps.recorded.mono passes
  admitted := keeps.admitted
  remembers := fun further after => keeps.remembers further (passes.trans after)

theorem keepsWindow_fresh {limit window : Int} {key : PyStr} {now : Rat} {cache : ThrottleCache}
    (fresh : cache key = none) : KeepsWindow limit window key now (cache, []) where
  recorded := ⟨.nil, fun _ member => absurd member List.not_mem_nil⟩
  admitted := trivial
  remembers := fun later _ => ⟨[], by simp [remembered, Leases.held, fresh],
    fun _ member => absurd member List.not_mem_nil⟩

/-- What a request in time does: it is allowed when the window has room, and only then
recorded. -/
theorem allowRequest_eq (enabled : settings.hostingRateLimitEnabled = true) (named : scope ≠ [])
    (cache : ThrottleCache) (request : ThrottleRequest)
    (bucket : throttleIdent settings request = ident) :
    allowRequest settings cache (some scope) request =
      let key := throttleKey scope ident
      let history := Windows.prune ((limitsForScope settings scope).2 : Rat) request.now
        (remembered cache key request.now)
      if (limitsForScope settings scope).1 ≤ history.length then (false, cache)
      else (true, Function.update cache key
        (some ⟨request.now :: history, request.now + (limitsForScope settings scope).2⟩)) := by
  have key : getCacheKey settings (some scope) request = some (throttleKey scope ident) := by
    cases scope with
    | nil => exact absurd rfl named
    | cons =>
      simp only [getCacheKey, enabled, bucket]
      rfl
  rw [allowRequest, enabled, key]
  rfl

/-- A recorded request is remembered with the times still in the window. -/
theorem Remembers.record {window : Int} {key : PyStr} {now : Rat} {served : Throttled}
    (remembers : Remembers window key now served) (recorded : Windows.Recorded now served.2) :
    Remembers window key now
      (Function.update served.1 key (some ⟨now :: Windows.prune (window : Rat) now
        (remembered served.1 key now), now + window⟩), now :: served.2) := by
  intro later passes
  by_cases running : later < now + window
  · obtain ⟨dropped, parts, gone⟩ := remembers now le_rfl
    obtain ⟨popped, whole, left⟩ := Windows.prune_prefix (window : Rat) now
      (remembered served.1 key now)
    refine ⟨popped ++ dropped, ?_, ?_⟩
    · have found : remembered (Function.update served.1 key (some ⟨now :: Windows.prune
          (window : Rat) now (remembered served.1 key now), now + window⟩)) key later =
          now :: Windows.prune (window : Rat) now (remembered served.1 key now) := by
        rw [remembered, Leases.held, Function.update_self, Option.filter_some,
          if_pos (decide_eq_true running)]
        rfl
      rw [found, List.cons_append, ← List.append_assoc, ← whole, parts]
    · intro t member
      have old : t ≤ now - window := by
        rcases List.mem_append.mp member with before | before
        · exact left t before
        · exact gone t before
      linarith
  · have found : remembered (Function.update served.1 key (some ⟨now :: Windows.prune
        (window : Rat) now (remembered served.1 key now), now + window⟩)) key later = [] := by
      rw [remembered, Leases.held, Function.update_self, Option.filter_some,
        if_neg (by simpa using running)]
      rfl
    refine ⟨now :: served.2, by rw [found, List.nil_append], ?_⟩
    intro t member
    have past := recorded.cons.2 t member
    linarith

section Bucket
variable (enabled : settings.hostingRateLimitEnabled = true) (named : scope ≠ [])
include enabled named

/-- One request: the decision of the window, and the invariant after it. -/
theorem KeepsWindow.request {limit window : Int} {served : Throttled} {request : ThrottleRequest}
    (limits : limitsForScope settings scope = (limit, window))
    (bucket : throttleIdent settings request = ident)
    (keeps : KeepsWindow limit window (throttleKey scope ident) request.now served) :
    (allowRequest settings served.1 (some scope) request).1 =
        decide (Windows.recent (window : Rat) request.now served.2 < limit) ∧
      KeepsWindow limit window (throttleKey scope ident) request.now
        (serveThrottled settings scope served request) := by
  obtain ⟨dropped, parts, gone⟩ := keeps.remembers request.now le_rfl
  have count : (Windows.prune (window : Rat) request.now
      (remembered served.1 (throttleKey scope ident) request.now)).length =
      Windows.recent (window : Rat) request.now served.2 := by
    rw [parts]
    exact Windows.length_prune (parts ▸ keeps.recorded) gone
  have decision := allowRequest_eq enabled named served.1 request bucket
  rw [limits] at decision
  dsimp only at decision
  rw [count] at decision
  rw [serveThrottled, decision]
  by_cases full : limit ≤ Windows.recent (window : Rat) request.now served.2
  · rw [if_pos full]
    exact ⟨by simpa using full, keeps⟩
  · rw [if_neg full]
    refine ⟨by simpa using full, keeps.recorded.cons, ⟨not_le.mp full, keeps.admitted⟩, ?_⟩
    exact keeps.remembers.record keeps.recorded

/-- A whole run keeps the invariant, up to any time after its last request. -/
theorem serveAllThrottled_keeps {limit window : Int} {cache : ThrottleCache} {now : Rat}
    (limits : limitsForScope settings scope = (limit, window))
    (fresh : cache (throttleKey scope ident) = none) (requests : List ThrottleRequest)
    (same : SameBucket settings ident requests) (past : ∀ request ∈ requests, request.now ≤ now) :
    KeepsWindow limit window (throttleKey scope ident) now
      (serveAllThrottled settings cache scope requests) := by
  induction requests using List.reverseRecOn generalizing now with
  | nil => exact keepsWindow_fresh fresh
  | append_singleton earlier request ih =>
    have order := same.inOrder
    rw [List.map_append, List.pairwise_append] at order
    have before : ∀ other ∈ earlier, other.now ≤ request.now := fun other member =>
      order.2.2 _ (List.mem_map_of_mem member) _ (by simp)
    have kept := ih ⟨fun other member => same.bucket other (List.mem_append_left _ member),
      order.1⟩ before
    have next := (kept.request enabled named limits (same.bucket request (by simp))).2
    rw [serveAllThrottled, List.foldl_append]
    exact next.later (past request (by simp))

/-- A rejected request leaves no trace. -/
theorem serveThrottled_rejected {served : Throttled} {request : ThrottleRequest}
    (bucket : throttleIdent settings request = ident)
    (rejected : (allowRequest settings served.1 (some scope) request).1 = false) :
    serveThrottled settings scope served request = served := by
  have decision := allowRequest_eq enabled named served.1 request bucket
  rw [serveThrottled, decision]
  rw [decision] at rejected
  by_cases full : (limitsForScope settings scope).1 ≤
      (Windows.prune ((limitsForScope settings scope).2 : Rat) request.now
        (remembered served.1 (throttleKey scope ident) request.now)).length
  · rw [if_pos full]
  · rw [if_neg full] at rejected
    contradiction

/-- The throttle is the sliding window: it allows a request exactly when the window that ends
there has room, no span of its length has more allowed requests than the limit, and rejected
requests change nothing for later ones. -/
theorem throttle_slides (cache : ThrottleCache)
    (fresh : cache (throttleKey scope ident) = none) :
    (∀ (earlier : List ThrottleRequest) (request : ThrottleRequest),
      SameBucket settings ident (earlier ++ [request]) →
        ((allowRequest settings (serveAllThrottled settings cache scope earlier).1 (some scope)
            request).1 = true ↔
          (((serveAllThrottled settings cache scope earlier).2.countP fun t =>
            request.now - (limitsForScope settings scope).2 < t ∧ t ≤ request.now : Nat) : Int) <
              (limitsForScope settings scope).1)) ∧
    (∀ (requests : List ThrottleRequest) (start : Rat), SameBucket settings ident requests →
      ((serveAllThrottled settings cache scope requests).2.countP fun t =>
          start < t ∧ t ≤ start + (limitsForScope settings scope).2) ≤
        (limitsForScope settings scope).1.toNat ∧
      ((serveAllThrottled settings cache scope requests).2.countP fun t =>
          start ≤ t ∧ t < start + (limitsForScope settings scope).2) ≤
        (limitsForScope settings scope).1.toNat) ∧
    ∀ (earlier later : List ThrottleRequest) (request : ThrottleRequest),
      SameBucket settings ident (earlier ++ [request]) →
        (allowRequest settings (serveAllThrottled settings cache scope earlier).1 (some scope)
            request).1 = false →
          serveAllThrottled settings cache scope (earlier ++ request :: later) =
            serveAllThrottled settings cache scope (earlier ++ later) := by
  rcases limits : limitsForScope settings scope with ⟨limit, window⟩
  refine ⟨fun earlier request same => ?_, fun requests start same => ?_,
    fun earlier later request same rejected => ?_⟩
  · have order := same.inOrder
    rw [List.map_append, List.pairwise_append] at order
    have kept := serveAllThrottled_keeps enabled named limits fresh earlier
      ⟨fun other member => same.bucket other (List.mem_append_left _ member), order.1⟩
      fun other member => order.2.2 _ (List.mem_map_of_mem member) request.now (by simp)
    rw [(kept.request enabled named limits (same.bucket request (by simp))).1]
    exact decide_eq_true_iff
  · obtain ⟨last, past⟩ := same.past
    have kept := serveAllThrottled_keeps enabled named limits fresh requests same past
    constructor
    · apply kept.admitted.countP_le kept.recorded.1
      intro s t before after
      simp only [decide_eq_true_eq] at before after
      linarith
    · apply kept.admitted.countP_le kept.recorded.1
      intro s t before after
      simp only [decide_eq_true_eq] at before after
      linarith
  · have bucket := same.bucket request (by simp)
    have alone := serveThrottled_rejected enabled named bucket rejected
    rw [serveAllThrottled] at alone
    rw [serveAllThrottled, serveAllThrottled, List.foldl_append, List.foldl_append,
      List.foldl_cons, alone]

end Bucket

end Requests

def demoThrottle : ThrottleSettings where
  hostingRateLimitEnabled := true
  hostingRateLimits _ := some (2, 60)
  trustedProxyIps := []

def userRequest (now : Rat) : ThrottleRequest := ⟨some 1, none, none, now⟩

/-- The first of three requests has just left the window. -/
theorem throttle_slides_demo :
    (allowRequest demoThrottle (serveAllThrottled demoThrottle (fun _ => none) (lit "deploy")
      [userRequest 0, userRequest 10]).1 (some (lit "deploy")) (userRequest 60)).1 = true :=
  ((@throttle_slides demoThrottle (lit "deploy") (lit "user_1") rfl (by decide) (fun _ => none)
    rfl).1 [userRequest 0, userRequest 10] (userRequest 60)
    ⟨by decide +kernel, by decide +kernel⟩).mpr (by decide +kernel)

end HostingService
