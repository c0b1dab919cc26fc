import HostingService.Hosting.Hosts

/-! The domain of the hosted sites beside the other services: the warning at start-up, and the
cookies that a site could share with a service. -/

namespace HostingService

open Text

/-! ### `domain_scope` -/

/-- The settings that name another service or a public host. -/
structure ScopeSettings where
  identityServiceUrl : Option PyStr
  identityJwksUrl : Option PyStr
  emailServiceUrl : Option PyStr
  shelluiWebsiteUrl : Option PyStr
  shelluiDocsUrl : Option PyStr
  shelluiPlaygroundUrl : Option PyStr
  shelluiGithubUrl : Option PyStr
  shelluiAiUrl : Option PyStr
  csrfTrustedOrigins : List PyStr
  corsAllowedOrigins : List PyStr

/-- `_SERVICE_URL_SETTINGS` -/
def ScopeSettings.single (scope : ScopeSettings) : List (PyStr × Option PyStr) :=
  [(lit "IDENTITY_SERVICE_URL", scope.identityServiceUrl),
    (lit "IDENTITY_JWKS_URL", scope.identityJwksUrl),
    (lit "EMAIL_SERVICE_URL", scope.emailServiceUrl),
    (lit "SHELLUI_WEBSITE_URL", scope.shelluiWebsiteUrl),
    (lit "SHELLUI_DOCS_URL", scope.shelluiDocsUrl),
    (lit "SHELLUI_PLAYGROUND_URL", scope.shelluiPlaygroundUrl),
    (lit "SHELLUI_GITHUB_URL", scope.shelluiGithubUrl),
    (lit "SHELLUI_AI_URL", scope.shelluiAiUrl)]

/-- `_SERVICE_URL_LIST_SETTINGS` -/
def ScopeSettings.lists (scope : ScopeSettings) : List (PyStr × List PyStr) :=
  [(lit "CSRF_TRUSTED_ORIGINS", scope.csrfTrustedOrigins),
    (lit "CORS_ALLOWED_ORIGINS", scope.corsAllowedOrigins)]

def configuredServiceUrls (scope : ScopeSettings) : List (PyStr × PyStr) :=
  (scope.single.filterMap fun row => (row.2.filter (· ≠ [])).map fun value => (row.1, value)) ++
    scope.lists.flatMap fun row => ((row.2.map strip).filter (· ≠ [])).map fun text => (row.1, text)

/-- `labels[-2:]` -/
def lastTwo (labels : List PyStr) : List PyStr := labels.drop (labels.length - 2)

section
variable (tables : Unicode)

def registrableDomain (host : PyStr) : Option PyStr :=
  let value := rstripBy (· == fullStop) (tables.lower (strip host))
  if value = [] ∨ value = lit "localhost" then none
  else
    let value := if value.head? = some openBracket ∧ value.getLast? = some closeBracket then
      (value.drop 1).dropLast else value
    if (ipAddress value).isSome then none
    else
      let labels := (value.splitOn fullStop).filter (· ≠ [])
      if labels.length < 2 then none else some (hostText (lastTwo labels))

/-- `urlsplit(url).hostname`; an empty one is `None`. -/
def splitHostname (parts : SplitResult) : PyStr :=
  ParseResult.hostname tables ⟨parts.scheme, parts.netloc, parts.path, [], parts.query, parts.fragment⟩

def hostFromUrl (value : PyStr) : Except ValueError (Option PyStr) :=
  let raw := strip value
  if raw = [] then .ok none
  else do
    let absolute := raw.tails.any (lit "://").isPrefixOf
    let parts ← urlsplit tables (if absolute then raw else lit "https://" ++ raw)
    let host := splitHostname tables parts
    return if host = [] then none else some (rstripBy (· == fullStop) (tables.lower host))

/-- The loop of `shared_parent_service_urls`. -/
def sharedServiceUrls (parent : PyStr) :
    List (PyStr × PyStr) → List (PyStr × PyStr) → Except ValueError (List (PyStr × PyStr × PyStr))
  | _, [] => .ok []
  | seen, pair :: pairs => do
    let host ← hostFromUrl tables pair.2
    if host.bind (registrableDomain tables) ≠ some parent ∨ pair ∈ seen then
      sharedServiceUrls parent seen pairs
    else
      let later ← sharedServiceUrls parent (pair :: seen) pairs
      return (pair.1, pair.2, parent) :: later

def sharedParentServiceUrls (scope : ScopeSettings) (hostingDomain : PyStr) :
    Except ValueError (List (PyStr × PyStr × PyStr)) :=
  match registrableDomain tables hostingDomain with
  | none => .ok []
  | some parent => sharedServiceUrls tables parent [] (configuredServiceUrls scope)

/-- The text of the warning of `warn_shared_hosting_parent_domain`. -/
def warnSharedHostingParentDomain (scope : ScopeSettings) (redirects : RedirectSettings) :
    Except ValueError (Option PyStr) := do
  let found ← sharedParentServiceUrls tables scope redirects.hostingAppDomain
  return found.head?.map fun first =>
    lit "HOSTING_APP_DOMAIN shares the parent domain " ++ first.2.2 ++ lit " with " ++
      (lit ", ").intercalate (found.map fun row => row.1 ++ lit " (" ++ row.2.1 ++ lit ")") ++ lit "."

end

/-! ### Cookies -/

/-- A browser sends a cookie with this `Domain` to the host. -/
def DomainMatches (host domain : PyStr) : Prop :=
  host = domain ∨ fullStop :: domain <:+ host ∧ ipAddress host = none

/-- One host can set a cookie that is sent to the other; a single label is nobody's domain. -/
def SharesCookie (host other : PyStr) : Prop :=
  ∃ labels, 2 ≤ labels.length ∧ Splits labels ∧ DomainMatches host (hostText labels) ∧
    DomainMatches other (hostText labels)

theorem hostText_append {front labels : List PyStr} (first : front ≠ []) (full : labels ≠ []) :
    hostText (front ++ labels) = hostText front ++ fullStop :: hostText labels := by
  induction front with
  | nil => exact absurd rfl first
  | cons label rest ih =>
    rcases rest with _ | ⟨next, others⟩
    · have alone : hostText [label] = label := List.intercalate_singleton
      rw [List.singleton_append, hostText_cons label full, alone]
    · have longer : next :: others ++ labels ≠ [] := by simp
      rw [List.cons_append, hostText_cons label longer, ih (List.cons_ne_nil _ _),
        hostText_cons label (List.cons_ne_nil _ _), List.append_assoc]
      rfl

/-- The labels of the domain are the last ones of the host. -/
theorem domainMatches_iff {labels domain : List PyStr} (splits : Splits labels) (other : Splits domain)
    (name : ipAddress (hostText labels) = none) :
    DomainMatches (hostText labels) (hostText domain) ↔ domain <:+ labels := by
  constructor
  · rintro (same | ⟨⟨front, same⟩, _⟩)
    · rw [splits.inj other same]
    · refine ⟨front.splitOn fullStop, ?_⟩
      rw [← splits.splitOn, ← same, List.splitOn_append_cons_self, other.splitOn]
  · rintro ⟨front, rfl⟩
    rcases front with _ | ⟨label, rest⟩
    · exact .inl rfl
    · exact .inr ⟨⟨hostText (label :: rest),
        (hostText_append (List.cons_ne_nil _ _) other.full).symm⟩, name⟩

theorem lastTwo_suffix {labels domain : List PyStr} (several : 2 ≤ domain.length)
    (ends : domain <:+ labels) : lastTwo labels = lastTwo domain := by
  obtain ⟨front, rfl⟩ := ends
  have past : (front ++ domain).length - 2 = front.length + (domain.length - 2) := by
    rw [List.length_append]
    omega
  rw [lastTwo, past, ← List.drop_drop, List.drop_left, lastTwo]

theorem length_lastTwo {labels : List PyStr} (several : 2 ≤ labels.length) :
    (lastTwo labels).length = 2 := by
  rw [lastTwo, List.length_drop]
  omega

theorem Splits.lastTwo {labels : List PyStr} (splits : Splits labels) (several : 2 ≤ labels.length) :
    Splits (lastTwo labels) := by
  refine ⟨fun blank => ?_, fun label member => splits.each label (List.mem_of_mem_drop member)⟩
  have two := length_lastTwo several
  rw [blank] at two
  contradiction

/-- Two hosts share a cookie if and only if their last two labels are the same. -/
theorem sharesCookie_iff {labels others : List PyStr} (splits : Splits labels)
    (second : Splits others) (name : ipAddress (hostText labels) = none)
    (otherName : ipAddress (hostText others) = none) :
    SharesCookie (hostText labels) (hostText others) ↔
      2 ≤ labels.length ∧ 2 ≤ others.length ∧ lastTwo labels = lastTwo others := by
  constructor
  · rintro ⟨domain, several, valid, first, next⟩
    rw [domainMatches_iff splits valid name] at first
    rw [domainMatches_iff second valid otherName] at next
    refine ⟨several.trans first.length_le, several.trans next.length_le, ?_⟩
    rw [lastTwo_suffix several first, lastTwo_suffix several next]
  · rintro ⟨several, more, same⟩
    have valid := splits.lastTwo several
    refine ⟨lastTwo labels, (length_lastTwo several).ge, valid, ?_, ?_⟩
    · exact (domainMatches_iff splits valid name).mpr (List.drop_suffix _ _)
    · rw [domainMatches_iff second valid otherName, same]
      exact List.drop_suffix _ _

/-! ### The parent of a host -/

theorem eq_of_lowerAscii {c d : Nat} (small : d < 0x61) (same : lowerAscii c = d) : c = d := by
  rw [lowerAscii] at same
  split at same
  · omega
  · exact same

theorem Splits.lower {labels : List PyStr} (splits : Splits labels) :
    Splits (labels.map (·.map lowerAscii)) := by
  refine ⟨by simpa using splits.full, fun label member => ?_⟩
  obtain ⟨old, present, rfl⟩ := List.mem_map.mp member
  obtain ⟨filled, plain⟩ := splits.each old present
  refine ⟨by simpa using filled, fun stop => ?_⟩
  obtain ⟨c, within, same⟩ := List.mem_map.mp stop
  rw [eq_of_lowerAscii (by decide) same] at within
  exact plain within

/-- The labels behind at most one full stop in front. -/
theorem Splits.filter_splitOn {labels : List PyStr} (splits : Splits labels) (dotted : Bool) :
    (((if dotted then [fullStop] else []) ++ hostText labels).splitOn fullStop).filter (· ≠ []) =
      labels := by
  have kept : labels.filter (· ≠ []) = labels :=
    List.filter_eq_self.mpr fun label member => by simpa using (splits.each label member).1
  cases dotted with
  | false => rw [if_neg (by simp), List.nil_append, splits.splitOn, kept]
  | true =>
    have parted : (fullStop :: hostText labels).splitOn fullStop = [] :: labels := by
      have both := List.splitOn_append_cons_self (a := fullStop) [] (hostText labels)
      rw [List.nil_append, splits.splitOn] at both
      exact both
    rw [if_pos rfl, List.singleton_append, parted, List.filter_cons_of_neg (by simp), kept]

section
variable {tables : Unicode} {labels : List PyStr}

theorem registrableDomain_text {text : PyStr} (splits : Splits labels) (dotted : Bool)
    (value : tables.lower (strip text) = (if dotted then [fullStop] else []) ++ hostText labels)
    (plain : openBracket ∉ hostText labels) :
    registrableDomain tables text =
      if (ipAddress ((if dotted then [fullStop] else []) ++ hostText labels)).isSome ∨
          labels.length < 2 then none
      else some (hostText (lastTwo labels)) := by
  have parts := splits.filter_splitOn dotted
  have full : (if dotted then [fullStop] else []) ++ hostText labels ≠ [] :=
    List.append_ne_nil_of_right_ne_nil _ splits.text_ne_nil
  have outside : openBracket ∉ (if dotted then [fullStop] else []) ++ hostText labels := by
    intro member
    rcases List.mem_append.mp member with front | inside
    · cases dotted with
      | false => exact absurd front List.not_mem_nil
      | true => exact absurd (List.mem_singleton.mp front) (by decide)
    · exact plain inside
  have kept : rstripBy (· == fullStop) ((if dotted then [fullStop] else []) ++ hostText labels) =
      (if dotted then [fullStop] else []) ++ hostText labels := by
    rw [rstripBy_append, splits.rstrip, if_neg splits.text_ne_nil]
  rw [registrableDomain, value, kept]
  generalize (if dotted then [fullStop] else []) ++ hostText labels = found at parts full outside
  by_cases localhost : found = lit "localhost"
  · subst localhost
    have single : labels.length < 2 := by
      rw [← parts]
      decide
    rw [if_pos (.inr rfl), if_pos (.inr single)]
  · have unbracketed : ¬ (found.head? = some openBracket ∧ found.getLast? = some closeBracket) := by
      rintro ⟨first, _⟩
      exact outside (List.mem_of_head? first)
    simp only [full, localhost, if_neg unbracketed, parts, or_self, if_false]
    by_cases address : (ipAddress found).isSome = true
    · simp [address]
    · simp [address]

/-- A host name of labels. -/
theorem registrableDomain_host (lowers : tables.LowersAscii) (valid : IsDomain labels) :
    registrableDomain tables (hostText labels) =
      if (ipAddress (hostText (labels.map (·.map lowerAscii)))).isSome ∨ labels.length < 2 then none
      else some (hostText (lastTwo (labels.map (·.map lowerAscii)))) := by
  have plain : strip (hostText labels) = hostText labels := stripBy_of_not_mem _ fun c member =>
    (hostChar_facts (valid.chars member)).2.1
  have small : tables.lower (hostText labels) = hostText (labels.map (·.map lowerAscii)) := by
    rw [← map_hostText]
    exact lowers _ fun c member => (hostChar_facts (valid.chars member)).1
  have read := registrableDomain_text valid.lower.splits false
    ((congrArg tables.lower plain).trans small)
    fun member => (hostChar_facts (valid.lower.chars member)).2.2.2.2.1 rfl
  rw [read, List.length_map]
  rfl

end

/-! ### The parent of the setting -/

/-- The labels of a domain with a port: the port belongs to the last one. -/
def withPort (labels : List PyStr) : Option PyStr → List PyStr
  | none => labels
  | some port => labels.dropLast ++ [labels.getLastD [] ++ colon :: port]

theorem hostText_withPort {labels : List PyStr} (full : labels ≠ []) (port : Option PyStr) :
    hostText (withPort labels port) = hostText labels ++ portText port := by
  cases port with
  | none => rw [withPort, portText, List.append_nil]
  | some port =>
    induction labels with
    | nil => exact absurd rfl full
    | cons label rest ih =>
      rcases rest with _ | ⟨next, others⟩
      · have alone (text : PyStr) : hostText [text] = text := List.intercalate_singleton
        rw [withPort, alone]
        exact alone _
      · have tail := ih (List.cons_ne_nil _ _)
        have front : withPort (label :: next :: others) (some port) =
            label :: withPort (next :: others) (some port) := rfl
        have filled : withPort (next :: others) (some port) ≠ [] := by
          rw [withPort]
          simp
        rw [front, hostText_cons label filled, tail, hostText_cons label (List.cons_ne_nil _ _),
          List.append_assoc]
        rfl

theorem Splits.withPort {labels : List PyStr} (splits : Splits labels) {port : Option PyStr}
    (digits : ∀ text, port = some text → text ≠ [] ∧ IsPort text) : Splits (withPort labels port) := by
  cases port with
  | none => exact splits
  | some port =>
    refine ⟨by rw [HostingService.withPort]; simp, fun label member => ?_⟩
    rcases List.mem_append.mp member with front | last
    · exact splits.each label (List.mem_of_mem_dropLast front)
    · rw [List.mem_singleton.mp last]
      refine ⟨by simp, fun stop => ?_⟩
      rcases List.mem_append.mp stop with inside | behind
      · have filled : labels.getLastD [] ∈ labels := by
          rw [List.getLastD_eq_getLast?, List.getLast?_eq_some_getLast splits.full]
          exact List.getLast_mem splits.full
        exact (splits.each _ filled).2 inside
      · rcases List.mem_cons.mp behind with wrong | digit
        · exact absurd wrong (by decide)
        · have bad := (digits port rfl).2 _ digit
          contradiction

/-- A name that no numbers make up. -/
def Lettered (labels : List PyStr) : Prop :=
  ∃ c ∈ hostText labels, c ≠ fullStop ∧ isAsciiDigit c = false

theorem Lettered.lower {labels : List PyStr} (lettered : Lettered labels) :
    Lettered (labels.map (·.map lowerAscii)) := by
  obtain ⟨c, member, stop, digit⟩ := lettered
  refine ⟨lowerAscii c, ?_, fun same => stop (eq_of_lowerAscii (by decide) same), ?_⟩
  · rw [← map_hostText]
    exact List.mem_map_of_mem member
  · rw [lowerAscii]
    split
    · simp only [isAsciiDigit, Bool.and_eq_false_iff, decide_eq_false_iff_not]
      omega
    · exact digit

theorem Lettered.cons {label : PyStr} {labels : List PyStr} (full : labels ≠ [])
    (lettered : Lettered labels) : Lettered (label :: labels) := by
  obtain ⟨c, member, facts⟩ := lettered
  refine ⟨c, ?_, facts⟩
  rw [hostText_cons label full]
  exact List.mem_append_right _ (List.mem_cons_of_mem _ member)

theorem Lettered.ipAddress {labels : List PyStr} (lettered : Lettered labels) (valid : IsDomain labels)
    (dotted : Bool) :
    ipAddress ((if dotted then [fullStop] else []) ++ hostText labels) = none := by
  obtain ⟨c, member, letter⟩ := lettered
  refine ipAddress_named (List.mem_append_right _ member) letter fun wrong => ?_
  rcases List.mem_append.mp wrong with front | inside
  · cases dotted with
    | false => exact absurd front List.not_mem_nil
    | true => exact absurd (List.mem_singleton.mp front) (by decide)
  · exact (hostChar_facts (valid.chars inside)).2.2.1 rfl

namespace DomainSetting

variable {tables : Unicode} {domain : DomainSetting}

theorem registrable (lowers : tables.LowersAscii) (valid : domain.Valid) :
    registrableDomain tables domain.text =
      if (ipAddress ((if domain.dotted then [fullStop] else []) ++
          hostText ((withPort domain.labels domain.port).map (·.map lowerAscii)))).isSome ∨
        ((withPort domain.labels domain.port).map (·.map lowerAscii)).length < 2 then none
      else some (hostText (lastTwo ((withPort domain.labels domain.port).map (·.map lowerAscii)))) := by
  have joined := hostText_withPort valid.labels.full domain.port
  have chars {c : Nat} (member : c ∈ domain.text) : c = fullStop ∨ IsAuthorityChar c ∧ isSpace c = false := by
    rw [text, List.append_assoc, List.mem_append] at member
    rcases member with front | inside
    · split at front
      · exact .inl (List.mem_singleton.mp front)
      · exact absurd front List.not_mem_nil
    · exact .inr (valid.chars inside)
  have plain : strip domain.text = domain.text := stripBy_of_not_mem _ fun c member => by
    rcases chars member with rfl | facts
    · decide
    · exact facts.2
  have small : tables.lower domain.text = domain.text.map lowerAscii := lowers _ fun c member => by
    rcases chars member with rfl | facts
    · decide
    · exact facts.1.1
  refine registrableDomain_text (valid.labels.splits.withPort valid.port).lower domain.dotted ?value ?plain
  case value =>
    rw [plain, small, ← map_hostText, joined, text, List.append_assoc, List.map_append]
    congr 1
    cases domain.dotted <;> rfl
  case plain =>
    rw [← map_hostText, joined]
    intro member
    obtain ⟨c, within, same⟩ := List.mem_map.mp member
    obtain rfl := eq_of_lowerAscii (by decide) same
    exact (valid.chars within).1.2.2.1 rfl

/-- With a port the parent that is looked for has a colon, which no host name has. -/
theorem colon_mem_registrable (lowers : tables.LowersAscii) (valid : domain.Valid) {port parent : PyStr}
    (given : domain.port = some port) (found : registrableDomain tables domain.text = some parent) :
    colon ∈ parent := by
  rw [registrable lowers valid] at found
  generalize ipAddress _ = address at found
  split at found
  · contradiction
  · next several =>
    obtain rfl := Option.some.inj found
    have long := not_lt.mp (not_or.mp several).2
    rw [given, withPort, List.map_append, List.map_singleton] at long ⊢
    generalize domain.labels.dropLast.map (·.map lowerAscii) = front at long ⊢
    have colons : colon ∈ (domain.labels.getLastD [] ++ colon :: port).map lowerAscii := by
      rw [List.map_append, List.map_cons]
      exact List.mem_append_right _ List.mem_cons_self
    generalize (domain.labels.getLastD [] ++ colon :: port).map lowerAscii = last at colons long ⊢
    have alone : hostText [last] = last := List.intercalate_singleton
    have ends : lastTwo (front ++ [last]) = front.drop (front.length - 1) ++ [last] := by
      rw [lastTwo, List.length_append, List.length_singleton, List.drop_append_of_le_length (by omega)]
      rfl
    rw [ends]
    rcases front.drop (front.length - 1) with _ | ⟨label, rest⟩
    · rw [List.nil_append, alone]
      exact colons
    · rw [hostText_append (List.cons_ne_nil _ _) (List.cons_ne_nil _ _), alone]
      exact List.mem_append_right _ (List.mem_cons_of_mem _ colons)

end DomainSetting

/-! ### What the warning lists -/

section
variable {tables : Unicode} {scope : ScopeSettings}

theorem mem_sharedServiceUrls {parent : PyStr} {seen pairs : List (PyStr × PyStr)}
    {rows : List (PyStr × PyStr × PyStr)}
    (listed : sharedServiceUrls tables parent seen pairs = .ok rows) {name url shared : PyStr} :
    (name, url, shared) ∈ rows ↔ shared = parent ∧ (name, url) ∈ pairs ∧ (name, url) ∉ seen ∧
      ∃ host, hostFromUrl tables url = .ok host ∧ host.bind (registrableDomain tables) = some parent := by
  induction pairs generalizing seen rows with
  | nil =>
    cases listed
    simp
  | cons pair pairs ih =>
    rw [sharedServiceUrls] at listed
    rcases located : hostFromUrl tables pair.2 with error | host
    · rw [located] at listed
      contradiction
    · rw [located] at listed
      simp only [bind, Except.bind] at listed
      by_cases other : host.bind (registrableDomain tables) ≠ some parent ∨ pair ∈ seen
      · rw [if_pos other] at listed
        rw [ih listed]
        constructor
        · rintro ⟨same, member, facts⟩
          exact ⟨same, List.mem_cons_of_mem _ member, facts⟩
        · rintro ⟨same, member, fresh, found, placed, parented⟩
          refine ⟨same, ?_, fresh, found, placed, parented⟩
          rcases List.mem_cons.mp member with rfl | later
          · rw [located] at placed
            cases placed
            exact absurd other (not_or.mpr ⟨not_not.mpr parented, fresh⟩)
          · exact later
      · rw [if_neg other] at listed
        obtain ⟨parented, fresh⟩ := not_or.mp other
        rcases rest : sharedServiceUrls tables parent (pair :: seen) pairs with error | later
        · rw [rest] at listed
          contradiction
        · rw [rest] at listed
          cases listed
          rw [List.mem_cons, ih rest]
          by_cases own : (name, url) = pair
          · subst own
            simp only [Prod.mk.injEq, true_and]
            constructor
            · rintro (same | ⟨_, _, seen, _⟩)
              · exact ⟨same, List.mem_cons_self, fresh, host, located, not_not.mp parented⟩
              · exact absurd List.mem_cons_self seen
            · intro facts
              exact .inl facts.1
          · have different : (name, url, shared) ≠ (pair.1, pair.2, parent) := by
              intro same
              cases same
              exact own rfl
            simp [different, own]

/-- A service is listed if its host and the domain of the sites have one parent. -/
theorem listed_iff {hostingDomain : PyStr} {rows : List (PyStr × PyStr × PyStr)}
    (listed : sharedParentServiceUrls tables scope hostingDomain = .ok rows) {name url host : PyStr}
    (configured : (name, url) ∈ configuredServiceUrls scope)
    (located : hostFromUrl tables url = .ok (some host)) :
    (∃ parent, (name, url, parent) ∈ rows) ↔ ∃ parent,
      registrableDomain tables hostingDomain = some parent ∧ registrableDomain tables host = some parent := by
  rw [sharedParentServiceUrls] at listed
  rcases found : registrableDomain tables hostingDomain with _ | parent
  · simp only [found] at listed
    cases listed
    simp
  · simp only [found] at listed
    simp only [mem_sharedServiceUrls listed]
    constructor
    · rintro ⟨_, _, _, _, _, placed, parented⟩
      rw [located] at placed
      cases placed
      exact ⟨parent, rfl, parented⟩
    · rintro ⟨_, same, parented⟩
      cases same
      exact ⟨_, rfl, configured, List.not_mem_nil, some host, located, parented⟩

/-- A service is listed if and only if a site and the service can share a cookie, unless the domain
of the sites has a port: then nothing is listed. -/
theorem shared_parent_iff (lowers : tables.LowersAscii) {domain : DomainSetting} (valid : domain.Valid)
    (several : 2 ≤ domain.labels.length) (named : Lettered domain.labels)
    {rows : List (PyStr × PyStr × PyStr)}
    (listed : sharedParentServiceUrls tables scope domain.text = .ok rows) {name url : PyStr}
    (configured : (name, url) ∈ configuredServiceUrls scope) {host : List PyStr}
    (service : IsDomain host) (remote : Lettered host)
    (located : hostFromUrl tables url = .ok (some (hostText host))) (draw : SlugDraw) :
    (∃ parent, (name, url, parent) ∈ rows) ↔ domain.port = none ∧
      SharesCookie (hostText (draw.candidate :: domain.labels.map (·.map lowerAscii)))
        (hostText (host.map (·.map lowerAscii))) := by
  have site : IsDomain (draw.candidate :: domain.labels.map (·.map lowerAscii)) :=
    .cons (candidate_label draw) valid.labels.lower
  have own : ipAddress (hostText (draw.candidate :: domain.labels.map (·.map lowerAscii))) = none :=
    (named.lower.cons valid.labels.lower.full).ipAddress site false
  have other : ipAddress (hostText (host.map (·.map lowerAscii))) = none :=
    remote.lower.ipAddress service.lower false
  have length : (host.map (·.map lowerAscii)).length = host.length := List.length_map _
  have read : registrableDomain tables (hostText host) =
      if host.length < 2 then none else some (hostText (lastTwo (host.map (·.map lowerAscii)))) := by
    rw [registrableDomain_host lowers service, other]
    simp
  rw [sharesCookie_iff site.splits service.lower.splits own other, listed_iff listed configured located,
    read, length]
  rcases given : domain.port with _ | port
  · have labelled : 2 ≤ (domain.labels.map (·.map lowerAscii)).length := by
      rw [List.length_map]
      exact several
    have ended : lastTwo (draw.candidate :: domain.labels.map (·.map lowerAscii)) =
        lastTwo (domain.labels.map (·.map lowerAscii)) :=
      lastTwo_suffix labelled (List.suffix_cons _ _)
    have parent : registrableDomain tables domain.text =
        some (hostText (lastTwo (domain.labels.map (·.map lowerAscii)))) := by
      have plain := named.lower.ipAddress valid.labels.lower domain.dotted
      rw [DomainSetting.registrable lowers valid, given, withPort, plain, if_neg]
      rintro (wrong | short)
      · contradiction
      · omega
    rw [parent, ended]
    constructor
    · rintro ⟨_, same, parented⟩
      cases same
      split at parented
      · contradiction
      · next long =>
        have much : 2 ≤ host.length := not_lt.mp long
        have same := (service.lower.splits.lastTwo (length ▸ much)).inj
          (valid.labels.lower.splits.lastTwo labelled) (Option.some.inj parented)
        exact ⟨rfl, labelled.trans (Nat.le_succ _), much, same.symm⟩
    · rintro ⟨_, _, much, same⟩
      exact ⟨_, rfl, by rw [if_neg (not_lt.mpr much), same]⟩
  · refine ⟨?_, fun wrong => by cases wrong.1⟩
    rintro ⟨parent, found, parented⟩
    -- Host names have no colon.
    have colons : colon ∈ parent := domain.colon_mem_registrable lowers valid given found
    split at parented
    · contradiction
    · next long =>
      have much : 2 ≤ (host.map (·.map lowerAscii)).length := length ▸ not_lt.mp long
      have parts : IsDomain (lastTwo (host.map (·.map lowerAscii))) :=
        ⟨(service.lower.splits.lastTwo much).full, fun label present =>
          service.lower.each label (List.mem_of_mem_drop present)⟩
      rw [← Option.some.inj parented] at colons
      exact absurd rfl (hostChar_facts (parts.chars colons)).2.2.1

end

/-! Sites and the identity service under one domain. -/

def sharedScope : ScopeSettings where
  identityServiceUrl := some (lit "https://identity.example.com")
  identityJwksUrl := none
  emailServiceUrl := none
  shelluiWebsiteUrl := none
  shelluiDocsUrl := none
  shelluiPlaygroundUrl := none
  shelluiGithubUrl := none
  shelluiAiUrl := none
  csrfTrustedOrigins := []
  corsAllowedOrigins := []

def sharedDomain (port : Option PyStr) : DomainSetting :=
  ⟨[lit "apps", lit "example", lit "com"], port, false⟩

def sharedDraw : SlugDraw := ⟨3, fun _ => 0⟩

def sharedRow : PyStr × PyStr × PyStr :=
  (lit "IDENTITY_SERVICE_URL", lit "https://identity.example.com", lit "example.com")

theorem exampleDomain {label : PyStr} (valid : IsLabel label) :
    IsDomain [label, lit "example", lit "com"] := by
  have names : IsLabel (lit "example") ∧ IsLabel (lit "com") :=
    ⟨⟨by decide, by decide, by decide, by decide⟩, ⟨by decide, by decide, by decide, by decide⟩⟩
  refine .cons valid (.cons names.1 ⟨List.cons_ne_nil _ _, fun other member => ?_⟩)
  rw [List.mem_singleton.mp member]
  exact names.2

theorem shared_parent_iff_identity :
    (∃ parent, (lit "IDENTITY_SERVICE_URL", lit "https://identity.example.com", parent) ∈ [sharedRow]) ↔
      (sharedDomain none).port = none ∧
        SharesCookie
          (hostText (sharedDraw.candidate :: (sharedDomain none).labels.map (·.map lowerAscii)))
          (hostText ([lit "identity", lit "example", lit "com"].map (·.map lowerAscii))) := by
  have apps : IsLabel (lit "apps") := ⟨by decide, by decide, by decide, by decide⟩
  have identity : IsLabel (lit "identity") := ⟨by decide, by decide, by decide, by decide⟩
  have valid : (sharedDomain none).Valid := ⟨exampleDomain apps, fun port given => by cases given⟩
  have listed : sharedParentServiceUrls asciiTables sharedScope (sharedDomain none).text =
      .ok [sharedRow] := rfl
  have located : hostFromUrl asciiTables (lit "https://identity.example.com") =
      .ok (some (hostText [lit "identity", lit "example", lit "com"])) := rfl
  exact shared_parent_iff asciiTables_lowersAscii valid (by decide) ⟨0x61, by decide, by decide⟩ listed
    (by decide) (exampleDomain identity) ⟨0x69, by decide, by decide⟩ located sharedDraw

example : sharedParentServiceUrls asciiTables sharedScope (sharedDomain (some (lit "8080"))).text =
    .ok [] := rfl

end HostingService
