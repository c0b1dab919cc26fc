import HostingService.Config.ClientIp
import HostingService.Hosting.Redirects

/-! The slug of a site in a host name, and the host name of a site in its public URL. -/

namespace HostingService

open Text

/-! ### `slug_from_host` -/

/-- Host names that are no site. -/
def reservedHosts : List PyStr := [lit "localhost", lit "testserver"]

/-- First labels of infrastructure. -/
def reservedLabels : List PyStr := [lit "www", lit "hosting", lit "api", lit "admin"]

section
variable (tables : Unicode) (redirects : RedirectSettings)

/-- `_normalize` -/
def normalizeHost (host : PyStr) : PyStr :=
  lstripBy (· == fullStop)
    (rstripBy (· == fullStop) (tables.lower (strip (partition colon host).1)))

def slugFromHost (host : PyStr) : Option PyStr :=
  let host := normalizeHost tables host
  if host = [] ∨ host ∈ reservedHosts then none
  else
    let domain := normalizeHost tables redirects.hostingAppDomain
    if domain ≠ [] ∧ (host = domain ∨ host = lit "www." ++ domain) then none
    else if (ipAddress host).isSome then none
    else
      let labels := host.splitOn fullStop
      if labels.length < 3 then none
      else
        let slug := strip (labels.headD [])
        if slug = [] ∨ slug ∈ reservedLabels then none else some slug

end

/-! ### Domains -/

def isLabelChar (c : Nat) : Bool := isAsciiAlpha c || isAsciiDigit c || c == hyphen

/-- A DNS label. -/
structure IsLabel (label : PyStr) : Prop where
  full : label ≠ []
  short : label.length ≤ 63
  chars : ∀ c ∈ label, isLabelChar c = true
  inner : label.head? ≠ some hyphen ∧ label.getLast? ≠ some hyphen

/-- The labels of a domain, at least one. -/
structure IsDomain (labels : List PyStr) : Prop where
  full : labels ≠ []
  each : ∀ label ∈ labels, IsLabel label

def hostText (labels : List PyStr) : PyStr := [fullStop].intercalate labels

/-- `:port`, where there is one. -/
def portText : Option PyStr → PyStr
  | none => []
  | some port => colon :: port

/-- A value of `HOSTING_APP_DOMAIN`. -/
structure DomainSetting where
  labels : List PyStr
  port : Option PyStr
  dotted : Bool

namespace DomainSetting

def text (domain : DomainSetting) : PyStr :=
  (if domain.dotted then [fullStop] else []) ++ hostText domain.labels ++ portText domain.port

structure Valid (domain : DomainSetting) : Prop where
  labels : IsDomain domain.labels
  port : ∀ port, domain.port = some port → port ≠ [] ∧ IsPort port

end DomainSetting

/-- What host names consist of. -/
def IsHostChar (c : Nat) : Prop := isLabelChar c = true ∨ c = fullStop

def lowerAscii (c : Nat) : Nat := if 0x41 ≤ c ∧ c ≤ 0x5A then c + 0x20 else c

theorem labelChar_bounds {c : Nat} (label : isLabelChar c = true) :
    c = hyphen ∨ 0x30 ≤ c ∧ c ≤ 0x39 ∨ 0x41 ≤ c ∧ c ≤ 0x5A ∨ 0x61 ≤ c ∧ c ≤ 0x7A := by
  simp only [isLabelChar, isAsciiAlpha, isAsciiDigit, Bool.or_eq_true, Bool.and_eq_true,
    decide_eq_true_eq, beq_iff_eq] at label
  omega

theorem hostChar_facts {c : Nat} (host : IsHostChar c) :
    c < 0x80 ∧ isSpace c = false ∧ c ≠ colon ∧ isNetlocEnd c = false ∧ c ≠ openBracket ∧
      c ≠ closeBracket ∧ isUnsafe c = false := by
  have small : c < 0x7B := by
    rcases host with label | rfl
    · have := labelChar_bounds label
      simp only [hyphen] at this
      omega
    · decide
  have table : ∀ c < 0x7B, (isLabelChar c || c == fullStop) = true →
      c < 0x80 ∧ isSpace c = false ∧ c ≠ colon ∧ isNetlocEnd c = false ∧ c ≠ openBracket ∧
        c ≠ closeBracket ∧ isUnsafe c = false := by decide
  apply table c small
  rw [Bool.or_eq_true, beq_iff_eq]
  exact host

/-! ### Host names of labels -/

/-- Labels that a host name can be split into again. -/
structure Splits (labels : List PyStr) : Prop where
  full : labels ≠ []
  each : ∀ label ∈ labels, label ≠ [] ∧ fullStop ∉ label

theorem IsLabel.no_stop {label : PyStr} (valid : IsLabel label) : fullStop ∉ label := by
  intro member
  have bad := valid.chars _ member
  contradiction

theorem IsDomain.splits {labels : List PyStr} (valid : IsDomain labels) : Splits labels :=
  ⟨valid.full, fun label member => ⟨(valid.each label member).full, (valid.each label member).no_stop⟩⟩

theorem IsDomain.cons {label : PyStr} {labels : List PyStr} (first : IsLabel label)
    (valid : IsDomain labels) : IsDomain (label :: labels) :=
  ⟨List.cons_ne_nil _ _, List.forall_mem_cons.mpr ⟨first, valid.each⟩⟩

theorem hostText_cons (label : PyStr) {labels : List PyStr} (full : labels ≠ []) :
    hostText (label :: labels) = label ++ fullStop :: hostText labels := by
  rw [hostText, List.intercalate_cons_of_ne_nil full, List.append_assoc]
  rfl

theorem Splits.tail {label : PyStr} {labels : List PyStr} (full : labels ≠ [])
    (splits : Splits (label :: labels)) : Splits labels :=
  ⟨full, fun other member => splits.each other (List.mem_cons_of_mem _ member)⟩

theorem Splits.splitOn {labels : List PyStr} (splits : Splits labels) :
    (hostText labels).splitOn fullStop = labels :=
  List.splitOn_intercalate fullStop (fun label member => (splits.each label member).2) splits.full

theorem Splits.inj {labels others : List PyStr} (splits : Splits labels) (other : Splits others)
    (same : hostText labels = hostText others) : labels = others := by
  rw [← splits.splitOn, same, other.splitOn]

theorem Splits.text_ne_nil {labels : List PyStr} (splits : Splits labels) : hostText labels ≠ [] := by
  intro blank
  have parts := splits.splitOn
  rw [blank] at parts
  have member : [] ∈ labels := by
    rw [← parts]
    exact List.mem_singleton_self _
  exact (splits.each [] member).1 rfl

/-- A host name neither starts nor ends with a full stop. -/
theorem Splits.rstrip {labels : List PyStr} (splits : Splits labels) :
    rstripBy (· == fullStop) (hostText labels) = hostText labels := by
  induction labels with
  | nil => exact absurd rfl splits.full
  | cons label rest ih =>
    rcases rest with _ | ⟨next, others⟩
    · have plain : hostText [label] = label := List.intercalate_singleton
      rw [plain]
      apply rstripBy_of_not_mem
      intro c member
      rw [beq_eq_false_iff_ne]
      rintro rfl
      exact (splits.each label List.mem_cons_self).2 member
    · have tail := splits.tail (List.cons_ne_nil next others)
      rw [hostText_cons label (List.cons_ne_nil next others), List.append_cons, rstripBy_append,
        ih tail, if_neg tail.text_ne_nil]

theorem Splits.lstrip {labels : List PyStr} (splits : Splits labels) :
    lstripBy (· == fullStop) (hostText labels) = hostText labels := by
  obtain ⟨full, each⟩ := splits
  rcases labels with _ | ⟨label, rest⟩
  · exact absurd rfl full
  · obtain ⟨filled, plain⟩ := each label List.mem_cons_self
    rcases label with _ | ⟨c, cs⟩
    · exact absurd rfl filled
    · have first : (c == fullStop) = false := by
        rw [beq_eq_false_iff_ne]
        rintro rfl
        exact plain List.mem_cons_self
      rcases rest with _ | ⟨next, others⟩
      · have alone : hostText [c :: cs] = c :: cs := List.intercalate_singleton
        rw [alone]
        exact lstripBy_cons (· == fullStop) first cs
      · rw [hostText_cons _ (List.cons_ne_nil next others)]
        exact lstripBy_cons (· == fullStop) first _

theorem map_hostText (labels : List PyStr) :
    (hostText labels).map lowerAscii = hostText (labels.map (·.map lowerAscii)) := by
  induction labels with
  | nil => rfl
  | cons label rest ih =>
    rcases rest with _ | ⟨next, others⟩
    · simp [hostText]
    · have tail : (next :: others).map (·.map lowerAscii) ≠ [] := List.cons_ne_nil _ _
      rw [hostText_cons label (List.cons_ne_nil next others), List.map_append, List.map_cons, ih]
      exact (hostText_cons (label.map lowerAscii) tail).symm

theorem lowerAscii_label {c : Nat} (label : isLabelChar c = true) :
    isLabelChar (lowerAscii c) = true ∧ (lowerAscii c = hyphen → c = hyphen) := by
  have bounds := labelChar_bounds label
  have small : c < 0x7B := by
    simp only [hyphen] at bounds
    omega
  have table : ∀ c < 0x7B, isLabelChar c = true →
      isLabelChar (lowerAscii c) = true ∧ (lowerAscii c = hyphen → c = hyphen) := by decide
  exact table c small label

theorem IsLabel.lower {label : PyStr} (valid : IsLabel label) : IsLabel (label.map lowerAscii) := by
  have edge {c : Option Nat} (member : ∀ d ∈ c, d ∈ label) (inner : c ≠ some hyphen) :
      c.map lowerAscii ≠ some hyphen := by
    intro same
    obtain ⟨d, here, dash⟩ := Option.map_eq_some_iff.mp same
    rw [here, (lowerAscii_label (valid.chars d (member d here))).2 dash] at inner
    exact inner rfl
  refine ⟨by simpa using valid.full, by simpa using valid.short, ?_, ?_, ?_⟩
  · intro c member
    obtain ⟨d, within, rfl⟩ := List.mem_map.mp member
    exact (lowerAscii_label (valid.chars d within)).1
  · rw [List.head?_map]
    exact edge (fun _ => List.mem_of_mem_head?) valid.inner.1
  · rw [List.getLast?_map]
    exact edge (fun _ => List.mem_of_mem_getLast?) valid.inner.2

theorem IsDomain.lower {labels : List PyStr} (valid : IsDomain labels) :
    IsDomain (labels.map (·.map lowerAscii)) := by
  constructor
  · simpa using valid.full
  · intro label member
    obtain ⟨old, present, rfl⟩ := List.mem_map.mp member
    exact (valid.each old present).lower

theorem IsDomain.chars {labels : List PyStr} (valid : IsDomain labels) {c : Nat}
    (member : c ∈ hostText labels) : IsHostChar c := by
  rcases mem_intercalate member with same | ⟨label, present, within⟩
  · exact .inr same
  · exact .inl ((valid.each label present).chars c within)

theorem IsLabel.www : IsLabel (lit "www") :=
  ⟨by decide, by decide, by decide, by decide, by decide⟩

theorem reservedHosts_single : ∀ host ∈ reservedHosts, (host.splitOn fullStop).length = 1 := by
  decide

theorem ipAddress_named {host : PyStr} {c : Nat} (member : c ∈ host)
    (letter : c ≠ fullStop ∧ isAsciiDigit c = false) (single : colon ∉ host) :
    ipAddress host = none := by
  rw [ipAddress, IPv4Address.parse_foreign letter.1 letter.2 member]
  rcases read : IPv6Address.parse host with _ | address
  · rfl
  · have colons := ipv6_parse_colons read
    rw [List.count_eq_zero.mpr single] at colons
    omega

theorem lstripBy_append {drop : Nat → Bool} {front : PyStr} (full : front ≠ [])
    (kept : lstripBy drop front = front) (text : PyStr) :
    lstripBy drop (front ++ text) = front ++ text := by
  cases front with
  | nil => exact absurd rfl full
  | cons c rest =>
    cases dropped : drop c with
    | false => exact lstripBy_cons drop dropped _
    | true =>
      have shorter := (@List.dropWhile_sublist _ rest drop).length_le
      have same : rest.dropWhile drop = c :: rest :=
        (List.dropWhile_cons_of_pos dropped).symm.trans kept
      rw [same, List.length_cons] at shorter
      omega

theorem candidate_chars (draw : SlugDraw) {c : Nat} (member : c ∈ draw.candidate) :
    0x61 ≤ c ∧ c ≤ 0x7A ∨ 0x30 ≤ c ∧ c ≤ 0x39 := by
  rw [SlugDraw.candidate, List.mem_cons, List.mem_map] at member
  rcases member with rfl | ⟨choice, _, rfl⟩
  · have := draw.first.isLt
    omega
  · have := choice.isLt
    rw [slugLetter]
    split <;> omega

theorem candidate_label (draw : SlugDraw) : IsLabel draw.candidate := by
  have length := candidate_length draw
  have dashless : hyphen ∉ draw.candidate := fun member => by
    have := candidate_chars draw member
    simp [hyphen] at this
  refine ⟨?_, by omega, fun c member => ?_, ?_, ?_⟩
  · intro blank
    rw [blank] at length
    contradiction
  · have bounds := candidate_chars draw member
    simp only [isLabelChar, isAsciiAlpha, isAsciiDigit, Bool.or_eq_true, Bool.and_eq_true,
      decide_eq_true_eq, beq_iff_eq]
    omega
  · intro first
    exact dashless (List.mem_of_mem_head? first)
  · intro last
    exact dashless (List.mem_of_mem_getLast? last)

theorem candidate_lower (draw : SlugDraw) : draw.candidate.map lowerAscii = draw.candidate := by
  apply (List.map_congr_left fun c member => ?_).trans (List.map_id _)
  have bounds := candidate_chars draw member
  rw [lowerAscii, if_neg (by omega)]
  rfl

theorem candidate_named (draw : SlugDraw) :
    ∃ c ∈ draw.candidate, c ≠ fullStop ∧ isAsciiDigit c = false := by
  have := draw.first.isLt
  refine ⟨0x61 + draw.first.val, List.mem_cons_self, ?_, ?_⟩
  · simp only [fullStop]
    omega
  · simp only [isAsciiDigit, Bool.and_eq_false_iff, decide_eq_false_iff_not]
    omega

theorem candidate_free (draw : SlugDraw) : draw.candidate ∉ reservedLabels := by
  have lengths : ∀ label ∈ reservedLabels, label.length ≠ 12 := by decide
  exact fun member => lengths _ member (candidate_length draw)

/-- May stand in the authority of a URL. -/
def IsAuthorityChar (c : Nat) : Prop :=
  c < 0x80 ∧ isNetlocEnd c = false ∧ c ≠ openBracket ∧ c ≠ closeBracket ∧ isUnsafe c = false

theorem IsPort.facts {port : PyStr} (valid : IsPort port) {c : Nat} (member : c ∈ port) :
    IsAuthorityChar c ∧ isSpace c = false := by
  have digit := valid c member
  simp only [isAsciiDigit, Bool.and_eq_true, decide_eq_true_eq] at digit
  have table : ∀ c < 0x3A, 0x30 ≤ c → (c < 0x80 ∧ isNetlocEnd c = false ∧ c ≠ openBracket ∧
      c ≠ closeBracket ∧ isUnsafe c = false) ∧ isSpace c = false := by decide
  exact table c (by omega) digit.1

namespace DomainSetting.Valid
variable {domain : DomainSetting} (valid : domain.Valid)
include valid

/-- The domain and its port, as they stand in an authority. -/
theorem chars {c : Nat} (member : c ∈ hostText domain.labels ++ portText domain.port) :
    IsAuthorityChar c ∧ isSpace c = false := by
  rw [List.mem_append] at member
  rcases member with host | port
  · have facts := hostChar_facts (valid.labels.chars host)
    exact ⟨⟨facts.1, facts.2.2.2.1, facts.2.2.2.2⟩, facts.2.1⟩
  · cases given : domain.port with
    | none => simp [given, portText] at port
    | some digits =>
      rw [given, portText, List.mem_cons] at port
      rcases port with rfl | digit
      · exact ⟨by unfold IsAuthorityChar; decide, by decide⟩
      · exact (valid.port digits given).2.facts digit

/-- `_app_domain` leaves the setting without the full stop in front. -/
theorem appDomain {redirects : RedirectSettings}
    (setting : redirects.hostingAppDomain = domain.text) :
    appDomain redirects = hostText domain.labels ++ portText domain.port := by
  have plain : ∀ c ∈ domain.text, isSpace c = false := by
    intro c member
    rw [text, List.append_assoc, List.mem_append] at member
    rcases member with front | inside
    · split at front
      · obtain rfl := List.mem_singleton.mp front
        decide
      · exact absurd front List.not_mem_nil
    · exact (valid.chars inside).2
  have host := valid.labels.splits
  have kept := lstripBy_append host.text_ne_nil host.lstrip (portText domain.port)
  rw [HostingService.appDomain, setting, strip, stripBy_of_not_mem _ plain, text, List.append_assoc]
  cases domain.dotted with
  | false => exact kept
  | true =>
    rw [if_pos rfl, List.singleton_append, lstripBy, List.dropWhile_cons_of_pos (by decide)]
    exact kept

end DomainSetting.Valid

theorem appScheme_known (tables : Unicode) (redirects : RedirectSettings) :
    appScheme tables redirects = lit "http" ∨ appScheme tables redirects = lit "https" := by
  rw [appScheme]
  generalize tables.lower (strip _) = scheme
  split
  · assumption
  · exact .inr rfl

section
variable {tables : Unicode} (lowers : tables.LowersAscii) {labels : List PyStr}
include lowers

theorem normalizeHost_text {text : PyStr} (host : ∀ c ∈ text, IsHostChar c) (port : Option PyStr) :
    normalizeHost tables (text ++ portText port) =
      lstripBy (· == fullStop) (rstripBy (· == fullStop) (text.map lowerAscii)) := by
  have absent : colon ∉ text := fun member => (hostChar_facts (host _ member)).2.2.1 rfl
  have first : (partition colon (text ++ portText port)).1 = text := by
    cases port with
    | none => rw [portText, List.append_nil, partition_absent absent]
    | some port => rw [portText, partition_first absent]
  have plain : strip text = text := stripBy_of_not_mem _ fun c member =>
    (hostChar_facts (host c member)).2.1
  have small : tables.lower text = text.map lowerAscii :=
    lowers text fun c member => (hostChar_facts (host c member)).1
  rw [normalizeHost, first, plain, small]

/-- A host name is normalized to the small letters of its labels, also behind a full stop. -/
theorem normalizeHost_domain (valid : IsDomain labels) (port : Option PyStr) (dotted : Bool) :
    normalizeHost tables ((if dotted then [fullStop] else []) ++ hostText labels ++ portText port) =
      hostText (labels.map (·.map lowerAscii)) := by
  have host : ∀ c ∈ (if dotted then [fullStop] else []) ++ hostText labels, IsHostChar c := by
    intro c member
    rw [List.mem_append] at member
    rcases member with front | inside
    · cases dotted with
      | false => exact absurd front List.not_mem_nil
      | true => exact .inr (List.mem_singleton.mp front)
    · exact valid.chars inside
  have lower := valid.lower.splits
  rw [normalizeHost_text lowers host, List.map_append, map_hostText, rstripBy_append, lower.rstrip,
    if_neg lower.text_ne_nil]
  cases dotted with
  | false => exact lower.lstrip
  | true =>
    have stop : lowerAscii fullStop = fullStop := rfl
    rw [if_pos rfl, List.map_singleton, List.singleton_append, stop, lstripBy,
      List.dropWhile_cons_of_pos (by decide)]
    exact lower.lstrip

/-! ### Public URLs and host names -/

variable {redirects : RedirectSettings}

/-- The labels before the domain decide about a host name on it. -/
theorem slugFromHost_labels (domain : DomainSetting) (valid : domain.Valid)
    (setting : redirects.hostingAppDomain = domain.text) {slug : PyStr} (label : IsLabel slug)
    (small : slug.map lowerAscii = slug) (named : ∃ c ∈ slug, c ≠ fullStop ∧ isAsciiDigit c = false)
    (free : slug ∉ reservedLabels) (several : 2 ≤ domain.labels.length) (port : Option PyStr) :
    slugFromHost tables redirects (hostText (slug :: domain.labels) ++ portText port) = some slug := by
  have whole := valid.labels.cons label
  have lower := whole.lower.splits
  have host : normalizeHost tables (hostText (slug :: domain.labels) ++ portText port) =
      hostText ((slug :: domain.labels).map (·.map lowerAscii)) := by
    have normal := normalizeHost_domain lowers whole port false
    exact normal
  have base : normalizeHost tables redirects.hostingAppDomain =
      hostText (domain.labels.map (·.map lowerAscii)) := by
    rw [setting]
    exact normalizeHost_domain lowers valid.labels domain.port domain.dotted
  rw [List.map_cons, small] at host lower
  have suffix := valid.labels.lower.splits
  have count : 3 ≤ (slug :: domain.labels.map (·.map lowerAscii)).length := by
    rw [List.length_cons, List.length_map]
    omega
  have apart : hostText (slug :: domain.labels.map (·.map lowerAscii)) ∉ reservedHosts := by
    intro member
    have one := reservedHosts_single _ member
    rw [lower.splitOn] at one
    omega
  have below : hostText (slug :: domain.labels.map (·.map lowerAscii)) ≠
      hostText (domain.labels.map (·.map lowerAscii)) := by
    intro same
    have lengths := congrArg List.length (lower.inj suffix same)
    rw [List.length_cons] at lengths
    omega
  have beside : hostText (slug :: domain.labels.map (·.map lowerAscii)) ≠
      lit "www." ++ hostText (domain.labels.map (·.map lowerAscii)) := by
    intro same
    have www : Splits (lit "www" :: domain.labels.map (·.map lowerAscii)) :=
      ⟨List.cons_ne_nil _ _, List.forall_mem_cons.mpr ⟨⟨by decide, by decide⟩, suffix.each⟩⟩
    have first : lit "www." ++ hostText (domain.labels.map (·.map lowerAscii)) =
        hostText (lit "www" :: domain.labels.map (·.map lowerAscii)) :=
      (hostText_cons (lit "www") suffix.full).symm
    rw [(List.cons.inj (lower.inj www (same.trans first))).1] at free
    exact free (by decide)
  have number : ipAddress (hostText (slug :: domain.labels.map (·.map lowerAscii))) = none := by
    obtain ⟨c, member, letter⟩ := named
    refine ipAddress_named ?_ letter ?_
    · rw [hostText_cons slug suffix.full]
      exact List.mem_append_left _ member
    · intro member
      exact (hostChar_facts ((valid.labels.lower.cons label).chars member)).2.2.1 rfl
  have plain : strip slug = slug := stripBy_of_not_mem _ fun c member =>
    (hostChar_facts (.inl (label.chars c member))).2.1
  rw [slugFromHost, host, base]
  dsimp only
  rw [if_neg (not_or.mpr ⟨lower.text_ne_nil, apart⟩),
    if_neg (fun both => both.2.elim below beside), number, if_neg (by decide), lower.splitOn,
    if_neg (by omega), List.headD_cons, plain, if_neg (not_or.mpr ⟨label.full, free⟩)]

/-- The domain and `www.` on it are the platform. -/
theorem slugFromHost_apex (domain : DomainSetting) (valid : domain.Valid)
    (setting : redirects.hostingAppDomain = domain.text) {host : PyStr}
    (apex : normalizeHost tables host = hostText (domain.labels.map (·.map lowerAscii)) ∨
      normalizeHost tables host = lit "www." ++ hostText (domain.labels.map (·.map lowerAscii))) :
    slugFromHost tables redirects host = none := by
  have base : normalizeHost tables redirects.hostingAppDomain =
      hostText (domain.labels.map (·.map lowerAscii)) := by
    rw [setting]
    exact normalizeHost_domain lowers valid.labels domain.port domain.dotted
  rw [slugFromHost, base]
  dsimp only
  split
  · rfl
  · rw [if_pos ⟨valid.labels.lower.splits.text_ne_nil, apex⟩]

theorem slugFromHost_platform (domain : DomainSetting) (valid : domain.Valid)
    (setting : redirects.hostingAppDomain = domain.text) (port : Option PyStr) (dotted : Bool) :
    slugFromHost tables redirects
        ((if dotted then [fullStop] else []) ++ hostText domain.labels ++ portText port) = none ∧
      slugFromHost tables redirects (lit "www." ++ hostText domain.labels ++ portText port) =
        none := by
  constructor
  · exact slugFromHost_apex lowers domain valid setting
      (.inl (normalizeHost_domain lowers valid.labels port dotted))
  · apply slugFromHost_apex lowers domain valid setting
    right
    have joined (labels : List PyStr) (full : labels ≠ []) :
        lit "www." ++ hostText labels = hostText (lit "www" :: labels) :=
      (hostText_cons (lit "www") full).symm
    have normal := normalizeHost_domain lowers (valid.labels.cons IsLabel.www) port false
    rw [joined _ valid.labels.full, joined _ valid.labels.lower.full]
    exact normal

/-! ### The URL of a site -/

theorem urlsplit_site {scheme netloc : PyStr} (known : scheme = lit "http" ∨ scheme = lit "https")
    (host : ∀ c ∈ netloc, IsAuthorityChar c) :
    urlsplit tables (scheme ++ lit "://" ++ netloc ++ lit "/") =
      .ok ⟨scheme, netloc, lit "/", [], []⟩ := by
  have lower : tables.lower scheme = scheme := by
    rcases known with rfl | rfl
    · exact lowers _ (by decide)
    · exact lowers _ (by decide)
  have url : scheme ++ lit "://" ++ netloc ++ lit "/" =
      scheme ++ colon :: slash :: slash :: (netloc ++ [slash]) := by
    simp [lit_eq, colon, slash]
  have clean : (lstripBy isControlOrSpace
      (scheme ++ colon :: slash :: slash :: (netloc ++ [slash]))).filter (fun c => !isUnsafe c) =
      scheme ++ colon :: slash :: slash :: (netloc ++ [slash]) := by
    have first : lstripBy isControlOrSpace
        (scheme ++ colon :: slash :: slash :: (netloc ++ [slash])) =
        scheme ++ colon :: slash :: slash :: (netloc ++ [slash]) := by
      rcases known with rfl | rfl
      · exact lstripBy_cons _ (by decide) _
      · exact lstripBy_cons _ (by decide) _
    rw [first, List.filter_eq_self]
    intro c member
    simp only [List.mem_append, List.mem_cons, List.not_mem_nil, or_false] at member
    rcases member with front | rfl | rfl | rfl | inside | rfl
    · rcases known with rfl | rfl
      · exact (by decide : ∀ c ∈ lit "http", (!isUnsafe c) = true) c front
      · exact (by decide : ∀ c ∈ lit "https", (!isUnsafe c) = true) c front
    · decide
    · decide
    · decide
    · rw [(host c inside).2.2.2.2]
      rfl
    · decide
  have schemes : splitScheme tables (scheme ++ colon :: slash :: slash :: (netloc ++ [slash])) =
      (scheme, slash :: slash :: (netloc ++ [slash])) := by
    have absent : colon ∉ scheme := by
      rcases known with rfl | rfl
      · decide
      · decide
    have good : (scheme.head?.any isAsciiAlpha && scheme.all isSchemeChar) = true := by
      rcases known with rfl | rfl
      · decide
      · decide
    rw [splitScheme, partition_first absent]
    dsimp only
    rw [if_pos good, lower]
  have inner : ∀ c ∈ netloc, (!isNetlocEnd c) = true := fun c member => by
    rw [(host c member).2.1]
    rfl
  have netlocs : splitNetloc (slash :: slash :: (netloc ++ [slash])) = (netloc, [slash]) := by
    have front : (slash :: slash :: (netloc ++ [slash])).take 2 = [slash, slash] := rfl
    have stop : (!isNetlocEnd slash) = false := by decide
    have rest : (slash :: slash :: (netloc ++ [slash])).drop 2 = netloc ++ [slash] := rfl
    rw [splitNetloc, if_pos front, rest, List.takeWhile_append_of_pos inner, List.dropWhile_append_of_pos inner]
    simp [stop]
  have brackets : bracketsMatch netloc = true := by
    have opening : netloc.contains openBracket = false := by
      simpa using fun member => (host _ member).2.2.1 rfl
    have closing : netloc.contains closeBracket = false := by
      simpa using fun member => (host _ member).2.2.2.1 rfl
    rw [bracketsMatch, opening, closing]
    rfl
  have ascii : checknetloc tables netloc = true := by
    rw [checknetloc, if_pos]
    exact List.all_eq_true.mpr fun c member => decide_eq_true (host c member).1
  rw [url, urlsplit]
  simp only [clean, schemes, netlocs, brackets, ascii]
  rfl

/-- The URL of a site and the slug in its host name belong together, when the domain has two
labels or more; the domain itself is no site. -/
theorem public_url_round_trip (domain : DomainSetting) (valid : domain.Valid)
    (setting : redirects.hostingAppDomain = domain.text) (draw : SlugDraw) :
    let authority := draw.candidate ++ lit "." ++ appDomain redirects
    buildAppUrl tables redirects draw.candidate =
        .ok (appScheme tables redirects ++ lit "://" ++ authority ++ lit "/") ∧
      (2 ≤ domain.labels.length → slugFromHost tables redirects authority = some draw.candidate) ∧
      (∀ app : App, app.slug = draw.candidate → appOrigin tables redirects app =
        some (appScheme tables redirects ++ lit "://" ++ authority)) ∧
      slugFromHost tables redirects domain.text = none ∧
      ∀ port, slugFromHost tables redirects (hostText domain.labels ++ portText port) = none ∧
        slugFromHost tables redirects (lit "www." ++ hostText domain.labels ++ portText port) =
          none := by
  have label := candidate_label draw
  have site : draw.candidate ++ lit "." ++ appDomain redirects =
      hostText (draw.candidate :: domain.labels) ++ portText domain.port := by
    rw [valid.appDomain setting, hostText_cons _ valid.labels.full]
    simp [lit_eq, fullStop]
  have plain : strip draw.candidate = draw.candidate := stripBy_of_not_mem _ fun c member =>
    (hostChar_facts (.inl (label.chars c member))).2.1
  have some_domain : appDomain redirects ≠ [] := by
    rw [valid.appDomain setting]
    exact List.append_ne_nil_of_left_ne_nil valid.labels.splits.text_ne_nil _
  have url : buildAppUrl tables redirects draw.candidate =
      .ok (appScheme tables redirects ++ lit "://" ++
        (draw.candidate ++ lit "." ++ appDomain redirects) ++ lit "/") := by
    rw [buildAppUrl, plain, if_neg label.full, if_neg some_domain]
    simp [List.append_assoc]
  refine ⟨url, fun several => ?_, fun app named => ?_, ?_, fun port => ?_⟩
  · rw [site]
    exact slugFromHost_labels lowers domain valid setting label (candidate_lower draw)
      (candidate_named draw) (candidate_free draw) several domain.port
  · have authority : ∀ c ∈ draw.candidate ++ lit "." ++ appDomain redirects, IsAuthorityChar c := by
      have whole : DomainSetting.Valid ⟨draw.candidate :: domain.labels, domain.port, false⟩ :=
        ⟨valid.labels.cons label, valid.port⟩
      intro c member
      rw [site] at member
      exact (whole.chars member).1
    have known := appScheme_known tables redirects
    have schemed : appScheme tables redirects ≠ [] := by
      rcases known with same | same <;> rw [same] <;> decide
    rw [appOrigin, named, url]
    dsimp only
    rw [urlsplit_site lowers known authority]
    dsimp only
    rw [if_neg (not_or.mpr ⟨schemed, by simp [lit_eq]⟩)]
  · exact (slugFromHost_platform lowers domain valid setting domain.port domain.dotted).1
  · have platform := slugFromHost_platform lowers domain valid setting port false
    exact platform

end

/-- A domain of one label, with a port. -/
def localDomain : DomainSetting := ⟨[lit "localhost"], some (lit "8002"), false⟩

def domainRedirects (domain : DomainSetting) : RedirectSettings where
  hostingAppDomain := domain.text
  hostingAppScheme := lit "http"
  identityServiceUrl := none
  identityJwksSource := none
  identityJwksUrl := none

def demoDraw : SlugDraw := ⟨0, fun _ => 0⟩

def shelluiDomain : DomainSetting := ⟨[lit "shellui", lit "app"], none, true⟩

theorem shelluiDomain_valid : shelluiDomain.Valid where
  labels := by
    refine ⟨by decide, fun label member => ?_⟩
    simp only [shelluiDomain, List.mem_cons, List.not_mem_nil, or_false] at member
    rcases member with rfl | rfl
    · exact ⟨by decide, by decide, by decide, by decide, by decide⟩
    · exact ⟨by decide, by decide, by decide, by decide, by decide⟩
  port _ given := nomatch given

theorem public_url_round_trip_shellui :
    slugFromHost asciiTables (domainRedirects shelluiDomain)
      (demoDraw.candidate ++ lit "." ++ appDomain (domainRedirects shelluiDomain)) =
        some demoDraw.candidate :=
  (public_url_round_trip asciiTables_lowersAscii shelluiDomain shelluiDomain_valid rfl
    demoDraw).2.1 (by decide)

/-- A host name of two labels has no slug. -/
theorem single_label_no_slug :
    ¬ ∀ (tables : Unicode) (redirects : RedirectSettings) (domain : DomainSetting)
      (draw : SlugDraw), tables.LowersAscii → domain.Valid →
        redirects.hostingAppDomain = domain.text →
          slugFromHost tables redirects (draw.candidate ++ lit "." ++ appDomain redirects) =
            some draw.candidate := by
  intro every
  have valid : localDomain.Valid := by
    refine ⟨⟨by decide, fun label member => ?_⟩, fun port given => ?_⟩
    · obtain rfl := List.mem_singleton.mp member
      exact ⟨by decide, by decide, by decide, by decide, by decide⟩
    · obtain rfl := Option.some.inj given
      exact ⟨by decide, by unfold IsPort; decide⟩
  have slug := every asciiTables (domainRedirects localDomain) localDomain demoDraw
    asciiTables_lowersAscii valid rfl
  have none : slugFromHost asciiTables (domainRedirects localDomain)
      (demoDraw.candidate ++ lit "." ++ appDomain (domainRedirects localDomain)) = none := by
    decide +kernel
  rw [none] at slug
  cases slug

end HostingService
