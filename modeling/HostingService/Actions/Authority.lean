import HostingService.Actions.Pinning

/-! The `Host` header of a webhook and the TLS server name that is read back from it. -/

namespace HostingService

open Text

/-- The host of the URL stands in brackets: an IPv6 address, or one of a later version. -/
def Text.ParseResult.bracketed (parsed : ParseResult) : Bool :=
  decide (openBracket ∈ (rpartition atSign parsed.netloc).2.2)

def defaultPort (scheme : PyStr) : Nat := if scheme = lit "https" then 443 else 80

/-- The authority of an HTTP URL: brackets around an address with colons, and the port if it is
not the one of the scheme. -/
def urlAuthority (scheme hostname : PyStr) (bracketed : Bool) (port : Option Nat) : PyStr :=
  (if bracketed then openBracket :: hostname ++ [closeBracket] else hostname) ++
    match port with
    | none => []
    | some number => if number = defaultPort scheme then [] else colon :: digits number

/-- The server name is the host of the URL, and the header is its authority. -/
structure HostFaithful (library : AddressLibrary) (parsed : ParseResult)
    (endpoint : ResolvedWebhookEndpoint) : Prop where
  serverName : tlsServerName library endpoint =
    library.tables.lower (parsed.hostname library.tables)
  header : ∀ port, parsed.port = .ok port → endpoint.hostHeader =
    urlAuthority parsed.scheme (library.tables.lower (parsed.hostname library.tables))
      parsed.bracketed port

/-- What the Unicode tables promise: lower case brings in no colon and no bracket, and the ASCII
digits are digits. -/
structure PlainTables (tables : Unicode) : Prop where
  lower : ∀ text c, c = colon ∨ c = openBracket → c ∈ tables.lower text → c ∈ text
  digit : ∀ c, isAsciiDigit c = true → tables.isDigit c = true

/-- The URL has no host in brackets, and 0, 80 or 443 as its port only where the scheme says so
anyway. -/
def PlainAuthority (parsed : ParseResult) : Prop :=
  parsed.bracketed = false ∧ ∀ number, parsed.port = .ok (some number) →
    number ∈ [0, 80, 443] → number = defaultPort parsed.scheme

/-! ### Text before and after a separator -/

section
variable {sep c : Nat} {text before after : PyStr}

theorem partition_subset : (partition sep text).1 ⊆ text ∧ (partition sep text).2.2 ⊆ text := by
  induction text with
  | nil => exact ⟨fun _ => id, fun _ => id⟩
  | cons first rest ih =>
    rw [partition]
    by_cases same : first = sep
    · rw [if_pos same]
      exact ⟨fun _ member => absurd member List.not_mem_nil,
        fun _ member => List.mem_cons_of_mem first member⟩
    · rw [if_neg same]
      exact ⟨List.cons_subset_cons first ih.1,
        fun _ member => List.mem_cons_of_mem first (ih.2 member)⟩

theorem partition_before : sep ∉ (partition sep text).1 := by
  induction text with
  | nil => exact List.not_mem_nil
  | cons first rest ih =>
    rw [partition]
    by_cases same : first = sep
    · rw [if_pos same]
      exact List.not_mem_nil
    · rw [if_neg same]
      exact mt List.mem_cons.mp (not_or.mpr ⟨Ne.symm same, ih⟩)

theorem rpartition_absent (absent : sep ∉ text) : rpartition sep text = ([], false, text) := by
  rw [rpartition, partition_absent (mt List.mem_reverse.mp absent)]

theorem rpartition_last (absent : sep ∉ after) :
    rpartition sep (before ++ sep :: after) = (before, true, after) := by
  have reversed : (before ++ sep :: after).reverse = after.reverse ++ sep :: before.reverse := by
    simp
  rw [rpartition, reversed, partition_first (mt List.mem_reverse.mp absent)]
  simp

end

/-! ### The host of a URL without brackets -/

section
variable {library : AddressLibrary} {parsed : ParseResult}

theorem hostname_plain (tables : PlainTables library.tables) (plain : parsed.bracketed = false) :
    colon ∉ library.tables.lower (parsed.hostname library.tables) ∧
      openBracket ∉ library.tables.lower (parsed.hostname library.tables) := by
  have noBracket : openBracket ∉ (rpartition atSign parsed.netloc).2.2 := by
    simpa [Text.ParseResult.bracketed] using plain
  have host : parsed.hostinfo.1 = (partition colon (rpartition atSign parsed.netloc).2.2).1 := by
    rw [Text.ParseResult.hostinfo, partition_absent noBracket]
  have noColon : colon ∉ parsed.hostinfo.1 := host ▸ partition_before
  have noOpen : openBracket ∉ parsed.hostinfo.1 := fun member =>
    noBracket (partition_subset.1 (host ▸ member))
  have kept {c : Nat} (mark : c = colon ∨ c = openBracket)
      (member : c ∈ library.tables.lower (parsed.hostname library.tables)) :
      c ∈ parsed.hostinfo.1 := by
    have named := tables.lower _ c mark member
    rw [Text.ParseResult.hostname] at named
    split at named
    · exact absurd named List.not_mem_nil
    · rcases List.mem_append.mp named with front | back
      · exact partition_subset.1 (tables.lower _ c mark front)
      · split at back
        · rcases List.mem_cons.mp back with same | zone
          · rcases mark with rfl | rfl
            · exact absurd same (by decide)
            · exact absurd same (by decide)
          · exact partition_subset.2 zone
        · exact absurd back List.not_mem_nil
  exact ⟨fun member => noColon (kept (.inl rfl) member), fun member => noOpen (kept (.inr rfl) member)⟩

/-- The server name is read back from the header of a host without colons. -/
theorem tlsServerName_plain (tables : PlainTables library.tables)
    {endpoint : ResolvedWebhookEndpoint} {hostname : PyStr} {port : Option Nat}
    (header : endpoint.hostHeader = hostHeader hostname port) (named : hostname ≠ [])
    (noColon : colon ∉ hostname) (noBracket : openBracket ∉ hostname) :
    tlsServerName library endpoint = hostname := by
  have first {rest : PyStr} : (hostname ++ rest).head? ≠ some openBracket := by
    obtain ⟨c, tail, rfl⟩ := List.exists_cons_of_ne_nil named
    intro same
    exact noBracket (List.mem_cons.mpr (.inl (Option.some.inj same).symm))
  have alone : hostname.head? ≠ some openBracket := by
    have whole := @first []
    rwa [List.append_nil] at whole
  unfold hostHeader at header
  split at header
  any_goals rw [tlsServerName, header, if_neg alone, rpartition_absent noColon]
  rename_i number _ _ _
  have marks (c : Nat) (member : c ∈ digits number) : isAsciiDigit c = true := by
    have decimal := digits_decimal number member
    simpa [isAsciiDigit] using decimal
  have noMark : colon ∉ digits number := fun member => absurd (marks colon member) (by decide)
  have numeral : (digits number).all library.tables.isDigit = true :=
    List.all_eq_true.mpr fun c member => tables.digit c (marks c member)
  rw [tlsServerName, header, if_neg first, rpartition_last noMark]
  exact if_pos ⟨digits_ne_nil number, numeral⟩

theorem hostHeader_authority_iff (scheme hostname : PyStr) (bracketed : Bool) (port : Option Nat) :
    hostHeader hostname port = urlAuthority scheme hostname bracketed port ↔
      bracketed = false ∧ ∀ number, port = some number →
        number ∈ [0, 80, 443] → number = defaultPort scheme := by
  have noBracket (number : Nat) : openBracket ∉ colon :: digits number := by
    intro member
    rcases List.mem_cons.mp member with same | member
    · exact absurd same (by decide)
    · have decimal := digits_decimal number member
      exact absurd decimal.2 (by decide)
  cases bracketed with
  | true =>
    refine iff_of_false (fun same => ?_) (by simp)
    -- the authority has one bracket more than the header
    have counts := congrArg (List.count openBracket) same
    have header : List.count openBracket (hostHeader hostname port) =
        List.count openBracket hostname := by
      unfold hostHeader
      split
      any_goals rfl
      rename_i number _ _ _
      rw [List.count_append, List.count_eq_zero.mpr (noBracket number), Nat.add_zero]
    unfold urlAuthority at counts
    rw [header, if_pos rfl, List.count_append, List.count_append, List.count_cons_self] at counts
    omega
  | false =>
    have other {number : Nat} (foreign : number ∉ [0, 80, 443]) : number ≠ defaultPort scheme := by
      rintro rfl
      unfold defaultPort at foreign
      split at foreign <;> exact foreign (by decide)
    have bare {number : Nat} (member : number ∈ [0, 80, 443]) :
        hostHeader hostname (some number) = hostname := by
      simp only [List.mem_cons, List.not_mem_nil, or_false] at member
      rcases member with rfl | rfl | rfl <;> rfl
    simp only [urlAuthority, Bool.false_eq_true, if_false, true_and]
    rcases port with _ | number
    · simp [hostHeader]
    · simp only [Option.some.injEq, forall_eq']
      by_cases listed : number ∈ [0, 80, 443]
      · rw [bare listed]
        by_cases same : number = defaultPort scheme
        · simp [same]
        · simp [same, listed]
      · rw [if_neg (other listed)]
        refine iff_of_true ?_ fun member => absurd member listed
        have unlisted : number ≠ 0 ∧ number ≠ 80 ∧ number ≠ 443 := by simpa using listed
        unfold hostHeader
        split
        any_goals simp_all

/-- An endpoint was made from a host, and the header from it and the port of the URL. -/
theorem resolved_header {resolver : Resolver} {url : PyStr} {allowPrivate : Bool}
    {endpoint : ResolvedWebhookEndpoint} (found : urlparse library.tables (strip url) = .ok parsed)
    (resolved : resolveWebhookEndpoint library resolver url allowPrivate = .ok endpoint) :
    library.tables.lower (parsed.hostname library.tables) ≠ [] ∧ ∃ port, parsed.port = .ok port ∧
      endpoint.hostHeader = hostHeader (library.tables.lower (parsed.hostname library.tables)) port := by
  rw [resolveWebhookEndpoint_parsed library resolver found] at resolved
  split at resolved
  · contradiction
  · split at resolved
    · contradiction
    · rename_i named
      obtain ⟨_, _, resolved⟩ := except_bind_ok resolved
      obtain ⟨port, numbered, resolved⟩ := except_bind_ok resolved
      refine ⟨named, port, ?_, ?_⟩
      · rcases read : parsed.port with error | number
        · rw [parsedPort, read] at numbered
          contradiction
        · rw [parsedPort, read] at numbered
          exact congrArg Except.ok (Except.ok.inj numbered)
      · rcases target : connectTarget library resolver allowPrivate
          (library.tables.lower (parsed.hostname library.tables))
          (orNumber (if parsed.scheme = lit "https" then 443 else 80) port) with error | target
        · rw [target] at resolved
          contradiction
        · rw [target] at resolved
          obtain rfl := Except.ok.inj resolved
          rfl

end

/-- The host of an accepted URL reaches the header and the TLS handshake as it stands in the URL
exactly when it is not in brackets and its port is not one that the code takes for a default. -/
theorem hostFaithful_iff (library : AddressLibrary) (resolver : Resolver) (url : PyStr)
    (allowPrivate : Bool) (parsed : ParseResult) (endpoint : ResolvedWebhookEndpoint)
    (tables : PlainTables library.tables)
    (found : urlparse library.tables (strip url) = .ok parsed)
    (resolved : resolveWebhookEndpoint library resolver url allowPrivate = .ok endpoint) :
    HostFaithful library parsed endpoint ↔ PlainAuthority parsed := by
  obtain ⟨named, port, numbered, header⟩ := resolved_header found resolved
  have same := hostHeader_authority_iff parsed.scheme
    (library.tables.lower (parsed.hostname library.tables)) parsed.bracketed port
  have plain : PlainAuthority parsed ↔ parsed.bracketed = false ∧ ∀ number, port = some number →
      number ∈ [0, 80, 443] → number = defaultPort parsed.scheme := by
    simp only [PlainAuthority, numbered, Except.ok.injEq]
  rw [plain, ← same, ← header]
  constructor
  · intro faithful
    exact faithful.header port numbered
  · intro authority
    have unbracketed := (same.mp (header ▸ authority)).1
    obtain ⟨noColon, noBracket⟩ := hostname_plain tables unbracketed
    refine ⟨tlsServerName_plain tables header named noColon noBracket, fun other read => ?_⟩
    obtain rfl := Except.ok.inj (numbered.symm.trans read)
    exact authority

/-! A host name with a port, and an IPv6 address. -/

theorem asciiTables_plain : PlainTables asciiTables where
  lower text c mark member := by
    obtain ⟨letter, inside, same⟩ := List.mem_map.mp member
    have kept : letter = c := by
      rcases mark with rfl | rfl
      · simp only [colon] at same ⊢
        split at same <;> omega
      · simp only [openBracket] at same ⊢
        split at same <;> omega
    exact kept ▸ inside
  digit _ decimal := decimal

/-- `https://Hook.example:8443/in` -/
def namedUrl : ParseResult :=
  ⟨lit "https", lit "Hook.example:8443", lit "/in", [], [], []⟩

def namedEndpoint : ResolvedWebhookEndpoint where
  originalUrl := lit "https://Hook.example:8443/in"
  scheme := lit "https"
  connectHost := lit "::ffff:8.8.8.8"
  port := 8443
  hostHeader := lit "hook.example:8443"
  path := lit "/in"

theorem namedUrl_parsed :
    urlparse asciiTables (strip (lit "https://Hook.example:8443/in")) = .ok namedUrl := by rfl

theorem hostFaithful_named : HostFaithful plainAddresses namedUrl namedEndpoint := by
  refine (hostFaithful_iff plainAddresses mixedResolver (lit "https://Hook.example:8443/in") false
    namedUrl namedEndpoint asciiTables_plain namedUrl_parsed (by decide)).mpr ⟨by decide, ?_⟩
  intro number read member
  obtain rfl : 8443 = number := Option.some.inj (Except.ok.inj read)
  exact absurd member (by decide)

/-- `https://[2606:4700::1111]/in` -/
def addressUrl : ParseResult := ⟨lit "https", lit "[2606:4700::1111]", lit "/in", [], [], []⟩

def addressEndpoint : ResolvedWebhookEndpoint where
  originalUrl := lit "https://[2606:4700::1111]/in"
  scheme := lit "https"
  connectHost := lit "2606:4700::1111"
  port := 443
  hostHeader := lit "2606:4700::1111"
  path := lit "/in"

/-- TLS asks for the name `2606:4700:`, and the header has no brackets. -/
theorem ipv6_host_unfaithful :
    urlparse asciiTables (lit "https://[2606:4700::1111]/in") = .ok addressUrl ∧
      resolveWebhookEndpoint plainAddresses mixedResolver (lit "https://[2606:4700::1111]/in") false =
        .ok addressEndpoint ∧
      tlsServerName plainAddresses addressEndpoint = lit "2606:4700:" ∧
      ¬ HostFaithful plainAddresses addressUrl addressEndpoint := by
  refine ⟨rfl, by decide, by decide, fun faithful => ?_⟩
  have header := faithful.header none (by decide)
  exact absurd header (by decide)

end HostingService
