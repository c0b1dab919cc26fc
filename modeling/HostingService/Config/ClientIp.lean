import HostingService.Text.Url
import Mathlib.Data.List.Forall2

/-! The address of the client behind trusted proxies, for rate limits and audit logs. -/

namespace HostingService

open Text

def comma : Nat := 0x2C

namespace Text

/-- `str(address)` -/
def IpAddress.text : IpAddress → PyStr
  | .v4 address => address.text
  | .v6 address => address.compressed

/-! ### Networks -/

/-- `_prefix_from_prefix_string`; `bits` is the length of an address. -/
def prefixLength (bits : Nat) (text : PyStr) : Option Nat :=
  if text = [] || !text.all isAsciiDigit || 4300 < text.length then none
  else if bits < decimalNumber text then none
  else some (decimalNumber text)

/-- `_prefix_from_ip_int`: the number of leading ones, when only zeros follow. -/
def prefixOfMask (mask : Nat) : Option Nat :=
  (List.range 33).find? fun length => mask = 2 ^ 32 - 2 ^ (32 - length)

/-- `_make_netmask` of `IPv4Network`: a length, a netmask or a host mask. -/
def ipv4Prefix (text : PyStr) : Option Nat :=
  match prefixLength 32 text with
  | some length => some length
  | none => (IPv4Address.parse text).bind fun mask =>
    match prefixOfMask mask.int with
    | some length => some length
    | none => prefixOfMask (2 ^ 32 - 1 - mask.int)

inductive IpNetwork where
  | v4 (address : IPv4Address) (length : Nat)
  | v6 (address : IPv6Address) (length : Nat)

/-- `ip_network(text, strict=False)`; `none` is its `ValueError`. -/
def ipNetwork (text : PyStr) : Option IpNetwork :=
  match text.splitOn slash with
  | [address, mask] =>
    match IPv4Address.parse address, ipv4Prefix mask with
    | some address, some length => some (.v4 address length)
    | _, _ =>
      match IPv6Address.parse address, prefixLength 128 mask with
      | some address, some length => some (.v6 address length)
      | _, _ => none
  | _ => none

/-- `address in network`: the leading bits are the same. -/
def IpNetwork.contains : IpNetwork → IpAddress → Bool
  | .v4 network length, .v4 address =>
    (network.int : Nat) / 2 ^ (32 - length) = address.int / 2 ^ (32 - length)
  | .v6 network length, .v6 address =>
    (network.int : Nat) / 2 ^ (128 - length) = address.int / 2 ^ (128 - length)
  | _, _ => false

end Text

/-! ### Hops -/

/-- `_parse_ip_hop` -/
def parseIpHop (hop : PyStr) : Option IpAddress :=
  match strip hop with
  | [] => none
  | c :: rest =>
    if c = openBracket then
      match partition closeBracket rest with
      | (candidate, true, _) => ipAddress (strip candidate)
      | (_, false, _) => none
    else if (c :: rest).count colon = 1 && fullStop ∈ c :: rest then
      ipAddress (strip (partition colon (c :: rest)).1)
    else ipAddress (c :: rest)

/-- `_addr_for_trusted_match` -/
def addrForTrustedMatch : IpAddress → IpAddress
  | .v6 address =>
    match address.ipv4Mapped with
    | some mapped => .v4 mapped
    | none => .v6 address
  | address => address

/-- Whether one entry of `TRUSTED_PROXY_IPS` is or contains the address. -/
def entryMatches (address : IpAddress) (entry : PyStr) : Bool :=
  let entry := strip entry
  if entry = [] then false
  else if slash ∈ entry then
    match ipNetwork entry with
    | some network => network.contains address
    | none => false
  else ipAddress entry = some address

/-- `_ip_in_trusted_proxies`, of a parsed address. -/
def addressTrusted (trusted : List PyStr) (address : IpAddress) : Bool :=
  trusted.any (entryMatches (addrForTrustedMatch address))

/-- `_ip_in_trusted_proxies` -/
def ipInTrustedProxies (ip : PyStr) (trusted : List PyStr) : Bool :=
  match parseIpHop ip with
  | none => false
  | some parsed => addressTrusted trusted parsed

/-- `_xff_hops` -/
def xffHops (xff : PyStr) : List PyStr := ((xff.splitOn comma).map strip).filter (· ≠ [])

/-- The walk over the hops, the last one first. -/
def firstUntrusted (trusted : List PyStr) : List PyStr → Option PyStr
  | [] => none
  | hop :: rest =>
    match parseIpHop hop with
    | none => firstUntrusted trusted rest
    | some parsed =>
      if ipInTrustedProxies hop trusted then firstUntrusted trusted rest else some parsed.text

/-- `_client_ip_from_xff` -/
def clientIpFromXff (xff : PyStr) (trusted : List PyStr) : Option PyStr :=
  firstUntrusted trusted (xffHops xff).reverse

/-- `REMOTE_ADDR` in its canonical text, or as it is. -/
def remoteAddr (remote : Option PyStr) : Option PyStr :=
  remote.bind fun remote =>
    match parseIpHop remote with
    | some parsed => some parsed.text
    | none => if strip remote ≠ [] then some (strip remote) else none

/-- What the header says, when the proxy is trusted. -/
def forwardedFor (header : Option PyStr) (trusted : List PyStr) : Option PyStr :=
  header.bind fun xff =>
    if strip xff = [] then none
    else (clientIpFromXff (strip xff) trusted).filter (· ≠ [])

/-- `get_client_ip` -/
def getClientIp (trusted : List PyStr) (remote header : Option PyStr) : Option PyStr :=
  match remoteAddr remote with
  | none => none
  | some address =>
    if address ≠ [] && trusted ≠ [] && ipInTrustedProxies address trusted then
      match forwardedFor header trusted with
      | some client => some client
      | none => some address
    else if address ≠ [] then some address
    else none

/-! ### The text of an address as a hop -/

theorem length_splitOn (sep : Nat) (text : PyStr) :
    (text.splitOn sep).length = text.count sep + 1 := by
  induction text with
  | nil => rfl
  | cons c rest ih =>
    rw [List.splitOn_cons_eq_if_modifyHead]
    split
    · rename_i same
      rw [List.length_cons, ih, List.count_cons, same]
      rfl
    · rename_i different
      rw [List.length_modifyHead, ih, List.count_cons, if_neg different, Nat.add_zero]

theorem ipv6Int_colons {text : PyStr} {int : Fin (2 ^ 128)} (read : ipv6Int text = some int) :
    2 ≤ text.count colon := by
  have parts := length_splitOn colon text
  rw [ipv6Int] at read
  split at read
  · contradiction
  · omega

/-- The number, and the zone if there is one, make up the text. -/
theorem ipv6_parse_cases {text : PyStr} {address : IPv6Address}
    (read : IPv6Address.parse text = some address) :
    ipv6Int text = some address.int ∧ address.scopeId = none ∨
      ∃ number scope, text = number ++ percent :: scope.text ∧
        ipv6Int number = some address.int ∧ address.scopeId = some scope := by
  rw [IPv6Address.parse] at read
  split at read
  · contradiction
  · by_cases zoned : percent ∈ text
    · obtain ⟨number, zone, rfl, absent⟩ := List.eq_append_cons_of_mem zoned
      rw [partition_first absent] at read
      simp only [Option.bind_eq_bind, Option.bind_eq_some_iff, Option.pure_def,
        Option.some.injEq] at read
      obtain ⟨scope, named, int, value, rfl⟩ := read
      rw [ScopeId.parse] at named
      split at named
      · obtain rfl := Option.some.inj named
        exact .inr ⟨number, _, rfl, value, rfl⟩
      · contradiction
    · rw [partition_absent zoned] at read
      obtain ⟨int, value, rfl⟩ := Option.map_eq_some_iff.mp read
      exact .inl ⟨value, rfl⟩

theorem ipv6_parse_colons {text : PyStr} {address : IPv6Address}
    (read : IPv6Address.parse text = some address) : 2 ≤ text.count colon := by
  rcases ipv6_parse_cases read with ⟨value, _⟩ | ⟨number, scope, rfl, value, _⟩
  · exact ipv6Int_colons value
  · rw [List.count_append]
    exact Nat.le_add_right_of_le (ipv6Int_colons value)

theorem ipv4_parse_colon {text : PyStr} {address : IPv4Address}
    (read : IPv4Address.parse text = some address) : colon ∉ text := by
  intro member
  rw [IPv4Address.parse_foreign (by decide) (by decide) member] at read
  contradiction

/-- The text of an address has no single colon, so no port. -/
theorem ipAddress_colons {text : PyStr} {address : IpAddress}
    (read : ipAddress text = some address) : text.count colon ≠ 1 := by
  rw [ipAddress] at read
  split at read
  · rename_i number
    rw [List.count_eq_zero.mpr (ipv4_parse_colon number)]
    decide
  · obtain ⟨number, parsed, _⟩ := Option.map_eq_some_iff.mp read
    have := ipv6_parse_colons parsed
    omega

theorem parseIpHop_plain {text : PyStr} {address : IpAddress} (whole : strip text = text)
    (unbracketed : text.head? ≠ some openBracket) (read : ipAddress text = some address) :
    parseIpHop text = some address := by
  have colons := ipAddress_colons read
  rw [parseIpHop, whole]
  cases text with
  | nil => contradiction
  | cons c rest =>
    dsimp only
    rw [if_neg (fun same => unbracketed (by rw [same, List.head?_cons])), if_neg (by simp [colons])]
    exact read

theorem ipAddress_text (address : IpAddress) : ipAddress address.text = some address := by
  cases address with
  | v4 number =>
    rw [IpAddress.text, ipAddress, number.parse_text]
  | v6 number => exact ipAddress_compressed number

/-- Neither white space nor a bracket. -/
def IsPlain (c : Nat) : Prop := isSpace c = false ∧ c ≠ openBracket

theorem ipStr_plain {address : IPv6Address} {c : Nat} (member : c ∈ address.ipStr) :
    IsPlain c := by
  rcases IPv6Address.mem_ipStr member with rfl | rfl | lower
  · exact ⟨by decide, by decide⟩
  · exact ⟨by decide, by decide⟩
  · refine ⟨(lowerHex_facts lower).2.2.1, ?_⟩
    rintro rfl
    contradiction

theorem ipv4_text_plain {address : IPv4Address} {c : Nat} (member : c ∈ address.text) :
    IsPlain c := by
  rcases IPv4Address.mem_text member with rfl | digit
  · exact ⟨by decide, by decide⟩
  · refine ⟨(lowerHex_facts ?_).2.2.1, ?_⟩
    · simp [isLowerHex, digit]
    · rintro rfl
      simp [openBracket] at digit

theorem head_plain {text : PyStr} (plain : ∀ c ∈ text, IsPlain c) :
    text.head? ≠ some openBracket := fun first => (plain _ (List.mem_of_mem_head? first)).2 rfl

/-- What is read from a hop is read from a stripped text. -/
theorem parseIpHop_stripped {hop : PyStr} {address : IpAddress}
    (read : parseIpHop hop = some address) :
    ∃ text, strip text = text ∧ ipAddress text = some address := by
  rw [parseIpHop] at read
  split at read
  · contradiction
  · rename_i c rest raw
    split at read
    · split at read
      · exact ⟨_, strip_strip _, read⟩
      · contradiction
    · split at read
      · exact ⟨_, strip_strip _, read⟩
      · exact ⟨_, by rw [← raw, strip_strip], read⟩

/-- A text that ends in a zone is stripped when the zone is. -/
theorem rstrip_zone (number zone : PyStr) :
    rstrip (number ++ percent :: zone) = number ++ percent :: rstrip zone := by
  have kept : rstrip (percent :: zone) = percent :: rstrip zone := rstripBy_cons _ (by decide) zone
  rw [rstrip_append, kept, if_neg (List.cons_ne_nil _ _)]

theorem compressed_stripped {address : IPv6Address}
    (zone : ∀ scope, address.scopeId = some scope → rstrip scope.text = scope.text) :
    strip address.compressed = address.compressed := by
  rw [IPv6Address.compressed]
  cases named : address.scopeId with
  | none => exact stripBy_of_not_mem _ fun c member => (ipStr_plain member).1
  | some scope =>
    dsimp only
    have first : lstripBy isSpace (address.ipStr ++ percent :: scope.text) =
        address.ipStr ++ percent :: scope.text := by
      cases number : address.ipStr with
      | nil => exact lstripBy_cons _ (by decide) _
      | cons c rest =>
        have member : c ∈ address.ipStr := by simp [number]
        exact lstripBy_cons _ (ipStr_plain member).1 _
    rw [strip, stripBy, first]
    exact (rstrip_zone _ _).trans (by rw [zone scope named])

/-- The canonical text of a hop is read as the same address. -/
theorem parseIpHop_text {hop : PyStr} {address : IpAddress} (read : parseIpHop hop = some address) :
    parseIpHop address.text = some address := by
  cases address with
  | v4 number =>
    have plain : ∀ c ∈ number.text, IsPlain c := fun _ => ipv4_text_plain
    exact parseIpHop_plain (stripBy_of_not_mem _ fun c member => (plain c member).1)
      (head_plain plain) (ipAddress_text (.v4 number))
  | v6 number =>
    refine parseIpHop_plain (compressed_stripped fun scope named => ?_) ?_
      (ipAddress_text (.v6 number))
    · obtain ⟨text, whole, parsed⟩ := parseIpHop_stripped read
      have six : IPv6Address.parse text = some number := by
        rw [ipAddress] at parsed
        split at parsed
        · cases parsed
        · simpa using parsed
      rcases ipv6_parse_cases six with ⟨_, none⟩ | ⟨front, zone, rfl, _, same⟩
      · rw [none] at named
        contradiction
      · obtain rfl := Option.some.inj (same.symm.trans named)
        have right : rstrip (front ++ percent :: zone.text) = front ++ percent :: zone.text := by
          conv_lhs => rw [← whole]
          exact (rstripBy_rstripBy _ _).trans whole
        rw [rstrip_zone] at right
        exact (List.cons.inj (List.append_cancel_left right)).2
    · rw [IpAddress.text, IPv6Address.compressed]
      intro first
      have member : openBracket ∈ number.ipStr := by
        cases digits : number.ipStr with
        | nil => exact absurd number.colon_mem_ipStr (by simp [digits])
        | cons c rest =>
          split at first <;> simp [digits] at first <;> simp [first]
      exact (ipStr_plain member).2 rfl

/-! ### The forms of a hop -/

/-- May stand in an element of the header: a zone could hold more. -/
def IsListable (c : Nat) : Prop :=
  isSpace c = false ∧ c ≠ comma ∧ c ≠ openBracket ∧ c ≠ closeBracket

def IsPort (port : PyStr) : Prop := ∀ c ∈ port, isAsciiDigit c = true

/-- The address as a hop: plain, an IPv4 address with a port, or an IPv6 address in
brackets. -/
inductive HopText : IpAddress → PyStr → Prop where
  | plain {address : IpAddress} {text : PyStr} :
      ipAddress text = some address → (∀ c ∈ text, IsListable c) → HopText address text
  | port {address : IPv4Address} {text port : PyStr} :
      IPv4Address.parse text = some address → IsPort port →
        HopText (.v4 address) (text ++ colon :: port)
  | bracketed {address : IPv6Address} {text : PyStr} :
      ipAddress text = some (.v6 address) → (∀ c ∈ text, IsListable c) →
        HopText (.v6 address) (openBracket :: text ++ [closeBracket])
  | bracketedPort {address : IPv6Address} {text port : PyStr} :
      ipAddress text = some (.v6 address) → (∀ c ∈ text, IsListable c) → IsPort port →
        HopText (.v6 address) (openBracket :: text ++ closeBracket :: colon :: port)

/-- An element of a header. -/
structure IsElement (text : PyStr) : Prop where
  full : text ≠ []
  plain : ∀ c ∈ text, isSpace c = false
  single : comma ∉ text

theorem digit_plain {c : Nat} (digit : isAsciiDigit c = true) :
    isSpace c = false ∧ c ≠ comma ∧ c ≠ colon ∧ c ≠ openBracket := by
  have lower : isLowerHex c = true := by
    rw [isLowerHex, Bool.or_eq_true]
    exact .inl digit
  refine ⟨(lowerHex_facts lower).2.2.1, ?_, ?_, ?_⟩
  all_goals
    rintro rfl
    contradiction

theorem ipv4_parse_mem {text : PyStr} {address : IPv4Address} {c : Nat}
    (read : IPv4Address.parse text = some address) (member : c ∈ text) :
    c = fullStop ∨ isAsciiDigit c = true := by
  by_cases stop : c = fullStop
  · exact .inl stop
  · cases digit : isAsciiDigit c with
    | true => exact .inr rfl
    | false =>
      rw [IPv4Address.parse_foreign stop digit member] at read
      contradiction

theorem ipv4_parse_stop {text : PyStr} {address : IPv4Address}
    (read : IPv4Address.parse text = some address) : fullStop ∈ text := by
  have parts := length_splitOn fullStop text
  rw [IPv4Address.parse] at read
  split at read
  · rename_i octets
    have four := congrArg List.length octets
    rw [List.length_map] at four
    exact List.count_pos_iff.mp (by simp at four; omega)
  · contradiction

theorem isElement_of_forall {text : PyStr} (full : text ≠ [])
    (all : ∀ c ∈ text, isSpace c = false ∧ c ≠ comma) : IsElement text :=
  ⟨full, fun c member => (all c member).1, fun member => (all _ member).2 rfl⟩

theorem HopText.isElement {address : IpAddress} {text : PyStr} (hop : HopText address text) :
    IsElement text := by
  cases hop with
  | plain read listable =>
    refine isElement_of_forall ?_ fun c member =>
      ⟨(listable c member).1, (listable c member).2.1⟩
    rintro rfl
    contradiction
  | port read port =>
    refine isElement_of_forall (by simp) fun c member => ?_
    rw [List.mem_append, List.mem_cons] at member
    rcases member with number | rfl | digit
    · rcases ipv4_parse_mem read number with rfl | digit
      · exact ⟨by decide, by decide⟩
      · exact ⟨(digit_plain digit).1, (digit_plain digit).2.1⟩
    · exact ⟨by decide, by decide⟩
    · exact ⟨(digit_plain (port c digit)).1, (digit_plain (port c digit)).2.1⟩
  | bracketed read listable =>
    refine isElement_of_forall (by simp) fun c member => ?_
    simp only [List.cons_append, List.mem_cons, List.mem_append, List.not_mem_nil, or_false] at member
    rcases member with rfl | number | rfl
    · exact ⟨by decide, by decide⟩
    · exact ⟨(listable c number).1, (listable c number).2.1⟩
    · exact ⟨by decide, by decide⟩
  | bracketedPort read listable port =>
    refine isElement_of_forall (by simp) fun c member => ?_
    simp only [List.cons_append, List.mem_cons, List.mem_append] at member
    rcases member with rfl | number | rfl | rfl | digit
    · exact ⟨by decide, by decide⟩
    · exact ⟨(listable c number).1, (listable c number).2.1⟩
    · exact ⟨by decide, by decide⟩
    · exact ⟨by decide, by decide⟩
    · exact ⟨(digit_plain (port c digit)).1, (digit_plain (port c digit)).2.1⟩

theorem IsElement.stripped {text : PyStr} (element : IsElement text) : strip text = text :=
  stripBy_of_not_mem _ element.plain

theorem parseIpHop_bracketed {text rest : PyStr} {address : IpAddress}
    (stripped : strip (openBracket :: text ++ closeBracket :: rest) =
      openBracket :: text ++ closeBracket :: rest)
    (listable : ∀ c ∈ text, IsListable c) (read : ipAddress text = some address) :
    parseIpHop (openBracket :: text ++ closeBracket :: rest) = some address := by
  have closing : closeBracket ∉ text := fun member => (listable _ member).2.2.2 rfl
  have inner : strip text = text := stripBy_of_not_mem _ fun c member => (listable c member).1
  rw [parseIpHop, stripped]
  dsimp only [List.cons_append]
  rw [if_pos rfl, partition_first closing]
  dsimp only
  rw [inner, read]

/-- Each form is read as its address. -/
theorem HopText.parsed {address : IpAddress} {text : PyStr} (hop : HopText address text) :
    parseIpHop text = some address := by
  have stripped := hop.isElement.stripped
  cases hop with
  | plain read listable =>
    exact parseIpHop_plain stripped
      (fun first => (listable _ (List.mem_of_mem_head? first)).2.2.1 rfl) read
  | bracketed read listable => exact parseIpHop_bracketed stripped listable read
  | bracketedPort read listable port => exact parseIpHop_bracketed stripped listable read
  | port read digits =>
    rename_i number text port
    have number_colons : colon ∉ text := ipv4_parse_colon read
    have port_colons : colon ∉ port := fun member => (digit_plain (digits colon member)).2.2.1 rfl
    have one : (text ++ colon :: port).count colon = 1 := by
      rw [List.count_append, List.count_cons_self, List.count_eq_zero.mpr number_colons,
        List.count_eq_zero.mpr port_colons]
    have inner : strip text = text := stripBy_of_not_mem _ fun c member => by
      rcases ipv4_parse_mem read member with rfl | digit
      · decide
      · exact (digit_plain digit).1
    have address : ipAddress text = some (.v4 number) := by
      rw [ipAddress, read]
    rw [parseIpHop, stripped]
    split
    · rename_i blank
      simp at blank
    · rename_i c rest whole
      have plain : c ≠ openBracket := by
        have first : c ∈ text ++ colon :: port := whole ▸ List.mem_cons_self
        rw [List.mem_append, List.mem_cons] at first
        rcases first with member | rfl | member
        · rcases ipv4_parse_mem read member with rfl | digit
          · decide
          · exact (digit_plain digit).2.2.2
        · decide
        · exact (digit_plain (digits c member)).2.2.2
      rw [if_neg plain, ← whole, if_pos, partition_first number_colons, inner, address]
      simp [one, ipv4_parse_stop read]

/-! ### The header -/

theorem xffHops_comma (left right : PyStr) :
    xffHops (left ++ comma :: right) = xffHops left ++ xffHops right := by
  rw [xffHops, List.splitOn_append_cons_self, List.map_append, List.filter_append]
  rfl

theorem xffHops_element {text : PyStr} (element : IsElement text) : xffHops text = [text] := by
  rw [xffHops, List.splitOn_eq_singleton element.single]
  simp [element.stripped, element.full]

theorem strip_space {c : Nat} (space : isSpace c = true) (text : PyStr) :
    strip (c :: text) = strip text := by
  rw [strip, stripBy, stripBy, lstripBy, List.dropWhile_cons_of_pos space]
  rfl

/-- White space in front of the header is in front of its first element. -/
theorem xffHops_space {c : Nat} (space : isSpace c = true) (text : PyStr) :
    xffHops (c :: text) = xffHops text := by
  have other : (c == comma) = false := by
    apply beq_eq_false_iff_ne.mpr
    rintro rfl
    contradiction
  rw [xffHops, xffHops, List.splitOn_cons_eq_if_modifyHead, other]
  cases parts : text.splitOn comma with
  | nil => exact absurd parts (List.splitOn_ne_nil _ _)
  | cons first rest => simp [strip_space space]

theorem xffHops_blank {blank : PyStr} (spaces : ∀ c ∈ blank, isSpace c = true) (text : PyStr) :
    xffHops (blank ++ text) = xffHops text := by
  induction blank with
  | nil => rfl
  | cons c rest ih =>
    rw [List.forall_mem_cons] at spaces
    rw [List.cons_append, xffHops_space spaces.1, ih spaces.2]

theorem xffHops_lstrip (text : PyStr) : xffHops (lstripBy isSpace text) = xffHops text := by
  induction text with
  | nil => rfl
  | cons c rest ih =>
    cases space : isSpace c with
    | true =>
      rw [xffHops_space space, ← ih]
      congr 1
      exact List.dropWhile_cons_of_pos space
    | false => rw [lstripBy_cons _ space]

theorem lstrip_ends {text front last : PyStr} (ends : text = front ++ last)
    (element : IsElement last) : ∃ front, lstripBy isSpace text = front ++ last := by
  induction front generalizing text with
  | nil =>
    refine ⟨[], ?_⟩
    rw [ends]
    exact lstripBy_of_not_mem _ element.plain
  | cons c rest ih =>
    cases space : isSpace c with
    | true =>
      obtain ⟨front, kept⟩ := ih rfl
      refine ⟨front, kept ▸ ?_⟩
      rw [ends]
      exact List.dropWhile_cons_of_pos space
    | false => exact ⟨c :: rest, by rw [ends, List.cons_append, lstripBy_cons _ space]⟩

theorem xffHops_strip {text front last : PyStr} (ends : text = front ++ last)
    (element : IsElement last) : xffHops (strip text) = xffHops text := by
  obtain ⟨front, kept⟩ := lstrip_ends ends element
  have right : rstrip last = last := rstripBy_of_not_mem _ element.plain
  have whole : strip text = lstripBy isSpace text := by
    rw [strip, stripBy, kept]
    exact (rstrip_append front last).trans (by rw [right, if_neg element.full])
  rw [whole, xffHops_lstrip]

/-- What a proxy makes of the header: the hop behind what it got. -/
inductive Appends (hop : PyStr) : Option PyStr → PyStr → Prop where
  | fresh : Appends hop none hop
  | blank {header : PyStr} : (∀ c ∈ header, isSpace c = true) → Appends hop (some header) hop
  | listed {header blank : PyStr} : (∀ c ∈ blank, isSpace c = true) →
      Appends hop (some header) (header ++ comma :: blank ++ hop)

/-- Each proxy of a chain appends the address of its peer: the first peer is the client,
each other one the proxy before. -/
inductive Forwards : Option PyStr → List IpAddress → Option PyStr → Prop where
  | done (header : Option PyStr) : Forwards header [] header
  | hop {supplied final : Option PyStr} {header text : PyStr} {peer : IpAddress}
      {peers : List IpAddress} : HopText peer text → Appends text supplied header →
        Forwards (some header) peers final → Forwards supplied (peer :: peers) final

def headerHops (header : Option PyStr) : List PyStr := (header.map xffHops).getD []

theorem Appends.hops {hop header : PyStr} {supplied : Option PyStr}
    (appends : Appends hop supplied header) (element : IsElement hop) :
    xffHops header = headerHops supplied ++ [hop] ∧ ∃ front, header = front ++ hop := by
  cases appends with
  | fresh => exact ⟨xffHops_element element, [], rfl⟩
  | blank spaces =>
    rename_i header
    have none : xffHops header = [] := by
      have all := xffHops_blank spaces []
      rwa [List.append_nil] at all
    exact ⟨by rw [xffHops_element element, headerHops, Option.map_some, none]; rfl, [], rfl⟩
  | listed spaces =>
    rename_i header blank
    refine ⟨?_, header ++ comma :: blank, rfl⟩
    rw [List.append_assoc, List.cons_append, xffHops_comma, xffHops_blank spaces,
      xffHops_element element]
    rfl

theorem Forwards.hops {supplied final : Option PyStr} {peers : List IpAddress}
    (forwards : Forwards supplied peers final) :
    ∃ texts, List.Forall₂ HopText peers texts ∧
      headerHops final = headerHops supplied ++ texts := by
  induction forwards with
  | done header => exact ⟨[], .nil, by rw [List.append_nil]⟩
  | hop form appends _ ih =>
    obtain ⟨texts, forms, listed⟩ := ih
    refine ⟨_ :: texts, .cons form forms, ?_⟩
    rw [listed, headerHops, Option.map_some, Option.getD_some, (appends.hops form.isElement).1,
      List.append_assoc]
    rfl

/-- Behind a proxy the header ends in an element. -/
theorem Forwards.ends {supplied final : Option PyStr} {peer : IpAddress} {peers : List IpAddress}
    (forwards : Forwards supplied (peer :: peers) final) :
    ∃ front last, final = some (front ++ last) ∧ IsElement last := by
  induction peers generalizing supplied peer with
  | nil =>
    cases forwards with
    | hop form appends rest =>
      obtain ⟨front, rfl⟩ := (appends.hops form.isElement).2
      cases rest with
      | done => exact ⟨front, _, rfl, form.isElement⟩
  | cons next peers ih =>
    cases forwards with
    | hop _ _ rest => exact ih rest

section Trust
variable {trusted : List PyStr}

theorem ipInTrustedProxies_parsed {hop : PyStr} {address : IpAddress}
    (read : parseIpHop hop = some address) :
    ipInTrustedProxies hop trusted = addressTrusted trusted address := by
  rw [ipInTrustedProxies, read]

/-- The hops of trusted proxies are passed over. -/
theorem firstUntrusted_skip {peers : List IpAddress} {skipped : List PyStr}
    (forms : List.Forall₂ HopText peers skipped)
    (trust : ∀ peer ∈ peers, addressTrusted trusted peer = true) (rest : List PyStr) :
    firstUntrusted trusted (skipped ++ rest) = firstUntrusted trusted rest := by
  induction forms with
  | nil => rfl
  | cons form _ ih =>
    rw [List.forall_mem_cons] at trust
    rw [List.cons_append, firstUntrusted, form.parsed]
    dsimp only
    rw [if_pos ((ipInTrustedProxies_parsed form.parsed).trans trust.1), ih trust.2]

theorem firstUntrusted_found {hop : PyStr} {address : IpAddress} (form : HopText address hop)
    (distrust : addressTrusted trusted address = false) (rest : List PyStr) :
    firstUntrusted trusted (hop :: rest) = some address.text := by
  rw [firstUntrusted, form.parsed]
  dsimp only
  rw [ipInTrustedProxies_parsed form.parsed, distrust]
  rfl

theorem text_ne_nil (address : IpAddress) : address.text ≠ [] := by
  intro blank
  have read := ipAddress_text address
  rw [blank] at read
  contradiction

/-- The walk ends at the client, whatever the client supplied. -/
theorem Forwards.client {supplied final : Option PyStr} {client : IpAddress}
    {proxies : List IpAddress} (forwards : Forwards supplied (client :: proxies) final)
    (trust : ∀ proxy ∈ proxies, addressTrusted trusted proxy = true)
    (distrust : addressTrusted trusted client = false) :
    forwardedFor final trusted = some client.text := by
  obtain ⟨texts, forms, listed⟩ := forwards.hops
  obtain ⟨front, last, rfl, element⟩ := forwards.ends
  cases forms with
  | cons form forms =>
    rename_i text texts
    have hops : xffHops (strip (front ++ last)) = headerHops supplied ++ text :: texts :=
      (xffHops_strip rfl element).trans listed
    have full : strip (front ++ last) ≠ [] := by
      intro blank
      have none : xffHops [] = [] := rfl
      rw [blank, none] at hops
      exact absurd (congrArg List.length hops) (by simp)
    rw [forwardedFor, Option.bind_some, if_neg full, clientIpFromXff, hops, List.reverse_append,
      List.reverse_cons, List.append_assoc]
    have back : List.Forall₂ HopText proxies.reverse texts.reverse := List.forall₂_reverse_iff.mpr forms
    rw [firstUntrusted_skip back fun proxy member => trust proxy (List.mem_reverse.mp member)]
    rw [List.singleton_append, firstUntrusted_found form distrust]
    simp [text_ne_nil]

/-- Behind trusted proxies the answer is the client that the first of them saw, and without
a trusted peer the header does not count. -/
theorem getClientIp_unspoofed (trusted : List PyStr) :
    (∀ (supplied header : Option PyStr) (client last : IpAddress) (proxies : List IpAddress)
      (remote : PyStr), addressTrusted trusted client = false →
        (∀ proxy ∈ proxies, addressTrusted trusted proxy = true) →
        addressTrusted trusted last = true → HopText last remote →
        Forwards supplied (client :: proxies) header →
          getClientIp trusted (some remote) header = some client.text) ∧
    ∀ remote, ipInTrustedProxies remote trusted = false →
      ∀ header other : Option PyStr,
        getClientIp trusted (some remote) header = getClientIp trusted (some remote) other := by
  constructor
  · intro supplied header client last proxies remote distrust trust lastTrust form forwards
    have peer : remoteAddr (some remote) = some last.text := by
      rw [remoteAddr, Option.bind_some, form.parsed]
    have check : ipInTrustedProxies last.text trusted = true :=
      (ipInTrustedProxies_parsed (parseIpHop_text form.parsed)).trans lastTrust
    have some : trusted ≠ [] := by
      rintro rfl
      contradiction
    rw [getClientIp, peer]
    dsimp only
    rw [if_pos (by simp [check, some, text_ne_nil]), forwards.client trust distrust]
  · intro remote distrust header other
    have check : ∀ address, remoteAddr (some remote) = some address →
        ipInTrustedProxies address trusted = false := by
      intro address found
      rw [remoteAddr, Option.bind_some] at found
      cases parsed : parseIpHop remote with
      | some read =>
        rw [parsed] at found
        obtain rfl := Option.some.inj found
        rw [ipInTrustedProxies_parsed parsed] at distrust
        exact (ipInTrustedProxies_parsed (parseIpHop_text parsed)).trans distrust
      | none =>
        rw [parsed] at found
        dsimp only at found
        split at found
        · obtain rfl := Option.some.inj found
          have same : parseIpHop (strip remote) = parseIpHop remote := by
            rw [parseIpHop, strip_strip, ← parseIpHop]
          rw [ipInTrustedProxies, same, parsed]
        · contradiction
    rw [getClientIp, getClientIp]
    cases found : remoteAddr (some remote) with
    | none => rfl
    | some address => simp [check address found]

end Trust

def demoClient : IpAddress := .v4 (.ofOctets 198 51 100 5)
def demoProxy : IpAddress := .v4 (.ofOctets 10 1 2 3)

theorem isListable_digits {text : PyStr}
    (all : text.all (fun c => isAsciiDigit c || c == fullStop) = true) :
    ∀ c ∈ text, IsListable c := by
  intro c member
  have digit := List.all_eq_true.mp all c member
  rw [Bool.or_eq_true, beq_iff_eq] at digit
  rcases digit with digit | rfl
  · refine ⟨(digit_plain digit).1, (digit_plain digit).2.1, (digit_plain digit).2.2.2, ?_⟩
    rintro rfl
    contradiction
  · exact ⟨by decide, by decide, by decide, by decide⟩

/-- A forged address in front, a port, and a proxy of a trusted network. -/
theorem getClientIp_unspoofed_demo :
    getClientIp [lit "10.0.0.0/8"] (some (lit "10.1.2.3"))
      (some (lit "1.2.3.4, 198.51.100.5:4431")) = some (lit "198.51.100.5") :=
  (getClientIp_unspoofed [lit "10.0.0.0/8"]).1 (some (lit "1.2.3.4")) _ demoClient demoProxy []
    (lit "10.1.2.3") (by decide +kernel) (fun _ member => absurd member List.not_mem_nil)
    (by decide +kernel) (.plain (by decide +kernel) (isListable_digits (by decide)))
    (.hop (@HopText.port _ (lit "198.51.100.5") (lit "4431") (by decide +kernel)
      (by unfold IsPort; decide)) (@Appends.listed _ _ [0x20] (by decide)) (.done _))

end HostingService
