import HostingService.Text.Uuid

/-! `ipaddress.ip_address`: IPv4 and IPv6 addresses, the texts that are taken for one, and
the compressed text of an address. -/

namespace HostingService.Text

def fullStop : Nat := 0x2E
def colon : Nat := 0x3A

/-- `text.partition(sep)`: the text before the first separator, whether there is one, and the
text after it. -/
def partition (sep : Nat) : PyStr → PyStr × Bool × PyStr
  | [] => ([], false, [])
  | c :: rest =>
    if c = sep then ([], true, rest)
    else (c :: (partition sep rest).1, (partition sep rest).2)

/-! ### IPv4 -/

instance neZero_ipv4 : NeZero (2 ^ 32) := ⟨by decide⟩

structure IPv4Address where
  int : Fin (2 ^ 32)
  deriving DecidableEq

def isAsciiDigit (c : Nat) : Bool := 0x30 ≤ c && c ≤ 0x39

def decimalNumber (digits : PyStr) : Nat :=
  digits.foldl (fun value digit => value * 10 + (digit - 0x30)) 0

/-- `_parse_octet`: up to three decimal digits, without leading zeros. -/
def parseOctet (text : PyStr) : Option Nat :=
  if text = [] || !text.all isAsciiDigit || 3 < text.length ||
      (text.head? = some 0x30 && text ≠ [0x30]) then none
  else if 255 < decimalNumber text then none
  else some (decimalNumber text)

def IPv4Address.ofOctets (first second third fourth : Nat) : IPv4Address :=
  ⟨Fin.ofNat _ (((first * 256 + second) * 256 + third) * 256 + fourth)⟩

/-- `IPv4Address(text)` -/
def IPv4Address.parse (text : PyStr) : Option IPv4Address :=
  match (text.splitOn fullStop).map parseOctet with
  | [some first, some second, some third, some fourth] =>
    some (.ofOctets first second third fourth)
  | _ => none

/-- `str(octet)` -/
def octetText (octet : Nat) : PyStr :=
  if octet < 10 then [0x30 + octet]
  else if octet < 100 then [0x30 + octet / 10, 0x30 + octet % 10]
  else [0x30 + octet / 100, 0x30 + octet / 10 % 10, 0x30 + octet % 10]

namespace IPv4Address

def octets (address : IPv4Address) : List Nat :=
  [address.int / 16777216, address.int / 65536 % 256, address.int / 256 % 256, address.int % 256]

def text (address : IPv4Address) : PyStr := [fullStop].intercalate (address.octets.map octetText)

end IPv4Address

/-! ### IPv6 -/

/-- The zone behind the percent sign. -/
structure ScopeId where
  text : PyStr
  full : text ≠ []
  plain : percent ∉ text ∧ slash ∉ text
  deriving DecidableEq

structure IPv6Address where
  int : Fin (2 ^ 128)
  scopeId : Option ScopeId
  deriving DecidableEq

/-- `_parse_hextet` -/
def parseHextet (text : PyStr) : Option Nat :=
  if text = [] || !text.all isHex || 4 < text.length then none else some (hexNumber text)

/-- `'%x' % value`, of 16 bits. -/
def hextetText (value : Nat) : PyStr :=
  match (hexText 4 value).dropWhile (· = 0x30) with
  | [] => [0x30]
  | digits => digits

/-- An IPv4 address at the end stands for two parts. -/
def expandIpv4 (parts : List PyStr) : Option (List PyStr) :=
  match parts.getLast? with
  | none => some parts
  | some last =>
    if fullStop ∈ last then
      (IPv4Address.parse last).map fun address =>
        parts.dropLast ++ [hextetText (address.int / 65536), hextetText (address.int % 65536)]
    else some parts

/-- The eight numbers that the parts stand for: an empty part inside is a run of zeros, and
only beside it the first or the last part may be empty. -/
def hextetsOf (parts : List PyStr) : Option (List Nat) :=
  let inner := parts.tail.dropLast
  match inner.count [] with
  | 0 => if parts.length = 8 then parts.mapM parseHextet else none
  | 1 => do
    let skip := inner.idxOf [] + 1
    let high ← (if parts.head? = some [] then (if skip = 1 then some [] else none)
      else some (parts.take skip))
    let low ← (if parts.getLast? = some [] then
        (if skip + 2 = parts.length then some [] else none)
      else some (parts.drop (skip + 1)))
    if 8 ≤ high.length + low.length then none
    else
      return (← high.mapM parseHextet) ++ List.replicate (8 - (high.length + low.length)) 0 ++
        (← low.mapM parseHextet)
  | _ => none

def hextetNumber (hextets : List Nat) : Nat :=
  hextets.foldl (fun value hextet => value * 65536 + hextet) 0

/-- `_ip_int_from_string` of `IPv6Address` -/
def ipv6Int (text : PyStr) : Option (Fin (2 ^ 128)) := do
  let parts := text.splitOn colon
  if parts.length < 3 then none
  else
    let parts ← expandIpv4 parts
    if 9 < parts.length then none
    else return Fin.ofNat _ (hextetNumber (← hextetsOf parts))

/-- `_split_scope_id` -/
def ScopeId.parse (text : PyStr) : Option ScopeId :=
  if h : text ≠ [] ∧ percent ∉ text ∧ slash ∉ text then some ⟨text, h.1, h.2⟩ else none

/-- `IPv6Address(text)` -/
def IPv6Address.parse (text : PyStr) : Option IPv6Address :=
  if slash ∈ text then none
  else
    match partition percent text with
    | (address, false, _) => (ipv6Int address).map fun int => ⟨int, none⟩
    | (address, true, scope) => do
      let scope ← ScopeId.parse scope
      return ⟨← ipv6Int address, some scope⟩

/-- The longest run of zeros, the first of several: where it starts, and its length. -/
def longestZeros (hextets : List PyStr) : Nat × Nat := go hextets 0 (0, 0) (0, 0)
where
  go : List PyStr → Nat → Nat × Nat → Nat × Nat → Nat × Nat
    | [], _, best, _ => best
    | hextet :: rest, index, best, run =>
      if hextet = [0x30] then
        let run := (if run.2 = 0 then index else run.1, run.2 + 1)
        go rest (index + 1) (if best.2 < run.2 then run else best) run
      else go rest (index + 1) best (0, 0)

/-- `_compress_hextets` -/
def compressHextets (hextets : List PyStr) : List PyStr :=
  let (start, count) := longestZeros hextets
  if 1 < count then
    (if start = 0 then [[]] else hextets.take start) ++
      [] :: (if start + count = hextets.length then [[]] else hextets.drop (start + count))
  else hextets

/-- `count` groups of 16 bits, the highest first. -/
def hextetsFrom : Nat → Nat → List Nat
  | 0, _ => []
  | count + 1, value => hextetsFrom count (value / 65536) ++ [value % 65536]

namespace IPv6Address

/-- `ipv4_mapped` -/
def ipv4Mapped (address : IPv6Address) : Option IPv4Address :=
  if (address.int : Nat) / 2 ^ 32 = 0xFFFF then some ⟨Fin.ofNat _ address.int⟩ else none

/-- The text of the number: without a zone. -/
def ipStr (address : IPv6Address) : PyStr :=
  match address.ipv4Mapped with
  | some mapped => lit "::ffff:" ++ mapped.text
  | none => [colon].intercalate (compressHextets ((hextetsFrom 8 address.int).map hextetText))

/-- `compressed`, which is `str(address)`. -/
def compressed (address : IPv6Address) : PyStr :=
  match address.scopeId with
  | some scope => address.ipStr ++ percent :: scope.text
  | none => address.ipStr

end IPv6Address

/-! ### Addresses -/

inductive IpAddress where
  | v4 (address : IPv4Address)
  | v6 (address : IPv6Address)
  deriving DecidableEq

/-- `ipaddress.ip_address(text)`; `none` is its `ValueError`. -/
def ipAddress (text : PyStr) : Option IpAddress :=
  match IPv4Address.parse text with
  | some address => some (.v4 address)
  | none => (IPv6Address.parse text).map .v6

/-! ### The text of a hextet -/

theorem hexNumber_dropZeros (digits : PyStr) :
    hexNumber (digits.dropWhile (· = 0x30)) = hexNumber digits := by
  induction digits with
  | nil => rfl
  | cons c rest ih =>
    by_cases zero : c = 0x30
    · subst zero
      rw [List.dropWhile_cons, if_pos (by simp), ih]
      rfl
    · rw [List.dropWhile_cons, if_neg (by simpa using zero)]

theorem hextetText_hex {value : Nat} (c : Nat) (member : c ∈ hextetText value) :
    isLowerHex c = true := by
  rw [hextetText] at member
  split at member
  · obtain rfl := List.mem_singleton.mp member
    rfl
  · exact hexText_lower ((List.dropWhile_sublist _).subset member)

/-- A hextet is no separator, and not empty. -/
theorem hextetText_plain (value : Nat) : hextetText value ≠ [] ∧ colon ∉ hextetText value ∧
    fullStop ∉ hextetText value ∧ percent ∉ hextetText value ∧ slash ∉ hextetText value := by
  refine ⟨?_, fun member => ?_, fun member => ?_, fun member => ?_, fun member => ?_⟩
  · rw [hextetText]
    split
    · simp
    · rename_i full
      exact fun blank => full blank
  all_goals
    have lower := hextetText_hex _ member
    contradiction

theorem parseHextet_hextetText {value : Nat} (small : value < 65536) :
    parseHextet (hextetText value) = some value := by
  have number : hexNumber (hextetText value) = value := by
    have whole := hexNumber_hexText 4 value
    rw [← hexNumber_dropZeros, Nat.mod_eq_of_lt (by simpa using small)] at whole
    rw [hextetText]
    split
    · rename_i blank
      rw [blank] at whole
      exact whole
    · exact whole
  have short : (hextetText value).length ≤ 4 := by
    rw [hextetText]
    split
    · simp
    · exact (List.dropWhile_sublist _).length_le.trans (hexText_length 4 value).le
  have hexes : (hextetText value).all isHex = true :=
    List.all_eq_true.mpr fun c member => (lowerHex_facts (hextetText_hex c member)).2.1
  rw [parseHextet, if_neg, number]
  simp [hexes, (hextetText_plain value).1]
  omega

theorem hextetText_zero {value : Nat} (small : value < 65536) (zero : hextetText value = [0x30]) :
    value = 0 := by
  have parsed := parseHextet_hextetText small
  rw [zero] at parsed
  exact (Option.some.inj parsed).symm

theorem mapM_parseHextet {hextets : List Nat} (small : ∀ hextet ∈ hextets, hextet < 65536) :
    (hextets.map hextetText).mapM parseHextet = some hextets := by
  induction hextets with
  | nil => rfl
  | cons hextet rest ih =>
    rw [List.map_cons, List.mapM_cons, parseHextet_hextetText (small hextet (by simp)),
      ih fun other member => small other (by simp [member])]
    rfl

/-! ### Numbers of groups -/

theorem hextetsFrom_length (count value : Nat) : (hextetsFrom count value).length = count := by
  induction count generalizing value with
  | zero => rfl
  | succ count ih => simp [hextetsFrom, ih]

theorem hextetsFrom_small {count value hextet : Nat} (member : hextet ∈ hextetsFrom count value) :
    hextet < 65536 := by
  induction count generalizing value with
  | zero => simp [hextetsFrom] at member
  | succ count ih =>
    rcases List.mem_append.mp member with front | last
    · exact ih front
    · rw [List.mem_singleton.mp last]
      exact Nat.mod_lt _ (by decide)

theorem hextetNumber_hextetsFrom (count value : Nat) :
    hextetNumber (hextetsFrom count value) = value % 65536 ^ count := by
  induction count generalizing value with
  | zero => simp [hextetsFrom, hextetNumber, Nat.mod_one]
  | succ count ih =>
    have front : hextetNumber (hextetsFrom count (value / 65536)) = value / 65536 % 65536 ^ count :=
      ih _
    unfold hextetNumber at *
    rw [hextetsFrom, List.foldl_append, front]
    simp only [List.foldl_cons, List.foldl_nil]
    rw [Nat.pow_succ, Nat.mul_comm (65536 ^ count) 65536, Nat.mod_mul]
    omega

/-! ### The run of zeros -/

/-- The hextets of the run are zeros. -/
def ZerosAt (hextets : List PyStr) (run : Nat × Nat) : Prop :=
  ∀ index, run.1 ≤ index → index < run.1 + run.2 → hextets[index]? = some [0x30]

theorem longestZeros_go {hextets done rest : List PyStr} {best run : Nat × Nat}
    (whole : hextets = done ++ rest) (bestZeros : ZerosAt hextets best)
    (runZeros : ZerosAt hextets run) (ending : run.2 ≠ 0 → run.1 + run.2 = done.length) :
    ZerosAt hextets (longestZeros.go rest done.length best run) := by
  induction rest generalizing done best run with
  | nil => exact bestZeros
  | cons hextet rest ih =>
    have further : hextets = (done ++ [hextet]) ++ rest := by simpa using whole
    have count : (done ++ [hextet]).length = done.length + 1 := by simp
    rw [longestZeros.go]
    split
    · rename_i zero
      have here : hextets[done.length]? = some [0x30] := by simp [whole, zero]
      have longer : ZerosAt hextets (if run.2 = 0 then done.length else run.1, run.2 + 1) := by
        intro index low high
        by_cases fresh : run.2 = 0
        · simp only [fresh, ↓reduceIte] at low high
          rwa [show index = done.length by omega]
        · simp only [fresh, ↓reduceIte] at low high
          have last := ending fresh
          rcases Nat.lt_or_ge index done.length with inside | outside
          · exact runZeros index low (by omega)
          · rwa [show index = done.length by omega]
      have ends : (if run.2 = 0 then done.length else run.1) + (run.2 + 1) = done.length + 1 := by
        by_cases fresh : run.2 = 0
        · simp [fresh]
        · rw [if_neg fresh, ← ending fresh]
          omega
      generalize (if run.2 = 0 then done.length else run.1) = start at longer ends
      have best : ZerosAt hextets (if best.2 < (start, run.2 + 1).2 then (start, run.2 + 1) else best) := by
        split
        · exact longer
        · exact bestZeros
      rw [← count] at ends ⊢
      exact ih further best longer fun _ => ends
    · rw [← count]
      exact ih further bestZeros (fun index low high => absurd high (by simp at low ⊢)) (by simp)

theorem longestZeros_zeros (hextets : List PyStr) : ZerosAt hextets (longestZeros hextets) := by
  have none : ZerosAt hextets (0, 0) := fun index _ high => absurd high (by simp)
  have split : hextets = [] ++ hextets := rfl
  exact longestZeros_go split none none fun nonzero => absurd rfl nonzero

/-! ### The parts of a compressed text -/

/-- The texts on one side of the run of zeros. -/
def sideOf (hextets : List Nat) : List PyStr :=
  if hextets = [] then [[]] else hextets.map hextetText

theorem map_hextetText_plain (hextets : List Nat) : [] ∉ hextets.map hextetText := by
  intro member
  obtain ⟨value, _, blank⟩ := List.mem_map.mp member
  exact (hextetText_plain value).1 blank

theorem sideOf_ne_nil (hextets : List Nat) : sideOf hextets ≠ [] := by
  rw [sideOf]
  split
  · simp
  · rename_i full
    simpa using full

/-- Only a side without hextets has an empty part. -/
theorem sideOf_blank {hextets : List Nat} (member : [] ∈ sideOf hextets) : hextets = [] := by
  rw [sideOf] at member
  split at member
  · assumption
  · exact absurd member (map_hextetText_plain hextets)

theorem sideOf_tail (hextets : List Nat) : [] ∉ (sideOf hextets).tail := by
  intro member
  obtain rfl := sideOf_blank (List.mem_of_mem_tail member)
  simp [sideOf] at member

theorem sideOf_dropLast (hextets : List Nat) : [] ∉ (sideOf hextets).dropLast := by
  intro member
  obtain rfl := sideOf_blank ((List.dropLast_sublist _).subset member)
  simp [sideOf] at member

/-- Below the run, the outer part is empty only where the side is. -/
theorem sideOf_head (hextets : List Nat) :
    (sideOf hextets).head? = some [] ↔ hextets = [] := by
  constructor
  · intro first
    exact sideOf_blank (List.mem_of_mem_head? first)
  · rintro rfl
    rfl

theorem sideOf_last (hextets : List Nat) :
    (sideOf hextets).getLast? = some [] ↔ hextets = [] := by
  constructor
  · intro last
    exact sideOf_blank (List.mem_of_mem_getLast? last)
  · rintro rfl
    rfl

theorem sideOf_length (hextets : List Nat) : (sideOf hextets).length = max 1 hextets.length := by
  rw [sideOf]
  split
  · rename_i blank
    simp [blank]
  · rename_i full
    have := List.length_pos_iff.mpr full
    rw [List.length_map]
    omega

/-- What `_ip_int_from_string` takes from one side. -/
theorem sideOf_parts {hextets : List Nat} :
    (if hextets = [] then (if (sideOf hextets).length = 1 then some [] else none)
      else some (sideOf hextets)) = some (hextets.map hextetText) := by
  by_cases blank : hextets = []
  · subst blank
    rfl
  · rw [if_neg blank, sideOf, if_neg blank]

theorem hextetsOf_run {high low : List Nat} (highSmall : ∀ hextet ∈ high, hextet < 65536)
    (lowSmall : ∀ hextet ∈ low, hextet < 65536) (short : high.length + low.length < 8) :
    hextetsOf (sideOf high ++ [] :: sideOf low) =
      some (high ++ List.replicate (8 - (high.length + low.length)) 0 ++ low) := by
  have inner : (sideOf high ++ [] :: sideOf low).tail.dropLast =
      (sideOf high).tail ++ [] :: (sideOf low).dropLast := by
    rw [List.tail_append_of_ne_nil (sideOf_ne_nil high), List.dropLast_append_of_ne_nil (by simp),
      List.dropLast_cons_of_ne_nil (sideOf_ne_nil low)]
  have once : ((sideOf high).tail ++ [] :: (sideOf low).dropLast).count [] = 1 := by
    rw [List.count_append, List.count_cons, List.count_eq_zero.mpr (sideOf_tail high),
      List.count_eq_zero.mpr (sideOf_dropLast low)]
    simp
  have place : ((sideOf high).tail ++ [] :: (sideOf low).dropLast).idxOf [] + 1 =
      (sideOf high).length := by
    rw [List.idxOf_append_of_notMem (sideOf_tail high), List.idxOf_cons_self, List.length_tail]
    have := List.length_pos_iff.mpr (sideOf_ne_nil high)
    omega
  have first : (sideOf high ++ [] :: sideOf low).head? = (sideOf high).head? :=
    List.head?_append_of_ne_nil _ (sideOf_ne_nil high)
  have last : (sideOf high ++ [] :: sideOf low).getLast? = (sideOf low).getLast? := by
    rw [List.getLast?_append_of_ne_nil _ (by simp), List.getLast?_cons_of_ne_nil (sideOf_ne_nil low)]
  have above : (sideOf high ++ [] :: sideOf low).take (sideOf high).length = sideOf high :=
    List.take_left ..
  have below : (sideOf high ++ [] :: sideOf low).drop ((sideOf high).length + 1) = sideOf low := by
    rw [← List.drop_drop, List.drop_left]
    rfl
  have ends : (sideOf high).length + 2 = (sideOf high ++ [] :: sideOf low).length ↔
      (sideOf low).length = 1 := by
    simp only [List.length_append, List.length_cons]
    omega
  simp only [hextetsOf, inner, once, place, first, last, above, below, ends, sideOf_head,
    sideOf_last, sideOf_parts]
  simp [mapM_parseHextet highSmall, mapM_parseHextet lowSmall, short]

theorem hextetsOf_plain {hextets : List Nat} (small : ∀ hextet ∈ hextets, hextet < 65536)
    (eight : hextets.length = 8) : hextetsOf (hextets.map hextetText) = some hextets := by
  have full : ([] : PyStr) ∉ (hextets.map hextetText).tail.dropLast := fun member =>
    map_hextetText_plain hextets
      (List.mem_of_mem_tail ((List.dropLast_sublist _).subset member))
  have count : (hextets.map hextetText).tail.dropLast.count [] = 0 :=
    List.count_eq_zero.mpr full
  simp only [hextetsOf, count]
  rw [if_pos (by simpa using eight), mapM_parseHextet small]

theorem sideOf_take {hextets : List Nat} {start : Nat} (full : hextets ≠ []) :
    (if start = 0 then [[]] else (hextets.map hextetText).take start) =
      sideOf (hextets.take start) := by
  by_cases blank : start = 0
  · subst blank
    simp [sideOf]
  · rw [if_neg blank, sideOf, if_neg (by simpa [List.take_eq_nil_iff, full] using blank),
      List.map_take]

theorem sideOf_drop {hextets : List Nat} {stop : Nat} (within : stop ≤ hextets.length) :
    (if stop = (hextets.map hextetText).length then [[]] else (hextets.map hextetText).drop stop) =
      sideOf (hextets.drop stop) := by
  by_cases ends : stop = hextets.length
  · simp [ends, sideOf]
  · rw [List.length_map, if_neg ends, sideOf, if_neg, List.map_drop]
    rw [List.drop_eq_nil_iff]
    omega

/-- Between the sides stand the zeros that the text leaves out. -/
theorem zeros_between {hextets : List Nat} {start count : Nat}
    (small : ∀ hextet ∈ hextets, hextet < 65536)
    (zeros : ZerosAt (hextets.map hextetText) (start, count))
    (within : start + count ≤ hextets.length) :
    hextets = hextets.take start ++ List.replicate count 0 ++ hextets.drop (start + count) := by
  have middle : (hextets.drop start).take count = List.replicate count 0 := by
    apply List.eq_replicate_iff.mpr
    refine ⟨by rw [List.length_take, List.length_drop]; omega, fun hextet member => ?_⟩
    obtain ⟨offset, inside, rfl⟩ := List.mem_iff_getElem.mp member
    have low : offset < count := by
      rw [List.length_take] at inside
      omega
    have zero := zeros (start + offset) (by simp) (by simpa using low)
    rw [List.getElem?_map] at zero
    obtain ⟨value, found, text⟩ := Option.map_eq_some_iff.mp zero
    obtain ⟨place, rfl⟩ := List.getElem?_eq_some_iff.mp found
    rw [List.getElem_take, List.getElem_drop]
    exact hextetText_zero (small _ (List.getElem_mem _)) text
  rw [← middle, List.append_assoc, ← List.drop_drop, List.take_append_drop, List.take_append_drop]

/-- A compressed text leaves nothing out, or the zeros between two sides. -/
theorem compressHextets_sides {hextets : List Nat} (small : ∀ hextet ∈ hextets, hextet < 65536)
    (eight : hextets.length = 8) :
    compressHextets (hextets.map hextetText) = hextets.map hextetText ∨
      ∃ high low, high.length + low.length < 7 ∧
        hextets = high ++ List.replicate (8 - (high.length + low.length)) 0 ++ low ∧
        compressHextets (hextets.map hextetText) = sideOf high ++ [] :: sideOf low := by
  have zeros := longestZeros_zeros (hextets.map hextetText)
  rw [compressHextets]
  generalize longestZeros (hextets.map hextetText) = best at zeros ⊢
  obtain ⟨start, count⟩ := best
  by_cases run : 1 < count
  · right
    have within : start + count ≤ hextets.length := by
      have last := zeros (start + count - 1) (by dsimp only; omega) (by dsimp only; omega)
      obtain ⟨place, _⟩ := List.getElem?_eq_some_iff.mp last
      rw [List.length_map] at place
      omega
    have full : hextets ≠ [] := by
      rintro rfl
      simp at eight
    have above : (hextets.take start).length = start := by
      rw [List.length_take]
      omega
    have below : (hextets.drop (start + count)).length = 8 - (start + count) := by
      rw [List.length_drop, eight]
    have missing : 8 - (start + (8 - (start + count))) = count := by omega
    refine ⟨hextets.take start, hextets.drop (start + count), ?_, ?_, ?_⟩
    · omega
    · rw [above, below, missing]
      exact zeros_between small zeros within
    · simp only [if_pos run, sideOf_take full, sideOf_drop within]
  · left
    simp only [if_neg run]

theorem hextetsOf_compressHextets {hextets : List Nat}
    (small : ∀ hextet ∈ hextets, hextet < 65536) (eight : hextets.length = 8) :
    hextetsOf (compressHextets (hextets.map hextetText)) = some hextets := by
  rcases compressHextets_sides small eight with whole | ⟨high, low, short, parts, sides⟩
  · rw [whole]
    exact hextetsOf_plain small eight
  · rw [sides, hextetsOf_run, ← parts]
    · intro hextet member
      exact small hextet (by rw [parts]; simp [member])
    · intro hextet member
      exact small hextet (by rw [parts]; simp [member])
    · omega

theorem compressHextets_length {hextets : List Nat} (small : ∀ hextet ∈ hextets, hextet < 65536)
    (eight : hextets.length = 8) :
    3 ≤ (compressHextets (hextets.map hextetText)).length ∧
      (compressHextets (hextets.map hextetText)).length ≤ 9 := by
  rcases compressHextets_sides small eight with whole | ⟨high, low, short, _, sides⟩
  · rw [whole, List.length_map]
    omega
  · rw [sides, List.length_append, List.length_cons, sideOf_length, sideOf_length]
    omega

theorem sideOf_plain {hextets : List Nat} {part : PyStr} (member : part ∈ sideOf hextets) :
    part = [] ∨ ∃ value, part = hextetText value := by
  rw [sideOf] at member
  split at member
  · exact Or.inl (List.mem_singleton.mp member)
  · obtain ⟨value, _, rfl⟩ := List.mem_map.mp member
    exact Or.inr ⟨value, rfl⟩

/-- The parts of a compressed text are hextets, or empty. -/
theorem mem_compressHextets {hextets : List Nat} (small : ∀ hextet ∈ hextets, hextet < 65536)
    (eight : hextets.length = 8) {part : PyStr}
    (member : part ∈ compressHextets (hextets.map hextetText)) :
    part = [] ∨ ∃ value, part = hextetText value := by
  rcases compressHextets_sides small eight with whole | ⟨high, low, _, _, sides⟩
  · rw [whole] at member
    obtain ⟨value, _, rfl⟩ := List.mem_map.mp member
    exact Or.inr ⟨value, rfl⟩
  · rw [sides] at member
    rcases List.mem_append.mp member with above | below
    · exact sideOf_plain above
    · rcases List.mem_cons.mp below with blank | below
      · exact Or.inl blank
      · exact sideOf_plain below

/-! ### The text of an address -/

theorem partition_absent {sep : Nat} {text : PyStr} (absent : sep ∉ text) :
    partition sep text = (text, false, []) := by
  induction text with
  | nil => rfl
  | cons c rest ih =>
    rw [List.mem_cons, not_or] at absent
    rw [partition, if_neg (Ne.symm absent.1), ih absent.2]

theorem partition_first {sep : Nat} {text : PyStr} (absent : sep ∉ text) (rest : PyStr) :
    partition sep (text ++ sep :: rest) = (text, true, rest) := by
  induction text with
  | nil => simp [partition]
  | cons c text ih =>
    rw [List.mem_cons, not_or] at absent
    rw [List.cons_append, partition, if_neg (Ne.symm absent.1), ih absent.2]

theorem partition_found {sep : Nat} {text before after : PyStr}
    (found : partition sep text = (before, true, after)) : text = before ++ sep :: after := by
  induction text generalizing before with
  | nil => simp [partition] at found
  | cons c rest ih =>
    rw [partition] at found
    split at found
    · rename_i same
      obtain ⟨rfl, _, rfl⟩ := found
      rw [same, List.nil_append]
    · obtain ⟨rfl, others⟩ := Prod.mk.inj found
      rw [List.cons_append]
      exact congrArg _ (ih (Prod.ext rfl others))

theorem octetText_digits {octet : Nat} (small : octet < 256) {c : Nat}
    (member : c ∈ octetText octet) : 0x30 ≤ c ∧ c ≤ 0x39 := by
  rw [octetText] at member
  split at member
  · rw [List.mem_singleton] at member
    omega
  · split at member <;> simp only [List.mem_cons, List.not_mem_nil, or_false] at member <;> omega

theorem octetText_ne_nil (octet : Nat) : octetText octet ≠ [] := by
  rw [octetText]
  split
  · simp
  · split <;> simp

theorem parseOctet_octetText {octet : Nat} (small : octet < 256) :
    parseOctet (octetText octet) = some octet := by
  have digits : (octetText octet).all isAsciiDigit = true := by
    rw [List.all_eq_true]
    intro c member
    simpa [isAsciiDigit] using octetText_digits small member
  have short : (octetText octet).length ≤ 3 := by
    rw [octetText]
    split
    · simp
    · split <;> simp
  have noZero : (octetText octet).head? = some 0x30 → octetText octet = [0x30] := by
    rw [octetText]
    split
    · simp
    · split <;> simp <;> omega
  have number : decimalNumber (octetText octet) = octet := by
    rw [octetText]
    split
    · simp [decimalNumber]
    · split <;> simp [decimalNumber] <;> omega
  rw [parseOctet, if_neg, number, if_neg (by omega)]
  simp only [octetText_ne_nil, digits, Bool.or_eq_true, decide_eq_true_eq, Bool.and_eq_true,
    Bool.not_true, Bool.false_eq_true, or_false, false_or, not_or]
  refine ⟨by omega, fun starts => ?_⟩
  simp [noZero starts.1] at starts

namespace IPv4Address

theorem octets_small {address : IPv4Address} {octet : Nat} (member : octet ∈ address.octets) :
    octet < 256 := by
  have := address.int.isLt
  simp only [octets, List.mem_cons, List.not_mem_nil, or_false] at member
  omega

theorem ofOctets_octets (address : IPv4Address) :
    .ofOctets (address.int / 16777216) (address.int / 65536 % 256) (address.int / 256 % 256)
      (address.int % 256) = address := by
  have := address.int.isLt
  obtain ⟨int⟩ := address
  rw [ofOctets, mk.injEq]
  apply Fin.ext
  simp only [Fin.val_ofNat]
  omega

theorem mem_text {address : IPv4Address} {c : Nat} (member : c ∈ address.text) :
    c = fullStop ∨ 0x30 ≤ c ∧ c ≤ 0x39 := by
  rcases mem_intercalate member with same | ⟨part, place, within⟩
  · exact Or.inl same
  · obtain ⟨octet, found, rfl⟩ := List.mem_map.mp place
    exact Or.inr (octetText_digits (octets_small found) within)

theorem fullStop_mem_text (address : IPv4Address) : fullStop ∈ address.text := by
  simp [text, octets, List.intercalate_cons_cons]

theorem parse_text (address : IPv4Address) : parse address.text = some address := by
  have parts : address.text.splitOn fullStop = address.octets.map octetText := by
    apply List.splitOn_intercalate
    · intro part place
      obtain ⟨octet, found, rfl⟩ := List.mem_map.mp place
      intro member
      have digit := octetText_digits (octets_small found) member
      simp [fullStop] at digit
    · simp [octets]
  have parsed : (address.octets.map octetText).map parseOctet = address.octets.map some := by
    rw [List.map_map]
    exact List.map_congr_left fun octet found => parseOctet_octetText (octets_small found)
  rw [parse, parts, parsed]
  exact congrArg some (ofOctets_octets address)

/-- An IPv4 address consists of digits and full stops. -/
theorem parse_foreign {text : PyStr} {c : Nat} (notStop : c ≠ fullStop)
    (notDigit : isAsciiDigit c = false) (member : c ∈ text) : parse text = none := by
  have whole : [fullStop].intercalate (text.splitOn fullStop) = text :=
    List.intercalate_splitOn fullStop
  rw [← whole] at member
  rcases mem_intercalate member with same | ⟨part, place, within⟩
  · exact absurd same notStop
  · have refused : parseOctet part = none := by
      have digits : part.all isAsciiDigit = false :=
        List.all_eq_false.mpr ⟨c, within, by simp [notDigit]⟩
      rw [parseOctet, if_pos]
      simp [digits]
    have found : none ∈ (text.splitOn fullStop).map parseOctet :=
      List.mem_map.mpr ⟨part, place, refused⟩
    rw [parse]
    split
    · rename_i parts
      rw [parts] at found
      simp at found
    · rfl

end IPv4Address

namespace IPv6Address

/-- The texts of an address before its zone: no zone, no slash, and a colon. -/
theorem ipv6Int_hextets {hextets : List Nat} (small : ∀ hextet ∈ hextets, hextet < 65536)
    (eight : hextets.length = 8) :
    ipv6Int ([colon].intercalate (compressHextets (hextets.map hextetText))) =
      some (Fin.ofNat _ (hextetNumber hextets)) := by
  have length := compressHextets_length small eight
  have parts : ([colon].intercalate (compressHextets (hextets.map hextetText))).splitOn colon =
      compressHextets (hextets.map hextetText) := by
    apply List.splitOn_intercalate
    · intro part place member
      rcases mem_compressHextets small eight place with rfl | ⟨value, rfl⟩
      · simp at member
      · exact (hextetText_plain value).2.1 member
    · intro blank
      rw [blank] at length
      simp at length
  have plain : expandIpv4 (compressHextets (hextets.map hextetText)) =
      some (compressHextets (hextets.map hextetText)) := by
    rw [expandIpv4]
    split
    · rfl
    · rename_i last found
      rw [if_neg]
      rcases mem_compressHextets small eight (List.mem_of_mem_getLast? found) with
        rfl | ⟨value, rfl⟩
      · simp
      · exact (hextetText_plain value).2.2.1
  rw [ipv6Int, parts]
  simp only [plain, if_neg (show ¬(compressHextets (hextets.map hextetText)).length < 3 by omega),
    Option.bind_eq_bind, Option.bind_some, if_neg (show ¬9 <
      (compressHextets (hextets.map hextetText)).length by omega),
    hextetsOf_compressHextets small eight]
  rfl

theorem hextetsOf_mapped {high low : Nat} (highSmall : high < 65536) (lowSmall : low < 65536) :
    hextetsOf (sideOf [] ++ [] :: sideOf [0xFFFF, high, low]) =
      some [0, 0, 0, 0, 0, 0xFFFF, high, low] := by
  have none : ∀ hextet ∈ ([] : List Nat), hextet < 65536 := by simp
  have small : ∀ hextet ∈ [0xFFFF, high, low], hextet < 65536 := by
    simp [highSmall, lowSmall]
  exact hextetsOf_run none small (by simp)

theorem ipv6Int_mapped (mapped : IPv4Address) :
    ipv6Int (lit "::ffff:" ++ mapped.text) =
      some (Fin.ofNat _ (0xFFFF * 2 ^ 32 + mapped.int)) := by
  have bound := mapped.int.isLt
  have parts : (lit "::ffff:" ++ mapped.text).splitOn colon =
      [[], [], lit "ffff", mapped.text] := by
    have joined : lit "::ffff:" ++ mapped.text =
        [colon].intercalate [[], [], lit "ffff", mapped.text] := by
      simp [List.intercalate_cons_cons, lit_eq, colon]
    rw [joined]
    apply List.splitOn_intercalate
    · intro part place member
      simp only [List.mem_cons, List.not_mem_nil, or_false] at place
      rcases place with rfl | rfl | rfl | rfl
      · contradiction
      · contradiction
      · simp [lit_eq, colon] at member
      · have digit := IPv4Address.mem_text member
        simp [colon, fullStop] at digit
    · simp
  have expanded : expandIpv4 [[], [], lit "ffff", mapped.text] =
      some (sideOf [] ++ [] :: sideOf [0xFFFF, mapped.int / 65536, mapped.int % 65536]) := by
    have ones : hextetText 65535 = lit "ffff" := by decide
    simp [expandIpv4, mapped.fullStop_mem_text, mapped.parse_text, sideOf, ones]
  have highSmall : (mapped.int : Nat) / 65536 < 65536 := by omega
  have hextets := hextetsOf_mapped highSmall (Nat.mod_lt (mapped.int : Nat) (by decide))
  have number : hextetNumber [0, 0, 0, 0, 0, 0xFFFF, mapped.int / 65536, mapped.int % 65536] =
      0xFFFF * 2 ^ 32 + mapped.int := by
    simp only [hextetNumber, List.foldl_cons, List.foldl_nil]
    omega
  have long : ¬(sideOf [] ++ [] :: sideOf [0xFFFF, mapped.int / 65536,
      (mapped.int : Nat) % 65536]).length > 9 := by
    simp [sideOf_length]
  rw [ipv6Int, parts]
  simp only [expanded, Option.bind_eq_bind, Option.bind_some, if_neg long, hextets, number]
  rfl

theorem ipv6Int_ipStr (address : IPv6Address) : ipv6Int address.ipStr = some address.int := by
  have bound := address.int.isLt
  rw [ipStr]
  split
  · rename_i mapped found
    rw [ipv4Mapped] at found
    split at found
    · rename_i high
      obtain rfl := Option.some.inj found
      rw [ipv6Int_mapped]
      apply congrArg some
      apply Fin.ext
      simp only [Fin.val_ofNat]
      omega
    · contradiction
  · rw [ipv6Int_hextets (fun hextet member => hextetsFrom_small member) (hextetsFrom_length ..),
      hextetNumber_hextetsFrom]
    apply congrArg some
    apply Fin.ext
    simp only [Fin.val_ofNat]
    omega

theorem mem_ipStr {address : IPv6Address} {c : Nat} (member : c ∈ address.ipStr) :
    c = colon ∨ c = fullStop ∨ isLowerHex c = true := by
  rw [ipStr] at member
  split at member
  · rcases List.mem_append.mp member with front | digits
    · have literal : ∀ c ∈ lit "::ffff:", c = colon ∨ c = fullStop ∨ isLowerHex c = true := by
        decide
      exact literal c front
    · rcases IPv4Address.mem_text digits with same | digit
      · exact Or.inr (Or.inl same)
      · simp [isLowerHex, digit]
  · rcases mem_intercalate member with same | ⟨part, place, within⟩
    · exact Or.inl same
    · rcases mem_compressHextets (fun hextet member => hextetsFrom_small member)
        (hextetsFrom_length ..) place with rfl | ⟨value, rfl⟩
      · simp at within
      · exact Or.inr (Or.inr (hextetText_hex c within))

theorem colon_mem_ipStr (address : IPv6Address) : colon ∈ address.ipStr := by
  rw [ipStr]
  split
  · exact List.mem_append_left _ (by decide)
  · have small : ∀ hextet ∈ hextetsFrom 8 address.int, hextet < 65536 :=
      fun _ member => hextetsFrom_small member
    have length := (compressHextets_length small (hextetsFrom_length 8 address.int)).1
    generalize compressHextets ((hextetsFrom 8 address.int).map hextetText) = parts at length ⊢
    match parts, length with
    | first :: second :: rest, _ => simp [List.intercalate_cons_cons]

/-- Reading back the text of an address gives the address: pinning its text is pinning it. -/
theorem parse_compressed (address : IPv6Address) : parse address.compressed = some address := by
  have noPercent : percent ∉ address.ipStr := fun member => by
    rcases mem_ipStr member with same | same | same <;> contradiction
  have noSlash : slash ∉ address.ipStr := fun member => by
    rcases mem_ipStr member with same | same | same <;> contradiction
  have number := ipv6Int_ipStr address
  rw [compressed]
  rcases zone : address.scopeId with _ | scope
  · dsimp only
    rw [parse, if_neg noSlash, partition_absent noPercent]
    simp only [number, Option.map_some]
    rw [← zone]
  · have noSlashes : slash ∉ address.ipStr ++ percent :: scope.text := by
      rw [List.mem_append, List.mem_cons, not_or, not_or]
      exact ⟨noSlash, by decide, scope.plain.2⟩
    have read : ScopeId.parse scope.text = some scope := by
      rw [ScopeId.parse, dif_pos ⟨scope.full, scope.plain⟩]
    dsimp only
    rw [parse, if_neg noSlashes, partition_first noPercent]
    simp only [number, read, Option.bind_eq_bind, Option.bind_some, Option.pure_def]
    rw [← zone]

end IPv6Address

theorem ipAddress_compressed (address : IPv6Address) :
    ipAddress address.compressed = some (.v6 address) := by
  have member : colon ∈ address.compressed := by
    rw [IPv6Address.compressed]
    split
    · exact List.mem_append_left _ address.colon_mem_ipStr
    · exact address.colon_mem_ipStr
  rw [ipAddress, IPv4Address.parse_foreign (by decide) (by decide) member, address.parse_compressed]
  rfl

end HostingService.Text
