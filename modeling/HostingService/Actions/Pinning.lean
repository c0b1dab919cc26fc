import HostingService.Actions.Endpoint

/-! A webhook's connection goes to a global address: the one in its URL or one that the
resolver gave, and no other lookup chooses it. -/

namespace HostingService

open Text

/-- The forms in which an IPv6 address holds an IPv4 address. -/
inductive Embeds (address : IPv6Address) (inner : IPv4Address) : Prop where
  /-- `::ffff:0:0/96` -/
  | mapped (int : (address.int : Nat) = 0xFFFF * 2 ^ 32 + inner.int)
  /-- `64:ff9b::/96` -/
  | nat64 (int : (address.int : Nat) = 0x64FF9B * 2 ^ 96 + inner.int)
  /-- `2002::/16` -/
  | six2four (rest : Nat) (short : rest < 2 ^ 80)
      (int : (address.int : Nat) = 0x2002 * 2 ^ 112 + inner.int * 2 ^ 80 + rest)
  /-- `::/96` -/
  | compatible (int : (address.int : Nat) = inner.int)

/-- The address that a connection reaches in the end. -/
inductive EffectiveAddress : IpAddress → IpAddress → Prop where
  | ipv4 (address : IPv4Address) : EffectiveAddress (.v4 address) (.v4 address)
  | embedded {address : IPv6Address} {inner : IPv4Address} (embeds : Embeds address inner) :
      EffectiveAddress (.v6 address) (.v4 inner)
  | plain {address : IPv6Address} (none : ∀ inner, ¬Embeds address inner) :
      EffectiveAddress (.v6 address) (.v6 address)

theorem embeds_of_some {address : IPv6Address} {inner : IPv4Address}
    (found : embeddedIpv4 address = some inner) : Embeds address inner := by
  have bound := address.int.isLt
  rw [embeddedIpv4] at found
  split at found
  · rename_i mapped place
    obtain rfl := Option.some.inj found
    rw [IPv6Address.ipv4Mapped] at place
    split at place
    · obtain rfl := Option.some.inj place
      apply Embeds.mapped
      simp only [Fin.val_ofNat]
      omega
    · contradiction
  · split at found
    · rename_i inside
      obtain rfl := Option.some.inj found
      apply Embeds.nat64
      simp only [IPv6Network.contains_iff, nat64] at inside
      simp only [Fin.val_ofNat]
      omega
    · split at found
      · rename_i inside
        obtain rfl := Option.some.inj found
        apply Embeds.six2four ((address.int : Nat) % 2 ^ 80) (Nat.mod_lt _ (by decide))
        simp only [IPv6Network.contains_iff, six2four] at inside
        simp only [Fin.val_ofNat]
        omega
      · split at found
        · rename_i inside
          obtain rfl := Option.some.inj found
          apply Embeds.compatible
          simp only [Bool.and_eq_true, IPv6Network.contains_iff, ipv4Compat] at inside
          simp only [Fin.val_ofNat]
          omega
        · contradiction

theorem not_embeds_of_none {address : IPv6Address} (found : embeddedIpv4 address = none)
    (inner : IPv4Address) : ¬Embeds address inner := by
  have bound := inner.int.isLt
  rw [embeddedIpv4] at found
  split at found
  · contradiction
  · rename_i unmapped
    have notMapped : (address.int : Nat) / 2 ^ 32 ≠ 0xFFFF := by
      intro same
      rw [IPv6Address.ipv4Mapped, if_pos same] at unmapped
      contradiction
    split at found
    · contradiction
    · split at found
      · contradiction
      · split at found
        · contradiction
        · rename_i notNat64 notSix2four notCompat
          simp only [IPv6Network.contains_iff, nat64] at notNat64
          simp only [IPv6Network.contains_iff, six2four] at notSix2four
          simp only [Bool.and_eq_true, Bool.not_eq_true', ← Bool.not_eq_true,
            IPv6Network.contains_iff, ipv4Compat, ipv4MappedNetwork, not_and, not_not] at notCompat
          intro embeds
          cases embeds with
          | mapped int => omega
          | nat64 int => omega
          | six2four rest short int => omega
          | compatible int => omega

theorem effectiveAddress_judgedIp (ip : IpAddress) : EffectiveAddress ip (judgedIp ip) := by
  cases ip with
  | v4 address => exact .ipv4 address
  | v6 address =>
    rw [judgedIp]
    split
    · rename_i inner found
      exact .embedded (embeds_of_some found)
    · rename_i found
      exact .plain (not_embeds_of_none found)

section Library
variable {library : AddressLibrary} {resolver : Resolver}

/-- What `_validate_ip` lets through is global in the end. -/
theorem validateIp_ok {ip : IpAddress} (valid : validateIp library false ip = .ok ()) :
    library.isGlobal (judgedIp ip) = true := by
  rw [validateIp] at valid
  split at valid
  · assumption
  · contradiction

/-- An address that may be connected to, and its text. -/
def Allowed (library : AddressLibrary) (host : PyStr) : Prop :=
  ∃ ip, ipAddress host = some ip ∧ validateIp library false ip = .ok ()

theorem firstAllowed_ok {port : Nat} {infos : List AddressInfo} {host : PyStr} {chosen : Nat}
    (picked : firstAllowed library false port infos = .ok (host, chosen)) :
    Allowed library host ∧ ∃ info ∈ infos, info.host = host := by
  induction infos with
  | nil => contradiction
  | cons info infos ih =>
    rw [firstAllowed] at picked
    split at picked
    · contradiction
    · rename_i candidate found
      split at picked
      · rename_i valid
        obtain ⟨rfl, _⟩ := Prod.mk.inj (Except.ok.inj picked)
        exact ⟨⟨candidate, found, valid⟩, info, by simp, rfl⟩
      · obtain ⟨allowed, other, place, same⟩ := ih picked
        exact ⟨allowed, other, List.mem_cons_of_mem _ place, same⟩

theorem resolveHostname_ok {hostname host : PyStr} {port chosen : Nat}
    (resolved : resolveHostname library resolver false hostname port = .ok (host, chosen)) :
    Allowed library host ∧
      ∃ infos, resolver hostname port = .ok infos ∧ ∃ info ∈ infos, info.host = host := by
  simp only [resolveHostname] at resolved
  split at resolved
  · contradiction
  · contradiction
  · contradiction
  · rename_i infos _ answer
    obtain ⟨allowed, among⟩ := firstAllowed_ok resolved
    exact ⟨allowed, infos, answer, among⟩

theorem literalAllowed_true {hostname : PyStr}
    (literal : literalAllowed library false hostname = true) : Allowed library hostname := by
  rw [literalAllowed] at literal
  split at literal
  · contradiction
  · rename_i ip found
    split at literal
    · rename_i valid
      exact ⟨ip, found, valid⟩
    · contradiction

theorem except_bind_ok {ε α β : Type} {first : Except ε α} {next : α → Except ε β} {value : β}
    (ran : (first >>= next) = .ok value) : ∃ middle, first = .ok middle ∧ next middle = .ok value := by
  cases first with
  | error e => contradiction
  | ok middle => exact ⟨middle, rfl, ran⟩

/-- The host of the URL, as it is looked up. -/
def urlHostname (library : AddressLibrary) (url : PyStr) : PyStr :=
  match urlparse library.tables (strip url) with
  | .ok parsed => library.tables.lower (parsed.hostname library.tables)
  | .error _ => []

/-- The host is the address of the URL itself, or one of the resolver's answers for it. -/
def ComesFrom (library : AddressLibrary) (resolver : Resolver) (url host : PyStr) : Prop :=
  host = urlHostname library url ∨
    ∃ port infos, resolver (urlHostname library url) port = .ok infos ∧
      ∃ info ∈ infos, info.host = host

theorem connectTarget_ok {hostname host : PyStr} {port chosen : Nat}
    (target : connectTarget library resolver false hostname port = .ok (host, chosen)) :
    Allowed library host ∧ (host = hostname ∨
      ∃ infos, resolver hostname port = .ok infos ∧ ∃ info ∈ infos, info.host = host) := by
  rw [connectTarget] at target
  split at target
  · rename_i literal
    obtain ⟨rfl, _⟩ := Prod.mk.inj (Except.ok.inj target)
    exact ⟨literalAllowed_true literal, Or.inl rfl⟩
  · obtain ⟨allowed, among⟩ := resolveHostname_ok target
    exact ⟨allowed, Or.inr among⟩

theorem resolveWebhookEndpoint_ok {url : PyStr} {endpoint : ResolvedWebhookEndpoint}
    (resolved : resolveWebhookEndpoint library resolver url false = .ok endpoint) :
    Allowed library endpoint.connectHost ∧
      ComesFrom library resolver url endpoint.connectHost := by
  rw [resolveWebhookEndpoint] at resolved
  rcases parse : urlparse library.tables (strip url) with _ | parsed
  · rw [parse] at resolved
    contradiction
  · have hostname : urlHostname library url =
        library.tables.lower (parsed.hostname library.tables) := by
      rw [urlHostname, parse]
    rw [ComesFrom, hostname]
    rw [parse] at resolved
    obtain ⟨_, step, resolved⟩ := except_bind_ok resolved
    obtain rfl := Except.ok.inj step
    split at resolved
    · contradiction
    · dsimp only at resolved
      split at resolved
      · contradiction
      · obtain ⟨_, _, resolved⟩ := except_bind_ok resolved
        obtain ⟨port, _, resolved⟩ := except_bind_ok resolved
        obtain ⟨⟨host, chosen⟩, target, resolved⟩ := except_bind_ok resolved
        obtain rfl := Except.ok.inj resolved
        obtain ⟨allowed, same | among⟩ := connectTarget_ok target
        · exact ⟨allowed, Or.inl same⟩
        · exact ⟨allowed, Or.inr ⟨_, among⟩⟩

/-! ### The connection -/

theorem compressed_head (address : IPv6Address) :
    address.compressed.head? ≠ some openBracket := by
  intro first
  have member : openBracket ∈ address.ipStr := by
    have full : address.ipStr ≠ [] := List.ne_nil_of_mem address.colon_mem_ipStr
    rw [IPv6Address.compressed] at first
    split at first
    · rw [List.head?_append_of_ne_nil _ full] at first
      exact List.mem_of_mem_head? first
    · exact List.mem_of_mem_head? first
  rcases IPv6Address.mem_ipStr member with same | same | same <;> contradiction

/-- The host that is connected to has no brackets to drop. -/
theorem socketConnectHost_head {host : PyStr} {ip : IpAddress} (found : ipAddress host = some ip) :
    (socketConnectHost host).head? ≠ some openBracket := by
  rw [socketConnectHost]
  split
  · exact compressed_head _
  · rename_i notV6
    intro first
    have parsed : IPv4Address.parse host = none :=
      IPv4Address.parse_foreign (by decide) (by decide) (List.mem_of_mem_head? first)
    rw [ipAddress, parsed] at found
    obtain ⟨address, _, rfl⟩ := Option.map_eq_some_iff.mp found
    exact notV6 address (by rw [ipAddress, parsed]; exact found)

theorem connectionHost_eq {host : PyStr} {chosen : PyStr}
    (noBracket : host.head? ≠ some openBracket) (accepted : connectionHost host = some chosen) :
    chosen = host := by
  simp only [connectionHost, noBracket, false_and, ↓reduceIte] at accepted
  split at accepted
  · contradiction
  · exact (Option.some.inj accepted).symm

/-- The text that is connected to names the same address. -/
theorem ipAddress_socketConnectHost {host : PyStr} {ip : IpAddress}
    (found : ipAddress host = some ip) : ipAddress (socketConnectHost host) = some ip := by
  rw [socketConnectHost]
  split
  · rename_i address same
    rw [ipAddress_compressed, ← same, found]
  · exact found

theorem resolvedWebhookConnection_peer {endpoint : ResolvedWebhookEndpoint} {ip : IpAddress}
    {connection : WebhookConnection} (found : ipAddress endpoint.connectHost = some ip)
    (opened : resolvedWebhookConnection library endpoint = some connection) :
    connection.peer = .address ip endpoint.port := by
  have pinned := ipAddress_socketConnectHost found
  rw [resolvedWebhookConnection] at opened
  split at opened
  · obtain ⟨host, _, made⟩ := Option.bind_eq_some_iff.mp opened
    obtain rfl := Option.some.inj made
    simp only [createConnection, pinned]
  · obtain ⟨host, accepted, made⟩ := Option.bind_eq_some_iff.mp opened
    obtain rfl := Option.some.inj made
    obtain rfl := connectionHost_eq (socketConnectHost_head found) accepted
    simp only [createConnection, pinned]

theorem webhookConnection_ok {url : PyStr} {connection : WebhookConnection}
    (opened : webhookConnection library resolver url false = .ok connection) :
    ∃ endpoint, resolveWebhookEndpoint library resolver url false = .ok endpoint ∧
      resolvedWebhookConnection library endpoint = some connection := by
  rw [webhookConnection] at opened
  split at opened
  · cases opened
  · cases opened
  · rename_i endpoint resolved
    split at opened
    · rename_i found
      obtain rfl := Except.ok.inj opened
      exact ⟨endpoint, resolved, found⟩
    · cases opened

end Library

/-- Without leave to use private addresses, an endpoint is an address that is global in the
end and comes from the URL or from the resolver, and a POST connects to that very address. -/
theorem webhook_stays_global (library : AddressLibrary) (resolver : Resolver) (url : PyStr) :
    (∀ endpoint, resolveWebhookEndpoint library resolver url false = .ok endpoint →
      ComesFrom library resolver url endpoint.connectHost ∧
      ∃ ip effective, ipAddress endpoint.connectHost = some ip ∧ EffectiveAddress ip effective ∧
        library.isGlobal effective = true) ∧
    ∀ connection, webhookConnection library resolver url false = .ok connection →
      ∃ endpoint ip, resolveWebhookEndpoint library resolver url false = .ok endpoint ∧
        ipAddress endpoint.connectHost = some ip ∧
        connection.peer = .address ip endpoint.port := by
  constructor
  · intro endpoint resolved
    obtain ⟨⟨ip, found, valid⟩, source⟩ := resolveWebhookEndpoint_ok resolved
    exact ⟨source, ip, judgedIp ip, found, effectiveAddress_judgedIp ip, validateIp_ok valid⟩
  · intro connection opened
    obtain ⟨endpoint, resolved, found⟩ := webhookConnection_ok opened
    obtain ⟨⟨ip, address, _⟩, _⟩ := resolveWebhookEndpoint_ok resolved
    exact ⟨endpoint, ip, resolved, address, resolvedWebhookConnection_peer address found⟩

/-! ### A host with good and bad addresses -/

/-- The leading bits of the private IPv4 networks, and how many bits follow. -/
def privateV4Networks : List (Nat × Nat) :=
  [(0, 24), (10, 24), (127, 24), (0xA9FE, 16), (0xAC1, 20), (0xC00000, 8), (0xC00002, 8),
    (0xC0A8, 16), (0x6309, 17), (0xC63364, 8), (0xCB0071, 8), (0xF, 28)]

/-- `is_global`: not private, but for two addresses, nor shared as 100.64.0.0/10 is. -/
def globalV4 (ip : IPv4Address) : Bool :=
  let inNetwork := fun network : Nat × Nat => decide ((ip.int : Nat) / 2 ^ network.2 = network.1)
  !inNetwork (0x191, 22) &&
    !(privateV4Networks.any inNetwork && !([(0xC0000009, 0), (0xC000000A, 0)].any inNetwork))

def privateV6Networks : List IPv6Network :=
  [⟨1, 0⟩, ⟨0, 0⟩, ipv4MappedNetwork, ⟨0x0064FF9B0001 * 2 ^ 80, 80⟩, ⟨0x0100 * 2 ^ 112, 64⟩,
    ⟨0x2001 * 2 ^ 112, 105⟩, ⟨0x20010DB8 * 2 ^ 96, 96⟩, six2four, ⟨0x3FFF * 2 ^ 112, 108⟩,
    ⟨0xFC00 * 2 ^ 112, 121⟩, ⟨0xFE80 * 2 ^ 112, 118⟩]

def privateV6Exceptions : List IPv6Network :=
  [⟨0x20010001 * 2 ^ 96 + 1, 0⟩, ⟨0x20010001 * 2 ^ 96 + 2, 0⟩, ⟨0x20010003 * 2 ^ 96, 96⟩,
    ⟨0x200100040112 * 2 ^ 80, 80⟩, ⟨0x20010020 * 2 ^ 96, 100⟩, ⟨0x20010030 * 2 ^ 96, 100⟩]

def globalV6 (ip : IPv6Address) : Bool :=
  match ip.ipv4Mapped with
  | some mapped => globalV4 mapped
  | none => !(privateV6Networks.any (·.contains ip) && !privateV6Exceptions.any (·.contains ip))

/-- Tables for ASCII, and the global addresses of `ipaddress`. -/
def plainAddresses : AddressLibrary where
  tables := asciiTables
  isGlobal
    | .v4 ip => globalV4 ip
    | .v6 ip => globalV6 ip

/-- Every name has a private address, a private one behind NAT64, and a global one. -/
def mixedResolver : Resolver := fun _ port =>
  .ok [⟨lit "10.0.0.1", port⟩, ⟨lit "64:ff9b::a00:1", port⟩, ⟨lit "::ffff:8.8.8.8", port⟩]

theorem webhook_stays_global_mixed :
    webhookConnection plainAddresses mixedResolver (lit "https://Hook.example:8443/in") false =
      .ok ⟨.address (.v6 ⟨0xFFFF08080808, none⟩) 8443, some (lit "hook.example")⟩ ∧
    ∃ endpoint ip, resolveWebhookEndpoint plainAddresses mixedResolver
        (lit "https://Hook.example:8443/in") false = .ok endpoint ∧
      ipAddress endpoint.connectHost = some ip ∧
      Peer.address (.v6 ⟨0xFFFF08080808, none⟩) 8443 = .address ip endpoint.port := by
  have opened : webhookConnection plainAddresses mixedResolver
      (lit "https://Hook.example:8443/in") false =
      .ok ⟨.address (.v6 ⟨0xFFFF08080808, none⟩) 8443, some (lit "hook.example")⟩ := by
    decide
  exact ⟨opened, (webhook_stays_global plainAddresses mixedResolver
    (lit "https://Hook.example:8443/in")).2 _ opened⟩

end HostingService
