import HostingService.Hosting.Settings
import HostingService.Text.Url

/-! The endpoint of a webhook: the address that its URL is pinned to, and the connection
that a POST to it opens. -/

namespace HostingService

open Text

/-- Library code outside the repository: the Unicode tables, and `is_global` of an address. -/
structure AddressLibrary where
  tables : Unicode
  isGlobal : IpAddress → Bool

/-- The socket address of one answer of the resolver. -/
structure AddressInfo where
  host : PyStr
  port : Nat

/-- A host name that cannot be encoded is a `UnicodeError`, which is a `ValueError`. -/
inductive LookupError where
  | gaierror
  | unicodeError

/-- `socket.getaddrinfo(host, port, …)` -/
abbrev Resolver := PyStr → Nat → Except LookupError (List AddressInfo)

/-- An `SSRFError`, or another `ValueError`. -/
inductive EndpointError where
  | ssrfError (message : PyStr)
  | valueError
  deriving DecidableEq

structure ResolvedWebhookEndpoint where
  originalUrl : PyStr
  scheme : PyStr
  connectHost : PyStr
  port : Nat
  hostHeader : PyStr
  path : PyStr
  deriving DecidableEq

/-! ### Embedded addresses -/

structure IPv6Network where
  networkAddress : Nat
  hostBits : Nat

def nat64 : IPv6Network := ⟨0x0064FF9B * 2 ^ 96, 32⟩
def six2four : IPv6Network := ⟨0x2002 * 2 ^ 112, 112⟩
def ipv4Compat : IPv6Network := ⟨0, 32⟩
def ipv4MappedNetwork : IPv6Network := ⟨0xFFFF * 2 ^ 32, 32⟩

/-- `ip in network`: a zone does not matter. -/
def IPv6Network.contains (network : IPv6Network) (ip : IPv6Address) : Bool :=
  (ip.int : Nat) / 2 ^ network.hostBits = network.networkAddress / 2 ^ network.hostBits

theorem IPv6Network.contains_iff (network : IPv6Network) (ip : IPv6Address) :
    network.contains ip = true ↔
      (ip.int : Nat) / 2 ^ network.hostBits = network.networkAddress / 2 ^ network.hostBits :=
  decide_eq_true_iff

/-- `_embedded_ipv4` -/
def embeddedIpv4 (ip : IPv6Address) : Option IPv4Address :=
  match ip.ipv4Mapped with
  | some mapped => some mapped
  | none =>
    if nat64.contains ip then some ⟨Fin.ofNat _ ip.int⟩
    else if six2four.contains ip then some ⟨Fin.ofNat _ ((ip.int : Nat) / 2 ^ 80)⟩
    else if ipv4Compat.contains ip && !ipv4MappedNetwork.contains ip then
      some ⟨Fin.ofNat _ ip.int⟩
    else none

/-- The address to judge: an IPv4 address inside an IPv6 address goes first. -/
def judgedIp : IpAddress → IpAddress
  | .v4 address => .v4 address
  | .v6 address =>
    match embeddedIpv4 address with
    | some embedded => .v4 embedded
    | none => .v6 address

section Library
variable (library : AddressLibrary) (resolver : Resolver)

/-- `_validate_ip` -/
def validateIp (allowPrivate : Bool) (ip : IpAddress) : Except EndpointError Unit :=
  if allowPrivate || library.isGlobal (judgedIp ip) then .ok ()
  else .error (.ssrfError (lit "Webhook URL resolves to a private or non-public address."))

/-- `_blocked_hostname` -/
def blockedHostname (allowPrivate : Bool) (host : PyStr) : Except EndpointError Unit :=
  if host ∈ [lit "localhost", lit "metadata.google.internal"] ∧ !allowPrivate then
    .error (.ssrfError (lit "Localhost webhook URLs are not allowed."))
  else .ok ()

/-! ### `resolve_webhook_endpoint` -/

/-- `number or fallback` -/
def orNumber (fallback : Nat) : Option Nat → Nat
  | some 0 | none => fallback
  | some number => number

/-- The first answer that may be connected to. -/
def firstAllowed (allowPrivate : Bool) (port : Nat) :
    List AddressInfo → Except EndpointError (PyStr × Nat)
  | [] => .error (.ssrfError
      (lit "Webhook hostname resolves only to private or non-public addresses."))
  | info :: infos =>
    match ipAddress info.host with
    | none => .error .valueError
    | some candidate =>
      match validateIp library allowPrivate candidate with
      | .ok () => .ok (info.host, orNumber port (some info.port))
      | .error _ => firstAllowed allowPrivate port infos

/-- The address for a host name: the resolver's first answer that is allowed. -/
def resolveHostname (allowPrivate : Bool) (hostname : PyStr) (port : Nat) :
    Except EndpointError (PyStr × Nat) :=
  let unresolved := lit "Could not resolve webhook hostname: " ++ hostname
  match resolver hostname port with
  | .error .gaierror => .error (.ssrfError unresolved)
  | .error .unicodeError => .error .valueError
  | .ok [] => .error (.ssrfError unresolved)
  | .ok infos => firstAllowed library allowPrivate port infos

/-- Whether the host is an address that is allowed; an `SSRFError` is a `ValueError` too. -/
def literalAllowed (allowPrivate : Bool) (hostname : PyStr) : Bool :=
  match ipAddress hostname with
  | none => false
  | some literal =>
    match validateIp library allowPrivate literal with
    | .ok () => true
    | .error _ => false

def parsedPort (parsed : ParseResult) : Except EndpointError (Option Nat) :=
  parsed.port.mapError fun _ => .valueError

/-- The address and the port to connect to, from a host and the port of the URL. -/
def connectTarget (allowPrivate : Bool) (hostname : PyStr) (port : Nat) :
    Except EndpointError (PyStr × Nat) :=
  if literalAllowed library allowPrivate hostname then .ok (hostname, port)
  else resolveHostname library resolver allowPrivate hostname port

def hostHeader (hostname : PyStr) : Option Nat → PyStr
  | some 0 | some 80 | some 443 | none => hostname
  | some port => hostname ++ colon :: digits port

def endpointPath (parsed : ParseResult) : PyStr :=
  let path := if parsed.path = [] then [slash] else parsed.path
  if parsed.query = [] then path else path ++ questionMark :: parsed.query

def resolveWebhookEndpoint (url : PyStr) (allowPrivate : Bool) :
    Except EndpointError ResolvedWebhookEndpoint := do
  let parsed ← (urlparse library.tables (strip url)).mapError fun _ => .valueError
  if parsed.scheme ∉ [lit "http", lit "https"] then
    throw (.ssrfError (lit "Webhook URL must use http or https."))
  else
    let hostname := library.tables.lower (parsed.hostname library.tables)
    if hostname = [] then throw (.ssrfError (lit "Webhook URL must include a hostname."))
    else
      blockedHostname allowPrivate hostname
      -- an address and a host name both read the port of the URL before all else
      let parsedPort ← parsedPort parsed
      let target ← connectTarget library resolver allowPrivate hostname
        (orNumber (if parsed.scheme = lit "https" then 443 else 80) parsedPort)
      return {
        originalUrl := strip url
        scheme := parsed.scheme
        connectHost := target.1
        port := target.2
        hostHeader := hostHeader hostname parsedPort
        path := endpointPath parsed }

/-- The endpoint for the answer of the resolver. -/
def endpointAt (url : PyStr) (parsed : ParseResult) (port : Option Nat) (target : PyStr × Nat) :
    ResolvedWebhookEndpoint where
  originalUrl := strip url
  scheme := parsed.scheme
  connectHost := target.1
  port := target.2
  hostHeader := hostHeader (library.tables.lower (parsed.hostname library.tables)) port
  path := endpointPath parsed

/-- What becomes of a URL that is read: its scheme, its host and its port are looked at before
the address of its host. -/
theorem resolveWebhookEndpoint_parsed {url : PyStr} {parsed : ParseResult}
    (found : urlparse library.tables (strip url) = .ok parsed) (allowPrivate : Bool) :
    resolveWebhookEndpoint library resolver url allowPrivate =
      if parsed.scheme ∉ [lit "http", lit "https"] then
        .error (.ssrfError (lit "Webhook URL must use http or https."))
      else if library.tables.lower (parsed.hostname library.tables) = [] then
        .error (.ssrfError (lit "Webhook URL must include a hostname."))
      else blockedHostname allowPrivate (library.tables.lower (parsed.hostname library.tables)) >>=
        fun _ => parsedPort parsed >>= fun port => (connectTarget library resolver allowPrivate
          (library.tables.lower (parsed.hostname library.tables))
          (orNumber (if parsed.scheme = lit "https" then 443 else 80) port)).map
            (endpointAt library url parsed port) := by
  rw [resolveWebhookEndpoint, found]
  rfl

/-- An HTTP URL with a host and a port goes on to the address of its host. -/
theorem resolveWebhookEndpoint_eq {url : PyStr} {parsed : ParseResult} {port : Option Nat}
    (found : urlparse library.tables (strip url) = .ok parsed)
    (http : parsed.scheme ∈ [lit "http", lit "https"])
    (present : library.tables.lower (parsed.hostname library.tables) ≠ [])
    (numbered : parsed.port = .ok port) (allowPrivate : Bool) :
    resolveWebhookEndpoint library resolver url allowPrivate =
      (blockedHostname allowPrivate (library.tables.lower (parsed.hostname library.tables)) >>=
        fun _ => (connectTarget library resolver allowPrivate
          (library.tables.lower (parsed.hostname library.tables))
          (orNumber (if parsed.scheme = lit "https" then 443 else 80) port)).map
            (endpointAt library url parsed port)) := by
  rw [resolveWebhookEndpoint_parsed library resolver found, if_neg (not_not.mpr http),
    if_neg present, parsedPort, numbered]
  rfl

/-! ### The connection -/

/-- `_tls_server_name` -/
def tlsServerName (endpoint : ResolvedWebhookEndpoint) : PyStr :=
  if endpoint.hostHeader.head? = some openBracket then
    match partition closeBracket endpoint.hostHeader with
    | (host, true, _) => host.drop 1
    | (_, false, _) => endpoint.hostHeader
  else
    match rpartition colon endpoint.hostHeader with
    | (head, true, tail) =>
      if tail ≠ [] ∧ tail.all library.tables.isDigit then head else endpoint.hostHeader
    | (_, false, _) => endpoint.hostHeader

/-- `_socket_connect_host` -/
def socketConnectHost (connectHost : PyStr) : PyStr :=
  match ipAddress connectHost with
  | some (.v6 address) => address.compressed
  | _ => connectHost

/-- The host of an `http.client.HTTPConnection`; `none` is its `InvalidURL`. -/
def connectionHost (host : PyStr) : Option PyStr :=
  let host :=
    if host.head? = some openBracket ∧ host.getLast? = some closeBracket then
      (host.drop 1).dropLast
    else host
  if host.any fun c => c ≤ 0x20 || c == 0x7F then none else some host

/-- Where `socket.create_connection` goes: an address stands for itself, and any other host
is looked up. -/
inductive Peer where
  | address (ip : IpAddress) (port : Nat)
  | lookup (host : PyStr) (port : Nat)
  deriving DecidableEq

def createConnection (host : PyStr) (port : Nat) : Peer :=
  match ipAddress host with
  | some ip => .address ip port
  | none => .lookup host port

/-- A connection and, over TLS, the server name it asks for. -/
structure WebhookConnection where
  peer : Peer
  serverHostname : Option PyStr
  deriving DecidableEq

/-- The connection that `post_resolved_webhook` opens. -/
def resolvedWebhookConnection (endpoint : ResolvedWebhookEndpoint) : Option WebhookConnection := do
  if endpoint.scheme = lit "https" then
    let host ← connectionHost (tlsServerName library endpoint)
    return ⟨createConnection (socketConnectHost endpoint.connectHost) endpoint.port, some host⟩
  else
    let host ← connectionHost (socketConnectHost endpoint.connectHost)
    return ⟨createConnection host endpoint.port, none⟩

/-- A `WebhookHTTPError` for good, another `ValueError`, or an `InvalidURL`. -/
inductive PostError where
  | permanent (message : PyStr)
  | valueError
  | invalidUrl
  deriving DecidableEq

/-- The connection that `post_webhook_url` opens. -/
def webhookConnection (url : PyStr) (allowPrivate : Bool) : Except PostError WebhookConnection :=
  match resolveWebhookEndpoint library resolver url allowPrivate with
  | .error (.ssrfError message) => .error (.permanent message)
  | .error .valueError => .error .valueError
  | .ok endpoint =>
    match resolvedWebhookConnection library endpoint with
    | some connection => .ok connection
    | none => .error .invalidUrl

end Library

end HostingService
