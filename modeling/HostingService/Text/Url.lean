import HostingService.Text.IpAddress

/-! `urllib.parse.urlparse` and the host and port of its result. -/

namespace HostingService.Text

/-- What the Unicode tables say: `str.lower`, `str.isdigit` on one character, and
`unicodedata.normalize('NFKC', …)`. -/
structure Unicode where
  lower : PyStr → PyStr
  isDigit : Nat → Bool
  nfkc : PyStr → PyStr

/-- Tables that know ASCII only. -/
def asciiTables : Unicode where
  lower text := text.map fun c => if 0x41 ≤ c ∧ c ≤ 0x5A then c + 0x20 else c
  isDigit := isAsciiDigit
  nfkc text := text

/-- `str.lower` on ASCII text. -/
def Unicode.LowersAscii (tables : Unicode) : Prop :=
  ∀ text, (∀ c ∈ text, c < 0x80) → tables.lower text = asciiTables.lower text

theorem asciiTables_lowersAscii : asciiTables.LowersAscii := fun _ _ => rfl

inductive ValueError where
  | valueError
  deriving DecidableEq

def atSign : Nat := 0x40
def hash : Nat := 0x23
def questionMark : Nat := 0x3F
def semicolon : Nat := 0x3B
def openBracket : Nat := 0x5B
def closeBracket : Nat := 0x5D
def newline : Nat := 0x0A

/-- `text.rpartition(sep)` -/
def rpartition (sep : Nat) (text : PyStr) : PyStr × Bool × PyStr :=
  match partition sep text.reverse with
  | (after, true, before) => (before.reverse, true, after.reverse)
  | (_, false, _) => ([], false, text)

/-! ### `urlsplit` -/

def isControlOrSpace (c : Nat) : Bool := c ≤ 0x20

def isUnsafe (c : Nat) : Bool := c == 0x09 || c == 0x0D || c == newline

def isAscii (c : Nat) : Bool := c < 0x80

def isAsciiAlpha (c : Nat) : Bool := (0x41 ≤ c && c ≤ 0x5A) || (0x61 ≤ c && c ≤ 0x7A)

/-- `scheme_chars` -/
def isSchemeChar (c : Nat) : Bool :=
  isAsciiAlpha c || isAsciiDigit c || c == 0x2B || c == hyphen || c == fullStop

def isNetlocEnd (c : Nat) : Bool := c == slash || c == questionMark || c == hash

/-- The schemes whose paths have parameters. -/
def usesParams : List PyStr :=
  [lit "", lit "ftp", lit "hdl", lit "prospero", lit "http", lit "imap", lit "https",
    lit "shttp", lit "rtsp", lit "rtsps", lit "rtspu", lit "sip", lit "sips", lit "mms",
    lit "sftp", lit "tel"]

/-- The expression `\Av[a-fA-F0-9]+\..+\z`. -/
def isIpFuture (hostname : PyStr) : Bool :=
  match hostname with
  | [] => false
  | v :: rest =>
    v == 0x76 && rest.takeWhile isHex ≠ [] &&
      match rest.dropWhile isHex with
      | stop :: address => stop == fullStop && address ≠ [] && !address.contains newline
      | [] => false

/-- `_check_bracketed_host`: whether the host may stand in brackets. -/
def checkBracketedHost (hostname : PyStr) : Bool :=
  if hostname.head? = some 0x76 then isIpFuture hostname
  else
    match ipAddress hostname with
    | some (.v6 _) => true
    | _ => false

/-- `_check_bracketed_netloc` -/
def checkBracketedNetloc (netloc : PyStr) : Bool :=
  let hostnameAndPort := (rpartition atSign netloc).2.2
  match partition openBracket hostnameAndPort with
  | (before, true, bracketed) =>
    let (hostname, _, port) := partition closeBracket bracketed
    before = [] && (port = [] || port.head? = some colon) && checkBracketedHost hostname
  | (_, false, _) => checkBracketedHost (partition colon hostnameAndPort).1

section Tables
variable (tables : Unicode)

/-- `_checknetloc`: no character becomes a delimiter when it is normalized. -/
def checknetloc (netloc : PyStr) : Bool :=
  if netloc.all isAscii then true
  else
    let kept := netloc.filter fun c =>
      !(c == atSign || c == colon || c == hash || c == questionMark)
    let normalized := tables.nfkc kept
    kept = normalized ||
      normalized.all fun c =>
        !(c == slash || c == questionMark || c == hash || c == atSign || c == colon)

/-- The scheme and what follows it. -/
def splitScheme (url : PyStr) : PyStr × PyStr :=
  match partition colon url with
  | (scheme, true, rest) =>
    if scheme.head?.any isAsciiAlpha && scheme.all isSchemeChar then (tables.lower scheme, rest)
    else ([], url)
  | (_, false, _) => ([], url)

/-- `_splitnetloc`, behind two slashes. -/
def splitNetloc (url : PyStr) : PyStr × PyStr :=
  if url.take 2 = [slash, slash] then
    ((url.drop 2).takeWhile fun c => !isNetlocEnd c, (url.drop 2).dropWhile fun c => !isNetlocEnd c)
  else ([], url)

structure SplitResult where
  scheme : PyStr
  netloc : PyStr
  path : PyStr
  query : PyStr
  fragment : PyStr

def bracketsMatch (netloc : PyStr) : Bool :=
  if netloc.contains openBracket && netloc.contains closeBracket then checkBracketedNetloc netloc
  else !netloc.contains openBracket && !netloc.contains closeBracket

def urlsplit (url : PyStr) : Except ValueError SplitResult :=
  let url := (lstripBy isControlOrSpace url).filter fun c => !isUnsafe c
  let (scheme, url) := splitScheme tables url
  let (netloc, url) := splitNetloc url
  if !bracketsMatch netloc then .error .valueError
  else
    let (url, _, fragment) := partition hash url
    let (url, _, query) := partition questionMark url
    if !checknetloc tables netloc then .error .valueError
    else .ok ⟨scheme, netloc, url, query, fragment⟩

/-! ### `urlparse` -/

structure ParseResult where
  scheme : PyStr
  netloc : PyStr
  path : PyStr
  params : PyStr
  query : PyStr
  fragment : PyStr

/-- `_splitparams`: the parameters of the last segment. -/
def splitparams (path : PyStr) : PyStr × PyStr :=
  let (directory, rooted, last) := rpartition slash path
  let (name, _, params) := partition semicolon last
  (if rooted then directory ++ slash :: name else name, params)

def urlparse (url : PyStr) : Except ValueError ParseResult := do
  let ⟨scheme, netloc, path, query, fragment⟩ ← urlsplit tables url
  if scheme ∈ usesParams ∧ semicolon ∈ path then
    let (path, params) := splitparams path
    return ⟨scheme, netloc, path, params, query, fragment⟩
  else return ⟨scheme, netloc, path, [], query, fragment⟩

namespace ParseResult

/-- `_hostinfo`: the host and the text of the port. -/
def hostinfo (parsed : ParseResult) : PyStr × PyStr :=
  let hostinfo := (rpartition atSign parsed.netloc).2.2
  match partition openBracket hostinfo with
  | (_, true, bracketed) =>
    let (hostname, _, rest) := partition closeBracket bracketed
    (hostname, (partition colon rest).2.2)
  | (_, false, _) => ((partition colon hostinfo).1, (partition colon hostinfo).2.2)

/-- `hostname or ''`; a zone keeps its letters. -/
def hostname (parsed : ParseResult) : PyStr :=
  if parsed.hostinfo.1 = [] then []
  else
    let (hostname, zoned, zone) := partition percent parsed.hostinfo.1
    tables.lower hostname ++ (if zoned then percent :: zone else [])

def port (parsed : ParseResult) : Except ValueError (Option Nat) :=
  let port := parsed.hostinfo.2
  if port = [] then .ok none
  else if !port.all isAsciiDigit then .error .valueError
  else if 65535 < decimalNumber port then .error .valueError
  else .ok (some (decimalNumber port))

end ParseResult

end Tables

end HostingService.Text
