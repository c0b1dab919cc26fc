import HostingService.Hosting.Settings

/-! Semantic version parsing. -/

namespace HostingService

open Text

structure SemVer where
  major : Nat
  minor : Nat
  patch : Nat
  prerelease : PyStr
  deriving DecidableEq

/-- `int` refuses more digits than this. -/
def maxStrDigits : Nat := 4300

/-- `int(text)` of a match of `\d+`; `none` is a `ValueError`. -/
def intDigits (text : PyStr) : Option Nat :=
  if text.length > maxStrDigits then none
  else some (text.foldl (fun value digit => value * 10 + (decimalValue digit).getD 0) 0)

def isPrereleaseChar (c : Nat) : Bool :=
  (0x30 ≤ c && c ≤ 0x39) || (0x41 ≤ c && c ≤ 0x5A) || (0x61 ≤ c && c ≤ 0x7A) ||
    c == 0x2E || c == 0x2D

/-- The groups of `_VERSION_RE.fullmatch(raw)`: the three numbers have no hyphen, so
the first hyphen starts the pre-release. -/
def versionGroups (raw : PyStr) : Option ((PyStr × PyStr × PyStr) × PyStr) :=
  let body := if raw.head? = some 0x76 then raw.tail else raw
  let core := body.takeWhile (· ≠ 0x2D)
  let tail := body.dropWhile (· ≠ 0x2D)
  match core.splitOn 0x2E with
  | [major, minor, patch] =>
    let numbers := [major, minor, patch].all fun part =>
      !part.isEmpty && part.all fun c => (decimalValue c).isSome
    let prerelease := tail.isEmpty || (!tail.tail.isEmpty && tail.tail.all isPrereleaseChar)
    if numbers && prerelease then some ((major, minor, patch), tail.tail) else none
  | _ => none

def SemVer.parse (library : Library) (value : PyStr) : Except Error SemVer :=
  let raw := strip value
  if raw = [] then .error (.valueError (lit "Version is required."))
  else
    match versionGroups raw with
    | none => .error (.valueError (lit "Invalid semver: " ++ library.reprStr value))
    | some ((major, minor, patch), prerelease) =>
      match intDigits major, intDigits minor, intDigits patch with
      | some major, some minor, some patch => .ok ⟨major, minor, patch, prerelease⟩
      | _, _, _ => .error (.valueError
        (lit "Exceeds the limit (4300 digits) for integer string conversion"))

end HostingService
