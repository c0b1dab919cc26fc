import HostingService.Text.IpAddress
import HostingService.Text.Uuid

/-! JSON values as Python has them, their truth, and `int` of them. -/

namespace HostingService.Text

inductive Json where
  | null
  | bool (value : Bool)
  | int (value : Int)
  | float (value : Rat)
  /-- `Infinity` and `-Infinity`. -/
  | infinite
  | nan
  | str (text : PyStr)
  | arr (items : List Json)
  | obj (fields : List (PyStr × Json))

abbrev JsonObject := List (PyStr × Json)

/-- `fields.get(key)`; no key comes twice. -/
def JsonObject.get (fields : JsonObject) (key : String) : Option Json :=
  (fields.find? (·.1 = lit key)).map (·.2)

/-- `int(text)`; `none` is the `ValueError`. -/
def intBase10 (text : PyStr) : Option Int :=
  match stripBy isAsciiSpace (toAsciiDigits text) with
  | 0x2D :: rest => (body rest).map fun value => -value
  | 0x2B :: rest => (body rest).map Int.ofNat
  | rest => (body rest).map Int.ofNat
where
  /-- At most 4300 digits, with single underscores between them. -/
  body (text : PyStr) : Option Nat :=
    let digits := text.filter (· ≠ 0x5F)
    if ((text.splitOn 0x5F).all fun part => !part.isEmpty && part.all isAsciiDigit) &&
        digits.length ≤ 4300 then
      some (decimalNumber digits)
    else none

/-- What `int` raises: a `TypeError` or `ValueError`, or an `OverflowError`. -/
inductive IntError where
  | typeOrValue
  | overflow

namespace Json

/-- `bool(value)` -/
def truthy : Json → Bool
  | .null => false
  | .bool value => value
  | .int value => value ≠ 0
  | .float value => value ≠ 0
  | .infinite | .nan => true
  | .str text => text ≠ []
  | .arr items => !items.isEmpty
  | .obj fields => !fields.isEmpty

/-- `int(value)` -/
def toInt : Json → Except IntError Int
  | .bool value => .ok (if value then 1 else 0)
  | .int value => .ok value
  | .float value => .ok (value.num.tdiv value.den)
  | .infinite => .error .overflow
  | .str text =>
    match intBase10 text with
    | some value => .ok value
    | none => .error .typeOrValue
  | .null | .nan | .arr _ | .obj _ => .error .typeOrValue

/-- `value == text` -/
def isText (text : PyStr) : Json → Bool
  | .str other => other = text
  | _ => false

def isNull : Json → Bool
  | .null => true
  | _ => false

def asObject : Json → JsonObject
  | .obj fields => fields
  | _ => []

theorem isText_iff {text : PyStr} {value : Json} : value.isText text = true ↔ value = .str text := by
  cases value <;> simp [isText]

end Json

example : intBase10 (lit " +1_700 ") = some 1700 ∧ intBase10 (lit "1__0") = none := by decide

end HostingService.Text
