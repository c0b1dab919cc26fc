import HostingService.Text.Str

/-! `base64.b64encode`, as text. -/

namespace HostingService.Text

def base64Alphabet : PyStr :=
  lit "ABCDEFGHIJKLMNOPQRSTUVWXYZabcdefghijklmnopqrstuvwxyz0123456789+/"

/-- The digit for six bits. -/
def base64Digit (bits : Nat) : Nat := base64Alphabet.getD bits 0

def base64Padding : Nat := 0x3D

def b64encode : List UInt8 → PyStr
  | [] => []
  | [first] =>
    let bits := first.toNat * 16
    [base64Digit (bits / 64), base64Digit (bits % 64), base64Padding, base64Padding]
  | [first, second] =>
    let bits := (first.toNat * 256 + second.toNat) * 4
    [base64Digit (bits / 4096), base64Digit (bits / 64 % 64), base64Digit (bits % 64), base64Padding]
  | first :: second :: third :: rest =>
    let bits := (first.toNat * 256 + second.toNat) * 256 + third.toNat
    base64Digit (bits / 262144) :: base64Digit (bits / 4096 % 64) :: base64Digit (bits / 64 % 64) ::
      base64Digit (bits % 64) :: b64encode rest

example : b64encode [0x73, 0x65, 0x63, 0x72, 0x65, 0x74, 0x21] = lit "c2VjcmV0IQ==" := by
  decide

end HostingService.Text
