import JavadocLint.Text.Basic

/- Bytes as groups of four letters that carry six bits each. The last group is filled up with equal
   signs. -/
namespace JavadocLint.Base64

def alphabet : Text :=
  utf8 "ABCDEFGHIJKLMNOPQRSTUVWXYZabcdefghijklmnopqrstuvwxyz0123456789+/"

def letter (n : Nat) : UInt8 := alphabet.getD (n % 64) 0

def pad : UInt8 := byte '='

def encode : Text → Text
  | a :: b :: c :: rest =>
    let n := (a.toNat * 256 + b.toNat) * 256 + c.toNat
    letter (n / 262144) :: letter (n / 4096) :: letter (n / 64) :: letter n :: encode rest
  | [a, b] =>
    let n := (a.toNat * 256 + b.toNat) * 4
    [letter (n / 4096), letter (n / 64), letter n, pad]
  | [a] =>
    let n := a.toNat * 16
    [letter (n / 64), letter n, pad, pad]
  | [] => []

def value? (b : UInt8) : Option Nat := alphabet.findIdx? (· == b)

/-- The bytes of whole groups. Bits that a filled-up group has over are not looked at. -/
def decodeGroups : Text → Option Text
  | [] => some []
  | a :: b :: c :: d :: rest => do
    let x ← value? a
    let y ← value? b
    let first := (x * 4 + y / 16).toUInt8
    if c == pad then
      if d == pad && rest.isEmpty then return [first] else none
    else
      let z ← value? c
      let second := (y * 16 + z / 4).toUInt8
      if d == pad then
        if rest.isEmpty then return [first, second] else none
      else
        let w ← value? d
        let more ← decodeGroups rest
        return first :: second :: (z * 64 + w).toUInt8 :: more
  | _ => none

def decode? (t : Text) : Option Text := decodeGroups (t.filter fun b => b ≠ 10 && b ≠ 13)

end JavadocLint.Base64
