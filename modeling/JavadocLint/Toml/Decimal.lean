import JavadocLint.Text.Basic

/- Numbers with a fraction. They are kept as they were written; where their value is needed, it is
   the nearest number with 53 binary digits, a half going to the even neighbour. -/
namespace JavadocLint.Toml

inductive Decimal where
  /-- The number `digits · 10 ^ exponent` or its negative. -/
  | finite (negative : Bool) (digits : Nat) (exponent : Int)
  | infinite (negative : Bool)
  | notANumber
  deriving DecidableEq, Repr

/-- The whole number nearest to a quotient, the even one of two. -/
def roundQuotient (num den : Nat) : Nat :=
  let q := num / den
  let twice := 2 * (num % den)
  if twice < den then q else if den < twice then q + 1 else q + q % 2

def scaled (n base : Nat) (e : Int) : Nat × Nat := (n * Nat.pow base e.toNat, Nat.pow base (-e).toNat)

def binaryExponent (num den : Nat) : Int :=
  let e : Int := (num.log2 : Int) - den.log2
  let (low, one) := scaled den 2 e
  if low ≤ num * one then e else e - 1

/-- The nearest `m · 2 ^ e` with at most 53 binary digits; `none` if it is out of range. -/
def nearestBinary (digits : Nat) (exponent : Int) : Option (Nat × Int) :=
  let size : Int := (Text.ofNat digits).length + exponent
  if digits = 0 || size < -330 then some (0, 0)
  else if 310 < size then none
  else
    let (num, den) := scaled digits 10 exponent
    let e := max (binaryExponent num den - 52) (-1074)
    let (up, down) := scaled 1 2 (-e)
    let m := roundQuotient (num * up) (den * down)
    if Nat.pow 2 1024 ≤ (scaled m 2 e).1 then none else some (m, e)

namespace Decimal

def isInRange : Decimal → Bool
  | .finite _ digits exponent => (nearestBinary digits exponent).isSome
  | _ => true

def sixPlaces (m : Nat) (e : Int) : Text :=
  let (num, den) := scaled (m * 1000000) 2 e
  let n := roundQuotient num den
  let fraction := Text.ofNat (n % 1000000)
  Text.ofNat (n / 1000000) ++ utf8 "." ++ Text.replicate (6 - fraction.length) (byte '0')
    ++ fraction

def text : Decimal → Text
  | .finite negative digits exponent =>
    let (m, e) := (nearestBinary digits exponent).getD (0, 0)
    (if negative then utf8 "-" else []) ++ sixPlaces m e
  | .infinite negative => utf8 (if negative then "-Inf" else "+Inf")
  | .notANumber => utf8 "NaN"

end Decimal
end JavadocLint.Toml
