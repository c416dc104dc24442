import JavadocLint.Text.Basic

/- Lengths of time, such as 1h30m or -1.5s. -/
namespace JavadocLint.Duration

def units : List (String × Nat) :=
  [("ns", 1), ("us", 1000), ("µs", 1000), ("μs", 1000), ("ms", 1000000), ("s", 1000000000),
    ("m", 60000000000), ("h", 3600000000000)]

def unit? (t : Text) : Option Nat := (units.find? fun u => utf8 u.1 = t).map Prod.snd

def digitsValue (t : Text) : Nat := t.foldl (fun n b => n * 10 + (b.toNat - 48)) 0

def limit : Nat := 0x8000000000000000

def component? (t : Text) : Option (Nat × Text) := do
  let whole := t.takeWhile Text.isDigit
  let t := t.drop whole.length
  let (fraction, t) := match Text.dropStart? (utf8 ".") t with
    | some rest => (rest.takeWhile Text.isDigit, rest.dropWhile Text.isDigit)
    | none => ([], t)
  if whole.isEmpty && fraction.isEmpty then none
  let name := t.takeWhile fun b => !Text.isDigit b && b ≠ byte '.'
  let unit ← unit? name
  let n := digitsValue whole * unit + digitsValue fraction * unit / Nat.pow 10 fraction.length
  if limit < n then none
  return (n, t.drop name.length)

def sum? : Nat → Nat → Text → Option Nat
  | _, total, [] => some total
  | 0, _, _ :: _ => none
  | fuel + 1, total, t => do
    let (n, rest) ← component? t
    if limit < total + n then none
    sum? fuel (total + n) rest

def parse? (t : Text) : Option Int := do
  let negative := t.head? = some (byte '-')
  let body := if negative || t.head? = some (byte '+') then t.tail else t
  if body = utf8 "0" then return 0
  if body.isEmpty then none
  let n ← sum? body.length 0 body
  if negative then return -(n : Int)
  if n = limit then none
  return n

end JavadocLint.Duration
