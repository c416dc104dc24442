/- Texts are byte strings. A source file may hold bytes that are not valid UTF-8, and every
   length, column and comparison of the checker counts bytes. -/
namespace JavadocLint

abbrev Text := List UInt8

def utf8 (s : String) : Text := s.toUTF8.data.toList

def byte (c : Char) : UInt8 := c.toNat.toUInt8

namespace Text

def indexOf? (needle : Text) : Text → Option Nat
  | [] => if needle.isEmpty then some 0 else none
  | b :: t => if needle.isPrefixOf (b :: t) then some 0 else (indexOf? needle t).map (· + 1)

def containsText (needle t : Text) : Bool := (indexOf? needle t).isSome

def cut? (needle t : Text) : Option (Text × Text) :=
  (indexOf? needle t).map fun i => (t.take i, t.drop (i + needle.length))

/-- The pieces between the occurrences of one byte; there is always at least one piece. -/
def splitOn (sep : UInt8) : Text → List Text
  | [] => [[]]
  | b :: t =>
    if b = sep then [] :: splitOn sep t
    else match splitOn sep t with
      | [] => [[b]]
      | piece :: rest => (b :: piece) :: rest

def join (sep : Text) : List Text → Text
  | [] => []
  | [t] => t
  | t :: rest => t ++ sep ++ join sep rest

def dropStart? (start t : Text) : Option Text :=
  if start.isPrefixOf t then some (t.drop start.length) else none

def dropEnd? (ending t : Text) : Option Text :=
  if ending.isSuffixOf t then some (t.take (t.length - ending.length)) else none

def replicate (n : Nat) (b : UInt8) : Text := List.replicate n b

def ofNat (n : Nat) : Text := utf8 (toString n)

def ofInt (i : Int) : Text :=
  if i < 0 then byte '-' :: ofNat i.natAbs else ofNat i.natAbs

/-- Bytewise order, the order of file names, rule names and map keys. -/
def lt : Text → Text → Bool
  | _, [] => false
  | [], _ :: _ => true
  | a :: s, b :: t => if a = b then lt s t else a < b

def le (s t : Text) : Bool := !lt t s

def isDigit (b : UInt8) : Bool := byte '0' ≤ b && b ≤ byte '9'

def isLower (b : UInt8) : Bool := byte 'a' ≤ b && b ≤ byte 'z'

def isUpper (b : UInt8) : Bool := byte 'A' ≤ b && b ≤ byte 'Z'

def isAlnum (b : UInt8) : Bool := isDigit b || isLower b || isUpper b

def lowerByte (b : UInt8) : UInt8 := if isUpper b then b + 32 else b

def hexValue? (b : UInt8) : Option Nat :=
  if isDigit b then some (b.toNat - 48)
  else if byte 'a' ≤ b && b ≤ byte 'f' then some (b.toNat - 87)
  else if byte 'A' ≤ b && b ≤ byte 'F' then some (b.toNat - 55)
  else none

def hexDigit (n : Nat) : UInt8 := (if n % 16 < 10 then n % 16 + 48 else n % 16 + 87).toUInt8

def hex : Nat → Nat → Text
  | 0, _ => []
  | width + 1, n => hex width (n / 16) ++ [hexDigit n]

end Text
end JavadocLint
