import JavadocLint.Sorting
import JavadocLint.Text.Chunk
import JavadocLint.Unicode.Category
import JavadocLint.Unicode.RuneSet

/- The order in which people expect names that hold numbers: runs of digits are compared by their
   values. -/
namespace JavadocLint.NaturalOrder

def isLetter (r : Nat) : Bool :=
  [Unicode.Category.ll, Unicode.Category.lm, Unicode.Category.lo, Unicode.Category.lt,
    Unicode.Category.lu].any (Unicode.inRanges r)

def isDigit (r : Nat) : Bool := Unicode.inRanges r Unicode.Category.nd

/-- The value of the digits at the front, after those of `start`, in 64 bits. -/
def runValue (start : Int) (rs : List Nat) : Int :=
  (rs.takeWhile isDigit).foldl (fun n r => Int.bmod (n * 10 + (Int.ofNat r - 48)) 0x10000000000000000) start

def runLength (rs : List Nat) : Nat := (rs.takeWhile isDigit).length

/-- Compares two names that differ in their first characters and that both begin there with
    something else than a letter. `seen` is the common part before, last character first. -/
def ltNumber (seen a b : List Nat) : Bool :=
  let zero := a.head? = some 48 || b.head? = some 48
  let start : Int := if zero && (seen.takeWhile isDigit).any (· ≠ 48) then 1 else 0
  let m := runValue start a
  let n := runValue start b
  if m ≠ n then m < n
  else if runLength a ≠ runLength b then runLength a < runLength b
  else a.headD 0 < b.headD 0

def ltFrom (seen : List Nat) : List Nat → List Nat → Bool
  | _, [] => false
  | [], _ :: _ => true
  | x :: a, y :: b =>
    if x = y then ltFrom (x :: seen) a b
    else if isLetter x && isLetter y then x < y
    else if isLetter x || isLetter y then
      if seen.head?.any isDigit then isLetter x else isLetter y
    else ltNumber seen (x :: a) (y :: b)

def lt (s t : Text) : Bool := ltFrom [] s.runes t.runes

def sort {α : Type} (entries : List (Text × α)) : List (Text × α) :=
  sorted (fun a b => !lt b.1 a.1) entries

end JavadocLint.NaturalOrder
