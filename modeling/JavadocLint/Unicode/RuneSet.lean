import JavadocLint.Text.Basic

/- Sets of characters given by ranges. A range is three numbers `lo, hi, step` and holds the code
   points lo, lo + step, … up to hi; a set is a flat list of ranges. -/
namespace JavadocLint.Unicode

def inRanges (r : Nat) : List Nat → Bool
  | lo :: hi :: step :: rest => (lo ≤ r && r ≤ hi && (r - lo) % step == 0) || inRanges r rest
  | _ => false

end JavadocLint.Unicode
