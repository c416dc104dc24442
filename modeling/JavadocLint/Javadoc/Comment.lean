import JavadocLint.Text.Blank

/- Locating the documentation comment above a declaration: the nearest line that holds only the
   opening marker and the nearest that holds only the closing one. -/
namespace JavadocLint

def lastLine? (p : Text → Bool) (lines : List Text) (start : Int) : Option Nat :=
  let upTo := lines.take (start + 1).toNat
  (upTo.reverse.findIdx? p).map fun back => upTo.length - 1 - back

def trimsTo (token line : Text) : Bool := line.trim = token

/-- The lines of the two markers, as 0-indexed numbers. -/
structure CommentRange where
  start : Option Nat
  stop : Option Nat
  deriving DecidableEq, Repr

namespace CommentRange

def isValid (r : CommentRange) : Bool :=
  match r.start, r.stop with
  | some s, some e => s < e
  | _, _ => false

/-- The line number of a marker, one below the first line when it was not found. -/
def index (line : Option Nat) : Int := (line.map Int.ofNat).getD (-1)

def isEmpty (r : CommentRange) : Bool := index r.stop - index r.start < 2

end CommentRange

def locateComment (lines : List Text) (decl : Int) : CommentRange :=
  ⟨lastLine? (trimsTo (utf8 "/**")) lines (decl - 1),
   lastLine? (trimsTo (utf8 "*/")) lines (decl - 1)⟩

end JavadocLint
