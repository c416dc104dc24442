import JavadocLint.Text.Chunk

/- Reading positions in a YAML stream, and the white space between its tokens. -/
namespace JavadocLint.Yaml

def isGap (r : Nat) : Bool := r == 0x20 || r == 0x09

def isBreak (r : Nat) : Bool :=
  r == 0x0A || r == 0x0D || r == 0x85 || r == 0x2028 || r == 0x2029

/-- A blank, a line break or, as zero, the end of the stream. -/
def isGapOrEnd (r : Nat) : Bool := isGap r || isBreak r || r == 0

def isAllowed (r : Nat) : Bool :=
  r == 0x09 || r == 0x0A || r == 0x0D || (0x20 ≤ r && r ≤ 0x7E) || r == 0x85
    || (0xA0 ≤ r && r ≤ 0xD7FF) || (0xE000 ≤ r && r ≤ 0xFFFD) || (0x10000 ≤ r && r ≤ 0x10FFFF)

def rune (c : Char) : Nat := c.toNat

def isNameRune (r : Nat) : Bool :=
  (r < 0x80 && Text.isAlnum r.toUInt8) || r == rune '_' || r == rune '-'

/-- The characters to come and the place of the first of them, counted from zero. -/
structure Cursor where
  rest : List Nat
  line : Nat := 0
  col : Nat := 0
  index : Nat := 0
  deriving Repr

namespace Cursor

def peek (c : Cursor) (n : Nat) : Nat := c.rest.getD n 0

/-- Moves over characters. A carriage return with a line feed after it is one break. -/
def skip : Nat → Cursor → Cursor
  | 0, c => c
  | n + 1, c =>
    match c.rest with
    | [] => c
    | r :: rest =>
      if isBreak r && !(r == 0x0D && rest.head? == some 0x0A) then
        skip n ⟨rest, c.line + 1, 0, c.index + 1⟩
      else skip n ⟨rest, c.line, c.col + 1, c.index + 1⟩

def skipWhile (p : Nat → Bool) (c : Cursor) : Cursor := c.skip (c.rest.takeWhile p).length

def breakLength (c : Cursor) : Nat :=
  if c.peek 0 == 0x0D && c.peek 1 == 0x0A then 2 else if isBreak (c.peek 0) then 1 else 0

def skipBreak (c : Cursor) : Cursor := c.skip c.breakLength

def isAtMark (c : Cursor) (mark : Char) : Bool :=
  c.col == 0 && (c.rest.take 3 == List.replicate 3 (rune mark)) && isGapOrEnd (c.peek 3)

def isAtDocumentMark (c : Cursor) : Bool := c.isAtMark '-' || c.isAtMark '.'

end Cursor

/-- The text of a line break; all but two kinds are written as a line feed. -/
def breakText (r : Nat) : List Nat := if r == 0x2028 || r == 0x2029 then [r] else [0x0A]

def breaksIn : List Nat → List Nat
  | [] => []
  | r :: rest =>
    if r == 0x0D && rest.head? == some 0x0A then breaksIn rest
    else if isBreak r then breakText r ++ breaksIn rest
    else breaksIn rest

/-- What white space between two parts of a scalar stands for: blanks for themselves, one line feed
    for a blank, and further breaks for themselves. -/
def foldGap (gap : List Nat) : List Nat :=
  match breaksIn gap with
  | [] => gap
  | [0x0A] => [0x20]
  | 0x0A :: more => more
  | breaks => breaks

end JavadocLint.Yaml
