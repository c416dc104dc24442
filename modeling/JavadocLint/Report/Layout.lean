import JavadocLint.Text.Blank
import JavadocLint.Text.Width

/- Columns on the screen. A tab goes to the next multiple of eight. -/
namespace JavadocLint

def tabWidth : Nat := 8

def columnAfter (w : WidthTable) (col rune : Nat) : Nat :=
  if rune = 9 then col + (tabWidth - col % tabWidth) else col + w.columns rune

/-- The column reached before the character at byte offset `column - 1`, or at the end of the line
    when no character begins there. `offset` bytes were read before `chunks`. -/
def visualColumnFrom (w : WidthTable) (column : Int) : Nat → Nat → List Chunk → Nat
  | _, col, [] => col
  | offset, col, c :: rest =>
    if offset + 1 = column then col
    else visualColumnFrom w column (offset + c.bytes.length) (columnAfter w col c.rune) rest

def visualColumn (w : WidthTable) (line : Text) (column : Int) : Nat :=
  if column < 0 then 0 else visualColumnFrom w column 0 0 line.chunks

def expandTabsFrom (w : WidthTable) : Nat → List Chunk → Text
  | _, [] => []
  | col, c :: rest =>
    (if c.rune = 9 then Text.replicate (tabWidth - col % tabWidth) (byte ' ')
      else Text.ofRune c.rune) ++ expandTabsFrom w (columnAfter w col c.rune) rest

/-- The line as it is printed. A line without tabs is printed byte for byte; otherwise a byte
    outside any character is printed as U+FFFD. -/
def expandTabs (w : WidthTable) (line : Text) : Text :=
  if line.contains (byte '\t') then expandTabsFrom w 0 line.chunks else line

def commonStart {α : Type} [DecidableEq α] : List α → List α → List α
  | a :: s, b :: t => if a = b then a :: commonStart s t else []
  | _, _ => []

def commonIndent (lines : List Text) : Text :=
  match (lines.filter fun line => !line.isBlankText).map fun line => line.indent.chunks with
  | [] => []
  | first :: rest => Text.ofChunks (rest.foldl commonStart first)

end JavadocLint
