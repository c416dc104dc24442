import JavadocLint.Text.Chunk

/- White space. The blanks are the characters with the Unicode property White_Space. -/
namespace JavadocLint

def isBlank (r : Nat) : Bool :=
  (0x09 ≤ r && r ≤ 0x0D) || r == 0x20 || r == 0x85 || r == 0xA0 || r == 0x1680
    || (0x2000 ≤ r && r ≤ 0x200A) || r == 0x2028 || r == 0x2029 || r == 0x202F || r == 0x205F
    || r == 0x3000

namespace Text

def trimStart (t : Text) : Text :=
  ofChunks (t.chunks.dropWhile fun c => isBlank c.rune)

def trimEnd (t : Text) : Text :=
  ofChunks (t.chunks.reverse.dropWhile fun c => isBlank c.rune).reverse

def trim (t : Text) : Text := t.trimStart.trimEnd

def isBlankText (t : Text) : Bool := t.chunks.all fun c => isBlank c.rune

def indent (t : Text) : Text := ofChunks (t.chunks.takeWhile fun c => isBlank c.rune)

def firstWord (t : Text) : Text :=
  ofChunks ((t.chunks.dropWhile fun c => isBlank c.rune).takeWhile fun c => !isBlank c.rune)

def listItems (t : Text) : List Text :=
  ((splitOn (byte ',') t).map trim).filter fun item => !item.isEmpty

end Text
end JavadocLint
