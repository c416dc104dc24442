import JavadocLint.Text.Chunk
import JavadocLint.Unicode.Category

/- Quoted texts for messages: visible characters stand for themselves, everything else is escaped so
   that the bytes can be told. -/
namespace JavadocLint.Text

def isPrintable (r : Nat) : Bool :=
  r == 0x20 || (0x21 ≤ r && r ≤ 0x7E) || (0x80 ≤ r && Unicode.Category.isVisible r)

def escapedRune (r : Nat) : Text :=
  if r = 7 then utf8 "\\a"
  else if r = 8 then utf8 "\\b"
  else if r = 12 then utf8 "\\f"
  else if r = 10 then utf8 "\\n"
  else if r = 13 then utf8 "\\r"
  else if r = 9 then utf8 "\\t"
  else if r = 11 then utf8 "\\v"
  else if r < 0x20 || r = 0x7F then utf8 "\\x" ++ hex 2 r
  else if r < 0x10000 then utf8 "\\u" ++ hex 4 r
  else utf8 "\\U" ++ hex 8 r

def quotedChunk (c : Chunk) : Text :=
  if (sequence? c.bytes).isNone then utf8 "\\x" ++ hex 2 (c.bytes.headD 0).toNat
  else if c.rune = 0x22 || c.rune = 0x5C then byte '\\' :: c.bytes
  else if isPrintable c.rune then c.bytes
  else escapedRune c.rune

def quoted (t : Text) : Text := utf8 "\"" ++ t.chunks.flatMap quotedChunk ++ utf8 "\""

end JavadocLint.Text
