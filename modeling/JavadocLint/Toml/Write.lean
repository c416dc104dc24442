import JavadocLint.Toml.Syntax

/- TOML text: keys, quoted texts, and tables indented by two columns a level. -/
namespace JavadocLint.Toml

def escapedByte (b : UInt8) : Text :=
  if b = byte '"' || b = byte '\\' then [byte '\\', b]
  else if b = 8 then utf8 "\\b"
  else if b = 9 then utf8 "\\t"
  else if b = 10 then utf8 "\\n"
  else if b = 12 then utf8 "\\f"
  else if b = 13 then utf8 "\\r"
  else if b < 32 || b = 127 then utf8 "\\u00" ++ Text.hex 2 b.toNat
  else [b]

def quoted (t : Text) : Text := utf8 "\"" ++ t.flatMap escapedByte ++ utf8 "\""

def keyPart (t : Text) : Text :=
  if !t.isEmpty && t.runes.all isBare then t else quoted t

def dottedKey (key : List Text) : Text := Text.join (utf8 ".") (key.map keyPart)

def indentation (key : List Text) : Text := Text.replicate (2 * (key.length - 1)) (byte ' ')

def textEntry (key : List Text) (value : Text) : Text :=
  indentation key ++ keyPart (key.getLastD []) ++ utf8 " = " ++ quoted value ++ utf8 "\n"

def tableHeader (key : List Text) : Text :=
  (if key.length = 1 then utf8 "\n" else []) ++ indentation key ++ utf8 "[" ++ dottedKey key
    ++ utf8 "]\n"

end JavadocLint.Toml
