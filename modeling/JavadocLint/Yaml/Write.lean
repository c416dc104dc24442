import JavadocLint.Text.Base64
import JavadocLint.Text.NaturalOrder
import JavadocLint.Yaml.Cursor
import JavadocLint.Yaml.Resolve

/- YAML text for mappings of scalars. A scalar is written as plainly as it can be read back as a
   text; blocks are indented by four columns. -/
namespace JavadocLint.Yaml

inductive ScalarStyle where
  | plain
  | singleQuoted
  | doubleQuoted
  | literal
  deriving DecidableEq, Repr

def isWritable (r : Nat) : Bool :=
  r == 0x0A || (0x20 ≤ r && r ≤ 0x7E) || (0xA0 ≤ r && r ≤ 0xD7FF)
    || (0xE000 ≤ r && r ≤ 0xFFFD && r ≠ 0xFEFF)

def hasPair (p q : Nat → Bool) : List Nat → Bool
  | a :: b :: rest => (p a && q b) || hasPair p q (b :: rest)
  | _ => false

def isSpace (r : Nat) : Bool := r == 0x20

def indicators : List Nat :=
  (utf8 "#,[]\x7b\x7d&*!|>'\"%@\x60").map UInt8.toNat

def hasIndicator (rs : List Nat) : Bool :=
  [rune '-', rune '-', rune '-'].isPrefixOf rs || [rune '.', rune '.', rune '.'].isPrefixOf rs
    || rs.head?.any (fun r => indicators.contains r)
    || (rs.head?.any (fun r => r == rune '?' || r == rune '-') && (rs.tail.head?.all isGap))
    || hasPair (· == rune ':') isGap rs || rs.getLast? = some (rune ':')
    || hasPair isGapOrEnd (· == rune '#') rs

def isMultiline (rs : List Nat) : Bool := rs.any isBreak

def isClear (rs : List Nat) : Bool :=
  rs.all (fun r => r == 0x09 || isWritable r) && !hasPair isSpace isBreak rs

def allowsSingle (rs : List Nat) : Bool :=
  isClear rs && !rs.contains 0x09 && !hasPair isBreak isSpace rs

def allowsPlain (rs : List Nat) : Bool :=
  allowsSingle rs && !hasIndicator rs && !isMultiline rs
    && !rs.head?.any isSpace && !rs.getLast?.any isSpace

def allowsLiteral (rs : List Nat) : Bool := isClear rs && !rs.getLast?.any isSpace

/-- Words that stood for truth values in earlier YAML. -/
def isOldBool (t : Text) : Bool :=
  oneOf ["y", "Y", "yes", "Yes", "YES", "on", "On", "ON", "n", "N", "no", "No", "NO", "off", "Off",
    "OFF"] t

/-- The parts of a number to the base sixty after its first: at most five tens and some units. -/
def isSixtieth (t : Text) : Bool :=
  match t with
  | [a] => Text.isDigit a
  | [a, b] => byte '0' ≤ a && a ≤ byte '5' && Text.isDigit b
  | _ => false

def isDigitOrUnderscore (b : UInt8) : Bool := Text.isDigit b || b = byte '_'

def isBaseSixty (t : Text) : Bool :=
  let t := dropSign t
  let (whole, fraction) := match Text.cut? (utf8 ".") t with
    | some (w, f) => (w, f)
    | none => (t, [])
  match Text.splitOn (byte ':') whole with
  | first :: part :: parts =>
    first.head?.any Text.isDigit && first.all isDigitOrUnderscore
      && (part :: parts).all isSixtieth && fraction.all isDigitOrUnderscore
  | _ => false

def readsAsText (t : Text) : Bool := implicitTag t = strTag && !isBaseSixty t && !isOldBool t

/-- Puts spaces in front of what follows a line break, and first of all if `fresh`. -/
def indentLines (indent : Nat) : Bool → List Nat → Text
  | _, [] => []
  | fresh, r :: rest =>
    if isBreak r then Text.ofRune r ++ indentLines indent true rest
    else (if fresh then Text.replicate indent (byte ' ') else []) ++ Text.ofRune r
      ++ indentLines indent false rest

def upperHex (width n : Nat) : Text :=
  (Text.hex width n).map fun b => if Text.isLower b then b - 32 else b

def escapedRune (r : Nat) : Text :=
  let letter? := ([(0x00, '0'), (0x07, 'a'), (0x08, 'b'), (0x09, 't'), (0x0A, 'n'), (0x0B, 'v'),
    (0x0C, 'f'), (0x0D, 'r'), (0x1B, 'e'), (0x22, '"'), (0x5C, '\\'), (0x85, 'N'), (0xA0, '_'),
    (0x2028, 'L'), (0x2029, 'P')] : List (Nat × Char)).find? fun e => e.1 == r
  match letter? with
  | some (_, c) => [byte '\\', byte c]
  | none =>
    if r ≤ 0xFF then utf8 "\\x" ++ upperHex 2 r
    else if r ≤ 0xFFFF then utf8 "\\u" ++ upperHex 4 r
    else utf8 "\\U" ++ upperHex 8 r

def doubleQuoted (rs : List Nat) : Text :=
  utf8 "\"" ++ (rs.flatMap fun r =>
    if !isWritable r || isBreak r || r == 0x22 || r == 0x5C then escapedRune r
    else Text.ofRune r) ++ utf8 "\""

def singleQuoted (indent : Nat) (rs : List Nat) : Text :=
  let doubled := rs.flatMap fun r => if r == 0x27 then [0x27, 0x27] else [r]
  utf8 "'" ++ indentLines indent false doubled ++ utf8 "'"

def chompingMark (rs : List Nat) : Text :=
  match rs.reverse with
  | last :: before =>
    if !isBreak last then utf8 "-" else if before.head?.all isBreak then utf8 "+" else []
  | [] => utf8 "-"

def literal (indent : Nat) (rs : List Nat) : Text :=
  utf8 "|" ++ (if rs.head?.any (fun r => isSpace r || isBreak r) then utf8 "4" else [])
    ++ chompingMark rs ++ (if rs.head?.any isBreak then [] else utf8 "\n")
    ++ indentLines indent true rs

/-- What is written for a text: its tag, characters and style. Bytes that are no characters are
    written in base 64. -/
structure ScalarForm where
  tag : Text
  runes : List Nat
  style : ScalarStyle
  deriving DecidableEq, Repr

def lineLength : Nat := 70

def cutLines (t : Text) : Text :=
  if t.length < lineLength then t
  else (List.range ((t.length + lineLength - 1) / lineLength)).flatMap fun i =>
    (t.drop (i * lineLength)).take lineLength ++ [10]

def ScalarForm.ofText (t : Text) : ScalarForm :=
  let body := if t.isValid then t else cutLines (Base64.encode t)
  let rs := body.runes
  let quoted := if allowsSingle rs then .singleQuoted else .doubleQuoted
  let style : ScalarStyle :=
    if rs.contains 0x0A then if allowsLiteral rs then .literal else .doubleQuoted
    else if t.isValid && !readsAsText t then .doubleQuoted
    else if allowsPlain rs then .plain
    else quoted
  { tag := if t.isValid then [] else utf8 "!!binary", runes := rs, style }

def ScalarForm.render (f : ScalarForm) (indent : Nat) : Text :=
  (if f.tag.isEmpty then [] else f.tag ++ utf8 " ") ++ match f.style with
    | .plain => Text.ofRunes f.runes
    | .singleQuoted => singleQuoted indent f.runes
    | .doubleQuoted => doubleQuoted f.runes
    | .literal => literal indent f.runes

def scalar (indent : Nat) (t : Text) : Text := (ScalarForm.ofText t).render indent

def endLine (t : Text) : Text := if t.runes.getLast?.any isBreak then t else t ++ utf8 "\n"

def scalarDocument (t : Text) : Text := endLine (scalar 4 t)

/-- Keys that stand on one line with their colon; others are announced by a question mark. -/
def isSimpleKey (t : Text) : Bool :=
  let f := ScalarForm.ofText t
  !isMultiline f.runes && f.tag.length + (Text.ofRunes f.runes).length ≤ 128

def keyText (indent : Nat) (key : Text) : Text :=
  let pad := Text.replicate indent (byte ' ')
  if isSimpleKey key then pad ++ scalar (indent + 4) key ++ utf8 ":"
  else endLine (pad ++ utf8 "? " ++ scalar (indent + 4) key) ++ pad ++ utf8 ":"

def scalarEntry (indent : Nat) (key value : Text) : Text :=
  endLine (keyText indent key ++ utf8 " " ++ scalar (indent + 4) value)

def mappingEntry (indent : Nat) (key entries : Text) : Text :=
  keyText indent key ++
    if entries.isEmpty then utf8 " \x7b\x7d\n"
    else if isSimpleKey key then utf8 "\n" ++ entries
    else entries.drop (indent + 1)

end JavadocLint.Yaml
