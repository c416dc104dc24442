import JavadocLint.Text.Chunk
import JavadocLint.Toml.Decimal

/- TOML documents as lists of statements. Nothing is said of what is wrong with one that cannot be
   read. -/
namespace JavadocLint.Toml

inductive Literal where
  | text (t : Text)
  | integer (n : Int)
  | decimal (d : Decimal)
  | bool (b : Bool)
  /-- A time in its usual form, local times being taken for universal time. -/
  | time (t : Text)
  | array (items : List Literal)
  /-- Keys with their lines and values. -/
  | inlineTable (entries : List (List Text × Nat × Literal))
  deriving Repr

inductive Statement where
  | assign (key : List Text) (line : Nat) (value : Literal)
  | table (key : List Text) (line : Nat)
  | tableItem (key : List Text) (line : Nat)
  deriving Repr

structure Cursor where
  rest : List Nat
  line : Nat := 1

abbrev Scan := StateT Cursor Option

def rune (c : Char) : Nat := c.toNat

def isBlank (r : Nat) : Bool := r == 0x20 || r == 0x09

def isBreak (r : Nat) : Bool := r == 0x0A || r == 0x0D

def isDigit (r : Nat) : Bool := rune '0' ≤ r && r ≤ rune '9'

def isBare (r : Nat) : Bool :=
  (r < 0x80 && Text.isAlnum r.toUInt8) || r == rune '_' || r == rune '-'

def hexValue? (r : Nat) : Option Nat := if r < 0x80 then Text.hexValue? r.toUInt8 else none

def isClean : List Nat → Bool
  | [] => true
  | 0x0D :: rest => rest.head? = some 0x0A && isClean rest
  | r :: rest => (r == 0x09 || r == 0x0A || (0x20 ≤ r && r ≠ 0x7F)) && isClean rest

namespace Scan

def peek? : Scan (Option Nat) := return (← get).rest.head?

def skip (n : Nat) : Scan Unit := modify fun c =>
  { rest := c.rest.drop n, line := c.line + (c.rest.take n).count 0x0A }

def takeWhile (p : Nat → Bool) : Scan (List Nat) := do
  let taken := (← get).rest.takeWhile p
  skip taken.length
  return taken

def skipBlanks : Scan Unit := discard (takeWhile isBlank)

def isAt (words : String) : Scan Bool :=
  return ((utf8 words).map UInt8.toNat).isPrefixOf (← get).rest

def accept (words : String) : Scan Bool := do
  if ← isAt words then
    skip words.length
    return true
  else return false

def acceptAny : List String → Scan Bool
  | [] => return false
  | words :: rest => do
    if ← accept words then return true else acceptAny rest

def expect (words : String) : Scan Unit := do
  if !(← accept words) then failure

def comment : Scan Unit := discard (takeWhile fun r => !isBreak r)

def skipVoid : Nat → Scan Unit
  | 0 => failure
  | fuel + 1 => do
    let _ ← takeWhile fun r => isBlank r || isBreak r
    if ← isAt "#" then
      comment
      skipVoid fuel

def endOfStatement : Scan Unit := do
  skipBlanks
  if ← isAt "#" then comment
  match ← peek? with
  | none => return
  | some r => if !isBreak r then failure

def escape : Scan Nat := do
  let some r ← peek? | failure
  skip 1
  let plain := ([('b', 8), ('t', 9), ('n', 10), ('f', 12), ('r', 13), ('"', 34), ('\\', 92)] :
    List (Char × Nat)).find? fun e => rune e.1 == r
  match plain with
  | some (_, n) => return n
  | none =>
    let width := if r == rune 'u' then 4 else if r == rune 'U' then 8 else 0
    let digits := (← get).rest.take width
    skip width
    let some values := digits.mapM hexValue? | failure
    let n := values.foldl (fun n d => n * 16 + d) 0
    let isSurrogate := 0xD800 ≤ n && n ≤ 0xDFFF
    if width = 0 || digits.length < width || 0x10FFFF < n || isSurrogate then failure
    return n

def basicText : Nat → Scan (List Nat)
  | 0 => failure
  | fuel + 1 => do
    let run ← takeWhile fun r => r != rune '"' && r != rune '\\' && !isBreak r
    if ← accept "\"" then return run
    expect "\\"
    let r ← escape
    return run ++ r :: (← basicText fuel)

def literalText : Scan (List Nat) := do
  let run ← takeWhile fun r => r != rune '\'' && !isBreak r
  expect "'"
  return run

/-- The quotes at this place, if they end a text of several lines: up to two of them belong to the
    text. -/
def closing? (quotes : Nat) : Option Nat :=
  if 3 ≤ quotes && quotes ≤ 5 then some (quotes - 3) else none

/-- A text of several lines. A backslash at the end of a line joins it with the next text. -/
def basicLines : Nat → Scan (List Nat)
  | 0 => failure
  | fuel + 1 => do
    let run ← takeWhile fun r => r != rune '"' && r != rune '\\'
    if ← isAt "\"" then
      let quotes ← takeWhile (· == rune '"')
      if 6 ≤ quotes.length then failure
      match closing? quotes.length with
      | some extra => return run ++ quotes.take extra
      | none => return run ++ quotes ++ (← basicLines fuel)
    else
      expect "\\"
      let gap ← takeWhile fun r => isBlank r || isBreak r
      if gap.contains 0x0A then return run ++ (← basicLines fuel)
      else if !gap.isEmpty then failure
      else
        let r ← escape
        return run ++ r :: (← basicLines fuel)

def literalLines : Nat → Scan (List Nat)
  | 0 => failure
  | fuel + 1 => do
    let run ← takeWhile (· != rune '\'')
    let quotes ← takeWhile (· == rune '\'')
    if quotes.isEmpty || 6 ≤ quotes.length then failure
    match closing? quotes.length with
    | some extra => return run ++ quotes.take extra
    | none => return run ++ quotes ++ (← literalLines fuel)

/-- A line end right behind the opening quotes does not belong to the text. -/
def skipFirstBreak : Scan Unit := do
  if !(← accept "\n") then discard (accept "\r\n")

def keyPart : Scan Text := do
  skipBlanks
  let fuel := (← get).rest.length + 1
  if ← accept "\"" then return Text.ofRunes (← basicText fuel)
  else if ← accept "'" then return Text.ofRunes (← literalText)
  else
    let name ← takeWhile isBare
    if name.isEmpty then failure
    return Text.ofRunes name

def key (ending : String) : Nat → Scan (List Text)
  | 0 => failure
  | fuel + 1 => do
    let part ← keyPart
    skipBlanks
    if ← accept "." then return part :: (← key ending fuel)
    else
      expect ending
      return [part]

/-- Underscores stand between digits, and a digit comes last. -/
def underscoresFit (rs : List Nat) : Bool :=
  let step (s : Bool × Bool) (r : Nat) : Bool × Bool :=
    (s.1 && (r != rune '_' || s.2), (hexValue? r).isSome)
  let (fit, ended) := rs.foldl step (true, false)
  fit && ended

def withoutSign (rs : List Nat) : List Nat :=
  if rs.head? = some (rune '+') || rs.head? = some (rune '-') then rs.tail else rs

def isNegative (rs : List Nat) : Bool := rs.head? = some (rune '-')

def hasLeadingZero (rs : List Nat) : Bool :=
  let rs := withoutSign rs
  rs.head? = some (rune '0') && 1 < rs.length

def digitsValue (base : Nat) (rs : List Nat) : Option Nat :=
  (rs.filter (· != rune '_')).foldlM (fun n r => do
    let d ← hexValue? r
    if d < base then some (n * base + d) else none) 0

def fitting (n : Int) : Option Int :=
  if -0x8000000000000000 ≤ n && n < 0x8000000000000000 then some n else none

def integer? (rs : List Nat) : Option Int := do
  if !underscoresFit rs || hasLeadingZero rs then none
  let n ← digitsValue 10 (withoutSign rs)
  fitting (if isNegative rs then -n else n)

def splitExponent (rs : List Nat) : List Nat × Option (List Nat) :=
  let mark (r : Nat) : Bool := r == rune 'e' || r == rune 'E'
  let front := rs.takeWhile fun r => !mark r
  (front, if front.length < rs.length then some (rs.drop (front.length + 1)) else none)

def signed? (rs : List Nat) : Option Int := do
  if (withoutSign rs).isEmpty || !underscoresFit rs then none
  let n ← digitsValue 10 (withoutSign rs)
  return if isNegative rs then -n else n

def decimal? (rs : List Nat) : Option Decimal := do
  let (front, exponent) := splitExponent rs
  let e ← match exponent with
    | some e => signed? e
    | none => some 0
  let whole := front.takeWhile (· != rune '.')
  let fraction := front.drop (whole.length + 1)
  if !underscoresFit whole || hasLeadingZero whole then none
  let hasPoint := whole.length < front.length
  if hasPoint && !(underscoresFit fraction && fraction.head?.any isDigit) then none
  let digits ← digitsValue 10 (withoutSign whole ++ fraction)
  let places := (fraction.filter (· != rune '_')).length
  let d := Decimal.finite (isNegative rs) digits (e - places)
  if d.isInRange then some d else none

def based (base : Nat) : Scan Literal := do
  skip 2
  let isBaseDigit (r : Nat) : Bool := (hexValue? r).any (· < base)
  let digits ← takeWhile fun r => isBaseDigit r || r == rune '_'
  if !(digits.head?.any isBaseDigit) || !underscoresFit digits then failure
  let some n := digitsValue base digits | failure
  let some n := fitting n | failure
  return .integer n

def number : Scan Literal := do
  let start := (← get).rest
  let sign := start.takeWhile fun r => r == rune '+' || r == rune '-'
  skip sign.length
  let whole ← takeWhile fun r => isDigit r || r == rune '_'
  if 1 < sign.length || !(whole.head?.any isDigit) then failure
  let isMark (r : Nat) : Bool := r == rune '.' || r == rune 'e' || r == rune 'E'
  if (← peek?).any isMark then
    let more ← takeWhile fun r =>
      isDigit r || r == rune '_' || r == rune '-' || r == rune '+' || isMark r
    let some d := decimal? (sign ++ whole ++ more) | failure
    return .decimal d
  else
    let some n := integer? (sign ++ whole) | failure
    return .integer n

def twoDigits (bound : Nat) : Scan Nat := do
  let digits := (← get).rest.take 2
  skip 2
  if digits.length < 2 || !digits.all isDigit then failure
  let some n := digitsValue 10 digits | failure
  if bound < n then failure
  return n

def daysIn (year month : Nat) : Nat :=
  if month = 2 then if year % 4 = 0 && (year % 100 ≠ 0 || year % 400 = 0) then 29 else 28
  else if month = 4 || month = 6 || month = 9 || month = 11 then 30 else 31

def twoPlaces (n : Nat) : Text := Text.ofNat (n / 10) ++ Text.ofNat (n % 10)

def date : Scan Text := do
  let year := (← get).rest.take 4
  skip 4
  if year.length < 4 || !year.all isDigit then failure
  let some y := digitsValue 10 year | failure
  expect "-"
  let month ← twoDigits 12
  expect "-"
  let day ← twoDigits 31
  if month = 0 || day = 0 || daysIn y month < day then failure
  return Text.ofRunes year ++ utf8 "-" ++ twoPlaces month ++ utf8 "-" ++ twoPlaces day

def clock : Scan Text := do
  let hour ← twoDigits 23
  expect ":"
  let minute ← twoDigits 59
  expect ":"
  let second ← twoDigits 59
  let whole := twoPlaces hour ++ utf8 ":" ++ twoPlaces minute ++ utf8 ":" ++ twoPlaces second
  if !(← accept ".") then return whole
  let digits ← takeWhile isDigit
  if digits.isEmpty then failure
  let kept := ((digits.take 9).reverse.dropWhile (· == rune '0')).reverse
  return whole ++ if kept.isEmpty then [] else utf8 "." ++ Text.ofRunes kept

/-- A zone; none counts as universal time. -/
def zone : Scan Text := do
  if ← acceptAny ["Z", "z"] then return utf8 "Z"
  match ← peek? with
  | some r =>
    if r != rune '+' && r != rune '-' then return utf8 "Z"
    skip 1
    let hour ← twoDigits 24
    expect ":"
    let minute ← twoDigits 60
    if hour = 0 && minute = 0 then return utf8 "Z"
    return Text.ofRune r ++ twoPlaces hour ++ utf8 ":" ++ twoPlaces minute
  | none => return utf8 "Z"

def time : Scan Literal := do
  let run ← takeWhile fun r =>
    isDigit r || ((utf8 "-:TtZz .+").map UInt8.toNat).contains r
  let trimmed := (run.reverse.dropWhile (· == 0x20)).reverse
  let inside : Scan Text := do
    if (trimmed.drop 2).head? = some (rune ':') then
      return utf8 "0000-01-01T" ++ (← clock) ++ utf8 "Z"
    let day ← date
    if ← acceptAny ["T", "t", " "] then
      return day ++ utf8 "T" ++ (← clock) ++ (← zone)
    return day ++ utf8 "T00:00:00Z"
  match inside.run { rest := trimmed } with
  | some (t, { rest := [], .. }) => return .time t
  | _ => failure

def numberOrTime : Scan Literal := do
  let rest := (← get).rest
  let after := rest.dropWhile isDigit
  let isDated := after.head?.any fun r => r == rune '-' || r == rune ':'
  if rest.head?.any isDigit && isDated then time
  else if ← isAt "0x" then based 16
  else if ← isAt "0o" then based 8
  else if ← isAt "0b" then based 2
  else number

def words : List (String × Literal) :=
  [("true", .bool true), ("false", .bool false), ("inf", .decimal (.infinite false)),
    ("+inf", .decimal (.infinite false)), ("-inf", .decimal (.infinite true)),
    ("nan", .decimal .notANumber), ("+nan", .decimal .notANumber), ("-nan", .decimal .notANumber)]

def isWordAt (word : String × Literal) (c : Cursor) : Bool :=
  ((utf8 word.1).map UInt8.toNat).isPrefixOf c.rest

mutual
def value : Nat → Scan Literal
  | 0 => failure
  | fuel + 1 => do
    skipBlanks
    let c ← get
    if ← accept "[" then return .array (← items fuel)
    else if ← accept "\x7b" then
      skipBlanks
      if ← accept "\x7d" then return .inlineTable []
      return .inlineTable (← entries fuel)
    else if ← accept "\"\"\"" then
      skipFirstBreak
      return .text (Text.ofRunes (← basicLines (c.rest.length + 1)))
    else if ← accept "\"" then return .text (Text.ofRunes (← basicText (c.rest.length + 1)))
    else if ← accept "'''" then
      skipFirstBreak
      return .text (Text.ofRunes (← literalLines (c.rest.length + 1)))
    else if ← accept "'" then return .text (Text.ofRunes (← literalText))
    else match words.find? fun w => isWordAt w c with
      | some (word, literal) =>
        skip word.length
        return literal
      | none => numberOrTime

def items : Nat → Scan (List Literal)
  | 0 => failure
  | fuel + 1 => do
    skipVoid ((← get).rest.length + 1)
    if ← accept "]" then return []
    let item ← value fuel
    skipVoid ((← get).rest.length + 1)
    if ← accept "," then return item :: (← items fuel)
    else
      expect "]"
      return [item]

def entries : Nat → Scan (List (List Text × Nat × Literal))
  | 0 => failure
  | fuel + 1 => do
    let line := (← get).line
    let name ← key "=" ((← get).rest.length + 1)
    let v ← value fuel
    skipBlanks
    if ← accept "," then return (name, line, v) :: (← entries fuel)
    else
      expect "\x7d"
      return [(name, line, v)]
end

def statement : Scan Statement := do
  let fuel := (← get).rest.length + 1
  let line := (← get).line
  if ← accept "[[" then return .tableItem (← key "]]" fuel) line
  else if ← accept "[" then return .table (← key "]" fuel) line
  else
    let name ← key "=" fuel
    skipBlanks
    let first := (← get).line
    let v ← value fuel
    let last := (← get).line
    let line := match v with
      | .array _ | .inlineTable _ => first
      | _ => last
    return .assign name line v

def statements : Nat → Scan (List Statement)
  | 0 => failure
  | fuel + 1 => do
    skipVoid fuel
    if (← peek?).isNone then return []
    let s ← statement
    endOfStatement
    return s :: (← statements fuel)

end Scan

def withoutMark (content : Text) : Text :=
  ((Text.dropStart? [0xFF, 0xFE] content).or (Text.dropStart? [0xFE, 0xFF] content)).or
    (Text.dropStart? [0xEF, 0xBB, 0xBF] content) |>.getD content

def statements? (content : Text) : Option (List Statement) :=
  let body := withoutMark content
  if !body.isValid || !isClean body.runes then none
  else ((Scan.statements (body.length + 2)).run { rest := body.runes }).map Prod.fst

end JavadocLint.Toml
