import JavadocLint.Text.Basic

/- Which type a plain scalar has: nothing, a truth value, a number, a time, or a text when it is
   none of these. -/
namespace JavadocLint.Yaml

def strTag : Text := utf8 "!!str"
def nullTag : Text := utf8 "!!null"
def boolTag : Text := utf8 "!!bool"
def intTag : Text := utf8 "!!int"
def floatTag : Text := utf8 "!!float"
def timestampTag : Text := utf8 "!!timestamp"
def mergeTag : Text := utf8 "!!merge"
def binaryTag : Text := utf8 "!!binary"
def seqTag : Text := utf8 "!!seq"
def mapTag : Text := utf8 "!!map"

def oneOf (words : List String) (t : Text) : Bool := words.any fun w => t = utf8 w

def isNull (t : Text) : Bool := oneOf ["", "~", "null", "Null", "NULL"] t

def isBool (t : Text) : Bool := oneOf ["true", "True", "TRUE", "false", "False", "FALSE"] t

def isSpecialFloat (t : Text) : Bool :=
  oneOf [".nan", ".NaN", ".NAN", ".inf", ".Inf", ".INF", "+.inf", "+.Inf", "+.INF", "-.inf",
    "-.Inf", "-.INF"] t

def digitsValue? (base : Nat) (t : Text) : Option Nat :=
  if t.isEmpty then none
  else t.foldlM (fun n b => do
    let d ← Text.hexValue? b
    if d < base then some (n * base + d) else none) 0

/-- A number without sign; a letter after a leading zero tells the base, which is eight without
    one. -/
def unsignedValue? (t : Text) : Option Nat :=
  match t with
  | zero :: mark :: digits =>
    if zero ≠ byte '0' then digitsValue? 10 t
    else if Text.lowerByte mark = byte 'x' then digitsValue? 16 digits
    else if Text.lowerByte mark = byte 'o' then digitsValue? 8 digits
    else if Text.lowerByte mark = byte 'b' then digitsValue? 2 digits
    else digitsValue? 8 (mark :: digits)
  | _ => digitsValue? 10 t

def dropSign (t : Text) : Text :=
  match t with
  | b :: rest => if b = byte '+' || b = byte '-' then rest else t
  | [] => []

def isInt (t : Text) : Bool :=
  match unsignedValue? (dropSign t) with
  | none => false
  | some n =>
    if t.head? = some (byte '-') then n ≤ 0x8000000000000000
    else if t.head? = some (byte '+') then n < 0x8000000000000000
    else n < 0x10000000000000000

def dropDigits (t : Text) : Text × Nat :=
  let rest := t.dropWhile Text.isDigit
  (rest, t.length - rest.length)

def exponent? (t : Text) : Option Int :=
  match t with
  | [] => some 0
  | e :: rest =>
    if Text.lowerByte e ≠ byte 'e' then none
    else (digitsValue? 10 (dropSign rest)).map fun n =>
      if rest.head? = some (byte '-') then -(n : Int) else n

def isDecimalFloat (t : Text) : Bool :=
  let (afterWhole, whole) := dropDigits (dropSign t)
  let (afterPoint, fraction) := match afterWhole with
    | b :: rest => if b = byte '.' then dropDigits rest else (afterWhole, 0)
    | [] => ([], 0)
  let leading := ((dropSign t).filter fun b => b ≠ byte '.').dropWhile (· = byte '0')
  0 < whole + fraction && match exponent? afterPoint with
    | none => false
    | some e =>
      let significant := (leading.takeWhile Text.isDigit).length
      significant = 0 || (significant : Int) - fraction + e ≤ 308

/-- Underscores that stand between digits are left out; others make the text no number. -/
def dropInnerUnderscores? : Option UInt8 → Text → Option Text
  | last, [] => if last = some (byte '_') then none else some []
  | last, b :: rest =>
    if b = byte '_' then
      if last.any Text.isDigit then dropInnerUnderscores? (some b) rest else none
    else if last = some (byte '_') && !Text.isDigit b then none
    else (dropInnerUnderscores? (some b) rest).map (b :: ·)

def isLeap (year : Nat) : Bool := year % 4 = 0 && (year % 100 ≠ 0 || year % 400 = 0)

def daysIn (year month : Nat) : Nat :=
  if month = 2 then (if isLeap year then 29 else 28)
  else if [4, 6, 9, 11].contains month then 30 else 31

def short? (bound : Nat) (t : Text) : Option (Nat × Text) := do
  let digits := (t.takeWhile Text.isDigit).take 2
  let n ← digitsValue? 10 digits
  if n < bound then some (n, t.drop digits.length) else none

def after? (mark : Char) (t : Text) : Option Text := Text.dropStart? [byte mark] t

def isZone (t : Text) : Bool :=
  t = utf8 "Z" || match t with
    | sign :: a :: b :: colon :: c :: d :: [] =>
      (sign = byte '+' || sign = byte '-') && colon = byte ':'
        && (digitsValue? 10 [a, b]).any (· ≤ 24) && (digitsValue? 10 [c, d]).any (· < 60)
    | _ => false

def clock? (t : Text) : Option Text := do
  let (_, t) ← short? 24 t
  let (_, t) ← short? 60 (← after? ':' t)
  let (_, t) ← short? 60 (← after? ':' t)
  match t with
  | point :: rest =>
    if (point = byte '.' || point = byte ',') && rest.head?.any Text.isDigit then
      return rest.dropWhile Text.isDigit
    else return t
  | [] => return []

def isTimestamp (t : Text) : Bool :=
  let parsed : Option Bool := do
    let digits := t.takeWhile Text.isDigit
    if digits.length ≠ 4 then none
    let year ← digitsValue? 10 digits
    let (month, t) ← short? 13 (← after? '-' (t.drop 4))
    let (day, t) ← short? 32 (← after? '-' t)
    if month = 0 || day = 0 || daysIn year month < day then none
    match t with
    | [] => return true
    | mark :: rest =>
      let rest ← clock? rest
      if mark = byte 'T' || mark = byte 't' then return isZone rest
      else return mark = byte ' ' && rest.isEmpty
  parsed.getD false

def numberTag? (timestamps : Bool) (t : Text) : Option Text :=
  let plain := t.filter (· ≠ byte '_')
  if timestamps && isTimestamp t then some timestampTag
  else if isInt plain then some intTag
  else if isDecimalFloat plain then some floatTag
  else none

def resolvedTag (timestamps : Bool) (t : Text) : Text :=
  if isNull t then nullTag
  else if isBool t then boolTag
  else if isSpecialFloat t then floatTag
  else if t = utf8 "<<" then mergeTag
  else match t with
    | [] => nullTag
    | b :: _ =>
      if b = byte '.' then
        if (dropInnerUnderscores? none t).any isDecimalFloat then floatTag else strTag
      else if Text.isDigit b || b = byte '+' || b = byte '-' then
        (numberTag? timestamps t).getD strTag
      else strTag

def implicitTag (t : Text) : Text := resolvedTag true t

/-- Whether a scalar with a tag of its own can be read as that tag says. Any text is a text, and an
    integer is also a number. -/
def agrees (tag value : Text) : Bool :=
  tag = strTag || tag = binaryTag || resolvedTag (tag = timestampTag) value = tag
    || (tag = floatTag && resolvedTag false value = intTag)

end JavadocLint.Yaml
