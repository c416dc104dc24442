import JavadocLint.Regex.Basic
import JavadocLint.Regex.SyntaxError
import JavadocLint.Unicode.Category
import JavadocLint.Unicode.Script

/- The tokens of a pattern. Each token is read from the text alone; what it means under the flags
   and groups around it is settled when the tokens are put together. -/
namespace JavadocLint

/-- Changes to the matching flags; `none` leaves a flag as it is. -/
structure FlagChange where
  fold : Option Bool := none
  multiLine : Option Bool := none
  dotAll : Option Bool := none
  deriving DecidableEq, Repr

inductive PatternToken where
  | runes (rs : List Nat)
  | openGroup
  /-- Flags: `(?flags)`, or `(?flags:` when it opens a group. -/
  | flags (change : FlagChange) (opensGroup : Bool)
  | closeGroup
  | bar
  | caret
  | dollar
  | dot
  | set (negated : Bool) (items : List SetItem)
  | assert (a : Assertion)
  /-- The field `written` is the operator as it stands in the pattern. -/
  | loop (least : Nat) (most : Option Nat) (written : Text)
  deriving DecidableEq, Repr

namespace PatternToken

def fail {α : Type} (fault : PatternFault) (fragment : Text) : Except PatternError α :=
  .error ⟨fault, fragment⟩

/-- The part of `t` before its suffix `rest`. -/
def taken (t rest : Text) : Text := t.take (t.length - rest.length)

def invalidRest? : Nat → Text → Option Text
  | _, [] => none
  | 0, b :: t =>
    match sequence? (b :: t) with
    | some (width, _) => invalidRest? (width - 1) t
    | none => some (b :: t)
  | skip + 1, _ :: t => invalidRest? skip t

def requireValid (t : Text) : Except PatternError Unit :=
  match invalidRest? 0 t with
  | some rest => fail .invalidUtf8 rest
  | none => .ok ()

/-- The next character; the end of the text reads as U+FFFD. -/
def nextRune (t : Text) : Except PatternError (Nat × Text) :=
  match t with
  | [] => .ok (replacement, [])
  | b :: _ =>
    match sequence? t with
    | some (width, r) => .ok (r, t.drop width)
    | none => if b < 0x80 then .ok (b.toNat, t.drop 1) else fail .invalidUtf8 t

def hexRune? (r : Nat) : Option Nat := if r < 128 then Text.hexValue? r.toUInt8 else none

def isOctal (b : UInt8) : Bool := byte '0' ≤ b && b ≤ byte '7'

def octalDigits : Nat → Nat → Text → Nat × Text
  | 0, value, t => (value, t)
  | _, value, [] => (value, [])
  | n + 1, value, b :: t =>
    if isOctal b then octalDigits n (value * 8 + (b.toNat - 48)) t else (value, b :: t)

/-- The digits of `\x{…}` up to the closing brace. `whole` is the text from the backslash. -/
def bracedHex (whole : Text) : Nat → Nat → Bool → Text → Except PatternError (Nat × Text)
  | 0, _, _, t => fail .badEscape (taken whole t)
  | fuel + 1, value, seen, t =>
    if t.isEmpty then fail .badEscape whole
    else do
      let (r, rest) ← nextRune t
      if r = 125 then
        if seen then return (value, rest) else fail .badEscape (taken whole rest)
      else
        match hexRune? r with
        | none => fail .badEscape (taken whole rest)
        | some digit =>
          if value * 16 + digit > 0x10FFFF then fail .badEscape (taken whole rest)
          else bracedHex whole fuel (value * 16 + digit) true rest

def escape (whole : Text) : Except PatternError (Nat × Text) := do
  let t := whole.drop 1
  if t.isEmpty then fail .trailingBackslash []
  else
    let (r, rest) ← nextRune t
    let bad (rest : Text) : Except PatternError (Nat × Text) := fail .badEscape (taken whole rest)
    if r = 48 then return octalDigits 2 0 rest
    else if 49 ≤ r && r ≤ 55 then
      match rest with
      | b :: _ => if isOctal b then return octalDigits 2 (r - 48) rest else bad rest
      | [] => bad rest
    else if r = 120 then
      if rest.isEmpty then bad rest
      else
        let (x, rest) ← nextRune rest
        if x = 123 then bracedHex whole rest.length 0 false rest
        else
          let (y, rest) ← nextRune rest
          match hexRune? x, hexRune? y with
          | some hi, some lo => return (hi * 16 + lo, rest)
          | _, _ => bad rest
    else if r = 97 then return (7, rest)
    else if r = 102 then return (12, rest)
    else if r = 110 then return (10, rest)
    else if r = 114 then return (13, rest)
    else if r = 116 then return (9, rest)
    else if r = 118 then return (11, rest)
    else if r < 128 && !Text.isAlnum r.toUInt8 then return (r, rest)
    else bad rest

def digitRanges : List Nat := [48, 57, 1]

def wordRanges : List Nat := [48, 57, 1, 65, 90, 1, 95, 95, 1, 97, 122, 1]

def shorthandItem? : Text → Option SetItem
  | b :: c :: _ =>
    if b = byte '\\' then
      if c = byte 'd' then some ⟨false, digitRanges⟩
      else if c = byte 'D' then some ⟨true, digitRanges⟩
      else if c = byte 's' then some ⟨false, [9, 10, 1, 12, 13, 1, 32, 32, 1]⟩
      else if c = byte 'S' then some ⟨true, [9, 10, 1, 12, 13, 1, 32, 32, 1]⟩
      else if c = byte 'w' then some ⟨false, wordRanges⟩
      else if c = byte 'W' then some ⟨true, wordRanges⟩
      else none
    else none
  | _ => none

def namedRanges : List (String × List Nat) :=
  [("alnum", [48, 57, 1, 65, 90, 1, 97, 122, 1]),
   ("alpha", [65, 90, 1, 97, 122, 1]),
   ("ascii", [0, 127, 1]),
   ("blank", [9, 9, 1, 32, 32, 1]),
   ("cntrl", [0, 31, 1, 127, 127, 1]),
   ("digit", digitRanges),
   ("graph", [33, 126, 1]),
   ("lower", [97, 122, 1]),
   ("print", [32, 126, 1]),
   ("punct", [33, 47, 1, 58, 64, 1, 91, 96, 1, 123, 126, 1]),
   ("space", [9, 13, 1, 32, 32, 1]),
   ("upper", [65, 90, 1]),
   ("word", wordRanges),
   ("xdigit", [48, 57, 1, 65, 70, 1, 97, 102, 1])]

/-- A named set `[:name:]` or `[:^name:]`; no item when the text has no closing `:]`. -/
def namedItem? (t : Text) : Except PatternError (Option (SetItem × Text)) :=
  if (utf8 "[:").isPrefixOf t && 2 < t.length then
    match Text.cut? (utf8 ":]") (t.drop 2) with
    | none => .ok none
    | some (inside, rest) =>
      let negated := inside.head? = some (byte '^')
      let name := if negated then inside.drop 1 else inside
      match namedRanges.find? fun entry => utf8 entry.1 = name with
      | some entry => .ok (some (⟨negated, entry.2⟩, rest))
      | none => fail .badRange (taken t rest)
  else .ok none

def propertyRanges? (name : Text) : Option (List Nat) :=
  if name = utf8 "Any" then some [0, 0x10FFFF, 1]
  else (Unicode.Category.ranges? name).or (Unicode.Script.ranges? name)

/-- A property `\pX`, `\p{Name}` or its complement; no item when the text begins with neither. -/
def propertyItem? (t : Text) : Except PatternError (Option (SetItem × Text)) :=
  match t with
  | b :: c :: rest =>
    if b = byte '\\' && (c = byte 'p' || c = byte 'P') then do
      let (r, afterRune) ← nextRune rest
      let (name, rest) ←
        if r = 123 then
          match Text.cut? (utf8 "\x7d") t with
          | none => do
            requireValid t
            fail .badRange t
          | some (before, rest) => do
            let name := before.drop 3
            requireValid name
            Except.ok (name, rest)
        else Except.ok (taken rest afterRune, afterRune)
      let inverted := name.head? = some (byte '^')
      let bare := if inverted then name.drop 1 else name
      match propertyRanges? bare with
      | some ranges => return some (⟨(c = byte 'P') != inverted, ranges⟩, rest)
      | none => fail .badRange (taken t rest)
    else .ok none
  | _ => .ok none

def setRune (whole t : Text) : Except PatternError (Nat × Text) :=
  match t with
  | [] => fail .unclosedSet whole
  | b :: _ => if b = byte '\\' then escape t else nextRune t

def setItem (whole t : Text) : Except PatternError (SetItem × Text) := do
  match ← namedItem? t with
  | some found => return found
  | none =>
    match ← propertyItem? t with
    | some found => return found
    | none =>
      match shorthandItem? t with
      | some item => return (item, t.drop 2)
      | none =>
        let (lo, rest) ← setRune whole t
        match rest with
        | b :: c :: _ =>
          if b = byte '-' && c ≠ byte ']' then
            let (hi, rest) ← setRune whole (rest.drop 1)
            if hi < lo then fail .badRange (taken t rest)
            else return (⟨false, [lo, hi, 1]⟩, rest)
          else return (⟨false, [lo, lo, 1]⟩, rest)
        | _ => return (⟨false, [lo, lo, 1]⟩, rest)

/-- The parts of a bracketed set up to its closing bracket, which may not stand first. -/
def setItems (whole : Text) : Nat → Bool → Text → Except PatternError (List SetItem × Text)
  | 0, _, _ => fail .unclosedSet whole
  | fuel + 1, first, t =>
    if !first && t.head? = some (byte ']') then .ok ([], t.drop 1)
    else do
      let (item, rest) ← setItem whole t
      let (items, rest) ← setItems whole fuel false rest
      return (item :: items, rest)

def bracketedSet (whole : Text) : Except PatternError (PatternToken × Text) := do
  let t := whole.drop 1
  let negated := t.head? = some (byte '^')
  let body := if negated then t.drop 1 else t
  let (items, rest) ← setItems whole (body.length + 1) true body
  return (.set negated items, rest)

/-- A count without leading zeros; one of nine digits or more is as good as any other. -/
def count? (t : Text) : Option (Nat × Text) :=
  let digits := t.takeWhile Text.isDigit
  if digits.isEmpty || (digits.length > 1 && digits.head? = some (byte '0')) then none
  else some ((digits.take 10).foldl (fun n b => n * 10 + (b.toNat - 48)) 0, t.drop digits.length)

def counts? (t : Text) : Option (Nat × Option Nat × Text) := do
  let (least, rest) ← count? (t.drop 1)
  let close (most : Option Nat) (t : Text) : Option (Nat × Option Nat × Text) :=
    if t.head? = some (byte '\x7d') then some (least, most, t.drop 1) else none
  if rest.head? = some (byte ',') then
    if (rest.drop 1).head? = some (byte '\x7d') then some (least, none, rest.drop 2)
    else do
      let (most, rest) ← count? (rest.drop 1)
      close (some most) rest
  else close (some least) rest

/-- A repetition operator takes a following question mark with it. -/
def lazyRest (t : Text) : Text := if t.head? = some (byte '?') then t.drop 1 else t

def countLimit : Nat := 1000

def countedLoop (t : Text) : Except PatternError (PatternToken × Text) :=
  match counts? t with
  | none => .ok (.runes [123], t.drop 1)
  | some (least, most, rest) =>
    if least > countLimit || most.any fun m => m > countLimit || least > m then
      fail .badRepeatCount (taken t rest)
    else .ok (.loop least most (taken t (lazyRest rest)), lazyRest rest)

def isGroupName (name : Text) : Bool :=
  !name.isEmpty && name.all fun b => b = byte '_' || Text.isAlnum b

/-- The flags after `(?`; `sign` is false once a minus was read, `seen` tells whether a flag
    followed it. -/
def flagRun (whole : Text) :
    Nat → FlagChange → Bool → Bool → Text → Except PatternError (PatternToken × Text)
  | 0, _, _, _, t => fail .badGroupSyntax (taken whole t)
  | fuel + 1, change, sign, seen, t =>
    if t.isEmpty then fail .badGroupSyntax whole
    else do
      let (r, rest) ← nextRune t
      if r = 105 then flagRun whole fuel { change with fold := some sign } sign true rest
      else if r = 109 then flagRun whole fuel { change with multiLine := some sign } sign true rest
      else if r = 115 then flagRun whole fuel { change with dotAll := some sign } sign true rest
      else if r = 85 then flagRun whole fuel change sign true rest
      else if r = 45 && sign then flagRun whole fuel change false false rest
      else if (r = 58 || r = 41) && (sign || seen) then return (.flags change (r = 58), rest)
      else fail .badGroupSyntax (taken whole rest)

def specialGroup (whole : Text) : Except PatternError (PatternToken × Text) :=
  let nameAt : Option Nat :=
    if (utf8 "(?P<").isPrefixOf whole && 4 < whole.length then some 4
    else if (utf8 "(?<").isPrefixOf whole && 3 < whole.length then some 3
    else none
  match nameAt with
  | none => flagRun whole whole.length {} true false (whole.drop 2)
  | some start =>
    match Text.cut? (utf8 ">") whole with
    | none => do
      requireValid whole
      fail .badNamedGroup whole
    | some (before, rest) => do
      let name := before.drop start
      requireValid name
      if isGroupName name then return (.openGroup, rest)
      else fail .badNamedGroup (taken whole rest)

/-- The characters between `\Q` and `\E`, or to the end of the pattern. -/
def quotedRunes : Nat → Text → Except PatternError (List Nat)
  | 0, _ => .ok []
  | fuel + 1, t =>
    if t.isEmpty then .ok []
    else do
      let (r, rest) ← nextRune t
      let others ← quotedRunes fuel rest
      return r :: others

def quoted (t : Text) : Except PatternError (PatternToken × Text) := do
  let (inside, rest) := (Text.cut? (utf8 "\\E") t).getD (t, [])
  let rs ← quotedRunes inside.length inside
  return (.runes rs, rest)

def backslash (t : Text) : Except PatternError (PatternToken × Text) := do
  let c := (t.drop 1).head?
  if c = some (byte 'A') then return (.assert .textStart, t.drop 2)
  else if c = some (byte 'b') then return (.assert .wordEdge, t.drop 2)
  else if c = some (byte 'B') then return (.assert .noWordEdge, t.drop 2)
  else if c = some (byte 'C') then fail .badEscape (t.take 2)
  else if c = some (byte 'Q') then quoted (t.drop 2)
  else if c = some (byte 'z') then return (.assert .textEnd, t.drop 2)
  else
    match ← propertyItem? t with
    | some (item, rest) => return (.set false [item], rest)
    | none =>
      match shorthandItem? t with
      | some item => return (.set false [item], t.drop 2)
      | none =>
        let (r, rest) ← escape t
        return (.runes [r], rest)

def read (b : UInt8) (t : Text) : Except PatternError (PatternToken × Text) :=
  if b = byte '(' then
    if t.head? = some (byte '?') then specialGroup (b :: t) else .ok (.openGroup, t)
  else if b = byte '|' then .ok (.bar, t)
  else if b = byte ')' then .ok (.closeGroup, t)
  else if b = byte '^' then .ok (.caret, t)
  else if b = byte '$' then .ok (.dollar, t)
  else if b = byte '.' then .ok (.dot, t)
  else if b = byte '[' then bracketedSet (b :: t)
  else if b = byte '*' then .ok (.loop 0 none (taken (b :: t) (lazyRest t)), lazyRest t)
  else if b = byte '+' then .ok (.loop 1 none (taken (b :: t) (lazyRest t)), lazyRest t)
  else if b = byte '?' then .ok (.loop 0 (some 1) (taken (b :: t) (lazyRest t)), lazyRest t)
  else if b = byte '\x7b' then countedLoop (b :: t)
  else if b = byte '\\' then backslash (b :: t)
  else do
    let (r, rest) ← nextRune (b :: t)
    return (.runes [r], rest)

/-- The tokens of a pattern up to its end or to the first place where none can be read. `skip`
    bytes still belong to the token read last. -/
def readFrom : Nat → Text → List PatternToken × Option PatternError
  | _, [] => ([], none)
  | 0, b :: t =>
    match read b t with
    | .error e => ([], some e)
    | .ok (token, rest) =>
      let (tokens, error) := readFrom (t.length - rest.length) t
      (token :: tokens, error)
  | skip + 1, _ :: t => readFrom skip t

end PatternToken
end JavadocLint
