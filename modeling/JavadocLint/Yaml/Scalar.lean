import JavadocLint.Yaml.Cursor

/- Reading the three kinds of scalars: plain ones, quoted ones and blocks of lines. -/
namespace JavadocLint.Yaml

/-- Characters up to a blank or to what ends a plain scalar: a colon before a blank and, inside
    brackets or braces, a flow indicator. -/
def plainRun (flow : Bool) : List Nat → List Nat
  | [] => []
  | r :: rest =>
    if isGapOrEnd r || (r == rune ':' && isGapOrEnd (rest.headD 0))
        || (flow && [',', '?', '[', ']', '\x7b', '\x7d'].any fun c => r == rune c) then []
    else r :: plainRun flow rest

/-- Whether a tab stands where a line must be indented; `col` is the column once a line break was
    passed. -/
def hasBadTab (indent : Int) : Option Nat → List Nat → Bool
  | _, [] => false
  | col, r :: rest =>
    if isBreak r then hasBadTab indent (some 0) rest
    else match col with
      | none => hasBadTab indent none rest
      | some col => (r == 0x09 && col < indent) || hasBadTab indent (some (col + 1)) rest

structure Read where
  value : List Nat
  cursor : Cursor
  brokeLine : Bool := false

def plainFrom (flow : Bool) (indent : Int) : Nat → Cursor → List Nat → List Nat → Bool →
    Option Read
  | 0, _, _, _, _ => none
  | fuel + 1, c, text, joint, broke =>
    if c.isAtDocumentMark || c.peek 0 == rune '#' then some ⟨text, c, broke⟩
    else
      let run := plainRun flow c.rest
      let text := if run.isEmpty then text else text ++ joint ++ run
      let broke := broke && run.isEmpty
      let c := c.skip run.length
      let gap := c.rest.takeWhile fun r => isGap r || isBreak r
      if gap.isEmpty then some ⟨text, c, broke⟩
      else if hasBadTab indent none gap then none
      else
        let c := c.skip gap.length
        let broke := gap.any isBreak
        if !flow && c.col < indent then some ⟨text, c, broke⟩
        else plainFrom flow indent fuel c text (foldGap gap) broke

/-- A plain scalar; its lines after the first are indented by at least `indent`. -/
def plainScalar (flow : Bool) (indent : Int) (c : Cursor) : Option Read :=
  plainFrom flow indent (c.rest.length + 1) c [] [] false

def simpleEscape? (r : Nat) : Option Nat :=
  [('0', 0x00), ('a', 0x07), ('b', 0x08), ('t', 0x09), ('\t', 0x09), ('n', 0x0A), ('v', 0x0B),
    ('f', 0x0C), ('r', 0x0D), ('e', 0x1B), (' ', 0x20), ('"', 0x22), ('\'', 0x27), ('\\', 0x5C),
    ('N', 0x85), ('_', 0xA0), ('L', 0x2028), ('P', 0x2029)].findSome? fun (c, value) =>
      if r == rune c then some value else none

def codeLength? (r : Nat) : Option Nat :=
  if r == rune 'x' then some 2 else if r == rune 'u' then some 4
  else if r == rune 'U' then some 8 else none

def hexNumber? (digits : List Nat) : Option Nat :=
  digits.foldlM (fun n r => do
    let d ← if r < 0x80 then Text.hexValue? r.toUInt8 else none
    return n * 16 + d) 0

def escape? (r : Nat) (rest : List Nat) : Option (Nat × List Nat) :=
  match simpleEscape? r with
  | some value => some (value, rest)
  | none => do
    let length ← codeLength? r
    if rest.length < length then none
    let value ← hexNumber? (rest.take length)
    if (0xD800 ≤ value && value ≤ 0xDFFF) || value > 0x10FFFF then none
    return (value, rest.drop length)

/-- Characters of a quoted scalar up to a blank, a line break or the closing quote; the flag tells
    of a line break that was escaped. -/
def quotedRun (single : Bool) : Nat → List Nat → Option (List Nat × List Nat × Bool)
  | 0, _ => none
  | _ + 1, [] => some ([], [], false)
  | fuel + 1, r :: rest =>
    let more (value : Nat) (rest : List Nat) : Option (List Nat × List Nat × Bool) :=
      (quotedRun single fuel rest).map fun (text, rest, escaped) => (value :: text, rest, escaped)
    if isGap r || isBreak r then some ([], r :: rest, false)
    else if single && r == rune '\'' then
      match rest with
      | next :: after => if next == r then more r after else some ([], r :: rest, false)
      | [] => some ([], [r], false)
    else if !single && r == rune '"' then some ([], r :: rest, false)
    else if !single && r == rune '\\' then
      match rest with
      | [] => none
      | e :: after =>
        if isBreak e then
          some ([], if e == 0x0D && after.head? == some 0x0A then after.drop 1 else after, true)
        else do
          let (value, after) ← escape? e after
          more value after
    else more r rest

def quotedFrom (single : Bool) : Nat → Cursor → List Nat → Option Read
  | 0, _, _ => none
  | fuel + 1, c, text =>
    if c.isAtDocumentMark || c.rest.isEmpty then none
    else do
      let (run, rest, escaped) ← quotedRun single (c.rest.length + 1) c.rest
      let c := c.skip (c.rest.length - rest.length)
      let text := text ++ run
      if c.peek 0 == rune (if single then '\'' else '"') then return ⟨text, c.skip 1, false⟩
      let gap := c.rest.takeWhile fun r => isGap r || isBreak r
      quotedFrom single fuel (c.skip gap.length)
        (text ++ if escaped then breaksIn gap else foldGap gap)

def quotedScalar (single : Bool) (c : Cursor) : Option Read :=
  quotedFrom single (c.rest.length + 1) (c.skip 1) []

inductive Chomping where
  | keep
  | clip
  | strip
  deriving DecidableEq, Repr

def chomping? (r : Nat) : Option Chomping :=
  if r == rune '+' then some .keep else if r == rune '-' then some .strip else none

def increment? (r : Nat) : Option Nat :=
  if rune '0' ≤ r && r ≤ rune '9' then some (r - rune '0') else none

/-- The two marks after the indicator of a block, in either order: how it is chomped and how far
    it is indented, zero when that is not said. -/
def blockHeader? (c : Cursor) : Option (Chomping × Nat × Cursor) :=
  match chomping? (c.peek 0), increment? (c.peek 0) with
  | some chomping, _ =>
    match increment? (c.peek 1) with
    | some 0 => none
    | some n => some (chomping, n, c.skip 2)
    | none => some (chomping, 0, c.skip 1)
  | none, some 0 => none
  | none, some n =>
    match chomping? (c.peek 1) with
    | some chomping => some (chomping, n, c.skip 2)
    | none => some (.clip, n, c.skip 1)
  | none, none => some (.clip, 0, c)

/-- Indentation and empty lines of a block: the breaks, where the next line with text begins, and
    the greatest indentation seen. An `indent` of zero is not known yet. -/
def blockBreaks (indent : Nat) : Nat → Nat → Cursor → Option (List Nat × Cursor × Nat)
  | 0, _, _ => none
  | fuel + 1, deepest, c =>
    let spaces := (c.rest.takeWhile (· == 0x20)).length
    let c := c.skip (if indent == 0 then spaces else min spaces (indent - c.col))
    let deepest := max deepest c.col
    if (indent == 0 || c.col < indent) && c.peek 0 == 0x09 then none
    else if isBreak (c.peek 0) then do
      let (breaks, after, deepest) ← blockBreaks indent fuel deepest c.skipBreak
      return (breakText (c.peek 0) ++ breaks, after, deepest)
    else some ([], c, deepest)

/-- What a block has read: its text so far, the break that ended its last line, the empty lines
    after that, and whether that line began with a blank. -/
structure BlockState where
  text : List Nat := []
  lastBreak : List Nat := []
  breaks : List Nat := []
  blankStart : Bool := false

/-- Text up to the next line. In a folded block a single break between two lines that do not begin
    with a blank stands for a blank. -/
def BlockState.joined (s : BlockState) (literal blankNext : Bool) : List Nat :=
  if !literal && !s.blankStart && !blankNext && s.lastBreak.head? == some 0x0A then
    s.text ++ (if s.breaks.isEmpty then [0x20] else []) ++ s.breaks
  else s.text ++ s.lastBreak ++ s.breaks

def blockLines (literal : Bool) (indent : Nat) : Nat → Cursor → BlockState →
    Option (BlockState × Cursor)
  | 0, _, _ => none
  | fuel + 1, c, s =>
    if c.col == indent && !c.rest.isEmpty then do
      let blankNext := isGap (c.peek 0)
      let line := c.rest.takeWhile fun r => !isBreak r
      let text := s.joined literal blankNext ++ line
      let c := c.skip line.length
      let lastBreak := if isBreak (c.peek 0) then breakText (c.peek 0) else []
      let (breaks, c, _) ← blockBreaks indent (c.rest.length + 1) 0 c.skipBreak
      blockLines literal indent fuel c ⟨text, lastBreak, breaks, blankNext⟩
    else some (s, c)

def blockScalar (literal : Bool) (outer : Int) (c : Cursor) : Option Read := do
  let (chomping, increment, c) ← blockHeader? (c.skip 1)
  let c := c.skipWhile isGap
  let c := if c.peek 0 == rune '#' then c.skipWhile fun r => !isBreak r else c
  if !isBreak (c.peek 0) && !c.rest.isEmpty then none
  let given := if increment == 0 then 0 else (max outer 0).toNat + increment
  let (breaks, c, deepest) ← blockBreaks given (c.rest.length + 1) 0 c.skipBreak
  let indent := if given == 0 then max deepest (max (outer + 1).toNat 1) else given
  let (s, c) ← blockLines literal indent (c.rest.length + 1) c { breaks }
  let ending := match chomping with
    | .keep => s.lastBreak ++ s.breaks
    | .clip => s.lastBreak
    | .strip => []
  return ⟨s.text ++ ending, c, false⟩

end JavadocLint.Yaml
