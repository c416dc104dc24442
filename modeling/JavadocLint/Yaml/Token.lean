import JavadocLint.Yaml.Scalar

/- The tokens of a YAML stream. Most stand for what is written; the starts and ends of block
   collections are told by the indentation, and a key is known as one only when its colon comes, so
   its token goes in front of those read since. -/
namespace JavadocLint.Yaml

inductive TokenKind where
  | streamEnd
  | versionDirective (major minor : Nat)
  | tagDirective (handle start : List Nat)
  | documentStart
  | documentEnd
  | blockSequenceStart
  | blockMappingStart
  | blockEnd
  | flowSequenceStart
  | flowSequenceEnd
  | flowMappingStart
  | flowMappingEnd
  | blockEntry
  | flowEntry
  | key
  | value
  | alias (name : List Nat)
  | anchor (name : List Nat)
  | tag (handle suffix : List Nat)
  | scalar (text : List Nat) (plain : Bool)
  deriving DecidableEq, Repr

structure Token where
  kind : TokenKind
  line : Nat
  deriving DecidableEq, Repr

/-- A place where a key may have begun: the number of its first token and where that stands. A key
    is required where nothing else can continue a block mapping. -/
structure PossibleKey where
  token : Nat
  line : Nat
  col : Nat
  index : Nat
  required : Bool
  deriving DecidableEq, Repr

/-- The field `keys` holds the possible key of each open flow collection, the innermost first, and
    that of the block context last; `indents` holds the outer indentations. -/
structure Scanner where
  cursor : Cursor
  tokens : Array Token := #[]
  indent : Int := -1
  indents : List Int := []
  keyAllowed : Bool := true
  keys : List (Option PossibleKey) := [none]

namespace Scanner

def flowLevel (s : Scanner) : Nat := s.keys.length - 1

def isFlow (s : Scanner) : Bool := 0 < s.flowLevel

def push (s : Scanner) (kind : TokenKind) : Scanner :=
  { s with tokens := s.tokens.push ⟨kind, s.cursor.line⟩ }

def skip (s : Scanner) (n : Nat) : Scanner := { s with cursor := s.cursor.skip n }

/-- Skips blanks, comments and line breaks. A tab may not indent what could be a key. -/
def toNextToken : Nat → Scanner → Scanner
  | 0, s => s
  | fuel + 1, s =>
    let c := if s.cursor.col == 0 && s.cursor.peek 0 == 0xFEFF then s.cursor.skip 1 else s.cursor
    let c := c.skipWhile fun r => r == 0x20 || (r == 0x09 && (s.isFlow || !s.keyAllowed))
    let c := if c.peek 0 == rune '#' then c.skipWhile fun r => !isBreak r else c
    if isBreak (c.peek 0) then
      toNextToken fuel { s with cursor := c.skipBreak, keyAllowed := s.keyAllowed || !s.isFlow }
    else { s with cursor := c }

def unrollTo (column : Int) : Nat → Scanner → Scanner
  | 0, s => s
  | fuel + 1, s =>
    if !s.isFlow && column < s.indent then
      unrollTo column fuel
        { s.push .blockEnd with indent := s.indents.headD (-1), indents := s.indents.tail }
    else s

def unroll (s : Scanner) (column : Int) : Scanner := unrollTo column (s.indents.length + 1) s

/-- Starts a block collection at a column that is indented deeper than the current one; its token
    goes to the given place. -/
def roll (s : Scanner) (column : Nat) (place line : Nat) (kind : TokenKind) : Scanner :=
  if !s.isFlow && s.indent < column then
    { s with
      indent := column
      indents := s.indent :: s.indents
      tokens := s.tokens.insertIdxIfInBounds place ⟨kind, line⟩ }
  else s

def dropKey (s : Scanner) : Option Scanner :=
  match s.keys with
  | some key :: outer => if key.required then none else some { s with keys := none :: outer }
  | _ => some s

def noteKey (s : Scanner) : Option Scanner :=
  if s.keyAllowed then do
    let required := !s.isFlow && s.indent == s.cursor.col
    let s ← s.dropKey
    return { s with keys := some ⟨s.tokens.size, s.cursor.line, s.cursor.col, s.cursor.index,
      required⟩ :: s.keys.tail }
  else some s

def maxKeyLength : Nat := 1024

/-- Whether a key that began earlier may end here: on the same line and not too far away. -/
def reachesHere (s : Scanner) (key : PossibleKey) : Bool :=
  s.cursor.line ≤ key.line && s.cursor.index ≤ key.index + maxKeyLength

def openFlow (s : Scanner) (kind : TokenKind) : Option Scanner := do
  let s ← s.noteKey
  return { (s.push kind).skip 1 with keyAllowed := true, keys := none :: s.keys }

def closeFlow (s : Scanner) (kind : TokenKind) : Option Scanner := do
  let s ← s.dropKey
  return { (s.push kind).skip 1 with
    keyAllowed := false, keys := if s.isFlow then s.keys.tail else s.keys }

def flowEntry (s : Scanner) : Option Scanner := do
  let s ← s.dropKey
  return { (s.push .flowEntry).skip 1 with keyAllowed := true }

def blockEntry (s : Scanner) : Option Scanner := do
  if !s.isFlow && !s.keyAllowed then none
  let s ← (s.roll s.cursor.col s.tokens.size s.cursor.line .blockSequenceStart).dropKey
  return { (s.push .blockEntry).skip 1 with keyAllowed := true }

def explicitKey (s : Scanner) : Option Scanner := do
  if !s.isFlow && !s.keyAllowed then none
  let s ← (s.roll s.cursor.col s.tokens.size s.cursor.line .blockMappingStart).dropKey
  return { (s.push .key).skip 1 with keyAllowed := !s.isFlow }

/-- A colon: what began as a possible key is one, or the colon ends a key that was told before. -/
def keyValue (s : Scanner) : Option Scanner :=
  let complex (s : Scanner) : Option Scanner := do
    if !s.isFlow && !s.keyAllowed then none
    let s := s.roll s.cursor.col s.tokens.size s.cursor.line .blockMappingStart
    return { (s.push .value).skip 1 with keyAllowed := !s.isFlow }
  match s.keys with
  | some key :: outer =>
    if s.reachesHere key then
      let s := { s with tokens := s.tokens.insertIdxIfInBounds key.token ⟨.key, key.line⟩ }
      let s := s.roll key.col key.token key.line .blockMappingStart
      some { (s.push .value).skip 1 with keyAllowed := false, keys := none :: outer }
    else if key.required then none
    else complex { s with keys := none :: outer }
  | _ => complex s

def anchorName? (c : Cursor) : Option (List Nat × Cursor) :=
  let name := c.rest.takeWhile isNameRune
  let after := c.skip name.length
  let next := after.peek 0
  if !name.isEmpty && (isGapOrEnd next
      || ['?', ':', ',', ']', '\x7d', '%', '@', '\x60'].any fun c => next == rune c) then
    some (name, after)
  else none

def anchored (s : Scanner) (make : List Nat → TokenKind) : Option Scanner := do
  let s ← s.noteKey
  let (name, c) ← anchorName? (s.cursor.skip 1)
  return { s.push (make name) with cursor := c, keyAllowed := false }

def isTagRune (r : Nat) : Bool :=
  isNameRune r || [';', '/', '?', ':', '@', '&', '=', '+', '$', ',', '.', '!', '~', '*', '\'',
    '(', ')', '[', ']', '%'].any fun c => r == rune c

def tagHandle (c : Cursor) : List Nat × Cursor :=
  let name := (c.rest.drop 1).takeWhile isNameRune
  if c.peek (name.length + 1) == rune '!' then
    (c.rest.take (name.length + 2), c.skip (name.length + 2))
  else (c.rest.take (name.length + 1), c.skip (name.length + 1))

def tagParts? (c : Cursor) : Option (List Nat × List Nat × Cursor) :=
  if c.peek 1 == rune '<' then
    let uri := (c.rest.drop 2).takeWhile isTagRune
    let after := c.skip (uri.length + 2)
    if uri.isEmpty || after.peek 0 != rune '>' then none else some ([], uri, after.skip 1)
  else
    let (handle, after) := tagHandle c
    let uri := after.rest.takeWhile isTagRune
    let after := after.skip uri.length
    if 1 < handle.length && handle.getLast? == some (rune '!') then
      if uri.isEmpty then none else some (handle, uri, after)
    else
      let suffix := handle.drop 1 ++ uri
      if suffix.isEmpty then some ([], [rune '!'], after) else some ([rune '!'], suffix, after)

def tagged (s : Scanner) : Option Scanner := do
  let s ← s.noteKey
  let (handle, suffix, c) ← tagParts? s.cursor
  if !isGapOrEnd (c.peek 0) then none
  return { s.push (.tag handle suffix) with cursor := c, keyAllowed := false }

def quoted (s : Scanner) (single : Bool) : Option Scanner := do
  let s ← s.noteKey
  let r ← quotedScalar single s.cursor
  return { s.push (.scalar r.value false) with cursor := r.cursor, keyAllowed := false }

def plain (s : Scanner) : Option Scanner := do
  let s ← s.noteKey
  let r ← plainScalar s.isFlow (s.indent + 1) s.cursor
  return { s.push (.scalar r.value true) with cursor := r.cursor, keyAllowed := r.brokeLine }

def block (s : Scanner) (literal : Bool) : Option Scanner := do
  let s ← s.dropKey
  let r ← blockScalar literal s.indent s.cursor
  return { s.push (.scalar r.value false) with cursor := r.cursor, keyAllowed := true }

def endBlocks (s : Scanner) : Option Scanner := do
  let s ← (s.unroll (-1)).dropKey
  return { s with keyAllowed := false }

def documentMark (s : Scanner) (kind : TokenKind) : Option Scanner := do
  return ((← s.endBlocks).push kind).skip 3

def versionNumber? (c : Cursor) : Option (Nat × Cursor) :=
  let digits := c.rest.takeWhile fun r => rune '0' ≤ r && r ≤ rune '9'
  if digits.isEmpty || 9 < digits.length then none
  else some (digits.foldl (fun n r => n * 10 + (r - rune '0')) 0, c.skip digits.length)

def directiveKind? (name : List Nat) (c : Cursor) : Option (TokenKind × Cursor) :=
  if name == "YAML".toList.map rune then do
    let (major, c) ← versionNumber? (c.skipWhile isGap)
    if c.peek 0 != rune '.' then none
    let (minor, c) ← versionNumber? (c.skip 1)
    return (.versionDirective major minor, c)
  else if name == "TAG".toList.map rune then do
    let c := c.skipWhile isGap
    if c.peek 0 != rune '!' then none
    let (handle, c) := tagHandle c
    if handle != [rune '!'] && handle.getLast? != some (rune '!') then none
    if !isGap (c.peek 0) then none
    let c := c.skipWhile isGap
    let uri := c.rest.takeWhile isTagRune
    let c := c.skip uri.length
    if uri.isEmpty || !isGapOrEnd (c.peek 0) then none
    return (.tagDirective handle uri, c)
  else none

def directive (s : Scanner) : Option Scanner := do
  let s ← s.endBlocks
  let name := (s.cursor.rest.drop 1).takeWhile isNameRune
  let c := s.cursor.skip (name.length + 1)
  if name.isEmpty || !isGapOrEnd (c.peek 0) then none
  let (kind, c) ← directiveKind? name c
  let c := c.skipWhile isGap
  let c := if c.peek 0 == rune '#' then c.skipWhile fun r => !isBreak r else c
  if !isBreak (c.peek 0) && !c.rest.isEmpty then none
  return { s.push kind with cursor := c.skipBreak }

def startsPlain (flow : Bool) (r next : Nat) : Bool :=
  let indicators := ['-', '?', ':', ',', '[', ']', '\x7b', '\x7d', '#', '&', '*', '!', '|', '>',
    '\'', '"', '%', '@', '\x60']
  !(isGapOrEnd r || indicators.any fun c => r == rune c)
    || (r == rune '-' && !isGap next)
    || (!flow && (r == rune '?' || r == rune ':') && !isGapOrEnd next)

def fetch (s : Scanner) : Option Scanner :=
  let c := s.cursor
  let r := c.peek 0
  let next := c.peek 1
  if c.col == 0 && r == rune '%' then s.directive
  else if c.isAtMark '-' then s.documentMark .documentStart
  else if c.isAtMark '.' then s.documentMark .documentEnd
  else if r == rune '[' then s.openFlow .flowSequenceStart
  else if r == rune '\x7b' then s.openFlow .flowMappingStart
  else if r == rune ']' then s.closeFlow .flowSequenceEnd
  else if r == rune '\x7d' then s.closeFlow .flowMappingEnd
  else if r == rune ',' then s.flowEntry
  else if r == rune '-' && isGapOrEnd next then s.blockEntry
  else if r == rune '?' && (s.isFlow || isGapOrEnd next) then s.explicitKey
  else if r == rune ':' && (s.isFlow || isGapOrEnd next) then s.keyValue
  else if r == rune '*' then s.anchored .alias
  else if r == rune '&' then s.anchored .anchor
  else if r == rune '!' then s.tagged
  else if r == rune '|' && !s.isFlow then s.block true
  else if r == rune '>' && !s.isFlow then s.block false
  else if r == rune '\'' then s.quoted true
  else if r == rune '"' then s.quoted false
  else if startsPlain s.isFlow r next then s.plain
  else none

def run : Nat → Scanner → Array Token × Bool
  | 0, s => (s.tokens, false)
  | fuel + 1, s =>
    let s := toNextToken (s.cursor.rest.length + 1) s
    let s := s.unroll s.cursor.col
    if s.cursor.rest.isEmpty then
      match s.endBlocks with
      | some s => ((s.push .streamEnd).tokens, true)
      | none => (s.tokens, false)
    else match s.fetch with
      | some s => run fuel s
      | none => (s.tokens, false)

end Scanner

def tokens (runes : List Nat) : List Token × Bool :=
  let (ts, whole) := Scanner.run (runes.length + 1) { cursor := { rest := runes } }
  (ts.toList, whole)

end JavadocLint.Yaml
