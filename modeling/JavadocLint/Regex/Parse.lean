import JavadocLint.Regex.Token

/- From the tokens of a pattern to a regular expression. Open groups are kept as frames; a frame
   holds the alternatives that are complete and the pieces of the one being read. -/
namespace JavadocLint

structure MatchFlags where
  fold : Bool := false
  multiLine : Bool := false
  dotAll : Bool := false
  deriving DecidableEq, Repr

def MatchFlags.apply (f : MatchFlags) (c : FlagChange) : MatchFlags :=
  ⟨c.fold.getD f.fold, c.multiLine.getD f.multiLine, c.dotAll.getD f.dotAll⟩

/-- How a piece counts towards the limit on nesting: a run of characters is one leaf, and a sequence
    or choice inside another is merged with it. -/
inductive PieceForm where
  | runes (fold single : Bool)
  | oneRune
  | sequence
  | choice
  | other
  deriving DecidableEq, Repr

/-- A part of the expression with its nesting height, its size when all loops are written out, and
    the product of the counts nested in it. -/
structure Piece where
  regex : Regex
  height : Nat := 1
  size : Nat := 1
  counts : Nat := 1
  form : PieceForm := .other
  deriving DecidableEq, Repr

namespace Piece

def heightLimit : Nat := 1000

def sizeLimit : Nat := 3355443

def mergeRuns : List Piece → List Piece
  | p :: q :: rest =>
    match p.form, q.form, mergeRuns (q :: rest) with
    | .runes fold _, .runes fold' _, r :: others =>
      if fold = fold' then
        { r with regex := .seq p.regex r.regex, size := p.size + r.size,
                 form := .runes fold false } :: others
      else p :: r :: others
    | _, _, merged => p :: merged
  | ps => ps

def maxHeight (merged : PieceForm) (ps : List Piece) : Nat :=
  ps.foldl (fun h p => max h (if p.form = merged then p.height - 1 else p.height)) 0

def sequence (ps : List Piece) : Piece :=
  match mergeRuns ps with
  | [] => { regex := .empty }
  | [p] => p
  | p :: rest =>
    { regex := rest.foldl (fun r q => .seq r q.regex) p.regex
      height := 1 + maxHeight .sequence (p :: rest)
      size := (p :: rest).foldl (fun n q => n + q.size) 0
      counts := (p :: rest).foldl (fun n q => max n q.counts) 1
      form := .sequence }

def isOneRune (p : Piece) : Bool := p.form = .oneRune || p.form matches .runes _ true

def mergeSets : List Piece → List Piece
  | p :: q :: rest =>
    match mergeSets (q :: rest) with
    | r :: others =>
      if p.isOneRune && r.isOneRune then
        { regex := .alt p.regex r.regex, form := .oneRune } :: others
      else p :: r :: others
    | [] => [p]
  | ps => ps

def choice (ps : List Piece) : Piece :=
  match mergeSets ps with
  | [] => { regex := .empty }
  | [p] => p
  | p :: rest =>
    { regex := rest.foldl (fun r q => .alt r q.regex) p.regex
      height := 1 + maxHeight .choice (p :: rest)
      size := (p :: rest).foldl (fun n q => n + q.size) rest.length
      counts := (p :: rest).foldl (fun n q => max n q.counts) 1
      form := .choice }

def capture (p : Piece) : Piece :=
  { regex := p.regex, height := p.height + 1, size := p.size + 2, counts := p.counts }

/-- A loop multiplies the counts nested in it; one that never runs hides them. -/
def countsUnder (p : Piece) (least : Nat) (most : Option Nat) : Nat :=
  if most = some 0 then 1 else p.counts * max 1 (most.getD least)

def loop (p : Piece) (least : Nat) (most : Option Nat) (counted : Bool) : Piece :=
  { regex := .loop p.regex least most
    height := p.height + 1
    size := max 1 (match most with
      | none => if least = 0 || !counted then p.size + 2 else least * p.size + 1
      | some m => m * p.size + (m - least))
    counts := if counted then p.countsUnder least most else p.counts }

end Piece

structure GroupStart where
  captures : Bool
  flags : MatchFlags
  deriving DecidableEq, Repr

/-- The alternatives read so far and the pieces of the current one, the last one first. -/
structure Frame where
  done : List Piece := []
  pieces : List Piece := []
  deriving DecidableEq, Repr

def Frame.close (f : Frame) : Piece :=
  Piece.choice (Piece.sequence f.pieces.reverse :: f.done).reverse

structure PatternBuilder where
  whole : Text
  flags : MatchFlags := {}
  current : Frame := {}
  outer : List (GroupStart × Frame) := []
  /-- The repetition operator that was read last, when nothing followed it. -/
  operator : Option Text := none
  deriving DecidableEq, Repr

namespace PatternBuilder

def checked (b : PatternBuilder) (p : Piece) : Except PatternError Piece :=
  if p.size > Piece.sizeLimit then .error ⟨.tooLarge, b.whole⟩
  else if p.height > Piece.heightLimit then .error ⟨.tooDeep, b.whole⟩
  else .ok p

def push (b : PatternBuilder) (p : Piece) : Except PatternError PatternBuilder := do
  let p ← b.checked p
  return { b with current.pieces := p :: b.current.pieces }

def runePiece (fold : Bool) (r : Nat) : Piece :=
  { regex := .rune r fold, form := .runes fold true }

def setPiece (s : RuneSet) : Piece := { regex := .set s, form := .oneRune }

def pushAll (b : PatternBuilder) : List Piece → Except PatternError PatternBuilder
  | [] => .ok b
  | p :: rest => do (← b.push p).pushAll rest

def repeatLast (b : PatternBuilder) (least : Nat) (most : Option Nat) (written : Text) :
    Except PatternError PatternBuilder := do
  let counted := written.head? = some (byte '\x7b')
  match b.operator with
  | some before => .error ⟨.nestedRepeat, before ++ written⟩
  | none =>
    match b.current.pieces with
    | [] => .error ⟨.nothingToRepeat, written⟩
    | p :: rest =>
      let p ← b.checked (p.loop least most counted)
      if counted && (least ≥ 2 || most.any (· ≥ 2)) && p.counts > PatternToken.countLimit then
        .error ⟨.badRepeatCount, written⟩
      else
        return { b with current.pieces := p :: rest, operator := some written }

def openGroup (b : PatternBuilder) (captures : Bool) (inside : MatchFlags) : PatternBuilder :=
  { b with flags := inside, current := {}, outer := (⟨captures, b.flags⟩, b.current) :: b.outer }

def closeGroup (b : PatternBuilder) : Except PatternError PatternBuilder := do
  let p ← b.checked b.current.close
  match b.outer with
  | [] => .error ⟨.unexpectedClose, b.whole⟩
  | (start, frame) :: rest =>
    let inside := if start.captures then p.capture else p
    push { b with flags := start.flags, current := frame, outer := rest } inside

def nextAlternative (b : PatternBuilder) : Except PatternError PatternBuilder := do
  let p ← b.checked (Piece.sequence b.current.pieces.reverse)
  return { b with current := ⟨p :: b.current.done, []⟩ }

def assertPiece (a : Assertion) : Piece := { regex := .assert a }

def dotSet (all : Bool) : RuneSet :=
  ⟨!all, false, [⟨false, if all then [0, 0x10FFFF, 1] else [10, 10, 1]⟩]⟩

def read (b : PatternBuilder) (token : PatternToken) : Except PatternError PatternBuilder :=
  let fresh := { b with operator := none }
  match token with
  | .runes rs => fresh.pushAll (rs.map (runePiece b.flags.fold))
  | .openGroup => .ok (fresh.openGroup true b.flags)
  | .flags change opensGroup =>
    if opensGroup then .ok (fresh.openGroup false (b.flags.apply change))
    else .ok { fresh with flags := b.flags.apply change }
  | .closeGroup => fresh.closeGroup
  | .bar => fresh.nextAlternative
  | .caret => fresh.push (assertPiece (if b.flags.multiLine then .lineStart else .textStart))
  | .dollar => fresh.push (assertPiece (if b.flags.multiLine then .lineEnd else .textEnd))
  | .dot => fresh.push (setPiece (dotSet b.flags.dotAll))
  | .set negated items => fresh.push (setPiece ⟨negated, b.flags.fold, items⟩)
  | .assert a => fresh.push (assertPiece a)
  | .loop least most written => b.repeatLast least most written

def readAll (b : PatternBuilder) : List PatternToken → Except PatternError PatternBuilder
  | [] => .ok b
  | token :: rest => do (← b.read token).readAll rest

def finish (b : PatternBuilder) : Except PatternError Regex := do
  let p ← b.checked b.current.close
  if b.outer.isEmpty then return p.regex else .error ⟨.unclosedGroup, b.whole⟩

end PatternBuilder

def Regex.parse (pattern : Text) : Except PatternError Regex := do
  let (tokens, unread) := PatternToken.readFrom 0 pattern
  let b ← PatternBuilder.readAll { whole := pattern } tokens
  match unread with
  | some e => .error e
  | none => b.finish

end JavadocLint
