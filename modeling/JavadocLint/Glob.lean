import JavadocLint.Text.Chunk

/- File name patterns. A star stays within a directory and two stars cross directories; a question
   mark is one character other than a slash, brackets hold a list or a range of characters, braces
   hold alternatives, and a backslash takes the next character as it is. -/
namespace JavadocLint

inductive GlobPart where
  | text (runes : List Nat)
  /-- Any characters of one path element. -/
  | star
  /-- Any characters. -/
  | deep
  /-- Any characters, at least one. -/
  | deepSome
  | one
  | list (negated : Bool) (runes : List Nat)
  | range (negated : Bool) (lo hi : Nat)
  | either (alternatives : List (List GlobPart))
  deriving Repr

inductive GlobToken where
  | part (p : GlobPart)
  | openBrace
  | comma
  | closeBrace
  deriving Repr

namespace Glob

def rune (c : Char) : Nat := c.toNat

/-- Literal text up to an unescaped character of `stops`, and what follows it. A backslash at the
    very end stands for nothing. -/
def literal (stops : List Nat) : Bool → List Nat → List Nat × List Nat
  | _, [] => ([], [])
  | true, r :: rest =>
    let (t, after) := literal stops false rest
    (r :: t, after)
  | false, r :: rest =>
    if r = rune '\\' then literal stops true rest
    else if stops.contains r then ([], r :: rest)
    else
      let (t, after) := literal stops false rest
      (r :: t, after)

/-- What brackets hold, and what follows them. A single character that is not negated is text. -/
def bracket? (negated : Bool) (rs : List Nat) : Option (GlobPart × List Nat) :=
  match rs with
  | lo :: dash :: more =>
    if dash = rune '-' then
      match more with
      | hi :: close :: rest =>
        if close = rune ']' && lo ≤ hi then some (.range negated lo hi, rest) else none
      | _ => none
    else listed
  | _ => listed
where
  listed : Option (GlobPart × List Nat) :=
    match literal [rune ']'] false rs with
    | ([], _) => none
    | (_, []) => none
    | ([r], _ :: rest) => some (if negated then .list true [r] else .text [r], rest)
    | (runes, _ :: rest) => some (.list negated runes, rest)

/-- A run of stars; an odd number from three on needs a character. -/
def starRun (count : Nat) : GlobPart :=
  if count = 1 then .star else if count % 2 = 0 then .deep else .deepSome

def token? (depth : Nat) (r : Nat) (rest : List Nat) : Option (GlobToken × List Nat) :=
  if r = rune '\x7b' then some (.openBrace, rest)
  else if r = rune ',' && 0 < depth then some (.comma, rest)
  else if r = rune '\x7d' && 0 < depth then some (.closeBrace, rest)
  else if r = rune '?' then some (.part .one, rest)
  else if r = rune '*' then
    let after := rest.dropWhile (· = rune '*')
    some (.part (starRun (rest.length - after.length + 1)), after)
  else if r = rune '[' then
    let found := match rest with
      | mark :: more => if mark = rune '!' then bracket? true more else bracket? false rest
      | [] => none
    found.map fun (p, after) => (.part p, after)
  else
    let stops := [rune '?', rune '*', rune '[', rune '\x7b']
      ++ if 0 < depth then [rune '\x7d', rune ','] else []
    let (t, after) := literal stops false (r :: rest)
    some (.part (.text t), after)

def deeper (depth : Nat) : GlobToken → Nat
  | .openBrace => depth + 1
  | .closeBrace => depth - 1
  | _ => depth

def tokensFrom : Nat → Nat → List Nat → Option (List GlobToken)
  | _, _, [] => some []
  | 0, _, _ :: _ => none
  | fuel + 1, depth, r :: rest => do
    let (t, after) ← token? depth r rest
    return t :: (← tokensFrom fuel (deeper depth t) after)

mutual
def width? : GlobPart → Option Nat
  | .text t => some t.length
  | .one | .list _ _ | .range _ _ _ => some 1
  | .star | .deep | .deepSome => none
  | .either alternatives => commonWidth? alternatives

def widths? : List GlobPart → Option Nat
  | [] => some 0
  | p :: rest => do return (← width? p) + (← widths? rest)

def commonWidth? : List (List GlobPart) → Option Nat
  | [] => none
  | [parts] => widths? parts
  | parts :: rest => (widths? parts).filter fun n => commonWidth? rest = some n
end

def isOne : GlobPart → Bool
  | .one => true
  | _ => false

def isFixed (p : GlobPart) : Bool := (width? p).isSome

/-- Whether the character that a long run of stars needs may be taken by what follows it: by
    question marks with at most one part of fixed width after them, or by alternatives of different
    widths. -/
def takesOne (rest : List GlobPart) : Bool :=
  let after := rest.dropWhile isOne
  if after.length < rest.length then (after.takeWhile isFixed).length < 2
  else match rest with
    | .either alternatives :: _ => (commonWidth? alternatives).isNone
    | _ => false

def settle : List GlobPart → List GlobPart
  | [] => []
  | .deepSome :: rest => (if takesOne rest then .deep else .deepSome) :: settle rest
  | p :: rest => p :: settle rest

/-- Open braces: the parts before one, and its alternatives so far, each with the last first. -/
structure OpenBrace where
  before : List GlobPart
  alternatives : List (List GlobPart)
  deriving Repr

structure Building where
  current : List GlobPart := []
  outer : List OpenBrace := []
  deriving Repr

namespace Building

def close (b : Building) : Building :=
  match b.outer with
  | [] => b
  | o :: outer =>
    ⟨.either (settle b.current.reverse :: o.alternatives).reverse :: o.before, outer⟩

def read (b : Building) : GlobToken → Building
  | .part (.text []) => b
  | .part p => { b with current := p :: b.current }
  | .openBrace => ⟨[], ⟨b.current, []⟩ :: b.outer⟩
  | .comma =>
    match b.outer with
    | [] => b
    | o :: outer => ⟨[], { o with alternatives := settle b.current.reverse :: o.alternatives } ::
        outer⟩
  | .closeBrace => b.close

def finish (b : Building) : List GlobPart :=
  settle (b.outer.foldl (fun b _ => b.close) b).current.reverse

end Building

end Glob

structure Glob where
  parts : List GlobPart
  deriving Repr

namespace Glob

/-- A pattern that cannot be read as one stands for itself. -/
def parse (pattern : Text) : Glob :=
  match tokensFrom (pattern.runes.length + 1) 0 pattern.runes with
  | some tokens => ⟨(tokens.foldl Building.read {}).finish⟩
  | none => ⟨[.text pattern.runes]⟩

def remainders (p : Nat → Bool) : List Nat → List (List Nat)
  | [] => [[]]
  | r :: rest => (r :: rest) :: if p r then remainders p rest else []

def oneSuch (p : Nat → Bool) : List Nat → List (List Nat)
  | [] => []
  | r :: rest => if p r then [rest] else []

def isInner (r : Nat) : Bool := r != rune '/'

mutual
def afterPart : GlobPart → List Nat → List (List Nat)
  | .text t, path => if t.isPrefixOf path then [path.drop t.length] else []
  | .star, path => remainders isInner path
  | .deep, path => remainders (fun _ => true) path
  | .deepSome, path => (remainders (fun _ => true) path).drop 1
  | .one, path => oneSuch isInner path
  | .list negated runes, path => oneSuch (fun r => runes.contains r != negated) path
  | .range negated lo hi, path => oneSuch (fun r => decide (lo ≤ r ∧ r ≤ hi) != negated) path
  | .either alternatives, path => afterAny alternatives path

def afterParts : List GlobPart → List Nat → List (List Nat)
  | [], path => [path]
  | p :: rest, path => (afterPart p path).flatMap (afterParts rest)

def afterAny : List (List GlobPart) → List Nat → List (List Nat)
  | [], _ => []
  | parts :: rest, path => afterParts parts path ++ afterAny rest path
end

/-- A text, two stars and a text ask only for a start and an end, which may overlap. -/
def acceptsRunes (g : Glob) (path : List Nat) : Bool :=
  match g.parts with
  | [.text start, .deep, .text stop] => start.isPrefixOf path && stop.isSuffixOf path
  | parts => (afterParts parts path).any List.isEmpty

def accepts (g : Glob) (path : Text) : Bool := g.acceptsRunes path.runes

end Glob
end JavadocLint
