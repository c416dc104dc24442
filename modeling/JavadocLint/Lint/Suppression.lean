import JavadocLint.Failure
import JavadocLint.Lint.Issue
import JavadocLint.Sorting
import JavadocLint.Text.Blank

/- Suppression comments. A comment before the package statement covers the whole file, one after
   code covers its own line, and one on a line of its own reaches to the next line of code. -/
namespace JavadocLint

def suppressionMark : Text := utf8 "//nolint"

/-- The lines a comment covers, and the rules it names; without names it covers every rule. -/
structure Suppression where
  start : Position
  stop : Position
  rules : List Text
  deriving DecidableEq, Repr

def insertName (name : Text) (names : List Text) : List Text :=
  if names.contains name then names else insertSorted Text.le name names

def ruleNames (list : Text) : List Text :=
  list.listItems.foldl (fun names item => insertName item names) []

/-- The rules named by what follows the mark, or nothing when it is no suppression comment. A colon
    without a name after it is a mistake, not a blanket suppression. -/
def suppressedRules? (rest : Text) : Option (List Text) :=
  match rest with
  | [] => some []
  | b :: t =>
    if b = byte ':' then
      if (Text.trim t).isEmpty then none else some (ruleNames (Text.firstWord t))
    else if b = byte ' ' || b = byte '\t' || b = byte '\r' then some []
    else none

def packageLine? (lines : List Text) : Option Nat :=
  (lines.findIdx? fun line => (utf8 "package ").isPrefixOf line.trim).map (· + 1)

/-- The offset of the first line of code; `inBlock` tells whether a block comment is open. -/
def codeOffset? (inBlock : Bool) : List Text → Option Nat
  | [] => none
  | line :: rest =>
    let t := line.trim
    if inBlock then (codeOffset? (!Text.containsText (utf8 "*/") t) rest).map (· + 1)
    else if t.isEmpty || (utf8 "//").isPrefixOf t then (codeOffset? false rest).map (· + 1)
    else if (utf8 "/*").isPrefixOf t then
      (codeOffset? (!Text.containsText (utf8 "*/") (t.drop 2)) rest).map (· + 1)
    else some 0

def nextCodeLine? (lines : List Text) (start : Nat) : Option Nat :=
  (codeOffset? false (lines.drop start)).map (start + ·)

def nextCodeLineFrom (lines : List Text) (start : Int) : Except Failure (Option Nat) :=
  if start < 0 then .error (.outside start lines.length)
  else .ok (nextCodeLine? lines start.toNat)

def suppressionAt? (file : Text) (lines : List Text) (i : Nat) (line : Text) :
    Option Suppression := do
  let (before, rest) ← Text.cut? suppressionMark line
  let rules ← suppressedRules? rest
  let here : Position := ⟨file, i + 1, before.length + 1⟩
  if (packageLine? lines).any (i + 1 < ·) then
    return ⟨⟨file, 1, 1⟩, ⟨file, lines.length, 0⟩, rules⟩
  else if !before.trim.isEmpty then return ⟨here, here, rules⟩
  else
    match nextCodeLine? lines (i + 1) with
    | some next => return ⟨here, ⟨file, next + 1, 0⟩, rules⟩
    | none => return ⟨here, here, rules⟩

def suppressions (file : Text) (lines : List Text) : List Suppression :=
  lines.zipIdx.filterMap fun (line, i) => suppressionAt? file lines i line

def isSuppressed (scopes : List Suppression) (line : Int) (rule : Text) : Bool :=
  scopes.any fun s =>
    s.start.line ≤ line && line ≤ s.stop.line && (s.rules.isEmpty || s.rules.contains rule)

/-- The same for a position that may lie in another file. -/
def isSuppressedIn (file : Text) (scopes : List Suppression) (pos : Position) (rule : Text) :
    Bool :=
  pos.file = file && isSuppressed scopes pos.line rule

end JavadocLint
