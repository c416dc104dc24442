import JavadocLint.Java.Declaration
import JavadocLint.Java.Token

/- Finding type declarations without parsing. One pass over the symbols of a file keeps the brace
   and parenthesis depths, the line where the current member began and the keyword that still waits
   for its name. -/
namespace JavadocLint

/-- A position between symbols: how many lines were read whole, and how many bytes of the next. -/
structure Cursor where
  row : Nat
  col : Nat
  deriving DecidableEq, Repr

def Cursor.advance (c : Cursor) : Symbol → Cursor
  | .byte _ => { c with col := c.col + 1 }
  | .lineEnd => ⟨c.row + 1, 0⟩

inductive Previous where
  | none
  | word
  | mark (b : UInt8)
  deriving DecidableEq, Repr

structure OpenDeclaration where
  kind : DeclarationKind
  line : Nat
  keywordLine : Nat
  nested : Bool
  deriving DecidableEq, Repr

def OpenDeclaration.close (o : OpenDeclaration) (name : Text) : Declaration :=
  ⟨o.kind, name, o.line, o.keywordLine, o.nested⟩

/-- The field `memberLine` is the line of the first token of the current member, absent between
    members. `found` holds the declarations read so far, the last one first. -/
structure MemberState where
  depth : Nat := 0
  parens : Nat := 0
  memberLine : Option Nat := none
  previous : Previous := .none
  pending : Option OpenDeclaration := none
  found : List Declaration := []
  deriving DecidableEq, Repr

/-- The word `record` is a keyword only where a declaration can start; a zero byte counts as the
    start of the file. -/
def recordMayFollow : Previous → Bool
  | .none => true
  | .word => true
  | .mark b => b = 0 || b = byte ';' || b = byte '{' || b = byte '}' || b = byte ')'

/-- The kind of declaration that a word opens after `prev`; a word after a dot opens none. -/
def keywordKind? (w : Text) (prev : Previous) : Option DeclarationKind :=
  if prev = .mark (byte '.') then none
  else if w = utf8 "class" then some .classType
  else if w = utf8 "interface" then
    some (if prev = .mark (byte '@') then .annotationType else .interfaceType)
  else if w = utf8 "enum" then some .enumType
  else if w = utf8 "record" && recordMayFollow prev then some .recordType
  else none

namespace MemberState

def begin (s : MemberState) (line : Nat) : MemberState :=
  { s with memberLine := some (s.memberLine.getD line) }

def readWord (s : MemberState) (w : Text) (line : Nat) : MemberState :=
  let t := s.begin line
  match s.pending with
  | some o => { t with pending := none, found := o.close w :: s.found, previous := .word }
  | none =>
    let opened := if s.parens = 0 then
        (keywordKind? w s.previous).map fun kind =>
          ⟨kind, s.memberLine.getD line, line, decide (0 < s.depth)⟩
      else none
    { t with pending := opened, previous := .word }

/-- Braces and semicolons inside parentheses belong to annotation arguments or lambdas; elsewhere
    they end the member. -/
def readPunct (s : MemberState) (b : UInt8) (line : Nat) : MemberState :=
  let t := { s with pending := none, previous := .mark b }
  if b = byte '{' then
    if s.parens = 0 then { t with depth := s.depth + 1, memberLine := none } else t
  else if b = byte '}' then
    if s.parens = 0 then { t with depth := s.depth - 1, memberLine := none } else t
  else if b = byte ';' then
    if s.parens = 0 then { t with memberLine := none } else t
  else if b = byte '(' then { t.begin line with parens := s.parens + 1 }
  else if b = byte ')' then { t with parens := s.parens - 1 }
  else t.begin line

def read (s : MemberState) (line : Nat) : Token → MemberState
  | .word w => s.readWord w line
  | .literal q => { s.begin line with previous := .mark q }
  | .punct b => s.readPunct b line

end MemberState

structure ScanState where
  cursor : Cursor := ⟨0, 0⟩
  mode : LexMode := .code
  members : MemberState := {}
  deriving DecidableEq, Repr

/-- Every token ends on the line of the symbol that completes it. -/
def ScanState.step (s : ScanState) (sym : Symbol) : ScanState :=
  let (mode, tokens) := s.mode.step sym
  { cursor := s.cursor.advance sym
    mode
    members := tokens.foldl (fun m t => m.read (s.cursor.row + 1) t) s.members }

def ScanState.run (s : ScanState) (syms : List Symbol) : ScanState := syms.foldl ScanState.step s

def declarations (lines : List Text) : List Declaration :=
  (ScanState.run {} (symbols lines)).members.found.reverse

def topLevelDeclarations (lines : List Text) : List Declaration :=
  (declarations lines).filter Declaration.isTopLevel

end JavadocLint
