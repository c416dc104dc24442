import Mathlib
import JavadocLint.Java.Declaration
import JavadocLint.Proofs.PrintedLexemes

/- Compilation units as trees of members: statements, blocks and types, with blocks and types
   holding members again. A tree has its lexemes, all of them printable, and its types, each with
   the numbers of its first lexeme and of its keyword. -/
namespace JavadocLint

section Trees

def Word.IsOrdinary (w : Word) : Prop :=
  w.bytes ≠ utf8 "class" ∧ w.bytes ≠ utf8 "interface" ∧ w.bytes ≠ utf8 "enum" ∧
    w.bytes ≠ utf8 "record"

def Mark.IsParenthesis (m : Mark) : Prop := m.mark = byte '(' ∨ m.mark = byte ')'

def Mark.IsOrdinary (m : Mark) : Prop := ¬m.IsParenthesis ∧ (Lexeme.mark m.mark).endsMember = false

instance (w : Word) : Decidable w.IsOrdinary := inferInstanceAs (Decidable (_ ∧ _ ∧ _ ∧ _))

instance (m : Mark) : Decidable m.IsParenthesis := inferInstanceAs (Decidable (_ ∨ _))

instance (m : Mark) : Decidable m.IsOrdinary := inferInstanceAs (Decidable (_ ∧ _))

inductive Balanced where
  | nil
  | word (w : Word) (rest : Balanced)
  | literal (l : Literal) (rest : Balanced)
  | mark (m : Mark) (other : ¬m.IsParenthesis) (rest : Balanced)
  | group (inner rest : Balanced)

/-- Code without keywords of declarations, braces and semicolons outside parentheses. -/
inductive Plain where
  | nil
  | word (w : Word) (ordinary : w.IsOrdinary) (rest : Plain)
  | literal (l : Literal) (rest : Plain)
  | mark (m : Mark) (ordinary : m.IsOrdinary) (rest : Plain)
  | group (inner : Balanced) (rest : Plain)

/-- Modifiers and annotations. The name of an annotation may go on after dots. -/
inductive Modifiers where
  | nil
  | word (w : Word) (ordinary : w.IsOrdinary) (rest : Modifiers)
  | annotated (name : Word) (ordinary : name.IsOrdinary) (further : List Word)
      (argument : Option Balanced) (rest : Modifiers)

inductive Members where
  | nil
  | statement (plain : Plain) (rest : Members)
  | block (opening : Plain) (inner : Members) (closing : Plain) (rest : Members)
  | type (modifiers : Modifiers) (kind : DeclarationKind) (name : Word) (header : Plain)
      (inner : Members) (closing : Plain) (rest : Members)

def groupLexemes (inner : List Lexeme) : List Lexeme :=
  .mark (byte '(') :: (inner ++ [.mark (byte ')')])

def Balanced.lexemes : Balanced → List Lexeme
  | .nil => []
  | .word w rest => .word w.bytes :: rest.lexemes
  | .literal l rest => .literal l.bytes :: rest.lexemes
  | .mark m _ rest => .mark m.mark :: rest.lexemes
  | .group inner rest => groupLexemes inner.lexemes ++ rest.lexemes

def Plain.lexemes : Plain → List Lexeme
  | .nil => []
  | .word w _ rest => .word w.bytes :: rest.lexemes
  | .literal l rest => .literal l.bytes :: rest.lexemes
  | .mark m _ rest => .mark m.mark :: rest.lexemes
  | .group inner rest => groupLexemes inner.lexemes ++ rest.lexemes

def dottedLexemes (further : List Word) : List Lexeme :=
  further.flatMap fun w => [.mark (byte '.'), .word w.bytes]

def argumentLexemes : Option Balanced → List Lexeme
  | none => []
  | some inner => groupLexemes inner.lexemes

def annotationLexemes (name : Word) (further : List Word) (argument : Option Balanced) :
    List Lexeme :=
  .mark (byte '@') :: .word name.bytes :: (dottedLexemes further ++ argumentLexemes argument)

def Modifiers.lexemes : Modifiers → List Lexeme
  | .nil => []
  | .word w _ rest => .word w.bytes :: rest.lexemes
  | .annotated name _ further argument rest =>
    annotationLexemes name further argument ++ rest.lexemes

/-- The keyword is the last of these. -/
def keywordLexemes : DeclarationKind → List Lexeme
  | .classType => [.word (utf8 "class")]
  | .interfaceType => [.word (utf8 "interface")]
  | .enumType => [.word (utf8 "enum")]
  | .recordType => [.word (utf8 "record")]
  | .annotationType => [.mark (byte '@'), .word (utf8 "interface")]

def headLexemes (modifiers : Modifiers) (kind : DeclarationKind) (name : Word) : List Lexeme :=
  modifiers.lexemes ++ keywordLexemes kind ++ [.word name.bytes]

def bodyLexemes (inner closing : List Lexeme) : List Lexeme :=
  .mark (byte '\x7b') :: (inner ++ closing ++ [.mark (byte '\x7d')])

def Members.lexemes : Members → List Lexeme
  | .nil => []
  | .statement plain rest => plain.lexemes ++ .mark (byte ';') :: rest.lexemes
  | .block opening inner closing rest =>
    opening.lexemes ++ bodyLexemes inner.lexemes closing.lexemes ++ rest.lexemes
  | .type modifiers kind name header inner closing rest =>
    headLexemes modifiers kind name ++ header.lexemes ++
      bodyLexemes inner.lexemes closing.lexemes ++ rest.lexemes

end Trees

section Expected

variable (line : Nat → Nat)

def typeDeclaration (nested : Bool) (n : Nat) (modifiers : Modifiers) (kind : DeclarationKind)
    (name : Word) : Declaration :=
  ⟨kind, name.bytes, line n,
    line (n + modifiers.lexemes.length + ((keywordLexemes kind).length - 1)), nested⟩

/-- The types of members, of which the first lexeme has the given number, each before those inside
    it. -/
def Members.declarations (nested : Bool) (n : Nat) : Members → List Declaration
  | .nil => []
  | .statement plain rest => rest.declarations nested (n + plain.lexemes.length + 1)
  | .block opening inner closing rest =>
    let body := n + opening.lexemes.length + 1
    inner.declarations true body ++
      rest.declarations nested (body + inner.lexemes.length + closing.lexemes.length + 1)
  | .type modifiers kind name header inner closing rest =>
    let body := n + (headLexemes modifiers kind name).length + header.lexemes.length + 1
    typeDeclaration line nested n modifiers kind name ::
      (inner.declarations true body ++
        rest.declarations nested (body + inner.lexemes.length + closing.lexemes.length + 1))

def Members.roots (n : Nat) : Members → List Declaration
  | .nil => []
  | .statement plain rest => rest.roots (n + plain.lexemes.length + 1)
  | .block opening inner closing rest =>
    rest.roots (n + opening.lexemes.length + 1 + inner.lexemes.length + closing.lexemes.length + 1)
  | .type modifiers kind name header inner closing rest =>
    typeDeclaration line false n modifiers kind name ::
      rest.roots (n + (headLexemes modifiers kind name).length + header.lexemes.length + 1 +
        inner.lexemes.length + closing.lexemes.length + 1)

end Expected

section Lexemes

theorem printable_mark {b : UInt8} (isMark : isMarkByte b = true) : Printable (.mark b) :=
  .mark ⟨b, isMark⟩

theorem printable_group {inner : List Lexeme} (printable : ∀ l ∈ inner, Printable l) :
    ∀ l ∈ groupLexemes inner, Printable l := by
  simp only [groupLexemes, List.mem_cons, List.mem_append, List.not_mem_nil, or_false]
  rintro l (rfl | inside | rfl)
  · exact printable_mark (by decide)
  · exact printable l inside
  · exact printable_mark (by decide)

theorem printable_balanced (b : Balanced) : ∀ l ∈ b.lexemes, Printable l := by
  induction b with
  | nil => exact List.forall_mem_nil _
  | word w rest ih => exact List.forall_mem_cons.mpr ⟨.word w, ih⟩
  | literal l rest ih => exact List.forall_mem_cons.mpr ⟨.literal l, ih⟩
  | mark m other rest ih => exact List.forall_mem_cons.mpr ⟨.mark m, ih⟩
  | group inner rest innerHere ih =>
    exact List.forall_mem_append.mpr ⟨printable_group innerHere, ih⟩

theorem printable_plain (p : Plain) : ∀ l ∈ p.lexemes, Printable l := by
  induction p with
  | nil => exact List.forall_mem_nil _
  | word w ordinary rest ih => exact List.forall_mem_cons.mpr ⟨.word w, ih⟩
  | literal l rest ih => exact List.forall_mem_cons.mpr ⟨.literal l, ih⟩
  | mark m ordinary rest ih => exact List.forall_mem_cons.mpr ⟨.mark m, ih⟩
  | group inner rest ih =>
    exact List.forall_mem_append.mpr ⟨printable_group (printable_balanced inner), ih⟩

theorem printable_dotted (further : List Word) : ∀ l ∈ dottedLexemes further, Printable l := by
  simp only [dottedLexemes, List.mem_flatMap, List.mem_cons, List.not_mem_nil, or_false]
  rintro l ⟨w, -, rfl | rfl⟩
  · exact printable_mark (by decide)
  · exact .word w

theorem printable_modifiers (m : Modifiers) : ∀ l ∈ m.lexemes, Printable l := by
  induction m with
  | nil => exact List.forall_mem_nil _
  | word w ordinary rest ih => exact List.forall_mem_cons.mpr ⟨.word w, ih⟩
  | annotated name ordinary further argument rest ih =>
    have argued : ∀ l ∈ argumentLexemes argument, Printable l := by
      cases argument with
      | none => exact List.forall_mem_nil _
      | some inner => exact printable_group (printable_balanced inner)
    refine List.forall_mem_append.mpr ⟨List.forall_mem_cons.mpr ⟨printable_mark (by decide),
      List.forall_mem_cons.mpr ⟨.word name, List.forall_mem_append.mpr ⟨?_, argued⟩⟩⟩, ih⟩
    exact printable_dotted further

theorem printable_keyword (kind : DeclarationKind) : ∀ l ∈ keywordLexemes kind, Printable l := by
  have word : ∀ {w : Text}, isWordText w = true → Printable (.word w) := fun isWord =>
    .word ⟨_, isWord⟩
  cases kind with
  | classType => exact List.forall_mem_singleton.mpr (word (by decide))
  | interfaceType => exact List.forall_mem_singleton.mpr (word (by decide))
  | enumType => exact List.forall_mem_singleton.mpr (word (by decide))
  | recordType => exact List.forall_mem_singleton.mpr (word (by decide))
  | annotationType =>
    exact List.forall_mem_cons.mpr ⟨printable_mark (by decide),
      List.forall_mem_singleton.mpr (word (by decide))⟩

theorem printable_body {inner : List Lexeme} (printable : ∀ l ∈ inner, Printable l)
    (closing : Plain) : ∀ l ∈ bodyLexemes inner closing.lexemes, Printable l :=
  List.forall_mem_cons.mpr ⟨printable_mark (by decide), List.forall_mem_append.mpr
    ⟨List.forall_mem_append.mpr ⟨printable, printable_plain closing⟩,
      List.forall_mem_singleton.mpr (printable_mark (by decide))⟩⟩

theorem printable_members (m : Members) : ∀ l ∈ m.lexemes, Printable l := by
  induction m with
  | nil => exact List.forall_mem_nil _
  | statement plain rest ih =>
    exact List.forall_mem_append.mpr ⟨printable_plain plain,
      List.forall_mem_cons.mpr ⟨printable_mark (by decide), ih⟩⟩
  | block opening inner closing rest innerHere ih =>
    exact List.forall_mem_append.mpr ⟨List.forall_mem_append.mpr
      ⟨printable_plain opening, printable_body innerHere closing⟩, ih⟩
  | type modifiers kind name header inner closing rest innerHere ih =>
    have head : ∀ l ∈ headLexemes modifiers kind name, Printable l :=
      List.forall_mem_append.mpr ⟨List.forall_mem_append.mpr
        ⟨printable_modifiers modifiers, printable_keyword kind⟩,
          List.forall_mem_singleton.mpr (.word name)⟩
    exact List.forall_mem_append.mpr ⟨List.forall_mem_append.mpr ⟨List.forall_mem_append.mpr
      ⟨head, printable_plain header⟩, printable_body innerHere closing⟩, ih⟩

end Lexemes

theorem filter_declarations (line : Nat → Nat) (nested : Bool) (n : Nat) (members : Members) :
    (members.declarations line nested n).filter Declaration.isTopLevel =
      if nested then [] else
        (members.roots line n).filter fun d => d.kind = .classType ∨ d.kind = .interfaceType := by
  induction members generalizing nested n with
  | nil => cases nested <;> rfl
  | statement plain rest ih => exact ih nested _
  | block opening inner closing rest innerHere ih =>
    simp only [Members.declarations, Members.roots, List.filter_append, innerHere, ih, if_true,
      List.nil_append]
  | type modifiers kind name header inner closing rest innerHere ih =>
    simp only [Members.declarations, Members.roots, List.filter_append, innerHere, ih, if_true,
      List.nil_append, List.filter_cons]
    cases nested <;> cases kind <;> simp [typeDeclaration, Declaration.isTopLevel]

end JavadocLint
