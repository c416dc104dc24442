import Mathlib
import JavadocLint.Proofs.CommentSearch
import JavadocLint.Proofs.DeclarationLines
import JavadocLint.Proofs.DeclarationSites

/- Text that is added below a file. A declaration is known once its name is read and is never taken
   back, and the check of its comment reads nothing but lines above it; so whatever was found stays
   as it is. The cut may fall anywhere: inside a comment or a literal that is still open, or between
   a keyword and its name. Nothing is claimed about what the added lines contribute. -/
namespace JavadocLint

namespace MemberState

theorem read_found (s : MemberState) (line : Nat) (t : Token) :
    s.found <:+ (s.read line t).found := by
  cases t with
  | word w =>
    change s.found <:+ (s.readWord w line).found
    rw [readWord_found]
    exact List.suffix_append _ _
  | literal q => exact List.suffix_rfl
  | punct b =>
    obtain ⟨-, -, found⟩ := readPunct_rest s b line
    change s.found <:+ (s.readPunct b line).found
    rw [found]

theorem readAll_keeps_found (s : MemberState) (tokens : List LocatedToken) :
    s.found <:+ (s.readAll tokens).found := by
  induction tokens generalizing s with
  | nil => exact List.suffix_rfl
  | cons t rest ih => exact (s.read_found t.2 t.1).trans (ih (s.read t.2 t.1))

end MemberState

theorem fileTokens_append (upper lower : List Text) :
    ∃ more, fileTokens (upper ++ lower) = fileTokens upper ++ more := by
  have split : symbols (upper ++ lower) = symbols upper ++ symbols lower := List.flatMap_append
  rw [fileTokens, split, LexMode.located_append]
  exact ⟨_, rfl⟩

theorem declarations_append (upper lower : List Text) :
    declarations upper <+: declarations (upper ++ lower) := by
  obtain ⟨more, tokens⟩ := fileTokens_append upper lower
  rw [declarations_readAll, declarations_readAll, tokens, MemberState.readAll_append,
    List.reverse_prefix]
  exact MemberState.readAll_keeps_found _ more

section LinesAbove

variable {upper lower : List Text} {declLine : Int} {rules : TagRules}

theorem lastMatch?_lt {α : Type} {p : α → Bool} {xs : List α} {i : Nat}
    (found : lastMatch? p xs = some i) : i < xs.length := by
  obtain ⟨x, there, -⟩ := lastMatch?_some found
  exact (List.getElem?_eq_some_iff.mp there).1

theorem linesAbove_again (lines : List Text) (declLine : Int) :
    linesAbove (linesAbove lines declLine) declLine = linesAbove lines declLine := by
  rw [linesAbove, linesAbove, List.take_take, Nat.min_self]

theorem checkComment_linesAbove (lines : List Text) (declLine : Int) (rules : TagRules) :
    checkComment (linesAbove lines declLine) declLine rules = checkComment lines declLine rules := by
  cases opened : lastMatch? (trimsTo (utf8 "/**")) (linesAbove lines declLine) with
  | none =>
    rw [checkComment_lost (.inl opened), checkComment_lost (.inl (by rw [linesAbove_again, opened]))]
  | some start =>
    cases closed : lastMatch? (trimsTo (utf8 "*/")) (linesAbove lines declLine) with
    | none =>
      rw [checkComment_lost (.inr closed),
        checkComment_lost (.inr (by rw [linesAbove_again, closed]))]
    | some stop =>
      rw [checkComment_found opened closed,
        checkComment_found (by rw [linesAbove_again, opened]) (by rw [linesAbove_again, closed])]
      have first := lastMatch?_lt opened
      have last := lastMatch?_lt closed
      -- the comment ends above the declaration, so cutting there takes nothing from it
      have whole : ((linesAbove lines declLine).drop start).take (stop - start + 1) =
          (lines.drop start).take (stop - start + 1) := by
        rw [linesAbove, List.length_take] at first last
        rw [linesAbove, List.drop_take, List.take_take, Nat.min_eq_left (by omega)]
      rw [whole]

theorem checkComment_append (inside : declLine ≤ upper.length + 1) :
    checkComment (upper ++ lower) declLine rules = checkComment upper declLine rules := by
  have same : linesAbove (upper ++ lower) declLine = linesAbove upper declLine :=
    List.take_append_of_le_length (by omega)
  rw [← checkComment_linesAbove, same, checkComment_linesAbove]

end LinesAbove

/-- Lines added at the end of a file leave every declaration found before, and everything that is
    wrong with its comment, as they were. -/
theorem later_text_changes_nothing (upper lower : List Text) :
    declarations upper <+: declarations (upper ++ lower) ∧
      ∀ d ∈ declarations upper, ∀ rules,
        checkComment (upper ++ lower) d.line rules = checkComment upper d.line rules := by
  refine ⟨declarations_append upper lower, ?_⟩
  intro d member rules
  obtain ⟨⟨_, last⟩, _⟩ := declarations_lie_within upper d member
  exact checkComment_append (by omega)

theorem later_text_changes_nothing_open_block :
    let upper := [utf8 "/**", utf8 " * @author A", utf8 " */", utf8 "class A \"\"\" enum"]
    let lower := [utf8 "B \"\"\" class", utf8 "C"]
    let d : Declaration := ⟨.classType, utf8 "A", 4, 4, false⟩
    d ∈ declarations upper ∧ (declarations (upper ++ lower)).length = 2 ∧
      ∀ rules, checkComment (upper ++ lower) d.line rules = checkComment upper d.line rules :=
  ⟨by decide, by decide, (later_text_changes_nothing _ _).2 _ (by decide)⟩

end JavadocLint
