import Mathlib
import JavadocLint.Engine.Basic
import JavadocLint.Proofs.PathNames
import JavadocLint.Proofs.SourceLexemes

/- Line endings. A content whose lines end in line feeds alone is its lines joined by line feeds
   again, and a carriage return before any of them leaves the lines as they are; so nothing that is
   checked depends on which of the two endings a line has. A carriage return inside a line stays
   part of it. -/
namespace JavadocLint

def carriageReturn : UInt8 := byte '\r'

/-- No carriage return stands where one would be taken for a part of a line ending. -/
structure PlainEndings (content : Text) : Prop where
  noPair : ¬ [carriageReturn, lineFeed] <:+: content
  noLast : ¬ [carriageReturn] <:+ content

/-- A content that begins at some offset, with a carriage return put before each of its line feeds
    whose offset is chosen. -/
def withReturnsFrom (chosen : Nat → Bool) : Nat → Text → Text
  | _, [] => []
  | offset, b :: rest =>
    (if b = lineFeed ∧ chosen offset = true then [carriageReturn, b] else [b])
      ++ withReturnsFrom chosen (offset + 1) rest

def withReturns (chosen : Nat → Bool) (content : Text) : Text := withReturnsFrom chosen 0 content

theorem line_induction {motive : Text → Prop} (last : ∀ line, lineFeed ∉ line → motive line)
    (more : ∀ line rest, lineFeed ∉ line → motive rest → motive (line ++ lineFeed :: rest))
    (content : Text) : motive content := by
  induction size : content.length using Nat.strongRecOn generalizing content with
  | ind n ih =>
    by_cases broken : lineFeed ∈ content
    · obtain ⟨line, rest, rfl, unbroken⟩ := List.eq_append_cons_of_mem broken
      rw [List.length_append, List.length_cons] at size
      exact more line rest unbroken (ih rest.length (by omega) rest rfl)
    · exact last content broken

section Lines

variable {line rest : Text}

theorem dropReturn_eq (line : Text) :
    dropReturn line = (Text.dropEnd? [carriageReturn] line).getD line := rfl

theorem sourceLines_eq (content : Text) :
    sourceLines content = (Text.splitOn lineFeed content).map dropReturn := rfl

theorem dropReturn_append (line : Text) : dropReturn (line ++ [carriageReturn]) = line := by
  have ends : [carriageReturn].isSuffixOf (line ++ [carriageReturn]) = true :=
    List.isSuffixOf_iff_suffix.mpr (List.suffix_append _ _)
  rw [dropReturn_eq, Text.dropEnd?, if_pos ends, Option.getD_some, List.length_append,
    Nat.add_sub_cancel, List.take_left]

theorem dropReturn_plain (plain : ¬ [carriageReturn] <:+ line) : dropReturn line = line := by
  have other : ¬ [carriageReturn].isSuffixOf line = true :=
    fun ends => plain (List.isSuffixOf_iff_suffix.mp ends)
  rw [dropReturn_eq, Text.dropEnd?, if_neg other, Option.getD_none]

theorem sourceLines_last (unbroken : lineFeed ∉ line) : sourceLines line = [dropReturn line] := by
  rw [sourceLines_eq, Text.splitOn_single unbroken, List.map_singleton]

theorem sourceLines_more (unbroken : lineFeed ∉ line) (rest : Text) :
    sourceLines (line ++ lineFeed :: rest) = dropReturn line :: sourceLines rest := by
  rw [sourceLines_eq, Text.splitOn_append, Text.splitOn_single unbroken, List.singleton_append,
    List.map_cons, sourceLines_eq]

theorem sourceLines_ne_nil (content : Text) : sourceLines content ≠ [] := by
  rw [sourceLines_eq, ne_eq, List.map_eq_nil_iff]
  exact Text.splitOn_ne_nil _ _

theorem PlainEndings.first (plain : PlainEndings (line ++ lineFeed :: rest)) :
    ¬ [carriageReturn] <:+ line := by
  rintro ⟨front, rfl⟩
  exact plain.noPair ⟨front, rest, by simp⟩

theorem PlainEndings.others (plain : PlainEndings (line ++ lineFeed :: rest)) :
    PlainEndings rest := by
  have ending : rest <:+ line ++ lineFeed :: rest :=
    (List.suffix_cons lineFeed rest).trans (List.suffix_append line _)
  exact ⟨fun pair => plain.noPair (pair.trans ending.isInfix),
    fun last => plain.noLast (last.trans ending)⟩

end Lines

section Returns

variable {chosen : Nat → Bool} {line : Text}

theorem withReturnsFrom_append (offset : Nat) (first second : Text) :
    withReturnsFrom chosen offset (first ++ second) =
      withReturnsFrom chosen offset first
        ++ withReturnsFrom chosen (offset + first.length) second := by
  induction first generalizing offset with
  | nil => rfl
  | cons b rest ih =>
    rw [List.cons_append, withReturnsFrom, ih, withReturnsFrom, List.append_assoc,
      List.length_cons, Nat.add_assoc, Nat.add_comm 1]

theorem withReturnsFrom_unbroken (unbroken : lineFeed ∉ line) (offset : Nat) :
    withReturnsFrom chosen offset line = line := by
  induction line generalizing offset with
  | nil => rfl
  | cons b rest ih =>
    simp only [List.mem_cons, not_or] at unbroken
    have other : ¬ (b = lineFeed ∧ chosen offset = true) := fun both => unbroken.1 both.1.symm
    rw [withReturnsFrom, if_neg other, ih unbroken.2, List.singleton_append]

theorem withReturnsFrom_more (unbroken : lineFeed ∉ line) (offset : Nat) (rest : Text) :
    ∃ before, (before = [] ∨ before = [carriageReturn]) ∧
      withReturnsFrom chosen offset (line ++ lineFeed :: rest) =
        line ++ before ++ lineFeed :: withReturnsFrom chosen (offset + line.length + 1) rest := by
  rw [withReturnsFrom_append, withReturnsFrom_unbroken unbroken, withReturnsFrom]
  by_cases turned : chosen (offset + line.length) = true
  · exact ⟨[carriageReturn], .inr rfl, by simp [turned]⟩
  · exact ⟨[], .inl rfl, by simp [turned]⟩

theorem sourceLines_withReturnsFrom {content : Text} (plain : PlainEndings content)
    (offset : Nat) : sourceLines (withReturnsFrom chosen offset content) = sourceLines content := by
  induction content using line_induction generalizing offset with
  | last line unbroken => rw [withReturnsFrom_unbroken unbroken]
  | more line rest unbroken ih =>
    obtain ⟨before, which, turned⟩ := @withReturnsFrom_more chosen line unbroken offset rest
    have whole : lineFeed ∉ line ++ before := by
      rcases which with rfl | rfl
      · simpa using unbroken
      · simpa [unbroken] using (by decide : lineFeed ≠ carriageReturn)
    have same : dropReturn (line ++ before) = dropReturn line := by
      rw [dropReturn_plain plain.first]
      rcases which with rfl | rfl
      · rw [List.append_nil, dropReturn_plain plain.first]
      · exact dropReturn_append line
    rw [turned, sourceLines_more whole, sourceLines_more unbroken, same, ih plain.others]

end Returns

theorem join_sourceLines {content : Text} (plain : PlainEndings content) :
    Text.join [lineFeed] (sourceLines content) = content := by
  induction content using line_induction with
  | last line unbroken => rw [sourceLines_last unbroken, dropReturn_plain plain.noLast, Text.join]
  | more line rest unbroken ih =>
    rw [sourceLines_more unbroken, dropReturn_plain plain.first, Text.join, ih plain.others,
      List.append_assoc, List.singleton_append]
    exact sourceLines_ne_nil rest

/-- Whichever line feeds of a content are turned into pairs, it has the same lines and the same
    issues, and the lines still say what the content was. -/
theorem line_endings_indifferent {content : Text} (plain : PlainEndings content)
    (chosen : Nat → Bool) :
    sourceLines (withReturns chosen content) = sourceLines content ∧
      (∀ e : Engine, e.runSource (withReturns chosen content) = e.runSource content) ∧
      Text.join [lineFeed] (sourceLines content) = content := by
  have same : sourceLines (withReturns chosen content) = sourceLines content :=
    sourceLines_withReturnsFrom plain 0
  refine ⟨same, ?_, join_sourceLines plain⟩
  intro e
  rw [Engine.runSource, same, Engine.runSource]

def mixedContent : Text := utf8 "/**\n\rclass A ;\n\n\r\rclass\rB"

theorem line_endings_indifferent_mixed :
    -- the line feeds after the first and the third line
    let chosen (offset : Nat) : Bool := offset = 3 || offset = 15
    PlainEndings mixedContent ∧
      withReturns chosen mixedContent = utf8 "/**\r\n\rclass A ;\n\r\n\r\rclass\rB" ∧
      sourceLines (withReturns chosen mixedContent) =
        [utf8 "/**", utf8 "\rclass A ;", [], utf8 "\r\rclass\rB"] ∧
      (∀ e : Engine, e.runSource (withReturns chosen mixedContent) = e.runSource mixedContent) ∧
      Text.join [lineFeed] (sourceLines mixedContent) = mixedContent := by
  intro chosen
  have plain : PlainEndings mixedContent := ⟨by decide, by decide⟩
  obtain ⟨lines, issues, joined⟩ := line_endings_indifferent plain chosen
  exact ⟨plain, by decide, lines.trans (by decide), issues, joined⟩

end JavadocLint
