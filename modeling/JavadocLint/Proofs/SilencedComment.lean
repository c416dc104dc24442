import JavadocLint.Proofs.CommentSearch
import JavadocLint.Proofs.SourceFindings
import JavadocLint.Proofs.SuppressionReach

/- A suppression comment above a documentation comment silences the declaration below. The reach of
   the one is found by reading forward to the next line of code, and the lines where the other is
   reported by looking back from the declaration; the two agree whatever the comment says. What is
   found for other declarations is not restricted. -/
namespace JavadocLint

def CoversRule (rule rest : Text) : Prop :=
  rest = [] ∨
    (∃ b more, rest = b :: more ∧ (b = byte ' ' ∨ b = byte '\t' ∨ b = byte '\r')) ∨
    ∃ list : Text, rest = byte ':' :: list ∧ rule ∈ list.firstWord.listItems

def IsSuppressionLine (rule line : Text) : Prop :=
  ∃ indent rest, line = indent ++ suppressionMark ++ rest ∧ indent.isBlankText = true ∧
    CoversRule rule rest

/-- A suppression comment, a documentation comment and the first line of what it documents, with
    nothing but blank lines and line comments between them. -/
structure SuppressedComment (rule : Text) where
  mark : Text
  gap : List Text
  opening : Text
  body : List Text
  closing : Text
  between : List Text
  first : Text
  marks : IsSuppressionLine rule mark
  gapSkipped : ∀ line ∈ gap, IsSkipped line
  opens : opening.trim = utf8 "/**"
  unclosed : ∀ line ∈ body, ¬ utf8 "*/" <:+: line
  closes : closing.trim = utf8 "*/"
  betweenSkipped : ∀ line ∈ between, IsSkipped line
  present : first.trim ≠ []
  noLineComment : ¬ utf8 "//" <+: first.trim
  noBlockComment : ¬ utf8 "/*" <+: first.trim

variable {rule : Text}

def SuppressedComment.header (block : SuppressedComment rule) : List Text :=
  block.mark :: (block.gap ++ block.opening :: (block.body ++ block.closing :: block.between))

def SuppressedComment.lines (block : SuppressedComment rule) : List Text :=
  block.header ++ [block.first]

theorem suppressedRules?_covers {rest : Text} (covers : CoversRule rule rest) :
    ∃ rules, suppressedRules? rest = some rules ∧ (rules = [] ∨ rule ∈ rules) := by
  rcases covers with rfl | ⟨b, more, rfl, blank⟩ | ⟨list, rfl, named⟩
  · exact ⟨[], rfl, .inl rfl⟩
  · refine ⟨[], ?_, .inl rfl⟩
    rcases blank with rfl | rfl | rfl <;> rfl
  · have present : (Text.trim list).isEmpty = false := by
      rw [Bool.eq_false_iff, ne_eq, List.isEmpty_iff, trim_eq_nil_iff]
      intro blank
      have none : Text.listItems [] = [] := by decide
      rw [firstWord_blank blank, none] at named
      cases named
    refine ⟨ruleNames list.firstWord, ?_, .inr ((mem_ruleNames rule _).mpr named)⟩
    simp [suppressedRules?, present]

theorem cut?_suppressionLine {indent rest : Text} (blank : indent.isBlankText = true) :
    Text.cut? suppressionMark (indent ++ suppressionMark ++ rest) = some (indent, rest) := by
  have absent : byte '/' ∉ indent := solid_notMem_blank (by decide) (by decide) blank
  rw [List.append_assoc]
  exact cut?_skip absent rest

namespace SuppressedComment

variable (block : SuppressedComment rule) (above below : List Text)

theorem nextCodeLine?_block :
    nextCodeLine? (above ++ block.lines ++ below) (above.length + 1) =
      some (above ++ block.header).length := by
  have dropped : (above ++ block.lines ++ below).drop (above.length + 1) =
      block.gap ++ block.opening ::
        (block.body ++ block.closing :: (block.between ++ block.first :: below)) := by
    rw [List.append_assoc, List.drop_length_add_append]
    simp [lines, header]
  rw [nextCodeLine?, dropped, codeOffset?_skipped block.gapSkipped, codeOffset?_opening block.opens,
    codeOffset?_open block.unclosed block.closes, codeOffset?_skipped block.betweenSkipped,
    codeOffset?_code block.present block.noLineComment block.noBlockComment]
  simp only [Option.map_some, header, List.length_append, List.length_cons, Option.some.injEq]
  omega

theorem reach_block {indent : Text} (blank : indent.isBlankText = true) {l : Int}
    (first : above.length + 1 ≤ l) (last : l ≤ (above ++ block.lines).length) :
    (reach (above ++ block.lines ++ below) above.length indent).1 ≤ l ∧
      l ≤ (reach (above ++ block.lines ++ below) above.length indent).2 := by
  unfold reach
  split
  · simp only [List.length_append] at last ⊢
    omega
  · rw [(trim_eq_nil_iff indent).mpr blank, nextCodeLine?_block]
    simp only [lines, List.length_append, List.length_singleton, List.isEmpty_nil, Bool.not_true,
      Bool.false_eq_true, if_false, Option.getD_some] at last ⊢
    omega

theorem isSuppressed_block (file : Text) {l : Int} (first : above.length + 1 ≤ l)
    (last : l ≤ (above ++ block.lines).length) :
    isSuppressed (suppressions file (above ++ block.lines ++ below)) l rule = true := by
  obtain ⟨indent, rest, text, blank, covers⟩ := block.marks
  obtain ⟨rules, read, named⟩ := suppressedRules?_covers covers
  have there : (above ++ block.lines ++ below)[above.length]? = some block.mark := by
    simp [lines, header]
  rw [isSuppressed_iff]
  refine ⟨above.length, block.mark, there, indent, rest, rules, ?_, read, named,
    reach_block block above below blank first last⟩
  rw [text]
  exact cut?_suppressionLine blank

theorem linesAbove_block :
    linesAbove (above ++ block.lines ++ below) (above ++ block.lines).length =
      above ++ block.header := by
  have count : (((above ++ block.lines).length : Int) - 1).toNat =
      (above ++ block.header).length := by
    simp only [lines, List.length_append, List.length_singleton]
    omega
  rw [linesAbove, count, lines, ← List.append_assoc, List.append_assoc, List.take_left]

theorem checkComment_block {rules : TagRules} {diag : Diagnostic}
    (found : diag ∈ checkComment (above ++ block.lines ++ below) (above ++ block.lines).length
      rules) :
    above.length + 1 ≤ diag.line ∧ diag.line ≤ (above ++ block.lines).length := by
  have size : (above ++ block.lines).length = (above ++ block.header).length + 1 := by
    simp [lines, Nat.add_assoc]
  rcases checkComment_lines found with here | ⟨start, stop, opened, closed, first, last⟩
  · rw [here, size, List.length_append]
    omega
  · rw [linesAbove_block] at opened closed
    have member : block.opening ∈ block.header := by simp [header]
    obtain ⟨i, inside⟩ := lastMatch?_mem (p := trimsTo (utf8 "/**")) member
      (by simp [trimsTo, block.opens])
    rw [lastMatch?_append, inside] at opened
    cases opened
    obtain ⟨line, there, -⟩ := lastMatch?_some closed
    have bound := (List.getElem?_eq_some_iff.mp there).1
    dsimp only at first
    rw [size]
    omega

end SuppressedComment

/-- Whatever is wrong with a documentation comment below a suppression comment is suppressed, so no
    issue is reported for a declaration on the line that it documents. -/
theorem documented_declaration_silenced (block : SuppressedComment tagRuleName)
    (above below : List Text) (d : Declaration) (place : d.line = (above ++ block.lines).length) :
    (∀ file rules, ∀ diag ∈ checkComment (above ++ block.lines ++ below) d.line rules,
        isSuppressed (suppressions file (above ++ block.lines ++ below)) diag.line tagRuleName =
          true) ∧
      ∀ (e : Engine) content, sourceLines content = above ++ block.lines ++ below →
        ∃ kept : List Finding,
          e.runSource content =
            .ok ((kept.map fun f =>
              tagIssue [] (sourceLines content) e.severity f.1 f.2).mergeSort
                (keyLe Issue.line)) ∧
          kept.Sublist (findings (sourceLines content) e.tags) ∧
          ∀ f ∈ kept, f.1.line ≠ d.line := by
  have silenced : ∀ file rules, ∀ diag ∈ checkComment (above ++ block.lines ++ below) d.line rules,
      isSuppressed (suppressions file (above ++ block.lines ++ below)) diag.line tagRuleName =
        true := by
    intro file rules diag found
    rw [place] at found
    obtain ⟨first, last⟩ := block.checkComment_block above below found
    exact block.isSuppressed_block above below file first last
  refine ⟨silenced, ?_⟩
  intro e content whole
  cases ignored : e.isIgnoredRule tagRuleName with
  | true =>
    refine ⟨[], ?_, List.nil_sublist _, by simp⟩
    simp [Engine.runSource, Engine.check, ignored]
  | false =>
    refine ⟨openFindings [] (sourceLines content) e.tags,
      check_openIssues e [] (sourceLines content) ignored, List.filter_sublist, ?_⟩
    rintro f kept same
    obtain ⟨member, isOpen⟩ := List.mem_filter.mp kept
    obtain ⟨other, -, paired⟩ := List.mem_flatMap.mp member
    obtain ⟨diag, found, rfl⟩ := List.mem_map.mp paired
    dsimp only at same isOpen
    rw [same, whole] at found
    rw [whole, silenced [] e.tags diag found] at isOpen
    exact absurd isOpen (by decide)

/-- An indented suppression comment with a list, and lines to pass over on both sides of the
    documentation comment. -/
def listedBlock : SuppressedComment tagRuleName where
  mark := utf8 "  //nolint:other,javadoc-tags"
  gap := [utf8 "", utf8 "// note"]
  opening := utf8 "/**"
  body := [utf8 " * text", utf8 "/**", utf8 " * @author"]
  closing := utf8 " */"
  between := [utf8 " "]
  first := utf8 "final class A ;"
  marks := ⟨utf8 "  ", utf8 ":other,javadoc-tags", by decide, by decide,
    .inr (.inr ⟨utf8 "other,javadoc-tags", by decide, by decide⟩)⟩
  gapSkipped := by decide
  opens := by decide
  unclosed := by decide
  closes := by decide
  betweenSkipped := by decide
  present := by decide
  noLineComment := by decide
  noBlockComment := by decide

def listedSource : Text :=
  Text.join (utf8 "\n") (utf8 "class Z ;" :: listedBlock.lines ++ [utf8 "class B ;"])

theorem documented_declaration_silenced_listed :
    ⟨.classType, utf8 "A", 11, 11, false⟩ ∈ declarations (sourceLines listedSource) ∧
      (findings (sourceLines listedSource) authorEngine.tags).map
        (fun f => (f.1.name, f.2.line)) = [(utf8 "Z", 1), (utf8 "A", 7), (utf8 "B", 7)] ∧
      ∃ kept : List Finding,
        authorEngine.runSource listedSource =
          .ok ((kept.map fun f =>
            tagIssue [] (sourceLines listedSource) authorEngine.severity f.1 f.2).mergeSort
              (keyLe Issue.line)) ∧
        kept.Sublist (findings (sourceLines listedSource) authorEngine.tags) ∧
        ∀ f ∈ kept, f.1.line ≠ 11 :=
  ⟨by decide +kernel, by decide +kernel,
    (documented_declaration_silenced listedBlock [utf8 "class Z ;"] [utf8 "class B ;"]
      ⟨.classType, utf8 "A", 11, 11, false⟩ (by decide)).2 authorEngine listedSource
        (by decide +kernel)⟩

end JavadocLint
