import Mathlib
import JavadocLint.Proofs.BlankLine
import JavadocLint.Proofs.TemplateSegments
import JavadocLint.Proofs.UnderlinedText

/- What an issue points at. Its line is a line of the file; its columns enclose the text of that line
   without the blanks around it, and for a tag that is missing or malformed this text is the opening
   of the comment. -/
namespace JavadocLint

def columnText (line : Text) (first last : Int) : Text :=
  (line.drop (first - 1).toNat).take (last - first + 1).toNat

section Columns

variable {line : Text}

theorem trimEnd_indent_trim (solid : line.isBlankText = false) :
    line.trimEnd = line.indent ++ line.trim := by
  obtain ⟨body, last, trail, -, text, ending, -⟩ := solid_parts solid
  rw [ending, ofChunks_append, ofChunks_chunks, ← text, ofChunks_chunks]

theorem columnText_textColumns (solid : line.isBlankText = false) :
    columnText line (textColumns line).1 (textColumns line).2 = line.trim := by
  have length := congrArg List.length (trimEnd_indent_trim solid)
  rw [List.length_append] at length
  have first : ((line.indent.length : Int) + 1 - 1).toNat = line.indent.length := by omega
  have count : ((line.trimEnd.length : Int) - (line.indent.length + 1) + 1).toNat =
      line.trim.length := by omega
  have behind : line.drop line.indent.length = line.trimStart := by
    have cut := @List.drop_left _ line.indent line.trimStart
    rwa [indent_trimStart] at cut
  rw [textColumns_parts solid, columnText, first, count, behind]
  exact (List.prefix_iff_eq_take.mp (trimEnd_begins line.trimStart)).symm

theorem textColumns_ordered (line : Text) :
    1 ≤ (textColumns line).1 ∧ (textColumns line).1 ≤ (textColumns line).2 := by
  have shorter := (chunks_trimStart line).1.length_le
  simp only [textColumns]
  omega

end Columns

namespace Problem

inductive Lacks (tag : Text) : Problem → Prop where
  | malformed : Lacks tag (.malformedTag tag)
  | missing : Lacks tag (.missingTag tag)

theorem Lacks.of_message {tag : Text} {p q : Problem} (lacks : p.Lacks tag)
    (same : q.message = p.message) : ∃ other, q.Lacks other := by
  rw [message_words, message_words] at same
  have first := congrArg List.head? same
  cases q with
  | malformedTag other => exact ⟨other, .malformed⟩
  | missingTag other => exact ⟨other, .missing⟩
  | commentNotFound => cases lacks <;> cases first
  | patternMismatch text pattern => cases lacks <;> cases first

end Problem

section Comments

variable {lines : List Text} {declLine : Int} {rules : TagRules} {diag : Diagnostic} {tag : Text}

theorem checkTag_lacks {rule : TagRule} {start : Nat} {comment : List Text}
    (member : diag ∈ checkTag rule start comment) (lacks : diag.problem.Lacks tag) :
    diag.line = start + 1 := by
  unfold checkTag at member
  split at member
  · rw [List.mem_singleton.mp member]
  · simp only [List.mem_cons, List.not_mem_nil, or_false] at member
    rcases member with rfl | rfl <;> rfl
  · dsimp only at member
    split at member
    · cases member
    · rw [List.mem_singleton.mp member] at lacks
      cases lacks

theorem checkComment_lacks (member : diag ∈ checkComment lines declLine rules)
    (lacks : diag.problem.Lacks tag) :
    ∃ line, lines[(diag.line - 1).toNat]? = some line ∧ line.trim = utf8 "/**" := by
  have elsewhere : diag ∉ [(⟨declLine, .commentNotFound⟩ : Diagnostic)] := by
    intro unfound
    rw [List.mem_singleton.mp unfound] at lacks
    cases lacks
  cases opened : lastMatch? (trimsTo (utf8 "/**")) (linesAbove lines declLine) with
  | none =>
    rw [checkComment_lost (.inl opened)] at member
    exact absurd member elsewhere
  | some start =>
    cases closed : lastMatch? (trimsTo (utf8 "*/")) (linesAbove lines declLine) with
    | none =>
      rw [checkComment_lost (.inr closed)] at member
      exact absurd member elsewhere
    | some stop =>
      rw [checkComment_found opened closed] at member
      split at member
      · exact absurd member elsewhere
      · obtain ⟨rule, -, found⟩ := List.mem_flatMap.mp member
        obtain ⟨line, there, trims⟩ := lastMatch?_linesAbove opened
        rw [checkTag_lacks found lacks, Int.add_sub_cancel, Int.toNat_natCast]
        exact ⟨line, there, by simpa [trimsTo] using trims⟩

end Comments

theorem tagIssues_filter (file : Text) (lines : List Text) (decls : List Declaration)
    (rules : TagRules) (severity : Severity) :
    tagIssues file lines decls rules severity =
      tagIssues file lines (decls.filter Declaration.isTopLevel) rules severity := by
  induction decls with
  | nil => rfl
  | cons d rest ih =>
    by_cases top : d.isTopLevel = true
    · rw [List.filter_cons_of_pos top, tagIssues, tagIssues, ih]
    · rw [List.filter_cons_of_neg top, tagIssues, if_pos (by simpa using top), ih]

theorem lineAt_within {lines : List Text} {n : Int} (positive : 1 ≤ n) (within : n ≤ lines.length) :
    lines[(n - 1).toNat]? = some (lineAt lines n) := by
  have inside : (n - 1).toNat < lines.length := by omega
  rw [lineAt, if_pos positive, List.getD_eq_getElem?_getD, List.getElem?_eq_getElem inside]
  rfl

/-- Every issue lies on one line of the file, and its columns are in order. Unless that line is
    blank, they enclose its text, which is the opening of a comment where a tag is missing or
    malformed. -/
theorem issues_mark_text (file : Text) (lines : List Text) (rules : TagRules)
    (severity : Severity) :
    ∃ issues, tagIssues file lines (declarations lines) rules severity = .ok issues ∧
      ∀ i ∈ issues, i.start.line = i.stop.line ∧ 1 ≤ i.start.line ∧ i.start.line ≤ lines.length ∧
        1 ≤ i.start.col ∧ i.start.col ≤ i.stop.col ∧
        ∃ line, lines[(i.start.line - 1).toNat]? = some line ∧
          (line.isBlankText = false → columnText line i.start.col i.stop.col = line.trim) ∧
          ∀ tag, i.message = (Problem.malformedTag tag).message ∨
              i.message = (Problem.missingTag tag).message →
            columnText line i.start.col i.stop.col = utf8 "/**" := by
  refine ⟨_, by rw [tagIssues_filter]; exact tagIssues_topLevel file lines rules severity, ?_⟩
  intro i member
  obtain ⟨⟨d, diag⟩, found, rfl⟩ := List.mem_map.mp member
  obtain ⟨positive, within⟩ := findings_within found
  have ordered := textColumns_ordered (lineAt lines diag.line)
  have there := lineAt_within positive within
  refine ⟨rfl, positive, within, ordered.1, ordered.2, _, there, columnText_textColumns, ?_⟩
  intro tag said
  obtain ⟨other, lacks⟩ : ∃ other, diag.problem.Lacks other := by
    rcases said with malformed | missing
    · exact Problem.Lacks.malformed.of_message malformed
    · exact Problem.Lacks.missing.of_message missing
  obtain ⟨_, -, paired⟩ := List.mem_flatMap.mp found
  obtain ⟨_, checked, same⟩ := List.mem_map.mp paired
  cases same
  obtain ⟨line, here, opens⟩ := checkComment_lacks checked lacks
  cases here.symm.trans there
  have solid : (lineAt lines diag.line).isBlankText = false := by
    rw [Bool.eq_false_iff, ne_eq, ← trim_eq_nil_iff, opens]
    decide
  exact (columnText_textColumns solid).trans opens

/-- A class without a comment, on a line with a stray byte and a wide blank at its end, and one whose
    comment has a malformed tag and a tag with a wrong text. -/
def strayLines : List Text :=
  [utf8 "  class Z {} //" ++ [0xE3] ++ utf8 "\u3000", utf8 "\t/** ", utf8 "@author x",
    utf8 " * @version 1\t", utf8 " */", utf8 "class A {}"]

def strayRules : TagRules :=
  ⟨[⟨utf8 "author", utf8 "x", .empty⟩, ⟨utf8 "version", utf8 "y", .rune 0x79 false⟩]⟩

def strayIssues : List Issue :=
  tagIssue [] strayLines .error ⟨.classType, utf8 "Z", 1, 1, false⟩ ⟨1, .commentNotFound⟩ ::
    [⟨2, .malformedTag (utf8 "author")⟩, ⟨2, .missingTag (utf8 "author")⟩,
      ⟨4, .patternMismatch (utf8 "1\t") (utf8 "y")⟩].map
      (tagIssue [] strayLines .error ⟨.classType, utf8 "A", 6, 6, false⟩)

theorem issues_mark_text_stray :
    tagIssues [] strayLines (declarations strayLines) strayRules .error =
        .ok strayIssues ∧
      strayIssues.map (fun i => (i.start.line, i.start.col, i.stop.col)) =
        [(1, 3, 16), (2, 2, 4), (2, 2, 4), (4, 2, 13)] ∧
      columnText (utf8 "  class Z {} //" ++ [0xE3] ++ utf8 "\u3000") 3 16 =
        Text.trim (utf8 "  class Z {} //" ++ [0xE3] ++ utf8 "\u3000") ∧
      columnText (utf8 "\t/** ") 2 4 = utf8 "/**" := by
  have found : (tagIssues [] strayLines (declarations strayLines) strayRules
      .error).toOption = some strayIssues := by decide +kernel
  obtain ⟨issues, same, marks⟩ := issues_mark_text [] strayLines strayRules .error
  rw [same] at found
  cases found
  obtain ⟨-, -, -, -, -, first, there, text, -⟩ := marks _ List.mem_cons_self
  obtain ⟨-, -, -, -, -, second, here, -, opening⟩ :=
    marks _ (List.mem_cons_of_mem _ (List.mem_cons_of_mem _ List.mem_cons_self))
  cases there
  cases here
  exact ⟨same, by decide +kernel, text (by decide +kernel), opening (utf8 "author") (.inr rfl)⟩

end JavadocLint
