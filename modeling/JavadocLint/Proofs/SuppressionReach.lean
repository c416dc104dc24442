import Mathlib
import JavadocLint.Lint.Suppression
import JavadocLint.Proofs.StableSort
import JavadocLint.Proofs.TrimmedText

/- Which lines a suppression comment covers, and for which rules. A line is suppressed for a rule
   exactly if some line of the file holds a comment that names the rule, or none at all, and that
   reaches the line. -/
namespace JavadocLint

/-- The first and the last line that a comment on the line with index `i` covers, given what stands
    before it there. -/
def reach (lines : List Text) (i : Nat) (before : Text) : Int × Int :=
  if (packageLine? lines).any (i + 1 < ·) then (1, lines.length)
  else if !before.trim.isEmpty then (i + 1, i + 1)
  else (i + 1, ((nextCodeLine? lines (i + 1)).getD i : Nat) + 1)

def CoversFrom (lines : List Text) (rule : Text) (l : Int) (i : Nat) (line : Text) : Prop :=
  ∃ before rest rules, Text.cut? suppressionMark line = some (before, rest) ∧
    suppressedRules? rest = some rules ∧ (rules = [] ∨ rule ∈ rules) ∧
    (reach lines i before).1 ≤ l ∧ l ≤ (reach lines i before).2

theorem suppressionAt?_reach (file : Text) (lines : List Text) (i : Nat) (line : Text) :
    (suppressionAt? file lines i line).map (fun s => (s.rules, s.start.line, s.stop.line)) =
      (Text.cut? suppressionMark line).bind fun cut =>
        (suppressedRules? cut.2).map fun rules => (rules, reach lines i cut.1) := by
  unfold suppressionAt?
  cases Text.cut? suppressionMark line with
  | none => rfl
  | some cut =>
    obtain ⟨before, rest⟩ := cut
    simp only [Option.bind_eq_bind, Option.bind_some]
    cases suppressedRules? rest with
    | none => rfl
    | some rules =>
      simp only [Option.bind_some, Option.map_some, reach]
      split
      · rfl
      split
      · rfl
      · cases nextCodeLine? lines (i + 1) <;> rfl

theorem mem_suppressions {file : Text} {lines : List Text} {s : Suppression} :
    s ∈ suppressions file lines ↔
      ∃ i line, lines[i]? = some line ∧ suppressionAt? file lines i line = some s := by
  simp only [suppressions, List.mem_filterMap]
  constructor
  · rintro ⟨⟨line, i⟩, member, found⟩
    exact ⟨i, line, List.mem_zipIdx_iff_getElem?.mp member, found⟩
  · rintro ⟨i, line, there, found⟩
    exact ⟨(line, i), List.mem_zipIdx_iff_getElem?.mpr there, found⟩

theorem isSuppressed_iff (file : Text) (lines : List Text) (l : Int) (rule : Text) :
    isSuppressed (suppressions file lines) l rule = true ↔
      ∃ i line, lines[i]? = some line ∧ CoversFrom lines rule l i line := by
  simp only [isSuppressed, List.any_eq_true, mem_suppressions, Bool.and_eq_true, Bool.or_eq_true,
    decide_eq_true_eq, List.isEmpty_iff, List.contains_iff_mem]
  constructor
  · rintro ⟨s, ⟨i, line, there, found⟩, ⟨first, last⟩, names⟩
    have whole := suppressionAt?_reach file lines i line
    rw [found, Option.map_some, eq_comm] at whole
    obtain ⟨⟨before, rest⟩, cut, named⟩ := Option.bind_eq_some_iff.mp whole
    obtain ⟨rules, read, same⟩ := Option.map_eq_some_iff.mp named
    simp only [Prod.ext_iff] at same
    obtain ⟨rfl, start, stop⟩ := same
    exact ⟨i, line, there, before, rest, _, cut, read, names, start ▸ first, stop ▸ last⟩
  · rintro ⟨i, line, there, before, rest, rules, cut, read, names, first, last⟩
    have whole := suppressionAt?_reach file lines i line
    rw [cut, Option.bind_some, read, Option.map_some] at whole
    obtain ⟨s, found, same⟩ := Option.map_eq_some_iff.mp whole
    simp only [Prod.ext_iff] at same
    obtain ⟨rfl, start, stop⟩ := same
    exact ⟨s, ⟨i, line, there, found⟩, ⟨start ▸ first, stop ▸ last⟩, names⟩

section Names

theorem mem_insertName (a b : Text) (names : List Text) :
    b ∈ insertName a names ↔ b = a ∨ b ∈ names := by
  unfold insertName
  split
  · rename_i known
    rw [List.contains_iff_mem] at known
    constructor
    · exact .inr
    · rintro (rfl | old)
      · exact known
      · exact old
  · exact mem_insertSorted Text.le a b names

theorem mem_foldl_insertName (b : Text) (items names : List Text) :
    b ∈ items.foldl (fun names item => insertName item names) names ↔ b ∈ names ∨ b ∈ items := by
  induction items generalizing names with
  | nil => simp
  | cons item rest ih =>
    rw [List.foldl_cons, ih, mem_insertName, List.mem_cons]
    tauto

theorem mem_ruleNames (rule list : Text) : rule ∈ ruleNames list ↔ rule ∈ list.listItems := by
  simpa [ruleNames] using mem_foldl_insertName rule list.listItems []

end Names

section NextCode

def IsSkipped (line : Text) : Prop := line.trim = [] ∨ utf8 "//" <+: line.trim

instance (line : Text) : Decidable (IsSkipped line) := inferInstanceAs (Decidable (_ ∨ _))

theorem codeOffset?_skipped {gap : List Text} (skipped : ∀ line ∈ gap, IsSkipped line)
    (rest : List Text) :
    codeOffset? false (gap ++ rest) = (codeOffset? false rest).map (gap.length + ·) := by
  induction gap with
  | nil => simp
  | cons line more ih =>
    have tail := ih fun l member => skipped l (by simp [member])
    have passed : (line.trim.isEmpty || (utf8 "//").isPrefixOf line.trim) = true := by
      rw [Bool.or_eq_true, List.isEmpty_iff, List.isPrefixOf_iff_prefix]
      exact skipped line (by simp)
    rw [List.cons_append, codeOffset?]
    simp only [Bool.false_eq_true, if_false, passed, if_true, tail, Option.map_map,
      Function.comp_def, List.length_cons]
    congr 1
    funext n
    omega

theorem codeOffset?_open {body : List Text} {closing : Text}
    (unclosed : ∀ line ∈ body, ¬ utf8 "*/" <:+: line) (closes : closing.trim = utf8 "*/")
    (rest : List Text) :
    codeOffset? true (body ++ closing :: rest) =
      (codeOffset? false rest).map (body.length + 1 + ·) := by
  induction body with
  | nil =>
    have ended : Text.containsText (utf8 "*/") (utf8 "*/") = true := by decide
    rw [List.nil_append, codeOffset?]
    simp only [if_true, closes, ended, Bool.not_true, List.length_nil]
    congr 1
    funext n
    omega
  | cons line more ih =>
    have tail := ih fun l member => unclosed l (by simp [member])
    have absent : Text.containsText (utf8 "*/") line.trim = false := by
      refine containsText_part (trim_inside line) ?_
      rw [Bool.eq_false_iff]
      exact fun found => unclosed line (by simp) ((containsText_iff _ _).mp found)
    rw [List.cons_append, codeOffset?]
    simp only [if_true, absent, Bool.not_false, tail, Option.map_map, Function.comp_def,
      List.length_cons]
    congr 1
    funext n
    omega

theorem codeOffset?_opening {opening : Text} (opens : opening.trim = utf8 "/**")
    (rest : List Text) :
    codeOffset? false (opening :: rest) = (codeOffset? true rest).map (· + 1) := by
  have blank : ((utf8 "/**").isEmpty || (utf8 "//").isPrefixOf (utf8 "/**")) = false := by decide
  have block : (utf8 "/*").isPrefixOf (utf8 "/**") = true := by decide
  have stays : Text.containsText (utf8 "*/") ((utf8 "/**").drop 2) = false := by decide
  rw [codeOffset?]
  simp only [Bool.false_eq_true, if_false, opens, blank, block, if_true, stays, Bool.not_false]

theorem codeOffset?_code {line : Text} (present : line.trim ≠ [])
    (noComment : ¬ utf8 "//" <+: line.trim) (noBlock : ¬ utf8 "/*" <+: line.trim)
    (rest : List Text) : codeOffset? false (line :: rest) = some 0 := by
  rw [← List.isPrefixOf_iff_prefix] at noComment noBlock
  rw [codeOffset?]
  simp [present, noComment, noBlock]

end NextCode
end JavadocLint
