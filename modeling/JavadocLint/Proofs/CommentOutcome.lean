import JavadocLint.Proofs.CommentSearch
import JavadocLint.Proofs.NameOrder
import JavadocLint.Proofs.TrimmedText

/- Exactly what the check of a comment finds. The comment lies between the nearest markers above the
   declaration, which are searched for independently of each other. Of each tag only the first line
   that mentions it counts, and it decides what its rule reports; no rule looks at another. -/
namespace JavadocLint

def mention (tag : Text) : Text := utf8 "@" ++ tag ++ utf8 " "

section Markers

variable {lines : List Text} {bound : Int} {token : Text}

/-- The greatest index below `bound` of a line that trims to `token`. -/
structure NearestAbove (lines : List Text) (bound : Int) (token : Text) (i : Nat) : Prop where
  above : i < bound
  there : ∃ line, lines[i]? = some line ∧ line.trim = token
  nearest : ∀ j line, i < j → j < bound → lines[j]? = some line → line.trim ≠ token

theorem lastMatch?_last {α : Type} {p : α → Bool} {xs : List α} {i j : Nat} {x : α}
    (found : lastMatch? p xs = some i) (later : i < j) (there : xs[j]? = some x) : p x = false := by
  induction xs generalizing i j with
  | nil => cases there
  | cons y ys ih =>
    obtain ⟨j, rfl⟩ : ∃ k, j = k + 1 := ⟨j - 1, by omega⟩
    rw [List.getElem?_cons_succ] at there
    rw [lastMatch?_cons] at found
    cases below : lastMatch? p ys with
    | none =>
      rw [Bool.eq_false_iff]
      intro holds
      obtain ⟨k, some⟩ := lastMatch?_mem (List.mem_of_getElem? there) holds
      rw [below] at some
      cases some
    | some k =>
      rw [below] at found
      cases found
      exact ih below (Nat.lt_of_succ_lt_succ later) there

theorem getElem?_linesAbove (lines : List Text) (declLine : Int) (i : Nat) :
    (linesAbove lines declLine)[i]? = if (i : Int) < declLine - 1 then lines[i]? else none := by
  have same : i < (declLine - 1).toNat ↔ (i : Int) < declLine - 1 := by omega
  rw [linesAbove, List.getElem?_take]
  simp only [same]

theorem nearestAbove_unique {i j : Nat} (first : NearestAbove lines bound token i)
    (second : NearestAbove lines bound token j) : i = j := by
  obtain ⟨line, there, trims⟩ := first.there
  obtain ⟨line', there', trims'⟩ := second.there
  rcases Nat.lt_trichotomy i j with less | same | greater
  · exact absurd trims' (first.nearest j line' less second.above there')
  · exact same
  · exact absurd trims (second.nearest i line greater first.above there)

theorem lastMatch?_nearest {declLine : Int} {i : Nat} :
    lastMatch? (trimsTo token) (linesAbove lines declLine) = some i ↔
      NearestAbove lines (declLine - 1) token i := by
  have forward : ∀ k, lastMatch? (trimsTo token) (linesAbove lines declLine) = some k →
      NearestAbove lines (declLine - 1) token k := by
    intro k found
    obtain ⟨line, there, trims⟩ := lastMatch?_some found
    rw [getElem?_linesAbove] at there
    split at there
    · rename_i above
      refine ⟨above, ⟨line, there, by simpa [trimsTo] using trims⟩, ?_⟩
      intro j other later inside standing
      have reached : (linesAbove lines declLine)[j]? = some other := by
        rw [getElem?_linesAbove, if_pos inside, standing]
      simpa [trimsTo] using lastMatch?_last found later reached
    · cases there
  constructor
  · exact forward i
  · intro nearest
    obtain ⟨line, there, trims⟩ := nearest.there
    have member : line ∈ linesAbove lines declLine := by
      refine List.mem_of_getElem? (i := i) ?_
      rw [getElem?_linesAbove, if_pos nearest.above, there]
    obtain ⟨k, found⟩ := lastMatch?_mem member (p := trimsTo token) (by simp [trimsTo, trims])
    rw [found, nearestAbove_unique (forward k found) nearest]

theorem lastMatch?_absent {declLine : Int}
    (absent : ∀ i, ¬ NearestAbove lines (declLine - 1) token i) :
    lastMatch? (trimsTo token) (linesAbove lines declLine) = none := by
  rw [Option.eq_none_iff_forall_ne_some]
  intro i found
  exact absent i (lastMatch?_nearest.mp found)

end Markers

section Mentions

structure FirstMention (lines : List Text) (start stop : Nat) (tag : Text) (i : Nat)
    (line : Text) : Prop where
  after : start ≤ i
  before : i ≤ stop
  there : lines[i]? = some line
  mentions : mention tag <:+: line
  first : ∀ j other, start ≤ j → j < i → lines[j]? = some other → ¬ mention tag <:+: other

inductive RuleOutcome (lines : List Text) (start stop : Nat) (rule : TagRule) :
    List Diagnostic → Prop where
  | satisfied {i : Nat} {line : Text} (found : FirstMention lines start stop rule.name i line)
      (formed : tagStart rule.name <+: line) (accepted : rule.accepts (tagText line) = true) :
      RuleOutcome lines start stop rule []
  | mismatch {i : Nat} {line : Text} (found : FirstMention lines start stop rule.name i line)
      (formed : tagStart rule.name <+: line) (refused : rule.accepts (tagText line) = false) :
      RuleOutcome lines start stop rule [⟨i + 1, .patternMismatch (tagText line) rule.pattern⟩]
  | malformed {i : Nat} {line : Text} (found : FirstMention lines start stop rule.name i line)
      (broken : ¬ tagStart rule.name <+: line) :
      RuleOutcome lines start stop rule
        [⟨start + 1, .malformedTag rule.name⟩, ⟨start + 1, .missingTag rule.name⟩]
  | missing (absent : ∀ i line, start ≤ i → i ≤ stop → lines[i]? = some line →
        ¬ mention rule.name <:+: line) :
      RuleOutcome lines start stop rule [⟨start + 1, .missingTag rule.name⟩]

def Satisfies (lines : List Text) (start stop : Nat) (rule : TagRule) : Prop :=
  ∃ i line, FirstMention lines start stop rule.name i line ∧ tagStart rule.name <+: line ∧
    rule.accepts (tagText line) = true

def TagPlace.Describes (comment : List Text) (tag : Text) : TagPlace → Prop
  | .absent => ∀ line ∈ comment, ¬ mention tag <:+: line
  | .malformed => ∃ i line, FirstMention comment 0 (comment.length - 1) tag i line ∧
      ¬ tagStart tag <+: line
  | .line i => ∃ line, FirstMention comment 0 (comment.length - 1) tag i line ∧
      tagStart tag <+: line

theorem FirstMention.cons {comment : List Text} {tag line head : Text} {i : Nat}
    (found : FirstMention comment 0 (comment.length - 1) tag i line)
    (passed : ¬ mention tag <:+: head) :
    FirstMention (head :: comment) 0 ((head :: comment).length - 1) tag (i + 1) line := by
  have inside := (List.getElem?_eq_some_iff.mp found.there).1
  refine ⟨Nat.zero_le _, ?_, found.there, found.mentions, ?_⟩
  · rw [List.length_cons]
    omega
  · intro j other _ earlier there
    cases j with
    | zero =>
      cases there
      exact passed
    | succ j => exact found.first j other (Nat.zero_le j) (by omega) there

theorem placeTag_describes (tag : Text) (comment : List Text) :
    (placeTag tag comment).Describes comment tag := by
  induction comment with
  | nil => exact fun line member => absurd member List.not_mem_nil
  | cons head rest ih =>
    rw [placeTag]
    split
    · rename_i here
      have found : FirstMention (head :: rest) 0 ((head :: rest).length - 1) tag 0 head :=
        ⟨Nat.le_refl 0, Nat.zero_le _, rfl, (containsText_iff _ _).mp here, by omega⟩
      split
      · rename_i formed
        exact ⟨head, found, List.isPrefixOf_iff_prefix.mp formed⟩
      · rename_i broken
        refine ⟨0, head, found, ?_⟩
        intro formed
        exact broken (List.isPrefixOf_iff_prefix.mpr formed)
    · rename_i passed
      have unmentioned : ¬ mention tag <:+: head := by
        intro here
        exact passed ((containsText_iff _ _).mpr here)
      cases place : placeTag tag rest with
      | absent =>
        rw [place] at ih
        intro line member
        rcases List.mem_cons.mp member with rfl | later
        · exact unmentioned
        · exact ih line later
      | malformed =>
        rw [place] at ih
        obtain ⟨i, line, found, broken⟩ := ih
        exact ⟨i + 1, line, found.cons unmentioned, broken⟩
      | line i =>
        rw [place] at ih
        obtain ⟨line, found, formed⟩ := ih
        exact ⟨line, found.cons unmentioned, formed⟩

end Mentions

section Outcome

variable {lines : List Text} {start stop : Nat}

def commentLines (lines : List Text) (start stop : Nat) : List Text :=
  (lines.drop start).take (stop - start + 1)

theorem getElem?_commentLines (ordered : start ≤ stop) {i : Nat} {line : Text} :
    (commentLines lines start stop)[i]? = some line ↔
      start + i ≤ stop ∧ lines[start + i]? = some line := by
  rw [commentLines, List.getElem?_take, List.getElem?_drop]
  split
  · exact ⟨fun there => ⟨by omega, there⟩, And.right⟩
  · constructor
    · intro impossible
      cases impossible
    · rintro ⟨inside, -⟩
      omega

theorem FirstMention.inFile {tag line : Text} {i : Nat} (ordered : start ≤ stop)
    (found : FirstMention (commentLines lines start stop) 0
      ((commentLines lines start stop).length - 1) tag i line) :
    FirstMention lines start stop tag (start + i) line := by
  obtain ⟨inside, there⟩ := (getElem?_commentLines ordered).mp found.there
  refine ⟨Nat.le_add_right start i, inside, there, found.mentions, ?_⟩
  intro j other after earlier standing
  obtain ⟨k, rfl⟩ := Nat.exists_eq_add_of_le after
  exact found.first k other (Nat.zero_le k) (by omega)
    ((getElem?_commentLines ordered).mpr ⟨by omega, standing⟩)

theorem checkTag_outcome (ordered : start ≤ stop) (rule : TagRule) :
    RuleOutcome lines start stop rule
      (checkTag rule start (commentLines lines start stop)) := by
  have describes := placeTag_describes rule.name (commentLines lines start stop)
  unfold checkTag
  cases place : placeTag rule.name (commentLines lines start stop) with
  | absent =>
    rw [place] at describes
    refine .missing ?_
    intro i line after before there
    obtain ⟨k, rfl⟩ := Nat.exists_eq_add_of_le after
    exact describes line
      (List.mem_of_getElem? ((getElem?_commentLines ordered).mpr ⟨before, there⟩))
  | malformed =>
    rw [place] at describes
    obtain ⟨i, line, found, broken⟩ := describes
    exact .malformed (found.inFile ordered) broken
  | line i =>
    rw [place] at describes
    obtain ⟨line, found, formed⟩ := describes
    have text : (commentLines lines start stop).getD i [] = line := by
      rw [List.getD_eq_getElem?_getD, found.there, Option.getD_some]
    simp only [text]
    split
    · rename_i accepted
      exact .satisfied (found.inFile ordered) formed accepted
    · rename_i refused
      have outcome : RuleOutcome lines start stop rule
          [⟨(start + i : Nat) + 1, .patternMismatch (tagText line) rule.pattern⟩] :=
        .mismatch (found.inFile ordered) formed (by simpa using refused)
      push_cast at outcome
      exact outcome

theorem satisfies_iff {rule : TagRule} {part : List Diagnostic}
    (outcome : RuleOutcome lines start stop rule part) :
    part = [] ↔ Satisfies lines start stop rule := by
  -- two first mentions of a tag are on the same line
  have unique : ∀ {i j line other}, FirstMention lines start stop rule.name i line →
      FirstMention lines start stop rule.name j other → line = other := by
    intro i j line other one two
    rcases Nat.lt_trichotomy i j with less | rfl | greater
    · exact absurd one.mentions (two.first i line one.after less one.there)
    · exact Option.some.inj (one.there.symm.trans two.there)
    · exact absurd two.mentions (one.first j other two.after greater two.there)
  cases outcome with
  | satisfied found formed accepted => exact iff_of_true rfl ⟨_, _, found, formed, accepted⟩
  | mismatch found formed refused =>
    refine iff_of_false (by simp) ?_
    rintro ⟨j, other, again, -, accepted⟩
    rw [← unique found again, refused] at accepted
    cases accepted
  | malformed found broken =>
    refine iff_of_false (by simp) ?_
    rintro ⟨j, other, again, formed, -⟩
    exact broken (unique found again ▸ formed)
  | missing absent =>
    refine iff_of_false (by simp) ?_
    rintro ⟨j, other, again, -⟩
    exact absent j other again.after again.before again.there again.mentions

theorem validateTag_comment (ordered : start ≤ stop) (inside : stop < lines.length)
    (rule : TagRule) :
    validateTag lines start stop rule =
      .ok (checkTag rule start (commentLines lines start stop)) := by
  have forward : ¬ (stop : Int) < start := by omega
  have positive : ¬ (start : Int) < 0 := by omega
  have count : ((stop : Int) - start + 1).toNat = stop - start + 1 := by omega
  have within : (stop : Int) < lines.length := by omega
  have same : ∀ i, ((start : Int) + (i : Nat)).toNat = start + i := by
    intro i
    omega
  unfold validateTag findTagLine checkTag
  rw [if_neg forward, if_neg positive, Int.toNat_natCast, count, if_pos within]
  rw [← commentLines]
  cases place : placeTag rule.name (commentLines lines start stop) with
  | absent => rfl
  | malformed => rfl
  | line i =>
    have offset := placeTag_offset place
    rw [commentLines, commentLines_length ordered inside] at offset
    have text : (commentLines lines start stop).getD i [] = lines.getD (start + i) [] := by
      rw [List.getD_eq_getElem?_getD, List.getD_eq_getElem?_getD, commentLines,
        List.getElem?_take, if_pos offset, List.getElem?_drop]
    simp only [text]
    change Except.ok (if rule.accepts (tagText (lines.getD ((start : Int) + i).toNat [])) = true
      then _ else _) = _
    rw [same]

end Outcome

/-- The markers nearest above the declaration, with a line or more between them. -/
structure CommentAbove (lines : List Text) (declLine : Int) (start stop : Nat) : Prop where
  opens : NearestAbove lines (declLine - 1) (utf8 "/**") start
  closes : NearestAbove lines (declLine - 1) (utf8 "*/") stop
  holds : start + 2 ≤ stop

section Check

variable {lines : List Text} {declLine : Int} {start stop : Nat}

theorem checkComment_absent (rules : TagRules)
    (lost : (∀ s, ¬ NearestAbove lines (declLine - 1) (utf8 "/**") s) ∨
      (∀ e, ¬ NearestAbove lines (declLine - 1) (utf8 "*/") e) ∨
      ∃ s e, NearestAbove lines (declLine - 1) (utf8 "/**") s ∧
        NearestAbove lines (declLine - 1) (utf8 "*/") e ∧ e < s + 2) :
    checkComment lines declLine rules = [⟨declLine, .commentNotFound⟩] := by
  rcases lost with noOpening | noClosing | ⟨s, e, opens, closes, short⟩
  · exact checkComment_lost (.inl (lastMatch?_absent noOpening))
  · exact checkComment_lost (.inr (lastMatch?_absent noClosing))
  · rw [checkComment_found (lastMatch?_nearest.mpr opens) (lastMatch?_nearest.mpr closes),
      if_pos short]

theorem CommentAbove.inside (above : CommentAbove lines declLine start stop) :
    start ≤ stop ∧ stop < lines.length := by
  obtain ⟨line, there, -⟩ := above.closes.there
  have holds := above.holds
  exact ⟨by omega, (List.getElem?_eq_some_iff.mp there).1⟩

theorem CommentAbove.check (above : CommentAbove lines declLine start stop) (rules : TagRules) :
    checkComment lines declLine rules =
      rules.rules.flatMap fun rule => checkTag rule start (commentLines lines start stop) := by
  have holds := above.holds
  rw [checkComment_found (lastMatch?_nearest.mpr above.opens)
    (lastMatch?_nearest.mpr above.closes), if_neg (by omega)]
  rfl

theorem commentAbove_or_lost (lines : List Text) (declLine : Int) :
    (∃ start stop, CommentAbove lines declLine start stop) ∨
      ∀ rules, checkComment lines declLine rules = [⟨declLine, .commentNotFound⟩] := by
  by_cases opened : ∃ s, NearestAbove lines (declLine - 1) (utf8 "/**") s
  · by_cases closed : ∃ e, NearestAbove lines (declLine - 1) (utf8 "*/") e
    · obtain ⟨s, opens⟩ := opened
      obtain ⟨e, closes⟩ := closed
      rcases Nat.lt_or_ge e (s + 2) with short | long
      · right
        intro rules
        exact checkComment_absent rules (.inr (.inr ⟨s, e, opens, closes, short⟩))
      · exact .inl ⟨s, e, opens, closes, long⟩
    · right
      intro rules
      exact checkComment_absent rules (.inr (.inl (not_exists.mp closed)))
  · right
    intro rules
    exact checkComment_absent rules (.inl (not_exists.mp opened))

theorem checkComment_clean (rules : TagRules) :
    checkComment lines declLine rules = [] ↔
      ∃ start stop, CommentAbove lines declLine start stop ∧
        ∀ rule ∈ rules.rules, Satisfies lines start stop rule := by
  constructor
  · intro clean
    rcases commentAbove_or_lost lines declLine with ⟨start, stop, above⟩ | lost
    · refine ⟨start, stop, above, ?_⟩
      intro rule member
      rw [above.check rules, List.flatMap_eq_nil_iff] at clean
      exact (satisfies_iff (checkTag_outcome above.inside.1 rule)).mp (clean rule member)
    · rw [lost rules] at clean
      cases clean
  · rintro ⟨start, stop, above, satisfied⟩
    rw [above.check rules, List.flatMap_eq_nil_iff]
    intro rule member
    exact (satisfies_iff (checkTag_outcome above.inside.1 rule)).mpr (satisfied rule member)

theorem checkComment_within {rules : TagRules} {diag : Diagnostic} (positive : 1 ≤ declLine)
    (member : diag ∈ checkComment lines declLine rules) :
    1 ≤ diag.line ∧ diag.line ≤ declLine := by
  rcases checkComment_lines member with here | ⟨start, stop, -, closed, after, before⟩
  · omega
  · have above := (lastMatch?_nearest.mp closed).above
    omega

/-- What the check of a comment finds. Without a comment that holds a line it finds just that;
    otherwise each rule has its own part, which the lines alone decide, and the parts stand in
    the order of the names. -/
theorem comment_outcome (lines : List Text) (declLine : Int) (first : 1 ≤ declLine) :
    ((∀ s, ¬ NearestAbove lines (declLine - 1) (utf8 "/**") s) ∨
        (∀ e, ¬ NearestAbove lines (declLine - 1) (utf8 "*/") e) ∨
        (∃ s e, NearestAbove lines (declLine - 1) (utf8 "/**") s ∧
          NearestAbove lines (declLine - 1) (utf8 "*/") e ∧ e < s + 2) →
      ∀ rules, checkComment lines declLine rules = [⟨declLine, .commentNotFound⟩]) ∧
    (∀ s e, NearestAbove lines (declLine - 1) (utf8 "/**") s →
        NearestAbove lines (declLine - 1) (utf8 "*/") e → s + 2 ≤ e →
      ∃ part : TagRule → List Diagnostic,
        (∀ rule, RuleOutcome lines s e rule (part rule) ∧
          validateTag lines s e rule = .ok (part rule)) ∧
        ∀ rules, checkComment lines declLine rules = rules.rules.flatMap part) ∧
    ∀ table rules, TagRules.Given table rules →
      Increasing (rules.rules.map TagRule.name) ∧
      rules.patterns.Perm (table.getD TagRules.defaultPatterns) ∧
      (checkComment lines declLine rules = [] ↔
        ∃ s e, CommentAbove lines declLine s e ∧ ∀ rule ∈ rules.rules, Satisfies lines s e rule) ∧
      ∀ diag ∈ checkComment lines declLine rules, 1 ≤ diag.line ∧ diag.line ≤ declLine := by
  refine ⟨?_, ?_, ?_⟩
  · intro lost rules
    exact checkComment_absent rules lost
  · intro s e opens closes holds
    have above : CommentAbove lines declLine s e := ⟨opens, closes, holds⟩
    obtain ⟨ordered, inside⟩ := above.inside
    refine ⟨fun rule => checkTag rule s (commentLines lines s e), ?_, above.check⟩
    intro rule
    exact ⟨checkTag_outcome ordered rule, validateTag_comment ordered inside rule⟩
  · intro table rules given
    refine ⟨given.increasing, given.perm, checkComment_clean rules, ?_⟩
    intro diag member
    exact checkComment_within first member

/-- Two tags are mentioned as they should be, one of them with a text that its rule refuses; the
    first mention of another stands too far to the right, and one tag is not mentioned. -/
def mixedComment : List Text :=
  [utf8 "/**", utf8 " * @author x", utf8 " *  see @version 1", utf8 " * @version 1",
    utf8 " * @since @ y", utf8 " */", utf8 "class A"]

def mixedTable : List (Text × Text) :=
  [(utf8 "version", utf8 "1"), (utf8 "since", utf8 "z"), (utf8 "author", utf8 "x+"),
    (utf8 "see", utf8 "a")]

theorem comment_outcome_mixed :
    let rules := (tableEngine mixedTable).tags
    TagRules.Given (some mixedTable) rules ∧
      rules.rules.map TagRule.name =
        [utf8 "author", utf8 "see", utf8 "since", utf8 "version"] ∧
      CommentAbove mixedComment 7 0 5 ∧
      (∃ part : TagRule → List Diagnostic,
        (∀ rule, RuleOutcome mixedComment 0 5 rule (part rule)) ∧
          checkComment mixedComment 7 rules = rules.rules.flatMap part) ∧
      checkComment mixedComment 7 rules =
        [⟨1, .missingTag (utf8 "see")⟩, ⟨5, .patternMismatch (utf8 "@ y") (utf8 "z")⟩,
          ⟨1, .malformedTag (utf8 "version")⟩, ⟨1, .missingTag (utf8 "version")⟩] := by
  have opens : NearestAbove mixedComment (7 - 1) (utf8 "/**") 0 :=
    lastMatch?_nearest.mp (by decide)
  have closes : NearestAbove mixedComment (7 - 1) (utf8 "*/") 5 :=
    lastMatch?_nearest.mp (by decide)
  have accepted := tableEngine_accepted mixedTable (by decide +kernel)
  obtain ⟨part, parts, whole⟩ :=
    (comment_outcome mixedComment 7 (by decide)).2.1 0 5 opens closes (by decide)
  refine ⟨⟨?_, accepted⟩, by decide +kernel, ⟨opens, closes, by decide⟩, ?_, by decide +kernel⟩
  · rintro patterns ⟨⟩
    decide
  · exact ⟨part, fun rule => (parts rule).1, whole _⟩

end Check
end JavadocLint
