import JavadocLint.Proofs.BlankLine
import JavadocLint.Proofs.TaggedText

/- A missing tag that is put in as suggested, directly below the opening marker. The line is no
   marker, so the comment is found again; it comes before every other mention of the tag, so it
   is the one that counts; and the other tags are looked up as before, one line further down. -/
namespace JavadocLint

namespace Diagnostic

def lacks (tag : Text) (diag : Diagnostic) : Bool :=
  diag.problem = .missingTag tag || diag.problem = .malformedTag tag

/-- A problem with the text of a tag goes down with its line, others stay at the opening marker. -/
def lowered (diag : Diagnostic) : Diagnostic :=
  match diag.problem with
  | .patternMismatch _ _ => { diag with line := diag.line + 1 }
  | _ => diag

end Diagnostic

section Lines

variable {name other x : Text} {line : Text}

theorem mention_sign (tag : Text) : ∃ rest, mention tag = byte '@' :: rest := ⟨_, rfl⟩

theorem marker_silent {token : Text} (plain : byte '@' ∉ token) (marker : trimsTo token line = true)
    (tag : Text) : ¬ mention tag <:+: line := by
  intro mentioned
  obtain ⟨rest, sign⟩ := mention_sign tag
  rw [sign] at mentioned
  have member : byte '@' ∈ line := mentioned.subset List.mem_cons_self
  have kept := solid_mem_trim (by decide) (by decide) member
  have same : line.trim = token := by simpa [trimsTo] using marker
  rw [same] at kept
  exact plain kept

theorem suggested_mentions (name x : Text) : mention name <:+: tagStart name ++ x :=
  ⟨utf8 " * ", x, by rw [tagStart_mention]⟩

theorem suggested_noMarker {token : Text} (plain : byte '@' ∉ token) (name x : Text) :
    trimsTo token (tagStart name ++ x) = false := by
  rw [Bool.eq_false_iff]
  intro marker
  exact marker_silent plain marker name (suggested_mentions name x)

theorem tagText_suggested (plain : byte ' ' ∉ name) (x : Text) :
    tagText (tagStart name ++ x) = x := by
  rw [tagText_start, (behindBlank_eq_nil_iff name).mpr plain, List.nil_append]

end Lines

section Parts

variable {lines : List Text} {start stop : Nat} {rule : TagRule} {part : List Diagnostic}
  {tag : Text}

theorem outcome_other (outcome : RuleOutcome lines start stop rule part)
    (other : rule.name ≠ tag) : part.filter (fun diag => !diag.lacks tag) = part := by
  rw [List.filter_eq_self]
  intro diag member
  cases outcome with
  | satisfied => cases member
  | mismatch =>
    rw [List.mem_singleton.mp member]
    simp [Diagnostic.lacks]
  | malformed =>
    simp only [List.mem_cons, List.not_mem_nil, or_false] at member
    rcases member with rfl | rfl <;> simp [Diagnostic.lacks, other]
  | missing =>
    rw [List.mem_singleton.mp member]
    simp [Diagnostic.lacks, other]

theorem outcome_missing (outcome : RuleOutcome lines start stop rule part) {line : Int}
    (member : ⟨line, .missingTag tag⟩ ∈ part) :
    rule.name = tag ∧ part.filter (fun diag => !diag.lacks tag) = [] := by
  cases outcome with
  | satisfied => cases member
  | mismatch => simp at member
  | malformed =>
    simp only [List.mem_cons, Diagnostic.mk.injEq, reduceCtorEq, and_false, Problem.missingTag.injEq,
      List.not_mem_nil, or_false, false_or] at member
    exact ⟨member.2.symm, by simp [Diagnostic.lacks, member.2]⟩
  | missing =>
    simp only [List.mem_singleton, Diagnostic.mk.injEq, Problem.missingTag.injEq] at member
    exact ⟨member.2.symm, by simp [Diagnostic.lacks, member.2]⟩

theorem outcome_lowered (outcome : RuleOutcome lines start stop rule part)
    (silent : ∀ line, lines[start]? = some line → ¬ mention rule.name <:+: line) :
    part.map (Diagnostic.shift (start + 1)) = part.map Diagnostic.lowered := by
  have stays : shiftLine (start + 1) ((start : Int) + 1) = start + 1 := by
    rw [shiftLine, if_pos (by omega)]
  cases outcome with
  | satisfied => rfl
  | @mismatch i line found =>
    have below : start < i := by
      rcases Nat.lt_or_eq_of_le found.after with below | rfl
      · exact below
      · exact absurd found.mentions (silent line found.there)
    have moves : shiftLine (start + 1) ((i : Int) + 1) = i + 1 + 1 := by
      rw [shiftLine, if_neg (by omega)]
    simp [Diagnostic.shift, Diagnostic.lowered, moves]
  | malformed => simp [Diagnostic.shift, Diagnostic.lowered, stays]
  | missing => simp [Diagnostic.shift, Diagnostic.lowered, stays]

end Parts

section Repair

variable {lines : List Text} {declLine : Int} {start stop : Nat} {x : Text}

theorem lastMatch?_insertBelow {p : Text → Bool} (other : p x = false) {i : Nat}
    (above : (start : Int) < declLine - 1)
    (found : lastMatch? p (linesAbove lines declLine) = some i) :
    lastMatch? p (linesAbove (lines.insertIdx (start + 1) x) (declLine + 1)) =
      some (shiftIndex (start + 1) i) := by
  have next : shiftLine (start + 1) declLine = declLine + 1 := by
    rw [shiftLine, if_neg (by omega)]
  rw [← next, linesAbove_insertIdx (start + 1) (by omega), lastMatch?_insertIdx other, found]
  rfl

theorem CommentAbove.insertBelow (above : CommentAbove lines declLine start stop)
    (noOpening : trimsTo (utf8 "/**") x = false) (noClosing : trimsTo (utf8 "*/") x = false) :
    CommentAbove (lines.insertIdx (start + 1) x) (declLine + 1) start (stop + 1) := by
  have opened := lastMatch?_insertBelow noOpening above.opens.above
    (lastMatch?_nearest.mpr above.opens)
  have closed := lastMatch?_insertBelow noClosing above.opens.above
    (lastMatch?_nearest.mpr above.closes)
  have holds := above.holds
  rw [shiftIndex_before (by omega)] at opened
  rw [shiftIndex_after (by omega)] at closed
  exact ⟨lastMatch?_nearest.mp opened, lastMatch?_nearest.mp closed, by omega⟩

theorem commentLines_insertBelow (ordered : start ≤ stop) (inside : stop < lines.length) :
    commentLines (lines.insertIdx (start + 1) x) start (stop + 1) =
      (commentLines lines start stop).insertIdx 1 x := by
  have dropped : (lines.insertIdx (start + 1) x).drop start = (lines.drop start).insertIdx 1 x := by
    rw [drop_insertIdx_before lines x (Nat.le_add_right start 1) (by omega),
      Nat.add_sub_cancel_left]
  have count : stop + 1 - start + 1 = shiftIndex 1 (stop - start + 1) := by
    rw [shiftIndex_after (by omega)]
    omega
  rw [commentLines, dropped, count, take_insertIdx, commentLines]

theorem CommentAbove.opening (above : CommentAbove lines declLine start stop) :
    ∃ opening rest, commentLines lines start stop = opening :: rest ∧
      lines[start]? = some opening ∧ trimsTo (utf8 "/**") opening = true := by
  obtain ⟨opening, there, trims⟩ := above.opens.there
  obtain ⟨ordered, -⟩ := above.inside
  have first : (commentLines lines start stop)[0]? = some opening :=
    (getElem?_commentLines ordered).mpr ⟨ordered, there⟩
  cases comment : commentLines lines start stop with
  | nil =>
    rw [comment] at first
    cases first
  | cons head rest =>
    rw [comment] at first
    cases first
    exact ⟨opening, rest, rfl, there, by simp [trimsTo, trims]⟩

theorem checkTag_suggested {rule : TagRule} {opening : Text} (rest : List Text)
    (silent : ¬ mention rule.name <:+: opening) (plain : byte ' ' ∉ rule.name)
    (accepted : rule.accepts x = true) :
    checkTag rule start ((opening :: rest).insertIdx 1 (tagStart rule.name ++ x)) = [] := by
  have passed : ¬ Text.containsText (utf8 "@" ++ rule.name ++ utf8 " ") opening = true := by
    intro found
    exact silent ((containsText_iff _ _).mp found)
  have mentions : Text.containsText (utf8 "@" ++ rule.name ++ utf8 " ")
      (tagStart rule.name ++ x) = true :=
    (containsText_iff _ _).mpr (suggested_mentions rule.name x)
  have formed : (tagStart rule.name).isPrefixOf (tagStart rule.name ++ x) = true :=
    List.isPrefixOf_iff_prefix.mpr (List.prefix_append _ _)
  have place : placeTag rule.name ((opening :: rest).insertIdx 1 (tagStart rule.name ++ x)) =
      .line 1 := by
    rw [List.insertIdx_succ_cons, List.insertIdx_zero, placeTag, if_neg passed, placeTag,
      if_pos mentions, if_pos formed]
  have text : ((opening :: rest).insertIdx 1 (tagStart rule.name ++ x)).getD 1 [] =
      tagStart rule.name ++ x := rfl
  simp only [checkTag, place, text, tagText_suggested plain x, accepted, if_true]

theorem commentAbove_of_located
    (valid : (locateComment lines (declLine - 1)).isValid = true)
    (filled : (locateComment lines (declLine - 1)).isEmpty = false)
    (opens : (locateComment lines (declLine - 1)).start = some start) :
    ∃ stop, CommentAbove lines declLine start stop := by
  rw [locateComment_eq] at valid filled opens
  dsimp only at opens
  cases closed : lastMatch? (trimsTo (utf8 "*/")) (linesAbove lines declLine) with
  | none => simp [CommentRange.isValid, opens, closed] at valid
  | some stop =>
    simp only [CommentRange.isEmpty, CommentRange.index, opens, closed, Option.map_some,
      Option.getD_some, Int.ofNat_eq_natCast, decide_eq_false_iff_not] at filled
    exact ⟨stop, lastMatch?_nearest.mp opens, lastMatch?_nearest.mp closed, by omega⟩

/-- A missing tag is put in with a text that its rule accepts, on a line of its own directly below
    the opening marker. Then its rule has nothing to report, and the others report what they did,
    one line further down where they refuse the text of a tag. -/
theorem suggested_line_repairs {table : Option (List (Text × Text))} {rules : TagRules}
    (given : TagRules.Given table rules)
    (valid : (locateComment lines (declLine - 1)).isValid = true)
    (filled : (locateComment lines (declLine - 1)).isEmpty = false)
    (opens : (locateComment lines (declLine - 1)).start = some start)
    {rule : TagRule} (member : rule ∈ rules.rules) (plain : byte ' ' ∉ rule.name)
    (missing : ∃ line, ⟨line, .missingTag rule.name⟩ ∈ checkComment lines declLine rules)
    (accepted : rule.accepts x = true)
    (apart : ∀ other ∈ rules.rules, other.name ≠ rule.name →
      ¬ mention other.name <:+: tagStart rule.name ++ x) :
    checkComment (lines.insertIdx (start + 1) (tagStart rule.name ++ x)) (declLine + 1) rules =
      ((checkComment lines declLine rules).filter fun diag => !diag.lacks rule.name).map
        Diagnostic.lowered := by
  obtain ⟨stop, above⟩ := commentAbove_of_located valid filled opens
  obtain ⟨ordered, inside⟩ := above.inside
  obtain ⟨opening, rest, comment, there, marker⟩ := above.opening
  have again := above.insertBelow (suggested_noMarker (by decide) rule.name x)
    (suggested_noMarker (by decide) rule.name x)
  have outcome := fun r => @checkTag_outcome lines start stop ordered r
  have silent : ∀ tag, ¬ mention tag <:+: opening := marker_silent (by decide) marker
  rw [above.check] at missing ⊢
  rw [again.check, commentLines_insertBelow ordered inside, List.filter_flatMap, List.map_flatMap]
  refine List.flatMap_congr ?_
  intro other among
  by_cases same : other.name = rule.name
  · -- names are distinct, so this is the rule itself, and all it reported was about the tag
    have repaired : other = rule :=
      List.inj_on_of_nodup_map given.increasing.nodup among member same
    subst repaired
    obtain ⟨line, found⟩ := missing
    obtain ⟨reporter, reports, part⟩ := List.mem_flatMap.mp found
    obtain ⟨name, -⟩ := outcome_missing (outcome reporter) part
    rw [List.inj_on_of_nodup_map given.increasing.nodup reports member name] at part
    rw [(outcome_missing (outcome other) part).2, comment,
      checkTag_suggested rest (silent other.name) plain accepted]
    rfl
  · have unmentioned : Text.containsText (mention other.name) (tagStart rule.name ++ x) = false := by
      rw [Bool.eq_false_iff, ne_eq, containsText_iff]
      exact apart other among same
    have length : (commentLines lines start stop).length = stop - start + 1 :=
      commentLines_length ordered inside
    have moved : ∀ o < (commentLines lines start stop).length,
        start + shiftIndex 1 o = shiftIndex (start + 1) (start + o) := by
      intro o _
      rw [shiftIndex_add (Nat.le_add_right start 1), Nat.add_sub_cancel_left]
    rw [outcome_other (outcome other) same,
      checkTag_insertIdx unmentioned (by omega) (Nat.one_pos) moved,
      outcome_lowered (outcome other)]
    intro line first
    rw [there] at first
    cases first
    exact silent other.name

theorem suggested_line_repairs_version :
    let rules := (tableEngine mixedTable).tags
    ⟨1, .missingTag (utf8 "version")⟩ ∈ checkComment mixedComment 7 rules ∧
      checkComment (mixedComment.insertIdx 1 (utf8 " * @version 1")) 8 rules =
        ((checkComment mixedComment 7 rules).filter fun diag => !diag.lacks (utf8 "version")).map
          Diagnostic.lowered ∧
      checkComment (mixedComment.insertIdx 1 (utf8 " * @version 1")) 8 rules =
        [⟨1, .missingTag (utf8 "see")⟩, ⟨6, .patternMismatch (utf8 "@ y") (utf8 "z")⟩] := by
  have given : TagRules.Given (some mixedTable) (tableEngine mixedTable).tags := by
    refine ⟨?_, tableEngine_accepted mixedTable (by decide +kernel)⟩
    rintro patterns ⟨⟩
    decide
  have missing : ⟨1, .missingTag (utf8 "version")⟩ ∈
      checkComment mixedComment 7 (tableEngine mixedTable).tags := by
    decide +kernel
  obtain ⟨rule, member, name, accepted⟩ : ∃ rule ∈ (tableEngine mixedTable).tags.rules,
      rule.name = utf8 "version" ∧ rule.accepts (utf8 "1") = true := by
    decide +kernel
  have apart : ∀ other ∈ (tableEngine mixedTable).tags.rules, other.name ≠ utf8 "version" →
      ¬ mention other.name <:+: tagStart (utf8 "version") ++ utf8 "1" := by
    decide +kernel
  have repaired := @suggested_line_repairs mixedComment 7 0 (utf8 "1") _ _ given (by decide)
    (by decide) (by decide) rule member (by rw [name]; decide) ⟨1, by rw [name]; exact missing⟩
    accepted (by rw [name]; exact apart)
  rw [name] at repaired
  exact ⟨missing, repaired, by decide +kernel⟩

end Repair
end JavadocLint
