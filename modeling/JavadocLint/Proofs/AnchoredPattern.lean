import JavadocLint.Proofs.ClosedTokens
import JavadocLint.Proofs.EnclosedGroup
import JavadocLint.Proofs.MatchedSpans
import JavadocLint.Proofs.RuleTable

/- A tag rule compiles its pattern between two anchors, in a group of its own. For a pattern that is
   a regular expression by itself and leaves no quotation open, what is compiled is that expression
   between the anchors, so the rule accepts the texts that it matches as a whole. Other patterns are
   refused, except for those that end a group which they did not open and open one for the anchors
   to end. -/
namespace JavadocLint

open PatternBuilder PatternToken

section Compiling

def PatternBuilder.compile (b : PatternBuilder)
    (tokens : List PatternToken × Option PatternError) : Except PatternError Regex := do
  let b ← b.readAll tokens.1
  match tokens.2 with
  | some e => .error e
  | none => b.finish

theorem parse_compile (p : Text) : Regex.parse p = compile { whole := p } (readFrom 0 p) := rfl

theorem compile_ok {b : PatternBuilder} {tokens : List PatternToken × Option PatternError}
    {regex : Regex} (compiled : b.compile tokens = .ok regex) :
    tokens.2 = none ∧ ∃ c, b.readAll tokens.1 = .ok c ∧ c.finish = .ok regex := by
  obtain ⟨tokens, unread⟩ := tokens
  rw [compile] at compiled
  cases run : b.readAll tokens with
  | error e =>
    rw [run] at compiled
    cases compiled
  | ok c =>
    rw [run] at compiled
    cases unread with
    | some e => cases compiled
    | none => exact ⟨rfl, c, rfl, compiled⟩

def anchoredGroup : GroupStart × Frame := (⟨false, {}⟩, ⟨[], [assertPiece .textStart]⟩)

theorem readFrom_anchored (p : Text) : readFrom 0 (TagRule.anchored p) =
    (.caret :: .flags {} true :: (readFrom 0 (p ++ closing)).1, (readFrom 0 (p ++ closing)).2) := by
  have shape : TagRule.anchored p =
      byte '^' :: byte '(' :: byte '?' :: byte ':' :: (p ++ closing) := by
    rw [TagRule.anchored, List.append_assoc]
    rfl
  have caret (t : Text) : read (byte '^') t = .ok (.caret, t) := rfl
  have group (t : Text) : read (byte '(') (byte '?' :: byte ':' :: t) =
      .ok (.flags {} true, t) := rfl
  rw [shape, readFrom_read (caret _), readFrom_read (group _)]

theorem parse_anchored (p : Text) : Regex.parse (TagRule.anchored p) =
    compile (PatternBuilder.within { whole := p } (TagRule.anchored p) anchoredGroup)
      (readFrom 0 (p ++ closing)) := by
  rw [parse_compile, readFrom_anchored]
  rfl

/-- Every group of the pattern that is opened is ended, and no other. -/
def PairsUp (p : Text) : Prop := groupDepth 0 (readFrom 0 p).1 = some 0

instance (p : Text) : Decidable (PairsUp p) := inferInstanceAs (Decidable (_ = _))

/-- Nothing is wrong with the pattern, its groups apart. -/
def GroupFaultsOnly (p : Text) : Prop :=
  (readFrom 0 p).2 = none ∧
    ∀ e, Regex.parse p = .error e → e.fault = .unexpectedClose ∨ e.fault = .unclosedGroup

theorem finish_error {b : PatternBuilder} {e : PatternError} (closed : b.outer = [])
    (refused : b.finish = .error e) : e.fault = .tooDeep ∨ e.fault = .tooLarge := by
  by_cases fits : Fits b.current.close
  · rw [finish_fits closed fits] at refused
    cases refused
  · obtain ⟨e', same, limit⟩ := finish_exceeds fits
    rw [same] at refused
    cases refused
    exact limit

theorem pairsUp_of_valid {p : Text} {regex : Regex} (valid : Regex.parse p = .ok regex) :
    PairsUp p := by
  obtain ⟨-, c, run, done⟩ := compile_ok valid
  have depth := readAll_depth _ run
  rwa [(finish_ok done).1] at depth

theorem no_group_fault {p : Text} {e : PatternError} (pairs : PairsUp p)
    (complete : (readFrom 0 p).2 = none) (refused : Regex.parse p = .error e) :
    e.fault ≠ .unexpectedClose ∧ e.fault ≠ .unclosedGroup := by
  have counts : Counts (some 0) _ := pairs ▸ readAll_counts { whole := p } (readFrom 0 p).1
  rw [parse_compile, compile, complete] at refused
  cases run : PatternBuilder.readAll { whole := p } (readFrom 0 p).1 with
  | error e' =>
    rw [run] at refused counts
    cases refused
    refine ⟨fun stray => ?_, counts.1⟩
    cases counts.2 stray
  | ok c =>
    rw [run] at refused counts
    have closed : c.outer = [] := List.length_eq_zero_iff.mp (Option.some.inj counts).symm
    rcases finish_error closed refused with deep | large
    · simp [deep]
    · simp [large]

theorem valid_iff_pairsUp (p : Text) :
    (∃ regex, Regex.parse p = .ok regex) ↔ PairsUp p ∧ GroupFaultsOnly p := by
  constructor
  · rintro ⟨regex, valid⟩
    refine ⟨pairsUp_of_valid valid, (compile_ok valid).1, fun e refused => ?_⟩
    rw [valid] at refused
    cases refused
  · rintro ⟨pairs, complete, faults⟩
    cases outcome : Regex.parse p with
    | ok regex => exact ⟨regex, rfl⟩
    | error e =>
      obtain ⟨noStray, noneOpen⟩ := no_group_fault pairs complete outcome
      rcases faults e outcome with stray | unclosed
      · exact absurd stray noStray
      · exact absurd unclosed noneOpen

end Compiling

section Closing

variable {whole : Text} {b c d : PatternBuilder} {regex : Regex}

theorem fits_assert (a : Assertion) : Fits (assertPiece a) := by
  constructor
  · exact Nat.le_add_left 1 3355442
  · exact Nat.le_add_left 1 999

theorem readAll_closing (closed : c.outer = []) (fits : Fits c.current.close) :
    (c.within whole anchoredGroup).readAll [.closeGroup, .dollar] =
      .ok { whole := whole
            current.pieces :=
              [assertPiece .textEnd, c.current.close, assertPiece .textStart] } := by
  obtain ⟨own, flags, current, outer, operator⟩ := c
  cases closed
  have ended : PatternBuilder.read (within ⟨own, flags, current, [], operator⟩ whole anchoredGroup)
      .closeGroup = .ok { whole := whole
                          current.pieces := [current.close, assertPiece .textStart] } := by
    change (checked _ current.close >>= _) = _
    rw [checked_fits fits]
    exact push_fits fits _
  rw [readAll, ended]
  change (push _ (assertPiece .textEnd) >>= _) = _
  rw [push_fits (fits_assert _)]
  rfl

theorem closed_of_closing
    (run : (c.within whole anchoredGroup).readAll [.closeGroup, .dollar] = .ok d)
    (done : d.finish = .ok regex) : c.outer = [] ∧ Fits c.current.close := by
  obtain ⟨e, ended, -⟩ := readAll_cons_ok _ run
  refine ⟨?_, closeGroup_fits (b := { c.within whole anchoredGroup with operator := none }) ended⟩
  have depth := readAll_depth _ run
  rw [(finish_ok done).1] at depth
  simpa [within, groupDepth, depthAfter] using depth

theorem close_anchors (p : Piece) :
    (Frame.close ⟨[], [assertPiece .textEnd, p, assertPiece .textStart]⟩).regex =
      p.regex.anchored := by
  have merged : Piece.mergeRuns [assertPiece .textStart, p, assertPiece .textEnd] =
      [assertPiece .textStart, p, assertPiece .textEnd] := by
    cases form : p.form <;> simp [Piece.mergeRuns, assertPiece, form]
  change (Piece.sequence [assertPiece .textStart, p, assertPiece .textEnd]).regex = _
  rw [Piece.sequence, merged]
  rfl

end Closing

section Anchored

variable {name pattern : Text} {regex : Regex} {rule : TagRule}

theorem parse_anchored_valid (alone : Regex.parse pattern = .ok regex)
    (closed : ¬ LeavesQuoteOpen pattern) :
    Regex.parse (TagRule.anchored pattern) = .ok regex.anchored ∨
      ∃ e, Regex.parse (TagRule.anchored pattern) = .error e ∧
        (e.fault = .tooDeep ∨ e.fault = .tooLarge) := by
  obtain ⟨complete, c, run, done⟩ := compile_ok alone
  obtain ⟨outer, fits, rfl⟩ := finish_ok done
  have mirrored := @readAll_within (TagRule.anchored pattern) anchoredGroup { whole := pattern }
    (readFrom 0 pattern).1
  rw [parse_anchored, readFrom_closed closed complete, compile, readAll_append]
  rw [run] at mirrored
  generalize readAll (within _ _ _) (readFrom 0 pattern).1 = x' at mirrored ⊢
  cases mirrored with
  | read c =>
    change (readAll _ _ >>= fun b => b.finish) = _ ∨
      ∃ e, (readAll _ _ >>= fun b => b.finish) = _ ∧ _
    rw [readAll_closing outer fits]
    by_cases small : Fits (Frame.close
        ⟨[], [assertPiece .textEnd, c.current.close, assertPiece .textStart]⟩)
    · left
      rw [← close_anchors]
      exact finish_fits rfl small
    · right
      exact finish_exceeds small

/-- The first fault of the pattern is the end of a group that was not opened. -/
def StrayClose (pattern : Text) : Prop :=
  ∃ e, Regex.parse pattern = .error e ∧ e.fault = .unexpectedClose

theorem readAll_alone {group : GroupStart × Frame} {whole : Text} {d : PatternBuilder}
    {common tail others : List PatternToken} (balanced : ¬ StrayClose pattern)
    (own : (readFrom 0 pattern).1 = common ++ tail)
    (run : (PatternBuilder.within { whole := pattern } whole group).readAll (common ++ others) =
      .ok d) :
    ∃ c, PatternBuilder.readAll { whole := pattern } common = .ok c ∧
      (c.within whole group).readAll others = .ok d := by
  have mirrored := @readAll_within whole group { whole := pattern } common
  rw [readAll_append] at run
  cases alone : PatternBuilder.readAll { whole := pattern } common with
  | error e =>
    refine absurd ⟨e, ?_, ?_⟩ balanced
    · rw [parse_compile, compile, own, readAll_append, alone]
      rfl
    · rw [alone] at mirrored
      generalize readAll (within _ _ _) common = x' at mirrored run
      cases mirrored with
      | refused e e' => cases run
      | stray e x' fault => exact fault
  | ok c =>
    rw [alone] at mirrored
    generalize readAll (within _ _ _) common = x' at mirrored run
    cases mirrored with
    | read c => exact ⟨c, rfl, run⟩

theorem valid_of_anchored (compiled : Regex.parse (TagRule.anchored pattern) = .ok regex)
    (balanced : ¬ StrayClose pattern) :
    (∃ regex, Regex.parse pattern = .ok regex) ∧ ¬ LeavesQuoteOpen pattern := by
  rw [parse_anchored] at compiled
  obtain ⟨complete, d, run, done⟩ := compile_ok compiled
  by_cases fault : LeavesQuoteOpen pattern ∨ (readFrom 0 pattern).2 ≠ none
  · -- nothing ends the group around the pattern
    exfalso
    obtain ⟨common, tail, more, own, others, none⟩ := readFrom_astray fault complete
    rw [others] at run
    obtain ⟨c, -, rest⟩ := readAll_alone balanced own run
    have still := le_groupDepth none (readAll_depth _ rest)
    rw [(finish_ok done).1] at still
    simp [within] at still
  · obtain ⟨closed, unread⟩ := not_or.mp fault
    have ended := not_not.mp unread
    rw [readFrom_closed closed ended] at run
    obtain ⟨c, alone, rest⟩ := readAll_alone balanced (List.append_nil _).symm run
    obtain ⟨outer, fits⟩ := closed_of_closing rest done
    refine ⟨⟨c.current.close.regex, ?_⟩, closed⟩
    rw [parse_compile, compile, alone, ended]
    exact finish_fits outer fits

theorem balanced_of_valid (alone : Regex.parse pattern = .ok regex) : ¬ StrayClose pattern := by
  rintro ⟨e, refused, -⟩
  rw [alone] at refused
  cases refused

theorem make_anchored (alone : Regex.parse pattern = .ok regex)
    (made : TagRule.make name pattern = .ok rule) : rule.regex = regex.anchored := by
  have compiled := make_regex made
  have closed := (valid_of_anchored compiled (balanced_of_valid alone)).2
  rcases parse_anchored_valid alone closed with same | ⟨e, refused, -⟩
  · rw [same] at compiled
    exact (Except.ok.inj compiled).symm
  · rw [refused] at compiled
    cases compiled

/-- A rule accepts the texts that its pattern by itself matches from the first byte to the last. -/
theorem whole_text_accepted (alone : Regex.parse pattern = .ok regex)
    (made : TagRule.make name pattern = .ok rule) (t : Text) :
    rule.accepts t = true ↔ regex.MatchesFrom t 0 t.length := by
  rw [TagRule.accepts, make_anchored alone made, Regex.search_anchored, matchesFrom_whole]

theorem whole_text_accepted_lines :
    ∃ regex rule, Regex.parse (utf8 "(?m)^(a)$|b") = .ok regex ∧
      TagRule.make (utf8 "author") (utf8 "(?m)^(a)$|b") = .ok rule ∧
      regex.MatchesFrom (utf8 "a") 0 1 ∧
      regex.search (utf8 "a\nb").runes.toArray = true ∧ ¬ regex.MatchesFrom (utf8 "a\nb") 0 3 := by
  obtain ⟨regex, alone, found⟩ := @exists_made _ _ (Regex.parse (utf8 "(?m)^(a)$|b"))
    (fun regex => regex.search (utf8 "a\nb").runes.toArray) (by decide +kernel)
  obtain ⟨rule, made, outcome⟩ := @exists_made _ _
    (TagRule.make (utf8 "author") (utf8 "(?m)^(a)$|b"))
    (fun rule => rule.accepts (utf8 "a") && !rule.accepts (utf8 "a\nb")) (by decide +kernel)
  rw [Bool.and_eq_true, Bool.not_eq_true'] at outcome
  refine ⟨regex, rule, alone, made, ?_, found, ?_⟩
  · exact (whole_text_accepted alone made (utf8 "a")).mp outcome.1
  · intro whole
    have accepted := (whole_text_accepted alone made (utf8 "a\nb")).mpr whole
    rw [outcome.2] at accepted
    cases accepted

def WithinLimits (pattern : Text) : Prop :=
  ∀ e, Regex.parse (TagRule.anchored pattern) = .error e → e.fault ≠ .tooDeep ∧ e.fault ≠ .tooLarge

theorem make_of_parse (named : name ≠ [])
    (compiled : Regex.parse (TagRule.anchored pattern) = .ok regex) :
    TagRule.make name pattern = .ok ⟨name, pattern, regex⟩ := by
  have present : name.isEmpty = false := by simpa using named
  simp [TagRule.make, present, compiled]

/-- Unless it ends a group that it did not open, a pattern is accepted exactly if it is valid by
    itself and leaves no quotation open; the rule then looks for its expression between anchors.
    Any pattern, one that ends such a group included, is accepted exactly if its groups pair up
    with the one between the anchors and nothing else is wrong with it. -/
theorem accepted_iff_valid (named : name ≠ []) (limits : WithinLimits pattern) :
    (¬ StrayClose pattern →
      ((∃ rule, TagRule.make name pattern = .ok rule) ↔
        (∃ regex, Regex.parse pattern = .ok regex) ∧ ¬ LeavesQuoteOpen pattern) ∧
      ∀ rule, TagRule.make name pattern = .ok rule →
        ∃ regex, Regex.parse pattern = .ok regex ∧ rule.regex = regex.anchored) ∧
    ((∃ rule, TagRule.make name pattern = .ok rule) ↔
      PairsUp (TagRule.anchored pattern) ∧ GroupFaultsOnly (TagRule.anchored pattern)) := by
  constructor
  · intro balanced
    have sound : ∀ rule, TagRule.make name pattern = .ok rule →
        (∃ regex, Regex.parse pattern = .ok regex) ∧ ¬ LeavesQuoteOpen pattern := by
      intro rule made
      exact valid_of_anchored (make_regex made) balanced
    refine ⟨⟨?_, ?_⟩, ?_⟩
    · rintro ⟨rule, made⟩
      exact sound rule made
    · rintro ⟨⟨regex, alone⟩, closed⟩
      rcases parse_anchored_valid alone closed with same | ⟨e, refused, limit⟩
      · exact ⟨_, make_of_parse named same⟩
      · have within := limits e refused
        rcases limit with deep | large
        · exact absurd deep within.1
        · exact absurd large within.2
    · intro rule made
      obtain ⟨⟨regex, alone⟩, -⟩ := sound rule made
      exact ⟨regex, alone, make_anchored alone made⟩
  · rw [← valid_iff_pairsUp]
    constructor
    · rintro ⟨rule, made⟩
      exact ⟨rule.regex, make_regex made⟩
    · rintro ⟨regex, compiled⟩
      exact ⟨_, make_of_parse named compiled⟩

/-- Parentheses in a set or behind a backslash are no groups, and one that ends the group between
    the anchors leaves theirs without a beginning. -/
theorem accepted_iff_valid_parentheses :
    (∃ rule regex, TagRule.make (utf8 "author") (utf8 "(?i)[)]\\)|(?:b)") = .ok rule ∧
      Regex.parse (utf8 "(?i)[)]\\)|(?:b)") = .ok regex ∧ rule.regex = regex.anchored) ∧
    StrayClose (utf8 "a)") ∧ ¬ ∃ rule, TagRule.make (utf8 "author") (utf8 "a)") = .ok rule := by
  constructor
  · obtain ⟨regex, alone, -⟩ := @exists_made _ _ (Regex.parse (utf8 "(?i)[)]\\)|(?:b)"))
      (fun _ => true) (by decide +kernel)
    have limits : WithinLimits (utf8 "(?i)[)]\\)|(?:b)") := by
      obtain ⟨compiled, same, -⟩ := @exists_made _ _
        (Regex.parse (TagRule.anchored (utf8 "(?i)[)]\\)|(?:b)"))) (fun _ => true)
        (by decide +kernel)
      intro e refused
      rw [same] at refused
      cases refused
    have both := (@accepted_iff_valid (utf8 "author") (utf8 "(?i)[)]\\)|(?:b)") (by decide)
      limits).1 (balanced_of_valid alone)
    obtain ⟨rule, made⟩ := both.1.mpr ⟨⟨regex, alone⟩, not_leavesQuoteOpen (by decide)⟩
    obtain ⟨regex, alone, same⟩ := both.2 rule made
    exact ⟨rule, regex, made, alone, same⟩
  · have stray : StrayClose (utf8 "a)") := ⟨⟨.unexpectedClose, utf8 "a)"⟩, rfl, rfl⟩
    have limits : WithinLimits (utf8 "a)") := by
      have refused : Regex.parse (TagRule.anchored (utf8 "a)")) =
          .error ⟨.unexpectedClose, TagRule.anchored (utf8 "a)")⟩ := rfl
      intro e same
      rw [refused] at same
      cases same
      exact ⟨by decide, by decide⟩
    refine ⟨stray, fun accepted => ?_⟩
    have pairs := ((@accepted_iff_valid (utf8 "author") (utf8 "a)") (by decide) limits).2.mp
      accepted).1
    exact absurd pairs (by decide +kernel)

/-- A pattern that ends the group around it can be accepted, and escapes the anchors; one that
    leaves a quotation open is refused, although it is valid by itself. -/
theorem stray_close_accepted :
    (StrayClose (utf8 "a)|(b") ∧
      ∃ rule, TagRule.make (utf8 "a") (utf8 "a)|(b") = .ok rule ∧
        rule.accepts (utf8 "axyz") = true) ∧
    (∃ regex, Regex.parse (utf8 "\\Qa") = .ok regex) ∧
      ∃ f, TagRule.make (utf8 "a") (utf8 "\\Qa") = .error f := by
  refine ⟨⟨⟨⟨.unexpectedClose, utf8 "a)|(b"⟩, by rfl, rfl⟩, ?_⟩, ?_, ?_⟩
  · exact exists_made (by decide +kernel)
  · obtain ⟨regex, alone, -⟩ := @exists_made _ _ (Regex.parse (utf8 "\\Qa")) (fun _ => true)
      (by decide +kernel)
    exact ⟨regex, alone⟩
  · exact ⟨_, by rfl⟩

end Anchored

end JavadocLint
