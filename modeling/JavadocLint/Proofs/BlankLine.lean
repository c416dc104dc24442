import JavadocLint.Proofs.CommentSearch
import JavadocLint.Proofs.LineShift
import JavadocLint.Proofs.PathNames
import JavadocLint.Proofs.SourceFindings
import JavadocLint.Proofs.SuppressionReach

/- An empty line put into a source moves what is reported below it one line down and changes nothing
   else. Every search over the lines passes an empty one over: the scan, the search for the markers
   and the tags of a comment, and that for the reach of a suppression. One place is left out,
   between the two markers of a comment that holds no line, since such a comment does not count. -/
namespace JavadocLint

section Searches

variable {α : Type} {x : α}

theorem getElem?_shiftIndex (xs : List α) (x : α) (k i : Nat) :
    (xs.insertIdx k x)[shiftIndex k i]? = xs[i]? := by
  rw [List.getElem?_insertIdx, shiftIndex]
  by_cases before : i < k
  · simp [before]
  · have after : ¬ i + 1 < k := by omega
    have other : i + 1 ≠ k := by omega
    simp [before, after, other]

theorem take_insertIdx (xs : List α) (x : α) (k n : Nat) :
    (xs.insertIdx k x).take (shiftIndex k n) = (xs.take n).insertIdx k x := by
  induction k generalizing xs n with
  | zero => rfl
  | succ k ih =>
    cases n with
    | zero => simp [shiftIndex]
    | succ n =>
      cases xs with
      | nil => simp
      | cons y rest =>
        rw [shiftIndex_succ, List.insertIdx_succ_cons, List.take_succ_cons, ih,
          List.take_succ_cons, List.insertIdx_succ_cons]

theorem drop_insertIdx_before (xs : List α) (x : α) {k n : Nat} (before : n ≤ k)
    (inside : n ≤ xs.length) :
    (xs.insertIdx k x).drop n = (xs.drop n).insertIdx (k - n) x := by
  induction n generalizing xs k with
  | zero => rfl
  | succ n ih =>
    obtain ⟨k, rfl⟩ : ∃ j, k = j + 1 := ⟨k - 1, by omega⟩
    cases xs with
    | nil => cases inside
    | cons y rest =>
      rw [List.insertIdx_succ_cons, List.drop_succ_cons, ih rest (by omega)
        (Nat.le_of_succ_le_succ inside), List.drop_succ_cons, Nat.add_sub_add_right]

theorem drop_insertIdx_after (xs : List α) (x : α) {k n : Nat} (after : k ≤ n) :
    (xs.insertIdx k x).drop (n + 1) = xs.drop n := by
  induction k generalizing xs n with
  | zero => rfl
  | succ k ih =>
    obtain ⟨n, rfl⟩ : ∃ j, n = j + 1 := ⟨n - 1, by omega⟩
    cases xs with
    | nil => simp
    | cons y rest =>
      rw [List.insertIdx_succ_cons, List.drop_succ_cons, ih rest (by omega), List.drop_succ_cons]

theorem lastMatch?_insertIdx {p : α → Bool} (other : p x = false) (xs : List α) (k : Nat) :
    lastMatch? p (xs.insertIdx k x) = (lastMatch? p xs).map (shiftIndex k) := by
  induction k generalizing xs with
  | zero =>
    rw [List.insertIdx_zero, lastMatch?_cons, other]
    cases lastMatch? p xs <;> simp [shiftIndex]
  | succ k ih =>
    cases xs with
    | nil => rfl
    | cons y rest =>
      rw [List.insertIdx_succ_cons, lastMatch?_cons, lastMatch?_cons, ih]
      cases lastMatch? p rest with
      | none => by_cases here : p y = true <;> simp [here, shiftIndex]
      | some i => simp [shiftIndex_succ]

theorem findIdx?_insertIdx {p : α → Bool} (other : p x = false) (xs : List α) (k : Nat) :
    (xs.insertIdx k x).findIdx? p = (xs.findIdx? p).map (shiftIndex k) := by
  induction k generalizing xs with
  | zero =>
    rw [List.insertIdx_zero, List.findIdx?_cons, other]
    cases xs.findIdx? p <;> simp [shiftIndex]
  | succ k ih =>
    cases xs with
    | nil => rfl
    | cons y rest =>
      rw [List.insertIdx_succ_cons, List.findIdx?_cons, List.findIdx?_cons, ih]
      by_cases here : p y = true
      · simp [here, shiftIndex]
      · cases rest.findIdx? p <;> simp [here, shiftIndex_succ]

end Searches

section Comments

variable {k : Nat} {lines : List Text}

def Diagnostic.shift (k : Nat) (diag : Diagnostic) : Diagnostic :=
  { diag with line := shiftLine k diag.line }

def TagPlace.shift (k : Nat) : TagPlace → TagPlace
  | .line offset => .line (shiftIndex k offset)
  | place => place

theorem emptyLine_silent (tag : Text) :
    Text.containsText (utf8 "@" ++ tag ++ utf8 " ") [] = false := by
  have sign : utf8 "@" = [byte '@'] := by decide
  rw [Bool.eq_false_iff, ne_eq, containsText_iff, List.infix_nil, sign]
  simp

theorem placeTag_insertIdx {tag x : Text}
    (silent : Text.containsText (utf8 "@" ++ tag ++ utf8 " ") x = false) (comment : List Text)
    (k : Nat) : placeTag tag (comment.insertIdx k x) = (placeTag tag comment).shift k := by
  induction k generalizing comment with
  | zero =>
    rw [List.insertIdx_zero, placeTag, silent]
    cases placeTag tag comment <;> rfl
  | succ k ih =>
    cases comment with
    | nil => rfl
    | cons line rest =>
      rw [List.insertIdx_succ_cons, placeTag, placeTag, ih]
      split
      · split <;> rfl
      · cases placeTag tag rest with
        | absent => rfl
        | malformed => rfl
        | line offset => simp [TagPlace.shift, shiftIndex_succ]

theorem checkTag_insertIdx {rule : TagRule} {x : Text}
    (silent : Text.containsText (utf8 "@" ++ rule.name ++ utf8 " ") x = false)
    {start start' j : Nat} {comment : List Text} (present : 0 < comment.length) (below : 0 < j)
    (moved : ∀ o < comment.length, start' + shiftIndex j o = shiftIndex k (start + o)) :
    checkTag rule start' (comment.insertIdx j x) =
      (checkTag rule start comment).map (Diagnostic.shift k) := by
  have numbers : ∀ o < comment.length,
      shiftLine k (start + o + 1) = start' + shiftIndex j o + 1 := by
    intro o inside
    have line := shiftLine_index k (start + o)
    rw [← moved o inside] at line
    push_cast at line
    exact line
  have opening : shiftLine k (start + 1) = start' + 1 := by
    have first := numbers 0 present
    rw [shiftIndex_before below] at first
    simpa using first
  unfold checkTag
  rw [placeTag_insertIdx silent]
  cases place : placeTag rule.name comment with
  | absent => simp [TagPlace.shift, Diagnostic.shift, opening]
  | malformed => simp [TagPlace.shift, Diagnostic.shift, opening]
  | line offset =>
    have line := numbers offset (placeTag_offset place)
    have text :
        (comment.insertIdx j x).getD (shiftIndex j offset) [] = comment.getD offset [] := by
      rw [List.getD_eq_getElem?_getD, getElem?_shiftIndex, List.getD_eq_getElem?_getD]
    simp only [TagPlace.shift, text]
    split
    · rfl
    · simp [Diagnostic.shift, line]

theorem comment_insertIdx (k : Nat) {start stop : Nat} (ordered : start ≤ stop)
    (inside : stop < lines.length) :
    ∃ j, 0 < j ∧
      ((lines.insertIdx k []).drop (shiftIndex k start)).take
          (shiftIndex k stop - shiftIndex k start + 1) =
        ((lines.drop start).take (stop - start + 1)).insertIdx j [] ∧
      ∀ o ≤ stop - start, shiftIndex k start + shiftIndex j o = shiftIndex k (start + o) := by
  -- an index past the end of the comment stands for no line put in
  have whole : ((lines.drop start).take (stop - start + 1)).insertIdx (stop - start + 2) [] =
      (lines.drop start).take (stop - start + 1) := by
    refine List.insertIdx_of_length_lt ?_
    rw [List.length_take]
    omega
  rcases Nat.lt_or_ge start k with above | below
  · have first := shiftIndex_before above
    have dropped := drop_insertIdx_before lines [] (Nat.le_of_lt above) (by omega)
    rcases Nat.lt_or_ge stop k with outside | between
    · refine ⟨stop - start + 2, by omega, ?_, ?_⟩
      · rw [whole, first, shiftIndex_before outside, dropped]
        exact List.take_insertIdx_eq_take_of_le _ _ _ _ (by omega)
      · intro o bound
        rw [first, shiftIndex_before (by omega), shiftIndex_before (by omega)]
    · have count : shiftIndex k stop - start + 1 = shiftIndex (k - start) (stop - start + 1) := by
        rw [shiftIndex_after between, shiftIndex_after (by omega)]
        omega
      refine ⟨k - start, by omega, ?_, ?_⟩
      · rw [first, count, dropped, take_insertIdx]
      · intro o bound
        rw [first, shiftIndex_add (Nat.le_of_lt above)]
  · have first := shiftIndex_after below
    have last : shiftIndex k stop = stop + 1 := shiftIndex_after (by omega)
    refine ⟨stop - start + 2, by omega, ?_, ?_⟩
    · rw [whole, first, last, drop_insertIdx_after lines [] below, Nat.add_sub_add_right]
    · intro o bound
      rw [first, shiftIndex_before (by omega), shiftIndex_after (by omega)]
      omega

theorem linesAbove_insertIdx (k : Nat) {x : Text} {l : Int} (positive : 1 ≤ l) :
    linesAbove (lines.insertIdx k x) (shiftLine k l) = (linesAbove lines l).insertIdx k x := by
  rw [linesAbove, shiftLine_toNat k positive, take_insertIdx, linesAbove]

def emptyCommentAt (lines : List Text) : Nat → Bool
  | 0 => false
  | i + 1 =>
    lines[i]?.any (trimsTo (utf8 "/**")) && lines[i + 1]?.any (trimsTo (utf8 "*/"))

theorem checkComment_insertIdx (rules : TagRules) (apart : emptyCommentAt lines k = false)
    {l : Int} (positive : 1 ≤ l) :
    checkComment (lines.insertIdx k []) (shiftLine k l) rules =
      (checkComment lines l rules).map (Diagnostic.shift k) := by
  have opening := lastMatch?_insertIdx (p := trimsTo (utf8 "/**")) (x := []) (by decide)
    (linesAbove lines l) k
  have closing := lastMatch?_insertIdx (p := trimsTo (utf8 "*/")) (x := []) (by decide)
    (linesAbove lines l) k
  rw [← linesAbove_insertIdx k positive] at opening closing
  cases opened : lastMatch? (trimsTo (utf8 "/**")) (linesAbove lines l) with
  | none =>
    rw [opened] at opening
    rw [checkComment_lost (.inl opening), checkComment_lost (.inl opened)]
    rfl
  | some start =>
    cases closed : lastMatch? (trimsTo (utf8 "*/")) (linesAbove lines l) with
    | none =>
      rw [closed] at closing
      rw [checkComment_lost (.inr closing), checkComment_lost (.inr closed)]
      rfl
    | some stop =>
      rw [opened] at opening
      rw [closed] at closing
      obtain ⟨first, opens, isOpening⟩ := lastMatch?_linesAbove opened
      obtain ⟨last, closes, isClosing⟩ := lastMatch?_linesAbove closed
      -- only between adjacent markers would the empty line make the comment count
      have same : shiftIndex k stop < shiftIndex k start + 2 ↔ stop < start + 2 := by
        have kept : ¬ (k = start + 1 ∧ stop = start + 1) := by
          rintro ⟨rfl, rfl⟩
          simp [emptyCommentAt, opens, isOpening, closes, isClosing] at apart
        simp only [shiftIndex]
        split_ifs <;> omega
      rw [checkComment_found opening closing, checkComment_found opened closed]
      simp only [same]
      split
      · rfl
      · have ordered : start ≤ stop := by omega
        have inside := (List.getElem?_eq_some_iff.mp closes).1
        obtain ⟨j, below, comment, moved⟩ := comment_insertIdx k ordered inside
        have length := commentLines_length ordered inside
        rw [List.map_flatMap, comment]
        refine List.flatMap_congr fun rule _ => ?_
        refine checkTag_insertIdx (emptyLine_silent rule.name) (by omega) below
          fun o bound => moved o ?_
        omega

end Comments

section Suppressions

variable {lines : List Text}

theorem codeOffset?_insertIdx (inBlock : Bool) (lines : List Text) (k : Nat) :
    codeOffset? inBlock (lines.insertIdx k []) =
      (codeOffset? inBlock lines).map (shiftIndex k) := by
  induction k generalizing inBlock lines with
  | zero =>
    have stays : codeOffset? inBlock ([] :: lines) = (codeOffset? inBlock lines).map (· + 1) := by
      cases inBlock <;> rfl
    rw [List.insertIdx_zero, stays]
    congr
  | succ k ih =>
    cases lines with
    | nil => rfl
    | cons line rest =>
      have next : ∀ offset : Option Nat, (offset.map (shiftIndex k)).map (· + 1) =
          (offset.map (· + 1)).map (shiftIndex (k + 1)) := by
        intro offset
        cases offset <;> simp [shiftIndex_succ]
      rw [List.insertIdx_succ_cons, codeOffset?, codeOffset?]
      simp only [ih, next]
      split_ifs <;> simp [shiftIndex]

theorem packageLine?_insertIdx (lines : List Text) (k : Nat) :
    packageLine? (lines.insertIdx k []) = (packageLine? lines).map (shiftIndex (k + 1)) := by
  have moved := findIdx?_insertIdx (x := []) (p := fun line : Text =>
    (utf8 "package ").isPrefixOf line.trim) (by decide) lines k
  rw [packageLine?, packageLine?, moved, Option.map_map, Option.map_map]
  congr 1
  funext i
  exact (shiftIndex_succ k i).symm

theorem nextCodeLine?_insertIdx (k : Nat) {i : Nat} (inside : i < lines.length) :
    nextCodeLine? (lines.insertIdx k []) (shiftIndex k i + 1) =
      (nextCodeLine? lines (i + 1)).map (shiftIndex k) := by
  unfold nextCodeLine?
  rcases Nat.lt_or_ge i k with above | below
  · rw [shiftIndex_before above, drop_insertIdx_before lines [] above inside,
      codeOffset?_insertIdx, Option.map_map, Option.map_map]
    congr 1
    funext offset
    exact (shiftIndex_add above offset).symm
  · rw [shiftIndex_after below, drop_insertIdx_after lines [] (by omega), Option.map_map]
    congr 1
    funext offset
    rw [Function.comp_apply, shiftIndex_after (by omega)]
    omega

theorem reach_insertIdx (k : Nat) {i : Nat} (inside : i < lines.length) (before : Text) {l : Int}
    (first : 1 ≤ l) (last : l ≤ lines.length) :
    (reach (lines.insertIdx k []) (shiftIndex k i) before).1 ≤ shiftLine k l ∧
        shiftLine k l ≤ (reach (lines.insertIdx k []) (shiftIndex k i) before).2 ↔
      (reach lines i before).1 ≤ l ∧ l ≤ (reach lines i before).2 := by
  have head : (packageLine? (lines.insertIdx k [])).any (shiftIndex k i + 1 < ·) =
      (packageLine? lines).any (i + 1 < ·) := by
    rw [packageLine?_insertIdx]
    cases packageLine? lines with
    | none => rfl
    | some n =>
      rw [Option.map_some, Option.any_some, Option.any_some, ← shiftIndex_succ]
      exact decide_eq_decide.mpr shiftIndex_lt_iff
  have stop : ((nextCodeLine? (lines.insertIdx k []) (shiftIndex k i + 1)).getD (shiftIndex k i)) =
      shiftIndex k ((nextCodeLine? lines (i + 1)).getD i) := by
    rw [nextCodeLine?_insertIdx k inside, Option.getD_map]
  unfold reach
  rw [head, stop]
  split
  · refine iff_of_true ?_ ⟨first, last⟩
    rw [List.length_insertIdx]
    simp only [shiftLine]
    split_ifs <;> omega
  · split <;> simp only [← shiftLine_index, shiftLine_le_iff]

theorem isSuppressed_insertIdx (file : Text) (k : Nat) (rule : Text) {l : Int} (first : 1 ≤ l)
    (last : l ≤ lines.length) :
    isSuppressed (suppressions file (lines.insertIdx k [])) (shiftLine k l) rule =
      isSuppressed (suppressions file lines) l rule := by
  rw [Bool.eq_iff_iff, isSuppressed_iff, isSuppressed_iff]
  constructor
  · rintro ⟨i, line, there, before, rest, rules, cut, read, named, reached⟩
    have other : i ≠ k := by
      rintro rfl
      have none : Text.cut? suppressionMark [] = none := by decide
      rw [List.getElem?_insertIdx_self] at there
      split at there
      · cases there
        rw [none] at cut
        cases cut
      · cases there
    obtain ⟨j, rfl⟩ := exists_shiftIndex other
    rw [getElem?_shiftIndex] at there
    have inside := (List.getElem?_eq_some_iff.mp there).1
    exact ⟨j, line, there, before, rest, rules, cut, read, named,
      (reach_insertIdx k inside before first last).mp reached⟩
  · rintro ⟨i, line, there, before, rest, rules, cut, read, named, reached⟩
    have inside := (List.getElem?_eq_some_iff.mp there).1
    refine ⟨shiftIndex k i, line, ?_, before, rest, rules, cut, read, named,
      (reach_insertIdx k inside before first last).mpr reached⟩
    rw [getElem?_shiftIndex, there]

end Suppressions

section Issues

variable {k : Nat} {lines : List Text}

def Issue.shift (k : Nat) (i : Issue) : Issue :=
  { i with
    start := { i.start with line := shiftLine k i.start.line }
    stop := { i.stop with line := shiftLine k i.stop.line } }

theorem lineAt_insertIdx (lines : List Text) (k : Nat) {l : Int} (positive : 1 ≤ l) :
    lineAt (lines.insertIdx k []) (shiftLine k l) = lineAt lines l := by
  have still : 1 ≤ shiftLine k l := by
    simp only [shiftLine]
    split <;> omega
  rw [lineAt, lineAt, if_pos still, if_pos positive, shiftLine_toNat k positive,
    List.getD_eq_getElem?_getD, getElem?_shiftIndex, List.getD_eq_getElem?_getD]

theorem note_shift (k : Nat) (d : Declaration) (problem : Problem) :
    problem.note (d.shift k) = problem.note d := by
  cases problem <;> rfl

theorem findings_within {rules : TagRules} {f : Finding} (member : f ∈ findings lines rules) :
    1 ≤ f.2.line ∧ f.2.line ≤ lines.length := by
  obtain ⟨d, top, paired⟩ := List.mem_flatMap.mp member
  obtain ⟨diag, found, rfl⟩ := List.mem_map.mp paired
  rcases checkComment_lines found with here | ⟨start, stop, -, closed, first, last⟩
  · rw [here]
    exact topLevel_within lines d top
  · obtain ⟨line, there, -⟩ := lastMatch?_linesAbove closed
    have bound := (List.getElem?_eq_some_iff.mp there).1
    dsimp only
    omega

theorem findings_insertIdx (rules : TagRules) (apart : emptyCommentAt lines k = false) :
    findings (lines.insertIdx k []) rules =
      (findings lines rules).map fun f => (f.1.shift k, f.2.shift k) := by
  simp only [findings, topLevelDeclarations_insertIdx, List.flatMap_map, List.map_flatMap]
  refine List.flatMap_congr fun d top => ?_
  have moved := checkComment_insertIdx rules apart (topLevel_within lines d top).1
  change (checkComment _ (shiftLine k d.line) rules).map _ = _
  rw [moved, List.map_map, List.map_map]
  rfl

theorem openIssues_insertIdx (file : Text) (rules : TagRules) (severity : Severity)
    (apart : emptyCommentAt lines k = false) :
    openIssues file (lines.insertIdx k []) rules severity =
      (openIssues file lines rules severity).map (Issue.shift k) := by
  have kept : openFindings file (lines.insertIdx k []) rules =
      (openFindings file lines rules).map fun f => (f.1.shift k, f.2.shift k) := by
    rw [openFindings, findings_insertIdx rules apart, List.filter_map, openFindings]
    congr 1
    refine List.filter_congr fun f member => ?_
    obtain ⟨first, last⟩ := findings_within member
    exact congrArg not (isSuppressed_insertIdx file k tagRuleName first last)
  rw [openIssues, kept, openIssues, List.map_map, List.map_map]
  refine List.map_congr_left fun f member => ?_
  have within := findings_within (List.mem_filter.mp member).1
  have line := lineAt_insertIdx lines k within.1
  simp only [Function.comp_apply, tagIssue, Issue.shift, Diagnostic.shift, line, note_shift]

theorem check_insertIdx (e : Engine) (file : Text) (apart : emptyCommentAt lines k = false) :
    ∃ issues, e.check file lines = .ok issues ∧
      e.check file (lines.insertIdx k []) = .ok (issues.map (Issue.shift k)) := by
  cases ignored : e.isIgnoredRule tagRuleName with
  | true => exact ⟨[], by simp [Engine.check, ignored], by simp [Engine.check, ignored]⟩
  | false =>
    refine ⟨_, check_openIssues e file lines ignored, ?_⟩
    rw [check_openIssues e file _ ignored, openIssues_insertIdx file e.tags e.severity apart]
    congr 1
    refine (List.map_mergeSort fun a _ b _ => ?_).symm
    exact decide_eq_decide.mpr shiftLine_le_iff.symm

end Issues

section Contents

def insertLine (k : Nat) (line content : Text) : Text :=
  Text.join [byte '\n'] ((Text.splitOn (byte '\n') content).insertIdx k line)

theorem sourceLines_insertLine {line : Text} (empty : line = [] ∨ line = utf8 "\r") (k : Nat)
    (content : Text) :
    sourceLines (insertLine k line content) = (sourceLines content).insertIdx k [] := by
  have dropped : dropReturn line = [] := by
    rcases empty with rfl | rfl <;> decide
  have plain : byte '\n' ∉ line := by
    rcases empty with rfl | rfl <;> decide
  have pieces : Text.splitOn (byte '\n') (insertLine k line content) =
      (Text.splitOn (byte '\n') content).insertIdx k line := by
    refine Text.splitOn_join ?_ ?_
    · have some := List.length_pos_iff.mpr (Text.splitOn_ne_nil (byte '\n') content)
      rw [← List.length_pos_iff, List.length_insertIdx]
      split <;> omega
    · intro piece member
      rcases List.eq_or_mem_of_mem_insertIdx member with rfl | old
      · exact plain
      · exact Text.sep_notMem_splitOn old
  rw [sourceLines, pieces, List.map_insertIdx, dropped, sourceLines]

end Contents

/-- An empty line below line `k`, with either line ending, moves the issues on later lines one line
    down; they stay the same otherwise and in the same order. Past the last line nothing is put
    in. -/
theorem empty_line_shifts_issues (e : Engine) (content line : Text) (k : Nat)
    (empty : line = [] ∨ line = utf8 "\r")
    (apart : emptyCommentAt (sourceLines content) k = false) :
    ∃ issues, e.runSource content = .ok issues ∧
      e.runSource (insertLine k line content) = .ok (issues.map (Issue.shift k)) := by
  simp only [Engine.runSource, sourceLines_insertLine empty]
  exact check_insertIdx e [] apart

/-- The second declaration is suppressed; the third begins on the line above its keyword and holds
    a text block whose first line ends in a backslash; the last comment is never closed. -/
def brokenSource : Text :=
  utf8 "class Z ;\n//nolint:javadoc-tags\n/**\n * text\n */\nclass A ;\n/**\n * text\n */\nfinal\n"
    ++ utf8 "class B \x7b String s = \"\"\"\\\n \"\"\" ; \x7d\nclass C ; /*"

theorem empty_line_shifts_issues_broken :
    emptyCommentAt (sourceLines brokenSource) 4 = false ∧
      (authorEngine.runSource brokenSource).toOption.map (List.map Issue.line) = some [1, 7, 7] ∧
      ∃ issues, authorEngine.runSource brokenSource = .ok issues ∧
        authorEngine.runSource (insertLine 4 (utf8 "\r") brokenSource) =
          .ok (issues.map (Issue.shift 4)) :=
  ⟨by decide, by decide +kernel,
    empty_line_shifts_issues authorEngine brokenSource (utf8 "\r") 4 (.inr rfl) (by decide)⟩

-- In the place that is left out the comment is found only once a line stands in it.
example :
    ((authorEngine.runSource (utf8 "/**\n*/\nclass A ;")).toOption.map (List.map Issue.line),
      (authorEngine.runSource (insertLine 1 [] (utf8 "/**\n*/\nclass A ;"))).toOption.map
        (List.map Issue.line)) = (some [3], some [1]) := by decide +kernel

end JavadocLint
