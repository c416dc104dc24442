import JavadocLint.Proofs.CommentOutcome
import JavadocLint.Proofs.RuleTable

/- The text of a tag on the line where the tag was found. The line is found by the whole start that
   a line of the tag has to have, the text by the first blank behind the first at sign. The two fit
   together for the names without a blank, and for no others. -/
namespace JavadocLint

section Names

theorem tagStart_mention (tag : Text) : tagStart tag = utf8 " * " ++ mention tag := by
  have split : utf8 " * @" = utf8 " * " ++ utf8 "@" := by decide
  simp [tagStart, mention, split]

/-- The rest of a name behind its first blank, with the blank that ends the name; nothing when the
    name holds no blank. -/
def behindBlank (name : Text) : Text :=
  ((name ++ utf8 " ").dropWhile fun b => b ≠ byte ' ').drop 1

theorem behindBlank_split (name : Text) :
    ∃ front, byte ' ' ∉ front ∧ name ++ utf8 " " = front ++ byte ' ' :: behindBlank name := by
  have ended : byte ' ' ∈ name ++ utf8 " " := by simp [show utf8 " " = [byte ' '] from by decide]
  obtain ⟨front, rest, split, plain⟩ := List.eq_append_cons_of_mem ended
  have passed : ∀ b ∈ front, decide (b ≠ byte ' ') = true := by
    intro b member
    rw [decide_eq_true_eq]
    rintro rfl
    exact plain member
  refine ⟨front, plain, ?_⟩
  rw [behindBlank, split, List.dropWhile_append_of_pos passed]
  simp

theorem behindBlank_eq_nil_iff (name : Text) : behindBlank name = [] ↔ byte ' ' ∉ name := by
  obtain ⟨front, plain, split⟩ := behindBlank_split name
  have ending : utf8 " " = [byte ' '] := by decide
  rw [ending] at split
  constructor
  · intro none
    rw [none] at split
    rw [List.append_inj_left' split rfl]
    exact plain
  · intro blankless
    -- the blank that ends the name is then the first one
    have same : front = name := by
      have cut := congrArg (List.takeWhile fun b => decide (b ≠ byte ' ')) split
      rwa [List.takeWhile_append_of_pos (by grind), List.takeWhile_append_of_pos (by grind),
        List.takeWhile_cons_of_neg (by simp), List.takeWhile_cons_of_neg (by simp), List.append_nil,
        List.append_nil, eq_comm] at cut
    rw [same] at split
    exact (List.cons.inj (List.append_cancel_left split)).2.symm

theorem tagText_start (name x : Text) :
    tagText (tagStart name ++ x) = behindBlank name ++ x := by
  obtain ⟨front, plain, split⟩ := behindBlank_split name
  have line : tagStart name ++ x =
      utf8 " * " ++ ([byte '@'] ++ (front ++ (byte ' ' :: (behindBlank name ++ x)))) := by
    have start : tagStart name = utf8 " * " ++ (utf8 "@" ++ (name ++ utf8 " ")) := by
      rw [tagStart_mention, mention, List.append_assoc]
    rw [start, split]
    simp [show utf8 "@" = [byte '@'] from by decide]
  have atSign : Text.cut? (utf8 "@") (tagStart name ++ x) =
      some (utf8 " * ", front ++ (byte ' ' :: (behindBlank name ++ x))) := by
    rw [line]
    exact @cut?_skip (byte '@') [] (utf8 " * ") (by decide) _
  have blank : Text.cut? (utf8 " ") (front ++ (byte ' ' :: (behindBlank name ++ x))) =
      some (front, behindBlank name ++ x) :=
    @cut?_skip (byte ' ') [] front plain _
  simp only [tagText, atSign, blank]

end Names

section Found

variable {lines : List Text} {start stop index : Int} {tag : Text} {diags : List Diagnostic}

theorem findTagLine_found (found : findTagLine lines start stop tag = .ok (some index, diags)) :
    ∃ (i : Nat) (text : Text), index = i ∧ lines[i]? = some (tagStart tag ++ text) := by
  unfold findTagLine at found
  split at found
  · cases found
  · split at found
    · cases found
    · rename_i first
      have described := placeTag_describes tag
        ((lines.drop start.toNat).take (stop - start + 1).toNat)
      cases place : placeTag tag ((lines.drop start.toNat).take (stop - start + 1).toNat) with
      | absent =>
        rw [place] at found
        dsimp only at found
        split at found <;> cases found
      | malformed =>
        rw [place] at found
        cases found
      | line offset =>
        rw [place] at found described
        cases found
        obtain ⟨line, mentioned, text, rfl⟩ := described
        have there := mentioned.there
        rw [List.getElem?_take] at there
        split at there
        · rw [List.getElem?_drop] at there
          exact ⟨start.toNat + offset, text, by omega, there⟩
        · cases there

/-- The text that is checked on the line of a tag is what follows the start of the line exactly if
    the name of the tag holds no blank. Otherwise the part of the name behind its first blank comes
    before it. -/
theorem checked_text_follows_start {name pattern : Text} {rule : TagRule}
    (made : TagRule.make name pattern = .ok rule)
    (found : findTagLine lines start stop name = .ok (some index, diags)) :
    ∃ (i : Nat) (line text : Text), index = i ∧ lines[i]? = some line ∧
      line = tagStart name ++ text ∧
      tagText line = behindBlank name ++ text ∧
      (tagText line = text ↔ byte ' ' ∉ name) ∧
      validateTag lines start stop rule = .ok (if rule.accepts (tagText line) then []
        else [⟨i + 1, .patternMismatch (tagText line) pattern⟩]) := by
  obtain ⟨i, text, rfl, there⟩ := findTagLine_found found
  have reads := tagText_start name text
  refine ⟨i, _, text, rfl, there, rfl, reads, ?_, ?_⟩
  · rw [reads, List.append_left_eq_self, behindBlank_eq_nil_iff]
  · obtain ⟨sameName, samePattern⟩ := make_fields made
    unfold validateTag
    rw [sameName, found, samePattern]
    change Except.ok (if rule.accepts (tagText (lines.getD ((i : Int)).toNat [])) = true
      then _ else _) = _
    rw [Int.toNat_natCast, List.getD_eq_getElem?_getD, there]
    rfl

theorem checked_text_follows_start_address :
    ∃ rule, TagRule.make (utf8 "author") (utf8 ".*") = .ok rule ∧
      findTagLine [utf8 "/**", utf8 " * @author a @ b", utf8 " */"] 0 2 (utf8 "author") =
        .ok (some 1, []) ∧
      tagText (utf8 " * @author a @ b") = utf8 "a @ b" := by
  obtain ⟨rule, made, -⟩ := @exists_made _ _ (TagRule.make (utf8 "author") (utf8 ".*"))
    (fun _ => true) (by decide +kernel)
  have found : findTagLine [utf8 "/**", utf8 " * @author a @ b", utf8 " */"] 0 2 (utf8 "author") =
      .ok (some 1, []) := by rfl
  obtain ⟨i, line, text, there, holds, start, -, follows, -⟩ :=
    checked_text_follows_start made found
  obtain rfl : i = 1 := by omega
  obtain rfl : utf8 " * @author a @ b" = line := Option.some.inj holds
  obtain rfl : utf8 "a @ b" = text := List.append_cancel_left
    ((by decide : tagStart (utf8 "author") ++ utf8 "a @ b" = utf8 " * @author a @ b").trans start)
  exact ⟨rule, made, found, follows.mpr (by decide)⟩

/-- The start of a line of the tag `a b` is not what comes before the text on it. -/
theorem blank_in_name_splits_start :
    ∃ rule, TagRule.make (utf8 "a b") (utf8 "text") = .ok rule ∧
      findTagLine [utf8 " * @a b text"] 0 0 (utf8 "a b") = .ok (some 0, []) ∧
      utf8 " * @a b text" = tagStart (utf8 "a b") ++ utf8 "text" ∧
      tagText (utf8 " * @a b text") = utf8 "b text" ∧ utf8 "b text" ≠ utf8 "text" := by
  obtain ⟨rule, made, -⟩ := @exists_made _ _ (TagRule.make (utf8 "a b") (utf8 "text"))
    (fun _ => true) (by decide +kernel)
  exact ⟨rule, made, by rfl, by decide, by decide, by decide⟩

end Found
end JavadocLint
