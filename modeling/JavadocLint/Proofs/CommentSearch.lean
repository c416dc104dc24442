import Mathlib
import JavadocLint.Javadoc.Check

/- Where the check of a comment looks and where it reports. The search for a marker goes upwards
   from the declaration and stops at the nearest line that holds it; everything found wrong is
   reported on the line of the declaration or inside the comment. -/
namespace JavadocLint

section LastMatch

variable {α : Type} {p : α → Bool} {xs : List α}

def lastMatch? (p : α → Bool) (xs : List α) : Option Nat :=
  (xs.reverse.findIdx? p).map fun back => xs.length - 1 - back

theorem lastMatch?_cons (p : α → Bool) (x : α) (xs : List α) :
    lastMatch? p (x :: xs) =
      ((lastMatch? p xs).map (· + 1)).or (if p x then some 0 else none) := by
  unfold lastMatch?
  rw [List.reverse_cons, List.findIdx?_append]
  cases found : xs.reverse.findIdx? p with
  | none => by_cases here : p x = true <;> simp [here]
  | some back =>
    have inside : back < xs.length := by
      have bound := (List.findIdx?_eq_some_iff_findIdx_eq.mp found).1
      simpa using bound
    simp only [Option.some_or, Option.map_some, List.length_cons, Option.some.injEq]
    omega

theorem lastMatch?_append (p : α → Bool) (xs ys : List α) :
    lastMatch? p (xs ++ ys) =
      ((lastMatch? p ys).map (xs.length + ·)).or (lastMatch? p xs) := by
  induction xs with
  | nil =>
    change lastMatch? p ys = ((lastMatch? p ys).map (0 + ·)).or none
    cases lastMatch? p ys <;> simp
  | cons x xs ih =>
    rw [List.cons_append, lastMatch?_cons, ih, lastMatch?_cons]
    cases lastMatch? p ys with
    | none => simp
    | some i =>
      simp only [Option.map_some, Option.some_or, List.length_cons, Option.some.injEq]
      omega

theorem lastMatch?_some {i : Nat} (found : lastMatch? p xs = some i) :
    ∃ x, xs[i]? = some x ∧ p x = true := by
  induction xs generalizing i with
  | nil => simp [lastMatch?] at found
  | cons x xs ih =>
    rw [lastMatch?_cons] at found
    cases later : lastMatch? p xs with
    | some j =>
      rw [later] at found
      cases found
      exact ih later
    | none =>
      rw [later] at found
      by_cases here : p x = true
      · simp only [here, if_true, Option.map_none, Option.none_or, Option.some.injEq] at found
        subst found
        exact ⟨x, rfl, here⟩
      · simp [here] at found

theorem lastMatch?_mem {x : α} (member : x ∈ xs) (holds : p x = true) :
    ∃ i, lastMatch? p xs = some i := by
  induction xs with
  | nil => cases member
  | cons y ys ih =>
    rw [lastMatch?_cons]
    rcases List.mem_cons.mp member with rfl | later
    · cases lastMatch? p ys with
      | none => exact ⟨0, by simp [holds]⟩
      | some i => exact ⟨i + 1, rfl⟩
    · obtain ⟨i, found⟩ := ih later
      exact ⟨i + 1, by rw [found]; rfl⟩

end LastMatch

section Reports

variable {lines : List Text} {declLine : Int} {rules : TagRules} {diag : Diagnostic}

theorem placeTag_offset {tag : Text} {comment : List Text} {offset : Nat}
    (found : placeTag tag comment = .line offset) : offset < comment.length := by
  induction comment generalizing offset with
  | nil => cases found
  | cons line rest ih =>
    simp only [placeTag] at found
    split at found
    · split at found
      · cases found
        simp
      · cases found
    · split at found
      · rename_i later eq
        cases found
        have bound := ih eq
        simp only [List.length_cons]
        omega
      · rename_i other
        exact absurd found (other offset)

theorem checkTag_lines {rule : TagRule} {start : Nat} {comment : List Text}
    (present : 0 < comment.length) (member : diag ∈ checkTag rule start comment) :
    (start : Int) + 1 ≤ diag.line ∧ diag.line ≤ start + comment.length := by
  unfold checkTag at member
  split at member
  · simp only [List.mem_singleton] at member
    subst member
    dsimp only
    omega
  · simp only [List.mem_cons, List.not_mem_nil, or_false] at member
    rcases member with rfl | rfl <;> dsimp only <;> omega
  · rename_i offset found
    have bound := placeTag_offset found
    dsimp only at member
    split at member
    · cases member
    · simp only [List.mem_singleton] at member
      subst member
      dsimp only
      omega

def linesAbove (lines : List Text) (line : Int) : List Text := lines.take (line - 1).toNat

theorem locateComment_eq (lines : List Text) (declLine : Int) :
    locateComment lines (declLine - 1) =
      ⟨lastMatch? (trimsTo (utf8 "/**")) (linesAbove lines declLine),
        lastMatch? (trimsTo (utf8 "*/")) (linesAbove lines declLine)⟩ := by
  have count : declLine - 1 - 1 + 1 = declLine - 1 := by omega
  simp only [locateComment, lastLine?, lastMatch?, linesAbove, count]

theorem checkComment_lost
    (lost : lastMatch? (trimsTo (utf8 "/**")) (linesAbove lines declLine) = none ∨
      lastMatch? (trimsTo (utf8 "*/")) (linesAbove lines declLine) = none) :
    checkComment lines declLine rules = [⟨declLine, .commentNotFound⟩] := by
  rcases lost with noOpening | noClosing
  · simp only [checkComment, locateComment_eq, noOpening]
  · simp only [checkComment, locateComment_eq, noClosing]
    cases lastMatch? (trimsTo (utf8 "/**")) (linesAbove lines declLine) <;> rfl

theorem checkComment_found {start stop : Nat}
    (opened : lastMatch? (trimsTo (utf8 "/**")) (linesAbove lines declLine) = some start)
    (closed : lastMatch? (trimsTo (utf8 "*/")) (linesAbove lines declLine) = some stop) :
    checkComment lines declLine rules =
      if stop < start + 2 then [⟨declLine, .commentNotFound⟩]
      else rules.rules.flatMap fun rule =>
        checkTag rule start ((lines.drop start).take (stop - start + 1)) := by
  simp only [checkComment, locateComment_eq, opened, closed]

theorem lastMatch?_linesAbove {p : Text → Bool} {i : Nat}
    (found : lastMatch? p (linesAbove lines declLine) = some i) :
    ∃ line, lines[i]? = some line ∧ p line = true := by
  obtain ⟨line, there, holds⟩ := lastMatch?_some found
  rw [linesAbove, List.getElem?_take] at there
  split at there
  · exact ⟨line, there, holds⟩
  · cases there

theorem commentLines_length {start stop : Nat} (ordered : start ≤ stop)
    (inside : stop < lines.length) :
    ((lines.drop start).take (stop - start + 1)).length = stop - start + 1 := by
  rw [List.length_take, List.length_drop]
  omega

/-- What is wrong with a comment is reported on the line of the declaration, or from the nearest
    opening line above it on and not below the closing one. -/
theorem checkComment_lines (member : diag ∈ checkComment lines declLine rules) :
    diag.line = declLine ∨
      ∃ start stop, lastMatch? (trimsTo (utf8 "/**")) (linesAbove lines declLine) = some start ∧
        lastMatch? (trimsTo (utf8 "*/")) (linesAbove lines declLine) = some stop ∧
        (start : Int) + 1 ≤ diag.line ∧ diag.line ≤ stop + 1 := by
  cases opened : lastMatch? (trimsTo (utf8 "/**")) (linesAbove lines declLine) with
  | none =>
    rw [checkComment_lost (.inl opened), List.mem_singleton] at member
    exact .inl (by rw [member])
  | some start =>
    cases closed : lastMatch? (trimsTo (utf8 "*/")) (linesAbove lines declLine) with
    | none =>
      rw [checkComment_lost (.inr closed), List.mem_singleton] at member
      exact .inl (by rw [member])
    | some stop =>
      rw [checkComment_found opened closed] at member
      split at member
      · rw [List.mem_singleton] at member
        exact .inl (by rw [member])
      · have ordered : start ≤ stop := by omega
        obtain ⟨line, there, -⟩ := lastMatch?_linesAbove closed
        have inside := (List.getElem?_eq_some_iff.mp there).1
        have length := commentLines_length ordered inside
        obtain ⟨rule, -, found⟩ := List.mem_flatMap.mp member
        have bounds := checkTag_lines (by omega) found
        exact .inr ⟨start, stop, rfl, rfl, by omega, by omega⟩

end Reports
end JavadocLint
