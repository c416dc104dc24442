import Mathlib
import JavadocLint.Proofs.LocatedTokens
import JavadocLint.Proofs.SourceLexemes

/- Lines read through a cursor. A read is possible on a line and up to its end, where a line feed is
   read; going forward leads from such a place to the next or behind the last line, so that a cursor
   never stands where nothing can be read. The symbols of the lines are what a cursor goes over. -/
namespace JavadocLint
namespace Cursor

variable {lines : List Text} {c : Cursor}

def InLines (lines : List Text) (c : Cursor) : Prop :=
  ∃ line, lines[c.row]? = some line ∧ c.col ≤ line.length

def behind (lines : List Text) : Cursor := ⟨lines.length, 0⟩

def Before (c d : Cursor) : Prop := c.row < d.row ∨ c.row = d.row ∧ c.col < d.col

/-- The line under the cursor, through which all is read. There is none for a cursor on no line or
    past the end of its line. -/
def line? (lines : List Text) (c : Cursor) : Option Text :=
  lines[c.row]?.filter fun line => c.col ≤ line.length

/-- What stands so many bytes ahead: a line feed at the end of the line, zeros behind it. -/
def peek? (lines : List Text) (c : Cursor) (ahead : Nat) : Option UInt8 :=
  (c.line? lines).map fun line => (line ++ [lineFeed]).getD (c.col + ahead) 0

def forward? (lines : List Text) : Nat → Cursor → Option Cursor
  | 0, c => some c
  | n + 1, c =>
    if lines.length ≤ c.row then some c
    else match c.line? lines with
      | none => none
      | some line =>
        forward? lines n (if line.length ≤ c.col then ⟨c.row + 1, 0⟩ else ⟨c.row, c.col + 1⟩)

def rest (lines : List Text) (c : Cursor) : List Symbol :=
  match lines.drop c.row with
  | [] => []
  | line :: below => lineSymbols (line.drop c.col) ++ symbols below

section Order

theorem Before.trans {d e : Cursor} (first : c.Before d) (second : d.Before e) : c.Before e := by
  unfold Before at *
  omega

theorem before_advance (c : Cursor) (s : Symbol) : c.Before (c.advance s) := by
  cases s with
  | byte b => exact .inr ⟨rfl, Nat.lt_succ_self _⟩
  | lineEnd => exact .inl (Nat.lt_succ_self _)

theorem before_advances (c : Cursor) {syms : List Symbol} (some : syms ≠ []) :
    c.Before (syms.foldl advance c) := by
  induction syms generalizing c with
  | nil => exact absurd rfl some
  | cons s more ih =>
    cases more with
    | nil => exact before_advance c s
    | cons t others => exact (before_advance c s).trans (ih (c.advance s) (List.cons_ne_nil t _))

theorem advances_row (c : Cursor) (syms : List Symbol) :
    (syms.foldl advance c).row = syms.foldl Symbol.nextRow c.row := by
  induction syms generalizing c with
  | nil => rfl
  | cons s more ih => rw [List.foldl_cons, ih, advance_row, List.foldl_cons]

end Order

section Places

theorem InLines.row_lt (inside : c.InLines lines) : c.row < lines.length := by
  obtain ⟨line, there, -⟩ := inside
  exact (List.getElem?_eq_some_iff.mp there).1

theorem rest_row (row : Nat) : rest lines ⟨row, 0⟩ = symbols (lines.drop row) := by
  unfold rest
  cases lines.drop row <;> rfl

theorem rest_behind (lines : List Text) : (behind lines).rest lines = [] := by
  rw [behind, rest_row, List.drop_length]
  rfl

theorem rest_start (lines : List Text) : rest lines ⟨0, 0⟩ = symbols lines := by
  rw [rest_row, List.drop_zero]

theorem rest_line {line : Text} (there : lines[c.row]? = some line) :
    c.rest lines = lineSymbols (line.drop c.col) ++ symbols (lines.drop (c.row + 1)) := by
  obtain ⟨inside, rfl⟩ := List.getElem?_eq_some_iff.mp there
  rw [rest, List.drop_eq_getElem_cons inside]

/-- A cursor stands where something can be read, or behind the last line. -/
def InRange (lines : List Text) (c : Cursor) : Prop := c.InLines lines ∨ c = behind lines

theorem inRange_row {row : Nat} (inside : row ≤ lines.length) : InRange lines ⟨row, 0⟩ := by
  rcases Nat.lt_or_eq_of_le inside with less | rfl
  · exact .inl ⟨lines[row], List.getElem?_eq_getElem less, Nat.zero_le _⟩
  · exact .inr rfl

theorem InRange.inLines (range : c.InRange lines) (more : c.row < lines.length) :
    c.InLines lines := by
  rcases range with inside | rfl
  · exact inside
  · exact absurd more (Nat.lt_irrefl _)

theorem InRange.ended (range : c.InRange lines) (done : ¬ c.row < lines.length) :
    c = behind lines := by
  rcases range with inside | ended
  · exact absurd inside.row_lt done
  · exact ended

theorem InLines.next (inside : c.InLines lines) :
    ∃ s, c.rest lines = s :: (c.advance s).rest lines ∧ (c.advance s).InRange lines := by
  have row := inside.row_lt
  obtain ⟨line, there, fits⟩ := inside
  -- a byte leaves the cursor on its line; the end of the line leads to the next, if there is one
  rcases Nat.lt_or_eq_of_le fits with less | ended
  · refine ⟨.byte (line.get ⟨c.col, less⟩), ?_, .inl ⟨line, there, less⟩⟩
    have next : (c.advance (.byte (line.get ⟨c.col, less⟩))).rest lines =
        lineSymbols (line.drop (c.col + 1)) ++ symbols (lines.drop (c.row + 1)) := rest_line there
    rw [rest_line there, List.drop_eq_getElem_cons less, next]
    rfl
  · refine ⟨.lineEnd, ?_, inRange_row row⟩
    rw [rest_line there, ended, List.drop_length, advance, rest_row]
    rfl

theorem InRange.after (range : c.InRange lines) {front back : List Symbol}
    (split : c.rest lines = front ++ back) :
    (front.foldl advance c).InRange lines ∧ (front.foldl advance c).rest lines = back := by
  induction front generalizing c with
  | nil => exact ⟨range, split⟩
  | cons s more ih =>
    rcases range with inside | rfl
    · obtain ⟨t, step, next⟩ := inside.next
      rw [step, List.cons_append] at split
      obtain ⟨rfl, tail⟩ := List.cons.inj split
      exact ih next tail
    · rw [rest_behind] at split
      cases split

end Places

section Reads

theorem InLines.line (inside : c.InLines lines) :
    ∃ line, c.line? lines = some line ∧ lines[c.row]? = some line ∧ c.col ≤ line.length := by
  obtain ⟨line, there, fits⟩ := inside
  exact ⟨line, by rw [line?, there, Option.filter_some, if_pos (decide_eq_true fits)], there, fits⟩

theorem InLines.reads (inside : c.InLines lines) :
    ∃ line back, c.line? lines = some line ∧
      c.rest lines = lineSymbols (line.drop c.col) ++ back ∧
      ∀ ahead, c.peek? lines ahead = some ((line.drop c.col ++ [lineFeed]).getD ahead 0) := by
  obtain ⟨line, read, there, fits⟩ := inside.line
  refine ⟨line, _, read, rest_line there, ?_⟩
  intro ahead
  have left : (line ++ [lineFeed]).drop c.col = line.drop c.col ++ [lineFeed] :=
    List.drop_append_of_le_length fits
  rw [peek?, read, Option.map_some, ← left, List.getD_eq_getElem?_getD,
    List.getD_eq_getElem?_getD, List.getElem?_drop]

theorem forward?_inRange (range : c.InRange lines) (n : Nat) :
    c.forward? lines n = some (((c.rest lines).take n).foldl advance c) := by
  induction n generalizing c with
  | zero => rfl
  | succ n ih =>
    rcases range with inside | rfl
    · obtain ⟨line, read, there, fits⟩ := inside.line
      obtain ⟨s, step, next⟩ := inside.next
      have moved : c.advance s =
          if line.length ≤ c.col then ⟨c.row + 1, 0⟩ else ⟨c.row, c.col + 1⟩ := by
        rw [rest_line there] at step
        rcases Nat.lt_or_eq_of_le fits with less | ended
        · rw [List.drop_eq_getElem_cons less] at step
          obtain ⟨rfl, -⟩ := List.cons.inj step
          rw [if_neg (by omega)]
          rfl
        · rw [ended, List.drop_length] at step
          obtain ⟨rfl, -⟩ := List.cons.inj step
          rw [if_pos (by omega)]
          rfl
      rw [forward?, if_neg (Nat.not_le.mpr inside.row_lt), read]
      simp only [← moved]
      rw [ih next, step]
      rfl
    · have ended : lines.length ≤ (behind lines).row := Nat.le_refl _
      rw [forward?, if_pos ended, rest_behind]
      rfl

theorem forward?_over (range : c.InRange lines) {front back : List Symbol}
    (split : c.rest lines = front ++ back) :
    c.forward? lines front.length = some (front.foldl advance c) := by
  rw [forward?_inRange range, split, List.take_left]

end Reads
end Cursor
end JavadocLint
