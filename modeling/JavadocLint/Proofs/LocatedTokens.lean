import Mathlib
import JavadocLint.Java.Scan

/- A scan in two stages. The machine alone turns symbols into tokens with the lines on which they
   stand, and the members are read from these tokens; one pass does both at once. -/
namespace JavadocLint

abbrev LocatedToken := Token × Nat

def Symbol.nextRow (row : Nat) : Symbol → Nat
  | .byte _ => row
  | .lineEnd => row + 1

namespace LexMode

def run (m : LexMode) (syms : List Symbol) : LexMode := syms.foldl (fun m s => (m.step s).1) m

def located (m : LexMode) (row : Nat) : List Symbol → List LocatedToken
  | [] => []
  | s :: rest => (m.step s).2.map (·, row + 1) ++ located (m.step s).1 (s.nextRow row) rest

end LexMode

def MemberState.readAll (s : MemberState) (tokens : List LocatedToken) : MemberState :=
  tokens.foldl (fun m t => m.read t.2 t.1) s

def fileTokens (lines : List Text) : List LocatedToken := LexMode.code.located 0 (symbols lines)

namespace LexMode

theorem located_append (m : LexMode) (row : Nat) (first second : List Symbol) :
    m.located row (first ++ second) =
      m.located row first ++ (m.run first).located (first.foldl Symbol.nextRow row) second := by
  induction first generalizing m row with
  | nil => rfl
  | cons s rest ih =>
    simp only [List.cons_append, located, List.append_assoc, run, List.foldl_cons]
    rw [ih]
    rfl

end LexMode

theorem MemberState.readAll_append (s : MemberState) (first second : List LocatedToken) :
    s.readAll (first ++ second) = (s.readAll first).readAll second := by
  simp [readAll]

theorem Cursor.advance_row (c : Cursor) (s : Symbol) : (c.advance s).row = s.nextRow c.row := by
  cases s <;> rfl

theorem scan_members (s : ScanState) (syms : List Symbol) :
    (s.run syms).members = s.members.readAll (s.mode.located s.cursor.row syms) := by
  induction syms generalizing s with
  | nil => rfl
  | cons sym rest ih =>
    have tail := ih (s.step sym)
    simp only [ScanState.step, Cursor.advance_row] at tail
    change (ScanState.run (s.step sym) rest).members = _
    simp only [ScanState.step]
    rw [tail, LexMode.located, MemberState.readAll_append]
    simp [MemberState.readAll, List.foldl_map]

theorem declarations_readAll (lines : List Text) :
    declarations lines = (MemberState.readAll {} (fileTokens lines)).found.reverse := by
  simp only [declarations, scan_members, fileTokens]

section Lines

theorem nextRow_bytes (bytes : Text) (row : Nat) :
    (bytes.map Symbol.byte).foldl Symbol.nextRow row = row := by
  induction bytes with
  | nil => rfl
  | cons b rest ih => exact ih

theorem nextRow_line (line : Text) (row : Nat) :
    (lineSymbols line).foldl Symbol.nextRow row = row + 1 := by
  simp [lineSymbols, List.foldl_append, nextRow_bytes, Symbol.nextRow]

theorem located_line (m : LexMode) (row : Nat) (line : Text) (t : LocatedToken)
    (member : t ∈ m.located row (lineSymbols line)) : t.2 = row + 1 := by
  induction line generalizing m with
  | nil =>
    simp only [lineSymbols, List.map_nil, List.nil_append, LexMode.located, List.append_nil,
      List.mem_map] at member
    obtain ⟨token, _, rfl⟩ := member
    rfl
  | cons b rest ih =>
    simp only [lineSymbols, List.map_cons, List.cons_append, LexMode.located,
      List.mem_append, List.mem_map] at member
    rcases member with ⟨token, _, rfl⟩ | later
    · rfl
    · exact ih _ later

theorem located_lines (m : LexMode) (row : Nat) (lines : List Text) (t : LocatedToken)
    (member : t ∈ m.located row (symbols lines)) : row < t.2 ∧ t.2 ≤ row + lines.length := by
  induction lines generalizing m row with
  | nil => simp [symbols, LexMode.located] at member
  | cons line rest ih =>
    have split : symbols (line :: rest) = lineSymbols line ++ symbols rest := rfl
    rw [split, LexMode.located_append, nextRow_line] at member
    simp only [List.length_cons]
    rcases List.mem_append.mp member with here | later
    · have := located_line m row line t here
      omega
    · have := ih _ _ later
      omega

theorem fileTokens_line (lines : List Text) (t : LocatedToken) (member : t ∈ fileTokens lines) :
    1 ≤ t.2 ∧ t.2 ≤ lines.length := by
  have bounds := located_lines .code 0 lines t member
  omega

end Lines
end JavadocLint
