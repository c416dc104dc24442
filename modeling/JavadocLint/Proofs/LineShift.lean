import JavadocLint.Proofs.LocatedTokens

/- Scans of a file into which an empty line was put. Between two lines the machine is in code, in a
   block comment or in a text block, and the end of an empty line changes none of these; so the same
   tokens follow, on later lines, and the same declarations are read from them. -/
namespace JavadocLint

section Numbers

variable {k : Nat}

def shiftIndex (k i : Nat) : Nat := if i < k then i else i + 1

def shiftLine (k : Nat) (l : Int) : Int := if l ≤ k then l else l + 1

theorem shiftIndex_before {i : Nat} (before : i < k) : shiftIndex k i = i := if_pos before

theorem shiftIndex_after {i : Nat} (after : k ≤ i) : shiftIndex k i = i + 1 :=
  if_neg (Nat.not_lt.mpr after)

theorem shiftIndex_add {i : Nat} (before : i ≤ k) (offset : Nat) :
    shiftIndex k (i + offset) = i + shiftIndex (k - i) offset := by
  simp only [shiftIndex]
  split <;> split <;> omega

theorem shiftIndex_succ (k i : Nat) : shiftIndex (k + 1) (i + 1) = shiftIndex k i + 1 := by
  simp only [shiftIndex]
  split <;> split <;> omega

theorem shiftIndex_lt_iff {i j : Nat} : shiftIndex k i < shiftIndex k j ↔ i < j := by
  simp only [shiftIndex]
  split <;> split <;> omega

theorem shiftLine_le_iff {l m : Int} : shiftLine k l ≤ shiftLine k m ↔ l ≤ m := by
  simp only [shiftLine]
  split <;> split <;> omega

theorem shiftLine_natCast (k l : Nat) : shiftLine k l = shiftIndex (k + 1) l := by
  simp only [shiftLine, shiftIndex]
  split <;> split <;> omega

theorem shiftLine_index (k i : Nat) : shiftLine k (i + 1) = shiftIndex k i + 1 := by
  have cast := shiftLine_natCast k (i + 1)
  rw [shiftIndex_succ] at cast
  push_cast at cast
  exact cast

theorem shiftLine_toNat (k : Nat) {l : Int} (positive : 1 ≤ l) :
    (shiftLine k l - 1).toNat = shiftIndex k (l - 1).toNat := by
  simp only [shiftLine, shiftIndex]
  split <;> split <;> omega

theorem exists_shiftIndex {i : Nat} (other : i ≠ k) : ∃ j, shiftIndex k j = i := by
  rcases Nat.lt_or_gt_of_ne other with less | greater
  · exact ⟨i, shiftIndex_before less⟩
  · refine ⟨i - 1, ?_⟩
    rw [shiftIndex_after (by omega)]
    omega

end Numbers

namespace LexMode

def BeginsLine (m : LexMode) : Prop := m = .code ∨ m = .blockComment ∨ m = .textBlock

theorem beginsLine_step (m : LexMode) : (m.step .lineEnd).1.BeginsLine := by
  cases m <;> simp [BeginsLine, step, stepCode, stepQuoted, stepText, Symbol.isByte, Symbol.isFeed]

theorem step_emptyLine {m : LexMode} (begins : m.BeginsLine) : m.step .lineEnd = (m, []) := by
  rcases begins with rfl | rfl | rfl <;> rfl

theorem beginsLine_run (m : LexMode) (line : Text) : (m.run (lineSymbols line)).BeginsLine := by
  rw [run, lineSymbols, List.foldl_append]
  exact beginsLine_step _

theorem located_later (m : LexMode) (row : Nat) (syms : List Symbol) :
    m.located (row + 1) syms = (m.located row syms).map fun t => (t.1, t.2 + 1) := by
  induction syms generalizing m row with
  | nil => rfl
  | cons s rest ih =>
    have next : s.nextRow (row + 1) = s.nextRow row + 1 := by cases s <;> rfl
    simp only [located, next, ih, List.map_append, List.map_map, Function.comp_def]

theorem located_insertIdx {m : LexMode} (begins : m.BeginsLine) (row k : Nat)
    (lines : List Text) :
    m.located row (symbols (lines.insertIdx k [])) =
      (m.located row (symbols lines)).map fun t => (t.1, shiftIndex (row + k + 1) t.2) := by
  induction k generalizing m row lines with
  | zero =>
    have first : symbols (lines.insertIdx 0 []) = .lineEnd :: symbols lines := rfl
    rw [first, located, step_emptyLine begins, List.map_nil, List.nil_append]
    change m.located (row + 1) (symbols lines) = _
    rw [located_later]
    refine List.map_congr_left fun t member => ?_
    have below := (located_lines m row lines t member).1
    rw [shiftIndex_after (by omega)]
  | succ k ih =>
    cases lines with
    | nil => rfl
    | cons line rest =>
      have split : ∀ more, symbols (line :: more) = lineSymbols line ++ symbols more :=
        fun _ => rfl
      have kept : (m.located row (lineSymbols line)).map
          (fun t => (t.1, shiftIndex (row + (k + 1) + 1) t.2)) =
            m.located row (lineSymbols line) := by
        rw [List.map_congr_left (g := id), List.map_id]
        intro t member
        have here := located_line m row line t member
        rw [shiftIndex_before (by omega)]
        rfl
      rw [List.insertIdx_succ_cons, split, split, located_append, located_append, nextRow_line,
        List.map_append, kept, ih (beginsLine_run m line)]
      congr 3
      funext t
      congr 2
      omega

end LexMode

theorem fileTokens_insertIdx (k : Nat) (lines : List Text) :
    fileTokens (lines.insertIdx k []) =
      (fileTokens lines).map fun t => (t.1, shiftIndex (k + 1) t.2) := by
  have shifted := LexMode.located_insertIdx (.inl rfl) 0 k lines
  rwa [Nat.zero_add] at shifted

section Members

variable (k : Nat)

def Declaration.shift (d : Declaration) : Declaration :=
  { d with line := shiftLine k d.line, keywordLine := shiftLine k d.keywordLine }

def OpenDeclaration.shift (o : OpenDeclaration) : OpenDeclaration :=
  { o with line := shiftIndex (k + 1) o.line, keywordLine := shiftIndex (k + 1) o.keywordLine }

theorem close_shift (o : OpenDeclaration) (name : Text) :
    (o.shift k).close name = (o.close name).shift k := by
  simp [OpenDeclaration.close, OpenDeclaration.shift, Declaration.shift, shiftLine_natCast]

namespace MemberState

def shift (s : MemberState) : MemberState :=
  { s with
    memberLine := s.memberLine.map (shiftIndex (k + 1))
    pending := s.pending.map (OpenDeclaration.shift k)
    found := s.found.map (Declaration.shift k) }

theorem readWord_shift (s : MemberState) (w : Text) (line : Nat) :
    (s.shift k).readWord w (shiftIndex (k + 1) line) = (s.readWord w line).shift k := by
  cases waiting : s.pending with
  | some o => simp [readWord, begin, shift, waiting, close_shift]
  | none =>
    by_cases outside : s.parens = 0
    · simp [readWord, begin, shift, waiting, outside, OpenDeclaration.shift, Function.comp_def]
    · simp [readWord, begin, shift, waiting, outside]

theorem readPunct_shift (s : MemberState) (b : UInt8) (line : Nat) :
    (s.shift k).readPunct b (shiftIndex (k + 1) line) = (s.readPunct b line).shift k := by
  simp only [readPunct, begin, shift]
  split_ifs <;> simp [*]

theorem read_shift (s : MemberState) (t : Token) (line : Nat) :
    (s.shift k).read (shiftIndex (k + 1) line) t = (s.read line t).shift k := by
  cases t with
  | word w => exact readWord_shift k s w line
  | literal q => simp [read, begin, shift]
  | punct b => exact readPunct_shift k s b line

theorem readAll_shift (s : MemberState) (tokens : List LocatedToken) :
    (s.shift k).readAll (tokens.map fun t => (t.1, shiftIndex (k + 1) t.2)) =
      (s.readAll tokens).shift k := by
  induction tokens generalizing s with
  | nil => rfl
  | cons t rest ih =>
    simp only [readAll, List.map_cons, List.foldl_cons] at ih ⊢
    rw [read_shift, ih]

end MemberState

theorem topLevelDeclarations_insertIdx (lines : List Text) :
    topLevelDeclarations (lines.insertIdx k []) =
      (topLevelDeclarations lines).map (Declaration.shift k) := by
  have all : declarations (lines.insertIdx k []) =
      (declarations lines).map (Declaration.shift k) := by
    have read := MemberState.readAll_shift k {} (fileTokens lines)
    rw [declarations_readAll, fileTokens_insertIdx, declarations_readAll, List.map_reverse]
    exact congrArg (fun s => s.found.reverse) read
  rw [topLevelDeclarations, all, List.filter_map]
  rfl

end Members
end JavadocLint
