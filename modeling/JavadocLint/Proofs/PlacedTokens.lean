import Mathlib
import JavadocLint.Proofs.LineShift

/- Tokens with their places. The machine knows a word by the symbol after it, so the place where a
   word is complete is its end; there the word stands in its line, and words that come later begin
   there or below. -/
namespace JavadocLint

abbrev PlacedToken := Token × Cursor

namespace LexMode

def placed (m : LexMode) (c : Cursor) : List Symbol → List PlacedToken
  | [] => []
  | s :: rest => (m.step s).2.map (·, c) ++ placed (m.step s).1 (c.advance s) rest

theorem located_placed (m : LexMode) (c : Cursor) (syms : List Symbol) :
    m.located c.row syms = (m.placed c syms).map fun t => (t.1, t.2.row + 1) := by
  induction syms generalizing m c with
  | nil => rfl
  | cons s rest ih =>
    have tail := ih (m.step s).1 (c.advance s)
    rw [Cursor.advance_row] at tail
    simp [located, placed, tail, Function.comp_def]

section Steps

def carried : LexMode → Nat
  | .word w => w.length
  | _ => 0

theorem carried_eq_zero {m : LexMode} (noWord : ∀ w, m ≠ .word w) : m.carried = 0 := by
  cases m with
  | word w => exact absurd rfl (noWord w)
  | _ => rfl

/-- What the machine has read and not yet left behind, should nothing be added to it. -/
def held : LexMode → List Token
  | .word w => [.word w]
  | .slash => [.punct (byte '/')]
  | _ => []

theorem stepCode_cases (s : Symbol) :
    (∃ m, stepCode s = (m, []) ∧ ((∀ w, m ≠ .word w) ∨ ∃ b, s = .byte b ∧
        isWordStart b = true ∧ m = .word [b])) ∨
      (∃ m b, stepCode s = (m, [.literal b]) ∧ (∀ w, m ≠ .word w) ∧
        (b = byte '"' ∨ b = byte '\'')) ∨
      ∃ b, s = .byte b ∧ stepCode s = (.code, [.punct b]) := by
  cases s with
  | lineEnd => exact .inl ⟨.code, rfl, .inl nofun⟩
  | byte b =>
    unfold stepCode
    dsimp only
    split_ifs with blank slash string character word
    · exact .inl ⟨.code, rfl, .inl nofun⟩
    · exact .inl ⟨.slash, rfl, .inl nofun⟩
    · exact .inr (.inl ⟨.openQuote, b, rfl, nofun, .inl string⟩)
    · exact .inr (.inl ⟨.quoted b, b, rfl, nofun, .inr character⟩)
    · exact .inl ⟨.word [b], rfl, .inr ⟨b, rfl, word, rfl⟩⟩
    · exact .inr (.inr ⟨b, rfl, rfl⟩)

theorem step_cases (m : LexMode) (s : Symbol) :
    (∃ m', m.step s = (m', []) ∧ ∀ w, m' ≠ .word w) ∨
      (∃ w b, m = .word w ∧ s = .byte b ∧ isWordPart b = true ∧
        m.step s = (.word (w ++ [b]), [])) ∨
      (m.step s = ((stepCode s).1, m.held ++ (stepCode s).2) ∧
        ∀ w b, m = .word w → s = .byte b → isWordPart b = false) := by
  have quoted (q : UInt8) : ∀ w, stepQuoted q s ≠ .word w := by
    unfold stepQuoted
    split_ifs <;> simp
  have text : ∀ w, stepText s ≠ .word w := by
    unfold stepText
    split_ifs <;> simp
  cases m with
  | code => exact .inr (.inr ⟨rfl, by simp⟩)
  | word w =>
    cases s with
    | lineEnd => exact .inr (.inr ⟨rfl, by simp⟩)
    | byte b =>
      by_cases part : isWordPart b = true
      · exact .inr (.inl ⟨w, b, rfl, rfl, part, by simp [step, part]⟩)
      · refine .inr (.inr ⟨by simp [step, part, held], ?_⟩)
        rintro _ _ ⟨⟩ ⟨⟩
        exact Bool.eq_false_iff.mpr part
  | slash =>
    by_cases line : s.isByte '/' = true
    · exact .inl ⟨.lineComment, by simp [step, line], by simp⟩
    by_cases block : s.isByte '*' = true
    · exact .inl ⟨.blockComment, by simp [step, line, block], by simp⟩
    · exact .inr (.inr ⟨by simp [step, line, block, held], by simp⟩)
  | lineComment => exact .inl ⟨_, rfl, by split_ifs <;> simp⟩
  | blockComment => exact .inl ⟨_, rfl, by split_ifs <;> simp⟩
  | blockStar => exact .inl ⟨_, rfl, by split_ifs <;> simp⟩
  | openQuote =>
    by_cases second : s.isByte '"' = true
    · exact .inl ⟨.openQuotes, by simp [step, second], by simp⟩
    · exact .inl ⟨stepQuoted (byte '"') s, by simp [step, second], quoted _⟩
  | openQuotes =>
    by_cases third : s.isByte '"' = true
    · exact .inl ⟨.textBlock, by simp [step, third], by simp⟩
    · exact .inr (.inr ⟨by simp [step, third, held], by simp⟩)
  | quoted q => exact .inl ⟨_, rfl, quoted q⟩
  | quotedEscape q => exact .inl ⟨_, rfl, by split_ifs <;> simp⟩
  | textBlock => exact .inl ⟨_, rfl, text⟩
  | textEscape => exact .inl ⟨_, rfl, by simp⟩
  | textQuote =>
    by_cases second : s.isByte '"' = true
    · exact .inl ⟨.textQuotes, by simp [step, second], by simp⟩
    · exact .inl ⟨stepText s, by simp [step, second], text⟩
  | textQuotes =>
    by_cases third : s.isByte '"' = true
    · exact .inl ⟨.code, by simp [step, third], by simp⟩
    · exact .inl ⟨stepText s, by simp [step, third], text⟩

theorem carried_stepCode (s : Symbol) : (stepCode s).1.carried ≤ 1 := by
  rcases stepCode_cases s with ⟨m, eq, none | ⟨b, -, -, rfl⟩⟩ | ⟨m, b, eq, none, -⟩ | ⟨b, -, eq⟩
  · rw [eq, carried_eq_zero none]
    exact Nat.zero_le 1
  · rw [eq]
    exact Nat.le_refl 1
  · rw [eq, carried_eq_zero none]
    exact Nat.zero_le 1
  · rw [eq]
    exact Nat.zero_le 1

theorem carried_step (m : LexMode) (s : Symbol) :
    (m.step s).1.carried ≤ m.carried + 1 ∧ ((m.step s).2 ≠ [] → (m.step s).1.carried ≤ 1) := by
  rcases m.step_cases s with ⟨m', eq, none⟩ | ⟨w, b, rfl, -, -, eq⟩ | ⟨eq, -⟩
  · rw [eq, carried_eq_zero none]
    exact ⟨Nat.zero_le _, fun _ => Nat.zero_le _⟩
  · rw [eq]
    exact ⟨by simp [carried], fun some => absurd rfl some⟩
  · rw [eq]
    exact ⟨(carried_stepCode s).trans (Nat.le_add_left 1 _), fun _ => carried_stepCode s⟩

theorem carried_lineEnd (m : LexMode) : (m.step .lineEnd).1.carried = 0 := by
  rcases beginsLine_step m with eq | eq | eq <;> rw [eq] <;> rfl

/-- What a step can leave behind: the word that was being read, a slash, a mark or a quote. -/
theorem mem_step {m : LexMode} {s : Symbol} {t : Token} (emitted : t ∈ (m.step s).2) :
    (∃ w, t = .word w ∧ m = .word w ∧ ∀ b, s = .byte b → isWordPart b = false) ∨
      t = .punct (byte '/') ∨ (∃ b, t = .punct b ∧ s = .byte b) ∨
      t = .literal (byte '"') ∨ t = .literal (byte '\'') := by
  rcases m.step_cases s with ⟨m', eq, -⟩ | ⟨w, b, -, -, -, eq⟩ | ⟨eq, ends⟩
  · simp [eq] at emitted
  · simp [eq] at emitted
  · rw [eq, List.mem_append] at emitted
    rcases emitted with kept | fresh
    · cases m <;> simp only [held, List.mem_singleton, List.not_mem_nil] at kept
      · exact .inl ⟨_, kept, rfl, fun b => ends _ b rfl⟩
      · exact .inr (.inl kept)
    · rcases stepCode_cases s with ⟨m', code, -⟩ | ⟨m', b, code, -, quote⟩ | ⟨b, here, code⟩ <;>
        simp only [code, List.mem_singleton, List.not_mem_nil] at fresh
      · rcases quote with rfl | rfl
        · exact .inr (.inr (.inr (.inl fresh)))
        · exact .inr (.inr (.inr (.inr fresh)))
      · exact .inr (.inr (.inl ⟨b, fresh, here⟩))

theorem step_words (m : LexMode) (s : Symbol) :
    (m.step s).2.Pairwise fun _ t => ∀ w, t ≠ .word w := by
  rcases m.step_cases s with ⟨m', eq, -⟩ | ⟨w, b, -, -, -, eq⟩ | ⟨eq, -⟩
  · simp [eq]
  · simp [eq]
  · have kept : m.held.Pairwise fun _ t => ∀ w, t ≠ .word w := by cases m <;> simp [held]
    rw [eq, List.pairwise_append]
    rcases stepCode_cases s with ⟨m', code, -⟩ | ⟨m', b, code, -, -⟩ | ⟨b, -, code⟩ <;>
      simp [code, kept]

end Steps

section Order

/-- Later in the file; for a word, from its first byte on. -/
def Before (t u : PlacedToken) : Prop :=
  t.2.row < u.2.row ∨
    t.2.row = u.2.row ∧ ∀ w, u.1 = .word w → t.2.col + w.length ≤ u.2.col

variable {m : LexMode} {c : Cursor}

theorem carried_advance (enough : m.carried ≤ c.col) (s : Symbol) :
    (m.step s).1.carried ≤ (c.advance s).col := by
  cases s with
  | lineEnd => exact (carried_lineEnd m).le
  | byte b => exact (m.carried_step (.byte b)).1.trans (Nat.succ_le_succ enough)

theorem placed_from (enough : m.carried ≤ c.col) (syms : List Symbol) :
    ∀ t ∈ m.placed c syms, c.row < t.2.row ∨
      c.row = t.2.row ∧ ∀ w, t.1 = .word w → c.col + w.length ≤ t.2.col + m.carried := by
  induction syms generalizing m c with
  | nil => exact nofun
  | cons s rest ih =>
    intro t member
    rw [placed] at member
    rcases List.mem_append.mp member with here | later
    · obtain ⟨token, emitted, rfl⟩ := List.mem_map.mp here
      refine .inr ⟨rfl, ?_⟩
      rintro w rfl
      rcases mem_step emitted with ⟨w', same, rfl, -⟩ | no | ⟨b, no, -⟩ | no | no
      · cases same
        exact Nat.le_refl _
      all_goals cases no
    · have tail := ih (carried_advance enough s) t later
      cases s with
      | lineEnd =>
        simp only [Cursor.advance] at tail
        omega
      | byte b =>
        refine tail.imp_right fun ⟨row, start⟩ => ⟨row, fun w word => ?_⟩
        have from' := start w word
        have bound := (m.carried_step (.byte b)).1
        simp only [Cursor.advance] at from'
        omega

theorem placed_pairwise (enough : m.carried ≤ c.col) (syms : List Symbol) :
    (m.placed c syms).Pairwise Before := by
  induction syms generalizing m c with
  | nil => exact .nil
  | cons s rest ih =>
    rw [placed, List.pairwise_append, List.pairwise_map]
    refine ⟨?_, ih (carried_advance enough s), ?_⟩
    · exact (step_words m s).imp fun other => .inr ⟨rfl, fun w word => absurd word (other w)⟩
    · intro t here u later
      obtain ⟨token, emitted, rfl⟩ := List.mem_map.mp here
      have bound := (m.carried_step s).2 (List.ne_nil_of_mem emitted)
      have tail := placed_from (carried_advance enough s) rest u later
      cases s with
      | lineEnd =>
        simp only [Cursor.advance] at tail
        exact .inl (show c.row < u.2.row by omega)
      | byte b =>
        refine tail.imp_right fun ⟨row, start⟩ => ⟨row, fun w word => ?_⟩
        have from' := start w word
        simp only [Cursor.advance] at from'
        dsimp only
        omega

end Order
end LexMode

section Words

def IsIdentifier (w : Text) : Prop :=
  (∃ b ∈ w.head?, isWordStart b = true) ∧ ∀ b ∈ w, isWordPart b = true

theorem isIdentifier_singleton {b : UInt8} (start : isWordStart b = true) : IsIdentifier [b] :=
  ⟨⟨b, rfl, start⟩, by simp [isWordPart, start]⟩

theorem IsIdentifier.append {w : Text} {b : UInt8} (identifier : IsIdentifier w)
    (part : isWordPart b = true) : IsIdentifier (w ++ [b]) := by
  obtain ⟨⟨a, head, start⟩, parts⟩ := identifier
  refine ⟨⟨a, ?_, start⟩, ?_⟩
  · rw [List.head?_append, Option.mem_def.mp head]
    rfl
  · intro c member
    rcases List.mem_append.mp member with old | new
    · exact parts c old
    · exact List.mem_singleton.mp new ▸ part

/-- What a token shows in its line: a word ends at its place and does not go on there, and a mark
    other than a slash stands at its place. -/
def Shows (text : Text) (t : PlacedToken) : Prop :=
  match t.1 with
  | .word w =>
    IsIdentifier w ∧ ∃ before after, text = before ++ w ++ after ∧
      t.2.col = (before ++ w).length ∧ ∀ b ∈ after.head?, isWordPart b = false
  | .punct b => b = byte '/' ∨ text[t.2.col]? = some b
  | .literal q => q = byte '"' ∨ q = byte '\''

namespace LexMode

def Carries (m : LexMode) (done : Text) : Prop := ∀ w, m = .word w → IsIdentifier w ∧ w <:+ done

variable {m : LexMode} {done : Text}

theorem BeginsLine.carries (begins : m.BeginsLine) (done : Text) : m.Carries done := by
  rcases begins with rfl | rfl | rfl <;> exact nofun

theorem Carries.step (carries : m.Carries done) (b : UInt8) :
    (m.step (.byte b)).1.Carries (done ++ [b]) := by
  intro w word
  rcases m.step_cases (.byte b) with ⟨m', eq, none⟩ | ⟨v, _, rfl, ⟨⟩, part, eq⟩ | ⟨eq, -⟩
  · rw [eq] at word
    exact absurd word (none w)
  · rw [eq] at word
    cases word
    obtain ⟨identifier, before, rfl⟩ := carries v rfl
    exact ⟨identifier.append part, before, by simp⟩
  · rw [eq] at word
    rcases stepCode_cases (.byte b) with
      ⟨m', code, none | ⟨_, ⟨⟩, start, rfl⟩⟩ | ⟨m', q, code, none, -⟩ | ⟨q, -, code⟩
    · rw [code] at word
      exact absurd word (none w)
    · rw [code] at word
      cases word
      exact ⟨isIdentifier_singleton start, List.suffix_append done [b]⟩
    · rw [code] at word
      exact absurd word (none w)
    · rw [code] at word
      cases word

theorem Carries.shows (carries : m.Carries done) {s : Symbol} {todo : Text} {row : Nat}
    (next : ∀ b, todo.head? = some b ↔ s = .byte b) {t : Token} (emitted : t ∈ (m.step s).2) :
    Shows (done ++ todo) (t, ⟨row, done.length⟩) := by
  have here (b : UInt8) : (done ++ todo)[done.length]? = some b ↔ s = .byte b := by
    rw [List.getElem?_append_right (Nat.le_refl _), Nat.sub_self, ← List.head?_eq_getElem?, next]
  rcases mem_step emitted with ⟨w, rfl, word, ends⟩ | rfl | ⟨b, rfl, mark⟩ | rfl | rfl
  · obtain ⟨identifier, before, rfl⟩ := carries w word
    exact ⟨identifier, before, todo, rfl, rfl, fun b there => ends b ((next b).mp there)⟩
  · exact Or.inl rfl
  · exact Or.inr ((here b).mpr mark)
  · exact Or.inl rfl
  · exact Or.inr rfl

theorem placed_line (carries : m.Carries done) (row : Nat) (todo : Text) :
    ∀ t ∈ m.placed ⟨row, done.length⟩ (lineSymbols todo),
      t.2.row = row ∧ Shows (done ++ todo) t := by
  induction todo generalizing m done with
  | nil =>
    intro t member
    rw [lineSymbols, List.map_nil, List.nil_append, placed, placed, List.append_nil] at member
    obtain ⟨token, emitted, rfl⟩ := List.mem_map.mp member
    exact ⟨rfl, carries.shows (by simp) emitted⟩
  | cons b rest ih =>
    intro t member
    rw [lineSymbols, List.map_cons, List.cons_append, placed] at member
    rcases List.mem_append.mp member with here | later
    · obtain ⟨token, emitted, rfl⟩ := List.mem_map.mp here
      exact ⟨rfl, carries.shows (by simp) emitted⟩
    · have next : (⟨row, done.length⟩ : Cursor).advance (.byte b) = ⟨row, (done ++ [b]).length⟩ := by
        simp [Cursor.advance]
      rw [next] at later
      have tail := ih (carries.step b) t later
      rwa [List.append_assoc] at tail

theorem placed_append (m : LexMode) (c : Cursor) (first second : List Symbol) :
    m.placed c (first ++ second) =
      m.placed c first ++ (m.run first).placed (first.foldl Cursor.advance c) second := by
  induction first generalizing m c with
  | nil => rfl
  | cons s rest ih =>
    simp only [List.cons_append, placed, ih, List.append_assoc]
    rfl

theorem advance_line (row col : Nat) (line : Text) :
    (lineSymbols line).foldl Cursor.advance ⟨row, col⟩ = ⟨row + 1, 0⟩ := by
  have bytes : ((line.map Symbol.byte).foldl Cursor.advance ⟨row, col⟩).row = row := by
    induction line generalizing col with
    | nil => rfl
    | cons b rest ih => exact ih (col + 1)
  rw [lineSymbols, List.foldl_append]
  simp [Cursor.advance, bytes]

theorem placed_lines (begins : m.BeginsLine) (upper lines : List Text) :
    ∀ t ∈ m.placed ⟨upper.length, 0⟩ (symbols lines),
      ∃ line, (upper ++ lines)[t.2.row]? = some line ∧ Shows line t := by
  induction lines generalizing m upper with
  | nil => exact nofun
  | cons line rest ih =>
    intro t member
    have split : symbols (line :: rest) = lineSymbols line ++ symbols rest := rfl
    rw [split, placed_append, advance_line] at member
    rcases List.mem_append.mp member with here | later
    · obtain ⟨row, shows⟩ := placed_line (begins.carries []) upper.length line t here
      exact ⟨line, by simp [row], shows⟩
    · have tail := ih (beginsLine_run m line) (upper ++ [line]) t
      rw [List.length_append, List.append_assoc] at tail
      exact tail later

end LexMode
end Words

def placedTokens (lines : List Text) : List PlacedToken :=
  LexMode.code.placed ⟨0, 0⟩ (symbols lines)

theorem fileTokens_placedTokens (lines : List Text) :
    fileTokens lines = (placedTokens lines).map fun t => (t.1, t.2.row + 1) :=
  LexMode.located_placed .code ⟨0, 0⟩ (symbols lines)

theorem placedTokens_pairwise (lines : List Text) :
    (placedTokens lines).Pairwise LexMode.Before :=
  LexMode.placed_pairwise (m := .code) (c := ⟨0, 0⟩) (Nat.le_refl 0) (symbols lines)

theorem placedTokens_shows (lines : List Text) :
    ∀ t ∈ placedTokens lines, ∃ line, lines[t.2.row]? = some line ∧ Shows line t :=
  LexMode.placed_lines (.inl rfl) [] lines

end JavadocLint
