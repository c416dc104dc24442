import Mathlib
import JavadocLint.Proofs.MachineLexemes
import JavadocLint.Proofs.OpaqueText

/- What the bytes ahead on a line say about the machine. A reader that looks ahead knows at once
   what the machine knows one or two symbols later: whether a star ends a comment, whether quotes
   open or end a text block, whether a slash is a mark, and where a word ends. -/
namespace JavadocLint

section Ahead

variable {left : Text} {x y z : UInt8}

theorem starts_two (ordinary : x ≠ lineFeed ∧ y ≠ lineFeed) :
    (left ++ [lineFeed]).getD 0 0 = x ∧ (left ++ [lineFeed]).getD 1 0 = y ↔ [x, y] <+: left := by
  rcases left with _ | ⟨a, _ | ⟨b, more⟩⟩
  · simp [ordinary.1.symm]
  · simp [ordinary.2.symm]
  · simp [List.cons_prefix_cons, eq_comm]

theorem starts_three (ordinary : x ≠ lineFeed ∧ y ≠ lineFeed ∧ z ≠ lineFeed) :
    (left ++ [lineFeed]).getD 0 0 = x ∧ (left ++ [lineFeed]).getD 1 0 = y ∧
      (left ++ [lineFeed]).getD 2 0 = z ↔ [x, y, z] <+: left := by
  rcases left with _ | ⟨a, _ | ⟨b, _ | ⟨c, more⟩⟩⟩
  · simp [ordinary.1.symm]
  · simp [ordinary.2.1.symm]
  · simp [ordinary.2.2.symm]
  · simp [List.cons_prefix_cons, eq_comm]

theorem starts_one (ordinary : x ≠ lineFeed) :
    (left ++ [lineFeed]).getD 0 0 = x ↔ ∃ more, left = x :: more := by
  cases left with
  | nil => simp [ordinary.symm]
  | cons a more => simp

def Symbol.value : Symbol → UInt8
  | .byte b => b
  | .lineEnd => lineFeed

theorem isFeed_iff (s : Symbol) : s.isFeed = true ↔ s.value = lineFeed := by
  cases s with
  | byte b =>
    change (false || decide (Symbol.byte b = .byte (byte '\n'))) = true ↔ b = byte '\n'
    simp
  | lineEnd => simp [Symbol.isFeed, Symbol.value]

theorem ends_quoted_iff (s : Symbol) (quote : UInt8) :
    s = .byte quote ∨ s.isFeed = true ↔ s.value = quote ∨ s.value = lineFeed := by
  rw [isFeed_iff]
  cases s with
  | byte b => simp [Symbol.value]
  | lineEnd => simp [Symbol.value]

theorem ne_backslash {s : Symbol} (other : s.value ≠ byte '\\') : s ≠ backslash := by
  rintro rfl
  exact other rfl

theorem exists_next (left : Text) (back : List Symbol) :
    ∃ s others, lineSymbols left ++ back = s :: others ∧
      (left ++ [lineFeed]).getD 0 0 = s.value := by
  cases left <;> exact ⟨_, _, rfl, rfl⟩

theorem bytes_begin_iff {word : Text} (back : List Symbol) :
    word.map Symbol.byte <+: lineSymbols left ++ back ↔ word <+: left := by
  induction word generalizing left with
  | nil => simp
  | cons b more ih =>
    cases left with
    | nil => simp [lineSymbols, List.cons_prefix_cons]
    | cons a rest =>
      have tail : lineSymbols (a :: rest) ++ back = .byte a :: (lineSymbols rest ++ back) := rfl
      rw [tail, List.map_cons, List.cons_prefix_cons, List.cons_prefix_cons, ih, Symbol.byte.injEq]

theorem lineSymbols_split (p : UInt8 → Bool) (left : Text) (back : List Symbol) :
    lineSymbols left ++ back =
      (left.takeWhile p).map Symbol.byte ++ (lineSymbols (left.dropWhile p) ++ back) := by
  rw [lineSymbols, lineSymbols, ← List.append_assoc, ← List.append_assoc, ← List.map_append,
    List.takeWhile_append_dropWhile]

end Ahead

section Located

variable {row : Nat} {s : Symbol} {b : UInt8} {rest : List Symbol}

theorem located_commentPass (going : ¬ commentEnd <+: s :: rest) :
    LexMode.blockComment.located row (s :: rest) =
      LexMode.blockComment.located (s.nextRow row) rest := by
  by_cases star : s = .byte (byte '*')
  · subst star
    have quiet : LexMode.blockComment.step (.byte (byte '*')) = (.blockStar, []) := rfl
    rw [LexMode.located_quiet quiet]
    refine located_blockStar ?_
    intro slash
    obtain ⟨more, rfl⟩ : ∃ more, rest = .byte (byte '/') :: more := by
      cases rest <;> simp_all
    exact going ⟨more, rfl⟩
  · refine LexMode.located_quiet ?_
    simp [LexMode.step, Symbol.isByte, star]

theorem located_textPass (ordinary : s ≠ backslash) (going : ¬ textBlockEnd <+: s :: rest) :
    LexMode.textBlock.located row (s :: rest) =
      LexMode.textBlock.located (s.nextRow row) rest := by
  by_cases quote : s = doubleQuote
  · subst quote
    have quiet : LexMode.textBlock.step doubleQuote = (.textQuote, []) := rfl
    rw [LexMode.located_quiet quiet]
    refine located_oneTextQuote ?_
    rintro ⟨more, rfl⟩
    exact going ⟨more, rfl⟩
  · refine LexMode.located_quiet ?_
    have plain : s.isByte '\\' = false ∧ s.isByte '"' = false := by
      simpa [Symbol.isByte, backslash, doubleQuote] using And.intro ordinary quote
    simp [LexMode.step, LexMode.stepText, plain]

theorem located_quotedPass (quote : UInt8) (ordinary : s ≠ backslash) :
    (LexMode.quoted quote).located row (s :: rest) =
      (if s = .byte quote ∨ s.isFeed = true then LexMode.code else .quoted quote).located
        (s.nextRow row) rest := by
  refine LexMode.located_quiet ?_
  have plain : s.isByte '\\' = false := by simpa [Symbol.isByte, backslash] using ordinary
  simp [LexMode.step, LexMode.stepQuoted, plain]

theorem located_quotedEscape (quote : UInt8) (solid : s.isFeed = false) :
    (LexMode.quoted quote).located row (backslash :: s :: rest) =
      (LexMode.quoted quote).located (s.nextRow row) rest := by
  have opens : (LexMode.quoted quote).step backslash = (.quotedEscape quote, []) := rfl
  have goes : (LexMode.quotedEscape quote).step s = (.quoted quote, []) := by
    simp [LexMode.step, solid]
  exact (LexMode.located_quiet opens).trans (LexMode.located_quiet goes)

/-- A line that ends behind a backslash ends the literal as it would in code. -/
theorem located_quotedBroken (quote : UInt8) (feed : s.isFeed = true) :
    (LexMode.quoted quote).located row (backslash :: s :: rest) =
      LexMode.code.located row (s :: rest) := by
  have opens : (LexMode.quoted quote).step backslash = (.quotedEscape quote, []) := rfl
  have ends : (LexMode.quotedEscape quote).step s = (.code, []) := by simp [LexMode.step, feed]
  have blank : LexMode.code.step s = (.code, []) := by
    simp only [Symbol.isFeed, Symbol.isByte, Bool.or_eq_true, decide_eq_true_eq] at feed
    rcases feed with rfl | rfl <;> rfl
  exact (LexMode.located_quiet opens).trans
    ((LexMode.located_quiet ends).trans (LexMode.located_quiet blank).symm)

theorem located_lineComment_left (row : Nat) (left : Text) (back : List Symbol) :
    LexMode.lineComment.located row (lineSymbols left ++ back) =
      LexMode.code.located (row + 1) back := by
  have absent : Symbol.lineEnd ∉ left.map Symbol.byte := by simp
  have body := located_lineBody absent row back
  rw [lineSymbols, List.append_assoc, List.singleton_append, body]
  exact congrArg (fun n => LexMode.code.located n back) (nextRow_line left row)

theorem located_stringOpening (single : ¬ [doubleQuote, doubleQuote] <+: rest) :
    LexMode.openQuote.located row rest = (LexMode.quoted (byte '"')).located row rest := by
  by_cases other : rest.head? = some doubleQuote
  · obtain ⟨more, rfl⟩ : ∃ more, rest = doubleQuote :: more := by cases rest <;> simp_all
    have opens : LexMode.openQuote.step doubleQuote = (.openQuotes, []) := rfl
    have closes : (LexMode.quoted (byte '"')).step doubleQuote = (.code, []) := rfl
    rw [LexMode.located_quiet opens, LexMode.located_quiet closes]
    cases more with
    | nil => rfl
    | cons t others =>
      have third : t.isByte '"' = false := by
        simpa [Symbol.isByte, doubleQuote, List.cons_prefix_cons, eq_comm] using single
      simp [LexMode.located, LexMode.step, third]
  · exact located_openString other row

theorem located_blank (blank : isBlankByte s.value = true) :
    LexMode.code.located row (s :: rest) = LexMode.code.located (s.nextRow row) rest := by
  refine LexMode.located_quiet ?_
  cases s with
  | lineEnd => rfl
  | byte b =>
    change isBlankByte b = true at blank
    simp only [isBlankByte, Bool.or_eq_true, decide_eq_true_eq] at blank
    rcases blank with (((rfl | rfl) | rfl) | rfl) | rfl <;> rfl

theorem located_quote (quote : b = byte '"' ∨ b = byte '\'')
    (single : ¬ textBlockEnd <+: .byte b :: rest) :
    LexMode.code.located row (.byte b :: rest) =
      (.literal b, row + 1) :: (LexMode.quoted b).located row rest := by
  rcases quote with rfl | rfl
  · have opens : LexMode.code.step (.byte (byte '"')) = (.openQuote, [.literal (byte '"')]) := rfl
    have string : ¬ [doubleQuote, doubleQuote] <+: rest := by
      rintro ⟨more, rfl⟩
      exact single ⟨more, rfl⟩
    rw [LexMode.located, opens, ← located_stringOpening string]
    rfl
  · rfl

theorem step_solid (solid : isBlankByte b = false) (slash : b ≠ byte '/')
    (quotes : ¬ (b = byte '"' ∨ b = byte '\'')) :
    LexMode.code.step (.byte b) =
      if isWordStart b then (.word [b], []) else (.code, [.punct b]) := by
  have ordinary : b ≠ lineFeed := by
    rintro rfl
    exact absurd solid (by decide)
  have step := step_code solid slash (not_or.mp quotes)
  rwa [symbolOf, if_neg ordinary] at step

theorem located_mark {more : Text} (solid : isBlankByte b = false)
    (quotes : ¬ (b = byte '"' ∨ b = byte '\'')) (noWord : isWordStart b = false)
    (noLine : ¬ [byte '/', byte '/'].map Symbol.byte <+: .byte b :: (lineSymbols more ++ rest))
    (noBlock : ¬ [byte '/', byte '*'].map Symbol.byte <+: .byte b :: (lineSymbols more ++ rest)) :
    LexMode.code.located row (.byte b :: (lineSymbols more ++ rest)) =
      (.punct b, row + 1) :: LexMode.code.located row (lineSymbols more ++ rest) := by
  by_cases slash : b = byte '/'
  · subst slash
    obtain ⟨s, others, next, -⟩ := exists_next more rest
    rw [next] at noLine noBlock ⊢
    have opens : LexMode.code.step (.byte (byte '/')) = (.slash, []) := rfl
    have plain : s.isByte '/' = false ∧ s.isByte '*' = false := by
      simpa [Symbol.isByte, List.cons_prefix_cons, eq_comm] using And.intro noLine noBlock
    rw [LexMode.located_quiet opens]
    simp [LexMode.located, LexMode.step, plain, Symbol.nextRow]
  · rw [LexMode.located, step_solid solid slash quotes, noWord]
    rfl

theorem located_wordRest (row : Nat) (w left : Text) (back : List Symbol) :
    (LexMode.word w).located row (lineSymbols left ++ back) =
      (.word (w ++ left.takeWhile isWordPart), row + 1) ::
        LexMode.code.located row (lineSymbols (left.dropWhile isWordPart) ++ back) := by
  induction left generalizing w with
  | nil =>
    rw [List.takeWhile_nil, List.append_nil]
    rfl
  | cons b more ih =>
    have first : lineSymbols (b :: more) ++ back = .byte b :: (lineSymbols more ++ back) := rfl
    by_cases part : isWordPart b = true
    · have quiet : (LexMode.word w).step (.byte b) = (.word (w ++ [b]), []) := by
        simp [LexMode.step, part]
      rw [first, LexMode.located_quiet quiet, List.takeWhile_cons_of_pos part,
        List.dropWhile_cons_of_pos part]
      have tail := ih (w ++ [b])
      rwa [List.append_assoc, List.singleton_append] at tail
    · rw [List.takeWhile_cons_of_neg part, List.dropWhile_cons_of_neg part, first,
        List.append_nil]
      simp [LexMode.located, LexMode.step, part]

theorem located_wordLeft (solid : isBlankByte b = false)
    (quotes : ¬ (b = byte '"' ∨ b = byte '\'')) (start : isWordStart b = true) (row : Nat)
    (more : Text) (back : List Symbol) :
    LexMode.code.located row (lineSymbols (b :: more) ++ back) =
      (.word ((b :: more).takeWhile isWordPart), row + 1) ::
        LexMode.code.located row (lineSymbols ((b :: more).dropWhile isWordPart) ++ back) := by
  have part : isWordPart b = true := by simp [isWordPart, start]
  have slash : b ≠ byte '/' := by
    rintro rfl
    exact absurd start (by decide)
  have opens : LexMode.code.step (.byte b) = (.word [b], []) := by
    rw [step_solid solid slash quotes, if_pos start]
  have first : lineSymbols (b :: more) ++ back = .byte b :: (lineSymbols more ++ back) := rfl
  rw [first, LexMode.located_quiet opens, List.takeWhile_cons_of_pos part,
    List.dropWhile_cons_of_pos part]
  exact located_wordRest row [b] more back

end Located

end JavadocLint
