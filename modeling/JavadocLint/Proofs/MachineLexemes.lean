import Mathlib
import JavadocLint.Proofs.LocatedTokens
import JavadocLint.Proofs.SourceLexemes

/- The machine and the pieces. Over each piece the machine leaves the token of its lexeme behind and
   is back in code, so both routes give the same tokens. The text has to end with a line feed, since
   the machine knows a word or a slash only by what follows it. -/
namespace JavadocLint

section Symbols

def symbolOf (b : UInt8) : Symbol := if b = lineFeed then .lineEnd else .byte b

theorem isByte_symbolOf (b : UInt8) {c : Char} (ordinary : byte c ≠ lineFeed) :
    (symbolOf b).isByte c = decide (b = byte c) := by
  unfold symbolOf Symbol.isByte
  split
  · rename_i feed
    simp [feed, ordinary.symm]
  · simp

theorem isFeed_symbolOf (b : UInt8) : (symbolOf b).isFeed = decide (b = lineFeed) := by
  unfold symbolOf Symbol.isFeed Symbol.isByte
  split
  · rename_i feed
    simp [feed]
  · rename_i other
    have same : b ≠ byte '\n' := other
    simp [other, same]

theorem symbolOf_eq_lineEnd (b : UInt8) : symbolOf b = .lineEnd ↔ b = lineFeed := by
  unfold symbolOf
  split <;> simp_all

theorem symbolOf_eq_byte (b : UInt8) {q : UInt8} (ordinary : q ≠ lineFeed) :
    symbolOf b = .byte q ↔ b = q := by
  unfold symbolOf
  split
  · rename_i feed
    simp [feed, ordinary.symm]
  · simp

theorem nextRow_symbolOf (row : Nat) (b : UInt8) :
    (symbolOf b).nextRow row = row + [b].count lineFeed := by
  unfold symbolOf
  split <;> simp_all [Symbol.nextRow]

end Symbols

def textSymbols (text : Text) : List Symbol := text.map symbolOf

theorem textSymbols_unbroken {line : Text} (unbroken : lineFeed ∉ line) :
    textSymbols line = line.map Symbol.byte := by
  refine List.map_congr_left fun b member => ?_
  unfold symbolOf
  rw [if_neg]
  rintro rfl
  exact unbroken member

theorem symbols_eq {lines : List Text} (unbroken : ∀ line ∈ lines, lineFeed ∉ line) :
    symbols lines = textSymbols (fileText lines) := by
  induction lines with
  | nil => rfl
  | cons line rest ih =>
    have here := textSymbols_unbroken (unbroken line List.mem_cons_self)
    have later := ih fun other member => unbroken other (List.mem_cons_of_mem _ member)
    simp only [symbols, fileText, List.flatMap_cons, textSymbols, List.map_append] at *
    rw [later, here]
    rfl

section Machine

variable {m : LexMode} {row : Nat} {b : UInt8} {rest t : Text}

theorem located_cons (m : LexMode) (row : Nat) (b : UInt8) (rest : Text) :
    m.located row (textSymbols (b :: rest)) =
      (m.step (symbolOf b)).2.map (·, row + 1) ++
        (m.step (symbolOf b)).1.located (row + [b].count lineFeed) (textSymbols rest) := by
  simp only [textSymbols, List.map_cons, LexMode.located, nextRow_symbolOf]

theorem located_silent {m' : LexMode} (silent : m.step (symbolOf b) = (m', [])) :
    m.located row (textSymbols (b :: rest)) =
      m'.located (row + [b].count lineFeed) (textSymbols rest) := by
  rw [located_cons, silent]
  rfl

theorem step_blank (blank : isBlankByte b = true) :
    LexMode.code.step (symbolOf b) = (.code, []) := by
  simp only [isBlankByte, Bool.or_eq_true, decide_eq_true_eq] at blank
  rcases blank with (((rfl | rfl) | rfl) | rfl) | rfl <;> rfl

theorem step_lineComment (b : UInt8) :
    LexMode.lineComment.step (symbolOf b) = (if b = lineFeed then .code else .lineComment, []) := by
  simp only [LexMode.step, symbolOf_eq_lineEnd]

theorem step_blockComment (b : UInt8) :
    LexMode.blockComment.step (symbolOf b) =
      (if b = byte '*' then .blockStar else .blockComment, []) := by
  simp only [LexMode.step, isByte_symbolOf b (show byte '*' ≠ lineFeed by decide),
    decide_eq_true_eq]

theorem step_blockStar (b : UInt8) :
    LexMode.blockStar.step (symbolOf b) =
      (if b = byte '/' then .code else if b = byte '*' then .blockStar else .blockComment, []) := by
  simp only [LexMode.step, isByte_symbolOf b (show byte '*' ≠ lineFeed by decide),
    isByte_symbolOf b (show byte '/' ≠ lineFeed by decide), decide_eq_true_eq]

theorem stepText_symbolOf (b : UInt8) :
    LexMode.stepText (symbolOf b) =
      if b = byte '\\' then .textEscape else if b = byte '"' then .textQuote else .textBlock := by
  simp only [LexMode.stepText, isByte_symbolOf b (show byte '\\' ≠ lineFeed by decide),
    isByte_symbolOf b (show byte '"' ≠ lineFeed by decide), decide_eq_true_eq]

theorem stepQuoted_symbolOf (b : UInt8) {q : UInt8} (ordinary : q ≠ lineFeed) :
    LexMode.stepQuoted q (symbolOf b) =
      if b = byte '\\' then .quotedEscape q
      else if b = q ∨ b = lineFeed then .code else .quoted q := by
  simp only [LexMode.stepQuoted, isByte_symbolOf b (show byte '\\' ≠ lineFeed by decide),
    isFeed_symbolOf, symbolOf_eq_byte b ordinary, Bool.or_eq_true, decide_eq_true_eq]

theorem located_lineComment (row : Nat) (t : Text) :
    LexMode.lineComment.located row (textSymbols t) =
      LexMode.code.located row (textSymbols (t.dropWhile (· ≠ lineFeed))) := by
  induction t with
  | nil => rfl
  | cons b rest ih =>
    by_cases feed : b = lineFeed
    · subst feed
      rw [located_silent (step_lineComment _), List.dropWhile_cons_of_neg (by simp),
        located_silent (step_blank (by decide)), if_pos rfl]
    · rw [located_silent (step_lineComment _), List.dropWhile_cons_of_pos (by simpa using feed),
        if_neg feed, List.count_singleton, if_neg (by simpa using feed)]
      exact ih

theorem located_blockComment (row : Nat) (t : Text) :
    LexMode.blockComment.located row (textSymbols t) =
      LexMode.code.located (row + (cutComment t).1.count lineFeed)
        (textSymbols (cutComment t).2) := by
  fun_induction cutComment t generalizing row with
  | case1 b c rest closed =>
    obtain ⟨rfl, rfl⟩ := closed
    rw [located_silent (step_blockComment _), if_pos rfl, located_silent (step_blockStar _),
      if_pos rfl]
    rfl
  | case2 b c rest going ih =>
    have tail := ih (row + [b].count lineFeed)
    rw [located_silent (step_blockComment _)]
    simp only [prepend, List.count_append, ← Nat.add_assoc, ← tail]
    split
    · rename_i star
      have open' : c ≠ byte '/' := fun slash => going ⟨star, slash⟩
      rw [located_silent (step_blockStar _), if_neg open', located_silent (step_blockComment _)]
    · rfl
  | case3 short brief =>
    rcases short with _ | ⟨b, _ | ⟨c, rest⟩⟩
    · rfl
    · rw [located_silent (step_blockComment _)]
      rfl
    · exact (brief b c rest rfl).elim

/-- After one or two quotes in a text block the machine goes on as if it had seen none, unless the
    next byte is a quote. -/
theorem located_textQuote (row : Nat) {t : Text} (other : t.head? ≠ some (byte '"')) :
    LexMode.textQuote.located row (textSymbols t) = LexMode.textBlock.located row (textSymbols t) ∧
      LexMode.textQuotes.located row (textSymbols t) =
        LexMode.textBlock.located row (textSymbols t) := by
  cases t with
  | nil => exact ⟨rfl, rfl⟩
  | cons b rest =>
    have plain : (symbolOf b).isByte '"' = false := by
      rw [isByte_symbolOf b (by decide)]
      simpa using other
    simp only [located_cons, LexMode.step, plain]
    exact ⟨rfl, rfl⟩

theorem step_textQuote : LexMode.textQuote.step (symbolOf (byte '"')) = (.textQuotes, []) := rfl

theorem step_textQuotes : LexMode.textQuotes.step (symbolOf (byte '"')) = (.code, []) := rfl

theorem step_textBlock (b : UInt8) :
    LexMode.textBlock.step (symbolOf b) = (LexMode.stepText (symbolOf b), []) := rfl

theorem step_textEscape (b : UInt8) : LexMode.textEscape.step (symbolOf b) = (.textBlock, []) := rfl

theorem located_textBlock (row : Nat) (t : Text) :
    LexMode.textBlock.located row (textSymbols t) =
      LexMode.code.located (row + (cutTextBlock t).1.count lineFeed)
        (textSymbols (cutTextBlock t).2) := by
  fun_induction cutTextBlock t generalizing row with
  | case1 c d rest ih =>
    rw [located_silent (step_textBlock _), stepText_symbolOf, if_pos rfl,
      located_silent (step_textEscape _), ih]
    simp only [prepend, List.count_append, List.count_cons, List.count_nil]
    congr 1
    omega
  | case2 b c d rest plain closed =>
    obtain ⟨rfl, rfl, rfl⟩ := closed
    rw [located_silent (step_textBlock _), stepText_symbolOf, if_neg plain, if_pos rfl,
      located_silent step_textQuote, located_silent step_textQuotes]
    rfl
  | case3 b c d rest plain going ih =>
    have tail := ih (row + [b].count lineFeed)
    rw [located_silent (step_textBlock _), stepText_symbolOf, if_neg plain]
    simp only [prepend, List.count_append, ← Nat.add_assoc, ← tail]
    split
    · rename_i quote
      by_cases second : c = byte '"'
      · have third : d ≠ byte '"' := fun eq => going ⟨quote, second, eq⟩
        have next := located_textQuote (row + [b].count lineFeed + [c].count lineFeed)
          (show (d :: rest).head? ≠ some (byte '"') by simpa using third)
        subst second
        rw [located_silent step_textQuote, located_silent (step_textBlock _), next.2]
        exact next.1.symm
      · exact (located_textQuote _ (by simpa using second)).1
    · rfl
  | case4 short brief =>
    rcases short with _ | ⟨b, _ | ⟨c, _ | ⟨d, rest⟩⟩⟩
    · rfl
    · rfl
    · rw [located_silent (step_textBlock _), stepText_symbolOf]
      split
      · rfl
      split
      · by_cases second : c = byte '"'
        · subst second
          rfl
        · rw [(located_textQuote _ (by simpa using second)).1]
          rfl
      · rfl
    · exact (brief b c d rest rfl).elim

theorem step_quotedEscape (b q : UInt8) :
    (LexMode.quotedEscape q).step (symbolOf b) =
      (if b = lineFeed then .code else .quoted q, []) := by
  simp only [LexMode.step, isFeed_symbolOf, decide_eq_true_eq]

theorem step_quoted (b q : UInt8) :
    (LexMode.quoted q).step (symbolOf b) = (LexMode.stepQuoted q (symbolOf b), []) := rfl

theorem located_quoted {q : UInt8} (ordinary : q ≠ lineFeed) (row : Nat) (t : Text) :
    (LexMode.quoted q).located row (textSymbols t) =
      LexMode.code.located (row + (cutQuoted q t).1.count lineFeed)
        (textSymbols (cutQuoted q t).2) := by
  fun_induction cutQuoted q t generalizing row with
  | case1 rest =>
    rw [located_silent (step_quoted _ _), stepQuoted_symbolOf _ ordinary, if_pos rfl,
      located_silent (step_quotedEscape _ _), if_pos rfl]
    rfl
  | case2 c rest going ih =>
    rw [located_silent (step_quoted _ _), stepQuoted_symbolOf _ ordinary, if_pos rfl,
      located_silent (step_quotedEscape _ _), if_neg going, ih]
    simp only [prepend, List.count_append, List.count_cons, List.count_nil]
    congr 1
    omega
  | case3 b c rest plain closed =>
    rw [located_silent (step_quoted _ _), stepQuoted_symbolOf _ ordinary, if_neg plain,
      if_pos closed]
  | case4 b c rest plain going ih =>
    rw [located_silent (step_quoted _ _), stepQuoted_symbolOf _ ordinary, if_neg plain,
      if_neg going, ih]
    simp only [prepend, List.count_append, Nat.add_assoc]
  | case5 short brief =>
    rcases short with _ | ⟨b, _ | ⟨c, rest⟩⟩
    · rfl
    · rw [located_silent (step_quoted _ _)]
      rfl
    · exact (brief b c rest rfl).elim

theorem located_word (row : Nat) (w t : Text) (ends : t.dropWhile isWordPart ≠ []) :
    (LexMode.word w).located row (textSymbols t) =
      (.word (w ++ t.takeWhile isWordPart), row + 1) ::
        LexMode.code.located row (textSymbols (t.dropWhile isWordPart)) := by
  induction t generalizing w with
  | nil => exact absurd rfl ends
  | cons b rest ih =>
    by_cases part : isWordPart b = true
    · have ordinary : b ≠ lineFeed := by
        rintro rfl
        exact absurd part (by decide)
      have step : (LexMode.word w).step (symbolOf b) = (.word (w ++ [b]), []) := by
        simp [symbolOf, ordinary, LexMode.step, part]
      rw [List.dropWhile_cons_of_pos part] at ends
      rw [located_silent step, List.count_singleton, if_neg (by simpa using ordinary),
        List.takeWhile_cons_of_pos part, List.dropWhile_cons_of_pos part, Nat.add_zero,
        ih _ ends, List.append_assoc]
      rfl
    · have step : (LexMode.word w).step (symbolOf b) =
          ((LexMode.stepCode (symbolOf b)).1, .word w :: (LexMode.stepCode (symbolOf b)).2) := by
        unfold symbolOf
        split
        · rfl
        · simp [LexMode.step, part]
      rw [located_cons, step, List.takeWhile_cons_of_neg part, List.dropWhile_cons_of_neg part,
        located_cons, List.append_nil]
      rfl

theorem Ended.dropWhile_ne_nil (ended : Ended (b :: rest)) (start : isWordStart b = true) :
    rest.dropWhile isWordPart ≠ [] := by
  intro all
  rw [List.dropWhile_eq_nil_iff] at all
  have feed := ended _ (List.getLast?_eq_some_getLast (List.cons_ne_nil b rest))
  have member : lineFeed ∈ b :: rest := feed ▸ List.getLast_mem _
  rcases List.mem_cons.mp member with rfl | later
  · exact absurd start (by decide)
  · exact absurd (all _ later) (by decide)

theorem located_slash (row : Nat) {t : Text} (more : t ≠ [])
    (other : t.head? ≠ some (byte '/') ∧ t.head? ≠ some (byte '*')) :
    LexMode.slash.located row (textSymbols t) =
      (.punct (byte '/'), row + 1) :: LexMode.code.located row (textSymbols t) := by
  cases t with
  | nil => exact absurd rfl more
  | cons c rest =>
    have plain : c ≠ byte '/' ∧ c ≠ byte '*' := by simpa using other
    have step : LexMode.slash.step (symbolOf c) =
        ((LexMode.stepCode (symbolOf c)).1,
          .punct (byte '/') :: (LexMode.stepCode (symbolOf c)).2) := by
      simp only [LexMode.step, isByte_symbolOf c (show byte '/' ≠ lineFeed by decide),
        isByte_symbolOf c (show byte '*' ≠ lineFeed by decide), plain, decide_false,
        Bool.false_eq_true, if_false]
    rw [located_cons, step, located_cons]
    rfl

theorem located_openQuote (row : Nat) {t : Text} (single : t.take 2 ≠ [byte '"', byte '"']) :
    LexMode.openQuote.located row (textSymbols t) =
      LexMode.code.located (row + (cutQuoted (byte '"') t).1.count lineFeed)
        (textSymbols (cutQuoted (byte '"') t).2) := by
  cases t with
  | nil => rfl
  | cons c rest =>
    by_cases closed : c = byte '"'
    · subst closed
      have step : LexMode.openQuote.step (symbolOf (byte '"')) = (.openQuotes, []) := rfl
      rw [located_silent step]
      cases rest with
      | nil => rfl
      | cons d rest =>
        have other : d ≠ byte '"' := by
          rintro rfl
          exact single rfl
        have code : LexMode.openQuotes.step (symbolOf d) = LexMode.code.step (symbolOf d) := by
          simp only [LexMode.step, isByte_symbolOf d (show byte '"' ≠ lineFeed by decide), other,
            decide_false, Bool.false_eq_true, if_false]
        rw [located_cons, code, ← located_cons]
        rfl
    · have quoted : LexMode.openQuote.step (symbolOf c) =
          (LexMode.quoted (byte '"')).step (symbolOf c) := by
        simp only [LexMode.step, isByte_symbolOf c (show byte '"' ≠ lineFeed by decide), closed,
          decide_false, Bool.false_eq_true, if_false]
      rw [located_cons, quoted, ← located_cons, located_quoted (by decide)]

theorem step_code (solid : isBlankByte b = false) (slash : b ≠ byte '/')
    (quotes : b ≠ byte '"' ∧ b ≠ byte '\'') :
    LexMode.code.step (symbolOf b) =
      if isWordStart b then (.word [b], []) else (.code, [.punct b]) := by
  simp only [isBlankByte, Bool.or_eq_false_iff, decide_eq_false_iff_not] at solid
  obtain ⟨⟨⟨⟨space, tab⟩, ret⟩, form⟩, feed⟩ := solid
  have feed' : b ≠ byte '\n' := feed
  simp only [symbolOf, feed, if_false, LexMode.step, LexMode.stepCode, space, tab, ret, form,
    feed', slash, quotes, decide_false, Bool.or_self, Bool.false_eq_true]

theorem located_codeLine (row : Nat) (t : Text) :
    LexMode.code.located row (textSymbols (byte '/' :: byte '/' :: t)) =
      LexMode.code.located row (textSymbols (t.dropWhile (· ≠ lineFeed))) := by
  have first : LexMode.code.step (symbolOf (byte '/')) = (.slash, []) := rfl
  have second : LexMode.slash.step (symbolOf (byte '/')) = (.lineComment, []) := rfl
  rw [located_silent first, located_silent second, located_lineComment]
  rfl

theorem located_codeBlock (row : Nat) (t : Text) :
    LexMode.code.located row (textSymbols (byte '/' :: byte '*' :: t)) =
      LexMode.code.located (row + (cutComment t).1.count lineFeed)
        (textSymbols (cutComment t).2) := by
  have first : LexMode.code.step (symbolOf (byte '/')) = (.slash, []) := rfl
  have second : LexMode.slash.step (symbolOf (byte '*')) = (.blockComment, []) := rfl
  rw [located_silent first, located_silent second, located_blockComment]
  rfl

theorem located_codeText (row : Nat) (t : Text) :
    LexMode.code.located row (textSymbols (byte '"' :: byte '"' :: byte '"' :: t)) =
      (.literal (byte '"'), row + 1) ::
        LexMode.code.located (row + (cutTextBlock t).1.count lineFeed)
          (textSymbols (cutTextBlock t).2) := by
  have first : LexMode.code.step (symbolOf (byte '"')) =
      (.openQuote, [.literal (byte '"')]) := rfl
  have second : LexMode.openQuote.step (symbolOf (byte '"')) = (.openQuotes, []) := rfl
  have third : LexMode.openQuotes.step (symbolOf (byte '"')) = (.textBlock, []) := rfl
  rw [located_cons, first, located_silent second, located_silent third, located_textBlock]
  rfl

theorem located_codeQuoted (row : Nat) {q : UInt8} {t : Text} (quote : q = byte '"' ∨ q = byte '\'')
    (single : ¬(q = byte '"' ∧ t.take 2 = [byte '"', byte '"'])) :
    LexMode.code.located row (textSymbols (q :: t)) =
      (.literal q, row + 1) ::
        LexMode.code.located (row + (cutQuoted q t).1.count lineFeed)
          (textSymbols (cutQuoted q t).2) := by
  rcases quote with rfl | rfl
  · have step : LexMode.code.step (symbolOf (byte '"')) =
        (.openQuote, [.literal (byte '"')]) := rfl
    rw [located_cons, step, located_openQuote _ fun quotes => single ⟨rfl, quotes⟩]
    rfl
  · have step : LexMode.code.step (symbolOf (byte '\'')) =
        (.quoted (byte '\''), [.literal (byte '\'')]) := rfl
    rw [located_cons, step, located_quoted (by decide)]
    rfl

theorem located_codeWord (row : Nat) (ended : Ended (b :: rest)) (start : isWordStart b = true) :
    LexMode.code.located row (textSymbols (b :: rest)) =
      (.word (b :: rest.takeWhile isWordPart), row + 1) ::
        LexMode.code.located row (textSymbols (rest.dropWhile isWordPart)) := by
  have step : LexMode.code.step (symbolOf b) = (.word [b], []) := by
    have other : ∀ c, isWordStart c = false → b ≠ c := by
      rintro c no rfl
      exact absurd start (no ▸ Bool.false_ne_true)
    rw [step_code ?_ (other _ (by decide)) ⟨other _ (by decide), other _ (by decide)⟩, if_pos start]
    simp only [isBlankByte, Bool.or_eq_false_iff, decide_eq_false_iff_not]
    refine ⟨⟨⟨⟨?_, ?_⟩, ?_⟩, ?_⟩, ?_⟩ <;> exact other _ (by decide)
  have alone : [b].count lineFeed = 0 := by
    rw [List.count_singleton, if_neg]
    rintro feed
    rw [eq_of_beq feed] at start
    exact absurd start (by decide)
  rw [located_silent step, alone, located_word _ _ _ (ended.dropWhile_ne_nil start)]
  rfl

theorem located_codeMark (row : Nat) (ended : Ended (b :: rest)) (solid : isBlankByte b = false)
    (quotes : b ≠ byte '"' ∧ b ≠ byte '\'') (noWord : isWordStart b = false)
    (noComment : b = byte '/' → rest.head? ≠ some (byte '/') ∧ rest.head? ≠ some (byte '*')) :
    LexMode.code.located row (textSymbols (b :: rest)) =
      (.punct b, row + 1) ::
        LexMode.code.located (row + [b].count lineFeed) (textSymbols rest) := by
  by_cases slash : b = byte '/'
  · subst slash
    have step : LexMode.code.step (symbolOf (byte '/')) = (.slash, []) := rfl
    have more : rest ≠ [] := by
      rintro rfl
      exact absurd (ended (byte '/') rfl) (by decide)
    rw [located_silent step, located_slash _ more (noComment rfl)]
    rfl
  · rw [located_cons, step_code solid slash quotes, noWord]
    rfl

theorem count_takeWhile (p : UInt8 → Bool) (stops : p lineFeed = false) (t : Text) :
    (t.takeWhile p).count lineFeed = 0 := by
  rw [List.count_eq_zero]
  intro member
  exact absurd (List.mem_takeWhile_imp member) (stops ▸ Bool.false_ne_true)

theorem count_cons_other (other : b ≠ lineFeed) (t : Text) :
    (b :: t).count lineFeed = t.count lineFeed := List.count_cons_of_ne other

theorem located_cutPiece (row : Nat) (ended : Ended (b :: rest)) :
    LexMode.code.located row (textSymbols (b :: rest)) =
      (cutPiece b rest).1.lexeme?.toList.map (fun l => (l.token, row + 1)) ++
        LexMode.code.located (row + (cutPiece b rest).1.bytes.count lineFeed)
          (textSymbols (cutPiece b rest).2) := by
  unfold cutPiece
  split
  · rename_i blank
    exact located_silent (step_blank blank)
  rename_i solid
  have ordinary : b ≠ lineFeed := by
    rintro rfl
    exact solid (by decide)
  split
  · rename_i opened
    obtain ⟨rfl, second⟩ := opened
    obtain ⟨t, rfl⟩ : ∃ t, rest = byte '/' :: t := by cases rest <;> simp_all
    simp only [SourcePiece.bytes, count_cons_other ordinary,
      count_takeWhile (fun c => c ≠ lineFeed) (by decide)]
    rw [located_codeLine, List.dropWhile_cons_of_pos (by decide)]
    rfl
  split
  · rename_i opened
    obtain ⟨rfl, second⟩ := opened
    obtain ⟨t, rfl⟩ : ∃ t, rest = byte '*' :: t := by cases rest <;> simp_all
    simp only [SourcePiece.bytes, prepend, List.cons_append, List.nil_append,
      count_cons_other ordinary, count_cons_other (show byte '*' ≠ lineFeed by decide)]
    exact located_codeBlock row t
  rename_i noLine noBlock
  split
  · rename_i opened
    obtain ⟨rfl, quotes⟩ := opened
    obtain ⟨t, rfl⟩ : ∃ t, rest = byte '"' :: byte '"' :: t :=
      ⟨rest.drop 2, by rw [← List.take_append_drop 2 rest, quotes]; rfl⟩
    simp only [SourcePiece.bytes, Lexeme.bytes, prepend, List.cons_append, List.nil_append,
      count_cons_other ordinary]
    exact located_codeText row t
  rename_i noText
  split
  · rename_i quote
    simp only [SourcePiece.bytes, Lexeme.bytes, prepend, List.cons_append, List.nil_append,
      count_cons_other ordinary]
    exact located_codeQuoted row quote noText
  rename_i noQuote
  split
  · rename_i start
    simp only [SourcePiece.bytes, Lexeme.bytes, count_cons_other ordinary,
      count_takeWhile isWordPart (by decide)]
    exact located_codeWord row ended start
  · rename_i noWord
    exact located_codeMark row ended (Bool.eq_false_iff.mpr solid) (not_or.mp noQuote)
      (Bool.eq_false_iff.mpr noWord)
      fun slash => ⟨fun line => noLine ⟨slash, line⟩, fun block => noBlock ⟨slash, block⟩⟩

/-- The machine and the cutting into pieces agree on every ended text. -/
theorem located_pieces (row : Nat) (text : Text) (ended : Ended text) :
    LexMode.code.located row (textSymbols text) =
      (locate (row + 1) (pieces text)).map fun l => (l.1.token, l.2) := by
  fun_induction pieces text generalizing row with
  | case1 => rfl
  | case2 b rest ih =>
    have left : Ended (cutPiece b rest).2 := by
      rw [← cutPiece_append b rest] at ended
      exact ended.of_append
    rw [located_cutPiece row ended, ih _ left, locate, List.map_append, List.map_map]
    rw [show row + 1 + (cutPiece b rest).1.bytes.count lineFeed =
      row + (cutPiece b rest).1.bytes.count lineFeed + 1 by omega]
    rfl

end Machine

theorem fileTokens_fileLexemes {lines : List Text}
    (unbroken : ∀ line ∈ lines, lineFeed ∉ line) :
    fileTokens lines = (fileLexemes lines).map fun l => (l.1.token, l.2) := by
  unfold fileTokens fileLexemes
  rw [symbols_eq unbroken]
  exact located_pieces 0 (fileText lines) (ended_fileText lines)

end JavadocLint
