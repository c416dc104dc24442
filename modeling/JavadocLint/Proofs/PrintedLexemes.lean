import Mathlib
import JavadocLint.Proofs.SourceLexemes

/- Printing lexemes. Words, literals and marks are written one after another, each followed by a
   separator that begins with a blank. Cutting the printed text gives the lexemes back, each on the
   line where it was printed. -/
namespace JavadocLint

section Grammar

def isWordText : Text → Bool
  | [] => false
  | b :: rest => isWordStart b && rest.all isWordPart

structure Word where
  bytes : Text
  isWord : isWordText bytes = true

def isQuotedBody (quote : UInt8) : Text → Bool
  | b :: c :: rest =>
    if b = byte '\\' then c ≠ lineFeed && isQuotedBody quote rest
    else b ≠ quote && b ≠ lineFeed && isQuotedBody quote (c :: rest)
  | [b] => b ≠ byte '\\' && b ≠ quote && b ≠ lineFeed
  | [] => true

def textQuotes : Text := [byte '"', byte '"', byte '"']

def isTextBody : Text → Bool
  | b :: c :: rest =>
    if b = byte '\\' then isTextBody rest
    else !textQuotes.isPrefixOf (b :: c :: rest ++ textQuotes) && isTextBody (c :: rest)
  | [b] => b ≠ byte '\\' && b ≠ byte '"'
  | [] => true

inductive Quote where
  | single
  | double
  deriving DecidableEq, Repr

def Quote.mark : Quote → UInt8
  | .single => byte '\''
  | .double => byte '"'

/-- A literal that is not closed ends with its line, where a backslash may stand last. -/
inductive Literal where
  | closed (quote : Quote) (body : Text) (isBody : isQuotedBody quote.mark body = true)
  | unclosed (quote : Quote) (body : Text) (isBody : isQuotedBody quote.mark body = true)
      (backslash : Bool)
  | text (body : Text) (isBody : isTextBody body = true)

def Literal.bytes : Literal → Text
  | .closed quote body _ => quote.mark :: (body ++ [quote.mark])
  | .unclosed quote body _ backslash =>
    quote.mark :: (body ++ (if backslash then [byte '\\', lineFeed] else [lineFeed]))
  | .text body _ => textQuotes ++ (body ++ textQuotes)

def isMarkByte (b : UInt8) : Bool :=
  !isBlankByte b && b ≠ byte '"' && b ≠ byte '\'' && !isWordStart b

structure Mark where
  mark : UInt8
  isMark : isMarkByte mark = true

inductive Printable : Lexeme → Prop
  | word (w : Word) : Printable (.word w.bytes)
  | literal (l : Literal) : Printable (.literal l.bytes)
  | mark (m : Mark) : Printable (.mark m.mark)

def isCommentBody : Text → Bool
  | b :: c :: rest => !(b = byte '*' && c = byte '/') && isCommentBody (c :: rest)
  | _ => true

inductive Gap where
  | nil
  | blank (b : UInt8) (isBlank : isBlankByte b = true) (rest : Gap)
  | lineComment (body : Text) (oneLine : lineFeed ∉ body) (rest : Gap)
  | blockComment (body : Text) (isBody : isCommentBody body = true) (rest : Gap)

def Gap.text : Gap → Text
  | .nil => []
  | .blank b _ rest => b :: rest.text
  | .lineComment body _ rest => byte '/' :: byte '/' :: (body ++ lineFeed :: rest.text)
  | .blockComment body _ rest =>
    byte '/' :: byte '*' :: (body ++ byte '*' :: byte '/' :: rest.text)

structure Separator where
  first : UInt8
  isBlank : isBlankByte first = true
  rest : Gap

def Separator.text (s : Separator) : Text := s.first :: s.rest.text

/-- What stands before the first lexeme, and after each one by its number. -/
structure Layout where
  lead : Gap
  after : Nat → Separator

namespace Layout

def spread (layout : Layout) : Nat → List Lexeme → Text
  | _, [] => []
  | n, l :: rest => l.bytes ++ (layout.after n).text ++ layout.spread (n + 1) rest

def print (layout : Layout) (lexemes : List Lexeme) : Text :=
  layout.lead.text ++ layout.spread 0 lexemes

def line (layout : Layout) (lexemes : List Lexeme) (n : Nat) : Nat :=
  1 + (layout.print (lexemes.take n)).count lineFeed

end Layout

def numbered (line : Nat → Nat) : Nat → List Lexeme → List LocatedLexeme
  | _, [] => []
  | n, l :: rest => (l, line n) :: numbered line (n + 1) rest

end Grammar

section Cutting

variable {c : UInt8} {tail : Text}

theorem cutComment_closed {body : Text} (isBody : isCommentBody body = true) (rest : Text) :
    cutComment (body ++ byte '*' :: byte '/' :: rest) =
      (body ++ [byte '*', byte '/'], rest) := by
  induction body with
  | nil => simp [cutComment]
  | cons b body ih =>
    cases body with
    | nil => simp [cutComment, prepend, byte]
    | cons c body =>
      simp only [isCommentBody, Bool.and_eq_true, Bool.not_eq_true', Bool.and_eq_false_iff,
        decide_eq_false_iff_not] at isBody
      have going : ¬(b = byte '*' ∧ c = byte '/') := fun both =>
        isBody.1.elim (· both.1) (· both.2)
      have tail := ih isBody.2
      rw [List.cons_append] at tail
      rw [List.cons_append, List.cons_append, cutComment, if_neg going, tail]
      rfl

theorem cutQuoted_body {q : UInt8} {body : Text} (isBody : isQuotedBody q body = true)
    {rest : Text} (more : rest ≠ []) :
    cutQuoted q (body ++ rest) = prepend body (cutQuoted q rest) := by
  obtain ⟨d, rest, rfl⟩ := List.exists_cons_of_ne_nil more
  fun_induction isQuotedBody q body with
  | case1 c body ih =>
    simp only [Bool.and_eq_true, decide_eq_true_eq] at isBody
    rw [List.cons_append, List.cons_append, cutQuoted, if_pos rfl, if_neg isBody.1, ih isBody.2]
    rfl
  | case2 b c body plain ih =>
    simp only [Bool.and_eq_true, decide_eq_true_eq] at isBody
    have tail := ih isBody.2
    rw [List.cons_append] at tail
    rw [List.cons_append, List.cons_append, cutQuoted, if_neg plain,
      if_neg (not_or.mpr isBody.1), tail]
    rfl
  | case3 b =>
    simp only [Bool.and_eq_true, decide_eq_true_eq] at isBody
    rw [List.cons_append, List.nil_append, cutQuoted, if_neg isBody.1.1,
      if_neg (not_or.mpr ⟨isBody.1.2, isBody.2⟩)]
  | case4 => rfl

theorem cutTextBlock_body {body : Text} (isBody : isTextBody body = true) (rest : Text) :
    cutTextBlock (body ++ (textQuotes ++ rest)) = (body ++ textQuotes, rest) := by
  fun_induction isTextBody body with
  | case1 c body ih =>
    obtain ⟨d, later, split⟩ : ∃ d later, body ++ (textQuotes ++ rest) = d :: later :=
      List.exists_cons_of_ne_nil (by simp [textQuotes])
    have tail := ih isBody
    rw [split] at tail
    rw [List.cons_append, List.cons_append, split, cutTextBlock, if_pos rfl, tail]
    rfl
  | case2 b c body plain ih =>
    simp only [Bool.and_eq_true, Bool.not_eq_true'] at isBody
    obtain ⟨d, later, split⟩ : ∃ d later, body ++ (textQuotes ++ rest) = d :: later :=
      List.exists_cons_of_ne_nil (by simp [textQuotes])
    have tail := ih isBody.2
    rw [List.cons_append, split] at tail
    have going : ¬(b = byte '"' ∧ c = byte '"' ∧ d = byte '"') := by
      rintro ⟨rfl, rfl, rfl⟩
      have first : (body ++ textQuotes).head? = some (byte '"') := by
        cases body <;> simp_all [textQuotes]
      obtain ⟨more, eq⟩ := List.head?_eq_some_iff.mp first
      have early := isBody.1
      rw [List.cons_append, List.cons_append, eq] at early
      simp [textQuotes] at early
    rw [List.cons_append, List.cons_append, split, cutTextBlock, if_neg plain, if_neg going, tail]
    rfl
  | case3 b =>
    simp only [Bool.and_eq_true, decide_eq_true_eq] at isBody
    simp [cutTextBlock, textQuotes, prepend, isBody, show byte '"' ≠ byte '\\' by decide]
  | case4 => rfl

theorem blank_cases {b : UInt8} (blank : isBlankByte c = true) (other : isBlankByte b = false) :
    c ≠ b := by
  rintro rfl
  exact absurd blank (other ▸ Bool.false_ne_true)

theorem blank_wordPart (blank : isBlankByte c = true) : isWordPart c = false := by
  simp only [isBlankByte, Bool.or_eq_true, decide_eq_true_eq] at blank
  rcases blank with (((rfl | rfl) | rfl) | rfl) | rfl <;> decide

theorem wordStart_other {b : UInt8} (start : isWordStart b = true) {d : UInt8}
    (other : isWordStart d = false) : b ≠ d := by
  rintro rfl
  exact absurd start (other ▸ Bool.false_ne_true)

theorem wordStart_solid {b : UInt8} (start : isWordStart b = true) : isBlankByte b = false := by
  by_contra blank
  have part := blank_wordPart (Bool.not_eq_false _ ▸ blank)
  simp [isWordPart, start] at part

theorem cutPiece_word {b : UInt8} {rest : Text} (start : isWordStart b = true)
    (parts : rest.all isWordPart = true) (blank : isBlankByte c = true) :
    cutPiece b (rest ++ c :: tail) = (.lexeme (.word (b :: rest)), c :: tail) := by
  have slash : b ≠ byte '/' := wordStart_other start (by decide)
  have double : b ≠ byte '"' := wordStart_other start (by decide)
  have single : b ≠ byte '\'' := wordStart_other start (by decide)
  have all : ∀ d ∈ rest, isWordPart d = true := List.all_eq_true.mp parts
  have taken : (rest ++ c :: tail).takeWhile isWordPart = rest := by
    rw [List.takeWhile_append_of_pos all, List.takeWhile_cons_of_neg]
    · simp
    · simp [blank_wordPart blank]
  have left : (rest ++ c :: tail).dropWhile isWordPart = c :: tail := by
    rw [List.dropWhile_append_of_pos all, List.dropWhile_cons_of_neg]
    simp [blank_wordPart blank]
  simp [cutPiece, wordStart_solid start, slash, double, single, start, taken, left]

theorem cutPiece_mark {b : UInt8} (isMark : isMarkByte b = true) (blank : isBlankByte c = true) :
    cutPiece b (c :: tail) = (.lexeme (.mark b), c :: tail) := by
  simp only [isMarkByte, Bool.and_eq_true, Bool.not_eq_true', decide_eq_true_eq] at isMark
  obtain ⟨⟨⟨solid, double⟩, single⟩, noWord⟩ := isMark
  have slash : c ≠ byte '/' := blank_cases blank (by decide)
  have star : c ≠ byte '*' := blank_cases blank (by decide)
  simp [cutPiece, solid, double, single, noWord, slash, star]

theorem cutPiece_quoted {q : Quote} {body rest : Text}
    (noText : q = .double → (body ++ rest).take 2 ≠ [byte '"', byte '"'])
    (isBody : isQuotedBody q.mark body = true) (more : rest ≠ []) :
    cutPiece q.mark (body ++ rest) =
      (.lexeme (.literal (q.mark :: (body ++ (cutQuoted q.mark rest).1))),
        (cutQuoted q.mark rest).2) := by
  cases q with
  | single =>
    have cut : cutQuoted (byte '\'') (body ++ rest) = _ := cutQuoted_body isBody more
    simp [cutPiece, Quote.mark, cut, prepend,
      show isBlankByte (byte '\'') = false by decide, show byte '\'' ≠ byte '/' by decide,
      show byte '\'' ≠ byte '"' by decide]
  | double =>
    have cut : cutQuoted (byte '"') (body ++ rest) = _ := cutQuoted_body isBody more
    simp [cutPiece, Quote.mark, cut, prepend, noText rfl,
      show isBlankByte (byte '"') = false by decide, show byte '"' ≠ byte '/' by decide]

theorem quotedBody_head {q : Quote} {body : Text} (isBody : isQuotedBody q.mark body = true) :
    body.head? ≠ some q.mark := by
  have noEscape : q.mark ≠ byte '\\' := by cases q <;> decide
  rcases body with _ | ⟨b, _ | ⟨d, rest⟩⟩
  · simp
  · simp only [isQuotedBody, Bool.and_eq_true, decide_eq_true_eq] at isBody
    simpa using isBody.1.2
  · by_cases escape : b = byte '\\'
    · simpa [escape] using noEscape.symm
    · simp only [isQuotedBody, escape, if_false, Bool.and_eq_true, decide_eq_true_eq] at isBody
      simpa using isBody.1.1

theorem quotedBody_single {q : Quote} {body rest : Text} (isBody : isQuotedBody q.mark body = true)
    (ending : rest.take 2 ≠ [byte '"', byte '"']) :
    q = .double → (body ++ rest).take 2 ≠ [byte '"', byte '"'] := by
  rintro rfl
  cases body with
  | nil => exact ending
  | cons b body =>
    have other : b ≠ byte '"' := by simpa [Quote.mark] using quotedBody_head isBody
    simp [other]

theorem cutPiece_literal (l : Literal) (blank : isBlankByte c = true) {b : UInt8} {rest : Text}
    (split : l.bytes = b :: rest) :
    cutPiece b (rest ++ c :: tail) = (.lexeme (.literal l.bytes), c :: tail) := by
  have notQuote : c ≠ byte '"' := blank_cases blank (by decide)
  cases l with
  | closed quote body isBody =>
    obtain ⟨rfl, rfl⟩ := List.cons.inj split
    rw [List.append_assoc, cutPiece_quoted (quotedBody_single isBody ?_) isBody (by simp)]
    · cases quote <;> simp [cutQuoted, Quote.mark, Literal.bytes,
        show byte '"' ≠ byte '\\' by decide, show byte '\'' ≠ byte '\\' by decide]
    · simp [notQuote]
  | unclosed quote body isBody backslash =>
    obtain ⟨rfl, rfl⟩ := List.cons.inj split
    rw [List.append_assoc, cutPiece_quoted (quotedBody_single isBody ?_) isBody]
    · cases backslash <;> simp [cutQuoted, Literal.bytes, show lineFeed ≠ byte '\\' by decide]
    · cases backslash <;> simp
    · cases backslash <;>
        simp [show lineFeed ≠ byte '"' by decide, show byte '\\' ≠ byte '"' by decide]
  | text body isBody =>
    obtain ⟨rfl, rfl⟩ := List.cons.inj split
    have cut := cutTextBlock_body isBody (c :: tail)
    simp only [textQuotes, List.cons_append, List.nil_append] at cut
    simp [cutPiece, Literal.bytes, textQuotes, prepend, cut,
      show isBlankByte (byte '"') = false by decide, show byte '"' ≠ byte '/' by decide]

theorem cutPiece_printable {l : Lexeme} (printable : Printable l) (blank : isBlankByte c = true) :
    ∃ b rest, l.bytes = b :: rest ∧
      cutPiece b (rest ++ c :: tail) = (.lexeme l, c :: tail) := by
  cases printable with
  | word w =>
    obtain ⟨bytes, isWord⟩ := w
    cases bytes with
    | nil => cases isWord
    | cons b rest =>
      obtain ⟨start, parts⟩ := (Bool.and_eq_true _ _).mp isWord
      exact ⟨b, rest, rfl, cutPiece_word start parts blank⟩
  | literal l =>
    obtain ⟨b, rest, split⟩ : ∃ b rest, l.bytes = b :: rest := by
      cases l <;> exact ⟨_, _, rfl⟩
    exact ⟨b, rest, split, cutPiece_literal l blank split⟩
  | mark m => exact ⟨m.mark, [], rfl, cutPiece_mark m.isMark blank⟩

end Cutting

section Printing

theorem locate_cut {line : Nat} {b : UInt8} {rest left : Text} {p : SourcePiece}
    (cut : cutPiece b rest = (p, left)) :
    locate line (pieces (b :: rest)) =
      p.lexeme?.toList.map (·, line) ++
        locate (line + p.bytes.count lineFeed) (pieces left) := by
  rw [pieces, cut, locate]

theorem locate_blank {b : UInt8} (isBlank : isBlankByte b = true) (line : Nat) (rest : Text) :
    locate line (pieces (b :: rest)) = locate (line + [b].count lineFeed) (pieces rest) := by
  have cut : cutPiece b rest = (.blank b, rest) := by simp [cutPiece, isBlank]
  exact locate_cut cut

theorem cutPiece_lineComment {body : Text} (oneLine : lineFeed ∉ body) (rest : Text) :
    cutPiece (byte '/') (byte '/' :: (body ++ lineFeed :: rest)) =
      (.comment (byte '/' :: byte '/' :: body), lineFeed :: rest) := by
  have inside : ∀ d ∈ byte '/' :: body, decide (d ≠ lineFeed) = true := by
    intro d member
    rcases List.mem_cons.mp member with rfl | later
    · decide
    · exact decide_eq_true fun feed => oneLine (feed ▸ later)
  have taken : (byte '/' :: body ++ lineFeed :: rest).takeWhile (· ≠ lineFeed) =
      byte '/' :: body := by
    rw [List.takeWhile_append_of_pos inside, List.takeWhile_cons_of_neg (by simp)]
    simp
  have left : (byte '/' :: body ++ lineFeed :: rest).dropWhile (· ≠ lineFeed) =
      lineFeed :: rest := by
    rw [List.dropWhile_append_of_pos inside, List.dropWhile_cons_of_neg (by simp)]
  unfold cutPiece
  rw [if_neg (by decide), if_pos ⟨rfl, rfl⟩, ← List.cons_append, taken, left]

theorem cutPiece_blockComment {body : Text} (isBody : isCommentBody body = true) (rest : Text) :
    cutPiece (byte '/') (byte '*' :: (body ++ byte '*' :: byte '/' :: rest)) =
      (.comment (byte '/' :: byte '*' :: (body ++ [byte '*', byte '/'])), rest) := by
  unfold cutPiece
  rw [if_neg (by decide), if_neg (by simp [byte]), if_pos ⟨rfl, rfl⟩, List.tail_cons,
    cutComment_closed isBody]
  rfl

theorem locate_gap (g : Gap) (line : Nat) (rest : Text) :
    locate line (pieces (g.text ++ rest)) =
      locate (line + g.text.count lineFeed) (pieces rest) := by
  induction g generalizing line with
  | nil => rfl
  | blank b isBlank g ih =>
    rw [Gap.text, List.cons_append, locate_blank isBlank, ih, Nat.add_assoc, ← List.count_append]
    rfl
  | lineComment body oneLine g ih =>
    simp only [Gap.text, List.cons_append, List.append_assoc]
    rw [locate_cut (cutPiece_lineComment oneLine _), locate_blank (by decide), ih]
    simp only [SourcePiece.lexeme?, SourcePiece.bytes, Option.toList_none, List.map_nil,
      List.nil_append, Nat.add_assoc, ← List.count_append, List.cons_append]
    rw [List.append_assoc]
    rfl
  | blockComment body isBody g ih =>
    simp only [Gap.text, List.cons_append, List.append_assoc]
    rw [locate_cut (cutPiece_blockComment isBody _), ih]
    simp only [SourcePiece.lexeme?, SourcePiece.bytes, Option.toList_none, List.map_nil,
      List.nil_append, Nat.add_assoc, ← List.count_append, List.cons_append, List.append_assoc]

theorem locate_separator (s : Separator) (line : Nat) (rest : Text) :
    locate line (pieces (s.text ++ rest)) =
      locate (line + s.text.count lineFeed) (pieces rest) := by
  have gap := locate_gap (.blank s.first s.isBlank s.rest) line rest
  exact gap

theorem spread_append (layout : Layout) (n : Nat) (first second : List Lexeme) :
    layout.spread n (first ++ second) =
      layout.spread n first ++ layout.spread (n + first.length) second := by
  induction first generalizing n with
  | nil => rfl
  | cons l rest ih =>
    simp only [List.cons_append, Layout.spread, ih, List.length_cons, List.append_assoc]
    rw [show n + 1 + rest.length = n + (rest.length + 1) by omega]

theorem locate_spread (layout : Layout) (earlier later : List Lexeme)
    (printable : ∀ l ∈ later, Printable l) :
    locate (1 + (layout.print earlier).count lineFeed)
        (pieces (layout.spread earlier.length later)) =
      numbered (layout.line (earlier ++ later)) earlier.length later := by
  induction later generalizing earlier with
  | nil =>
    rw [Layout.spread, pieces]
    rfl
  | cons l later ih =>
    have tail := ih (earlier ++ [l]) fun l' member => printable l' (List.mem_cons_of_mem _ member)
    have here : layout.line (earlier ++ l :: later) earlier.length =
        1 + (layout.print earlier).count lineFeed := by
      rw [Layout.line, List.take_left]
    have before : (layout.print (earlier ++ [l])).count lineFeed =
        (layout.print earlier).count lineFeed + l.bytes.count lineFeed +
          (layout.after earlier.length).text.count lineFeed := by
      simp only [Layout.print, spread_append, Layout.spread, List.count_append, Nat.zero_add,
        List.count_nil, Nat.add_zero, Nat.add_assoc]
    have joined : earlier ++ [l] ++ later = earlier ++ l :: later := by simp
    rw [List.length_append, List.length_singleton, before, joined] at tail
    obtain ⟨b, rest, split, cut⟩ := @cutPiece_printable _
      ((layout.after earlier.length).rest.text ++ layout.spread (earlier.length + 1) later) l
      (printable l List.mem_cons_self) (layout.after earlier.length).isBlank
    have text : layout.spread earlier.length (l :: later) =
        b :: (rest ++ ((layout.after earlier.length).text ++
          layout.spread (earlier.length + 1) later)) := by
      rw [Layout.spread, List.append_assoc, split, List.cons_append]
    have next := locate_separator (layout.after earlier.length)
      (1 + (layout.print earlier).count lineFeed + l.bytes.count lineFeed)
      (layout.spread (earlier.length + 1) later)
    simp only [← Nat.add_assoc] at tail
    rw [text, numbered, here, ← tail, ← next]
    exact locate_cut cut

theorem fileLexemes_printed (layout : Layout) {lexemes : List Lexeme} {lines : List Text}
    (printable : ∀ l ∈ lexemes, Printable l) (printed : fileText lines = layout.print lexemes) :
    fileLexemes lines = numbered (layout.line lexemes) 0 lexemes := by
  have spread := locate_spread layout [] lexemes printable
  unfold fileLexemes
  rw [printed, Layout.print, locate_gap]
  simpa [Layout.print, Layout.spread] using spread

end Printing

end JavadocLint
