import Mathlib
import JavadocLint.Java.Token

/- The tokens of a file by a second route. The text of the file, with a line feed after every line,
   is cut from the front into pieces: blanks, comments, literals, words and marks. The pieces put
   together are the text, so the line of a piece is one more than the line feeds before it. -/
namespace JavadocLint

def lineFeed : UInt8 := byte '\n'

def fileText (lines : List Text) : Text := lines.flatMap (· ++ [lineFeed])

/-- A token with all its bytes; a literal that ends with its line includes the line feed. -/
inductive Lexeme where
  | word (w : Text)
  | literal (bytes : Text)
  | mark (b : UInt8)
  deriving DecidableEq, Repr

inductive SourcePiece where
  | blank (b : UInt8)
  | comment (bytes : Text)
  | lexeme (l : Lexeme)
  deriving DecidableEq, Repr

abbrev LocatedLexeme := Lexeme × Nat

namespace Lexeme

def bytes : Lexeme → Text
  | .word w => w
  | .literal bytes => bytes
  | .mark b => [b]

def token : Lexeme → Token
  | .word w => .word w
  | .literal bytes => .literal (bytes.headD 0)
  | .mark b => .punct b

def endsMember (l : Lexeme) : Bool :=
  l = .mark (byte ';') || l = .mark (byte '\x7b') || l = .mark (byte '\x7d')

end Lexeme

namespace SourcePiece

def bytes : SourcePiece → Text
  | .blank b => [b]
  | .comment bytes => bytes
  | .lexeme l => l.bytes

def lexeme? : SourcePiece → Option Lexeme
  | .lexeme l => some l
  | _ => none

end SourcePiece

def isBlankByte (b : UInt8) : Bool :=
  b = byte ' ' || b = byte '\t' || b = byte '\r' || b = 0x0C || b = lineFeed

section Cuts

def prepend (bytes : Text) (cut : Text × Text) : Text × Text := (bytes ++ cut.1, cut.2)

def cutComment : Text → Text × Text
  | b :: c :: rest =>
    if b = byte '*' ∧ c = byte '/' then ([b, c], rest) else prepend [b] (cutComment (c :: rest))
  | short => (short, [])

def cutTextBlock : Text → Text × Text
  | b :: c :: d :: rest =>
    if b = byte '\\' then prepend [b, c] (cutTextBlock (d :: rest))
    else if b = byte '"' ∧ c = byte '"' ∧ d = byte '"' then ([b, c, d], rest)
    else prepend [b] (cutTextBlock (c :: d :: rest))
  | short => (short, [])

/-- Cuts after the end of a string or character literal that has begun. Its line ends it, even where
    a backslash stands last. -/
def cutQuoted (quote : UInt8) : Text → Text × Text
  | b :: c :: rest =>
    if b = byte '\\' then
      if c = lineFeed then ([b, c], rest) else prepend [b, c] (cutQuoted quote rest)
    else if b = quote ∨ b = lineFeed then ([b], c :: rest)
    else prepend [b] (cutQuoted quote (c :: rest))
  | short => (short, [])

def cutPiece (b : UInt8) (rest : Text) : SourcePiece × Text :=
  if isBlankByte b then (.blank b, rest)
  else if b = byte '/' ∧ rest.head? = some (byte '/') then
    (.comment (b :: rest.takeWhile (· ≠ lineFeed)), rest.dropWhile (· ≠ lineFeed))
  else if b = byte '/' ∧ rest.head? = some (byte '*') then
    let cut := prepend [b, byte '*'] (cutComment rest.tail)
    (.comment cut.1, cut.2)
  else if b = byte '"' ∧ rest.take 2 = [byte '"', byte '"'] then
    let cut := prepend [b, b, b] (cutTextBlock (rest.drop 2))
    (.lexeme (.literal cut.1), cut.2)
  else if b = byte '"' ∨ b = byte '\'' then
    let cut := prepend [b] (cutQuoted b rest)
    (.lexeme (.literal cut.1), cut.2)
  else if isWordStart b then
    (.lexeme (.word (b :: rest.takeWhile isWordPart)), rest.dropWhile isWordPart)
  else (.lexeme (.mark b), rest)

theorem cutComment_append (t : Text) : (cutComment t).1 ++ (cutComment t).2 = t := by
  fun_induction cutComment t with
  | case1 b c rest closed => rfl
  | case2 b c rest going ih => simp [prepend, ih]
  | case3 short => simp

theorem cutTextBlock_append (t : Text) : (cutTextBlock t).1 ++ (cutTextBlock t).2 = t := by
  fun_induction cutTextBlock t with
  | case1 c d rest ih => simp [prepend, ih]
  | case2 b c d rest plain closed => rfl
  | case3 b c d rest plain going ih => simp [prepend, ih]
  | case4 short => simp

theorem cutQuoted_append (quote : UInt8) (t : Text) :
    (cutQuoted quote t).1 ++ (cutQuoted quote t).2 = t := by
  fun_induction cutQuoted quote t with
  | case1 => rfl
  | case2 c rest going ih => simp [prepend, ih]
  | case3 b c rest plain closed => rfl
  | case4 b c rest plain going ih => simp [prepend, ih]
  | case5 short => simp

theorem cutPiece_append (b : UInt8) (rest : Text) :
    (cutPiece b rest).1.bytes ++ (cutPiece b rest).2 = b :: rest := by
  unfold cutPiece
  split
  · rfl
  split
  · simp [SourcePiece.bytes]
  split
  · rename_i opened
    obtain ⟨rfl, second⟩ := opened
    obtain ⟨c, tail, rfl⟩ : ∃ c tail, rest = c :: tail := by cases rest <;> simp_all
    simp_all [SourcePiece.bytes, prepend, cutComment_append]
  split
  · rename_i opened
    obtain ⟨rfl, quotes⟩ := opened
    have whole := List.take_append_drop 2 rest
    rw [quotes] at whole
    simp only [SourcePiece.bytes, Lexeme.bytes, prepend, List.cons_append, List.nil_append,
      cutTextBlock_append]
    exact congrArg _ whole
  split
  · simp [SourcePiece.bytes, Lexeme.bytes, prepend, cutQuoted_append]
  split
  · simp [SourcePiece.bytes, Lexeme.bytes]
  · rfl

theorem cutPiece_shorter (b : UInt8) (rest : Text) :
    (cutPiece b rest).2.length < (b :: rest).length := by
  have whole := congrArg List.length (cutPiece_append b rest)
  rw [List.length_append] at whole
  have nonempty : 0 < (cutPiece b rest).1.bytes.length := by
    unfold cutPiece
    split
    · simp [SourcePiece.bytes]
    split
    · simp [SourcePiece.bytes]
    split
    · simp [SourcePiece.bytes, prepend]
    split
    · simp [SourcePiece.bytes, Lexeme.bytes, prepend]
    split
    · simp [SourcePiece.bytes, Lexeme.bytes, prepend]
    split
    · simp [SourcePiece.bytes, Lexeme.bytes]
    · simp [SourcePiece.bytes, Lexeme.bytes]
  omega

end Cuts

def pieces : Text → List SourcePiece
  | [] => []
  | b :: rest => (cutPiece b rest).1 :: pieces (cutPiece b rest).2
termination_by text => text.length
decreasing_by exact cutPiece_shorter b rest

def locate (line : Nat) : List SourcePiece → List LocatedLexeme
  | [] => []
  | p :: rest => (p.lexeme?.toList.map (·, line)) ++ locate (line + p.bytes.count lineFeed) rest

def fileLexemes (lines : List Text) : List LocatedLexeme := locate 1 (pieces (fileText lines))

def Ended (text : Text) : Prop := ∀ b ∈ text.getLast?, b = lineFeed

theorem Ended.of_append {first second : Text} (ended : Ended (first ++ second)) :
    Ended second := by
  intro b last
  refine ended b ?_
  rw [List.getLast?_append]
  simp [Option.mem_def.mp last]

theorem ended_fileText (lines : List Text) : Ended (fileText lines) := by
  induction lines with
  | nil => simp [fileText, Ended]
  | cons line rest ih =>
    intro b last
    simp only [fileText, List.flatMap_cons, List.append_assoc, List.getLast?_append] at last ih
    cases later : (rest.flatMap (· ++ [lineFeed])).getLast? with
    | none => simpa [later, eq_comm] using last
    | some c =>
      have feed := ih c later
      simpa [later, feed, eq_comm] using last

section Proper

/-- What the lexemes of an ended text have in common: a word has nothing but word bytes, and a
    literal begins with a quote and ends with a quote or its line. -/
def Lexeme.Proper : Lexeme → Prop
  | .word w => ∀ b ∈ w, isWordPart b = true
  | .literal bytes => (∃ q ∈ bytes.head?, q = byte '"' ∨ q = byte '\'') ∧
      ∀ b ∈ bytes.getLast?, b = byte '"' ∨ b = byte '\'' ∨ b = lineFeed
  | .mark _ => True

theorem Ended.tail {b : UInt8} {t : Text} (ended : Ended (b :: t)) : Ended t :=
  Ended.of_append (show Ended ([b] ++ t) from ended)

theorem Ended.last {t : Text} (ended : Ended t) (more : t ≠ []) : lineFeed ∈ t.getLast? := by
  have last := List.getLast?_eq_some_getLast more
  rw [last, ended _ last]
  rfl

theorem last_prepend {which : UInt8 → Prop} {bytes : Text} {cut : Text × Text}
    (found : ∃ b ∈ cut.1.getLast?, which b) : ∃ b ∈ (prepend bytes cut).1.getLast?, which b := by
  obtain ⟨b, last, holds⟩ := found
  refine ⟨b, ?_, holds⟩
  simp [prepend, List.getLast?_append, Option.mem_def.mp last]

theorem cutTextBlock_last {t : Text} (ended : Ended t) (more : t ≠ []) :
    ∃ b ∈ (cutTextBlock t).1.getLast?, b = byte '"' ∨ b = lineFeed := by
  fun_induction cutTextBlock t with
  | case1 c d rest ih => exact last_prepend (ih ended.tail.tail (List.cons_ne_nil d rest))
  | case2 b c d rest plain closed => exact ⟨d, rfl, .inl closed.2.2⟩
  | case3 b c d rest plain going ih =>
    exact last_prepend (ih ended.tail (List.cons_ne_nil c _))
  | case4 short brief => exact ⟨lineFeed, ended.last more, .inr rfl⟩

theorem cutQuoted_last {q : UInt8} {t : Text} (ended : Ended t) (more : t ≠ []) :
    ∃ b ∈ (cutQuoted q t).1.getLast?, b = q ∨ b = lineFeed := by
  fun_induction cutQuoted q t with
  | case1 rest => exact ⟨lineFeed, rfl, .inr rfl⟩
  | case2 c rest going ih =>
    refine last_prepend (ih ended.tail.tail ?_)
    rintro rfl
    exact going (ended.tail c rfl)
  | case3 b c rest plain closed => exact ⟨b, rfl, closed⟩
  | case4 b c rest plain going ih =>
    exact last_prepend (ih ended.tail (List.cons_ne_nil c rest))
  | case5 short brief => exact ⟨lineFeed, ended.last more, .inr rfl⟩

theorem proper_literal {q : UInt8} {more : Text} {cut : Text × Text}
    (quote : q = byte '"' ∨ q = byte '\'')
    (last : ∃ b ∈ cut.1.getLast?, b = q ∨ b = lineFeed) :
    (Lexeme.literal (prepend (q :: more) cut).1).Proper := by
  refine ⟨⟨q, rfl, quote⟩, ?_⟩
  obtain ⟨b, found, which⟩ := @last_prepend _ (q :: more) _ last
  intro c other
  cases Option.some.inj ((Option.mem_def.mp found).symm.trans other)
  rcases which with rfl | feed
  · exact quote.imp_right .inl
  · exact .inr (.inr feed)

theorem proper_cutPiece {b : UInt8} {rest : Text} (ended : Ended (b :: rest)) :
    ∀ l ∈ (cutPiece b rest).1.lexeme?, l.Proper := by
  unfold cutPiece
  split
  · simp [SourcePiece.lexeme?]
  split
  · simp [SourcePiece.lexeme?]
  split
  · simp [SourcePiece.lexeme?]
  split
  · rename_i opened
    obtain ⟨rfl, quotes⟩ := opened
    rintro l ⟨⟩
    obtain ⟨t, rfl⟩ : ∃ t, rest = byte '"' :: byte '"' :: t :=
      ⟨rest.drop 2, by rw [← List.take_append_drop 2 rest, quotes]; rfl⟩
    have last := ended.tail.tail.tail
    refine proper_literal (.inl rfl) (cutTextBlock_last last ?_)
    rintro rfl
    exact absurd (ended (byte '"') rfl) (by decide)
  split
  · rename_i quote
    rintro l ⟨⟩
    refine proper_literal quote (cutQuoted_last ended.tail ?_)
    rintro rfl
    rcases quote with rfl | rfl <;> exact absurd (ended _ rfl) (by decide)
  split
  · rename_i start
    rintro l ⟨⟩ c member
    rcases List.mem_cons.mp member with rfl | later
    · simp [isWordPart, start]
    · exact List.mem_takeWhile_imp later
  · rintro l ⟨⟩
    trivial

theorem proper_locate {text : Text} (ended : Ended text) (line : Nat) :
    ∀ l ∈ locate line (pieces text), l.1.Proper := by
  fun_induction pieces text generalizing line with
  | case1 =>
    intro l member
    cases member
  | case2 b rest ih =>
    have left : Ended (cutPiece b rest).2 := by
      rw [← cutPiece_append b rest] at ended
      exact ended.of_append
    intro l member
    rw [locate] at member
    rcases List.mem_append.mp member with here | later
    · obtain ⟨l', found, rfl⟩ := List.mem_map.mp here
      exact proper_cutPiece ended l' (Option.mem_toList.mp found)
    · exact ih left _ l later

theorem proper_fileLexemes (lines : List Text) : ∀ l ∈ fileLexemes lines, l.1.Proper :=
  proper_locate (ended_fileText lines) 1

end Proper

end JavadocLint
