import Mathlib
import JavadocLint.Proofs.LocatedTokens

/- Comments and literals as a scan meets them in code. It passes each over as a whole: what it finds
   depends on where the comment or literal ends and not on the bytes inside, so these can be replaced
   by any others that do not end it. Nothing is said about a replacement that changes the length of a
   line. -/
namespace JavadocLint

/-- Whether a byte that is read in this mode is read in code. A word may go on, a slash may open a
    comment, and two quotes may open a text block. -/
def LexMode.inCodeAt (m : LexMode) (b : UInt8) : Bool :=
  match m with
  | .code => true
  | .word _ => !isWordPart b
  | .slash => b ≠ byte '/' && b ≠ byte '*'
  | .openQuotes => b ≠ byte '"'
  | _ => false

theorem LexMode.step_inCodeAt {m : LexMode} {b : UInt8} (inCode : m.inCodeAt b = true) :
    (m.step (.byte b)).1 = (LexMode.code.step (.byte b)).1 := by
  cases m <;> simp_all [inCodeAt, step, Symbol.isByte]

theorem LexMode.run_append (m : LexMode) (first second : List Symbol) :
    m.run (first ++ second) = (m.run first).run second := List.foldl_append

inductive Enclosure where
  | lineComment
  | blockComment
  | string
  | character
  | textBlock
  deriving DecidableEq, Repr

section Bodies

def backslash : Symbol := .byte (byte '\\')

def doubleQuote : Symbol := .byte (byte '"')

def commentEnd : List Symbol := [.byte (byte '*'), .byte (byte '/')]

def textBlockEnd : List Symbol := [doubleQuote, doubleQuote, doubleQuote]

/-- The text inside a string or character literal, and what ends it. A backslash takes the next
    byte with it, but not the end of the line. -/
inductive QuotedBody (quote : UInt8) : List Symbol → List Symbol → Prop where
  | closed : QuotedBody quote [] [.byte quote]
  | broken {s : Symbol} (feed : s.isFeed = true) : QuotedBody quote [] [s]
  | brokenEscape {s : Symbol} (feed : s.isFeed = true) : QuotedBody quote [backslash] [s]
  | plain {s : Symbol} {inside closing : List Symbol} (ordinary : s ≠ backslash)
      (other : s ≠ .byte quote) (unbroken : s.isFeed = false)
      (rest : QuotedBody quote inside closing) : QuotedBody quote (s :: inside) closing
  | escape {s : Symbol} {inside closing : List Symbol} (unbroken : s.isFeed = false)
      (rest : QuotedBody quote inside closing) :
      QuotedBody quote (backslash :: s :: inside) closing

/-- The text inside a text block, and what ends it: the first three quotes in a row, where a
    backslash takes the next byte or line end with it. -/
inductive TextBody : List Symbol → List Symbol → Prop where
  | closed : TextBody [] textBlockEnd
  | unclosed : TextBody [] []
  | plain {s : Symbol} {inside closing : List Symbol} (ordinary : s ≠ backslash)
      (going : ¬ textBlockEnd <+: s :: (inside ++ closing)) (rest : TextBody inside closing) :
      TextBody (s :: inside) closing
  | escape {s : Symbol} {inside closing : List Symbol} (rest : TextBody inside closing) :
      TextBody (backslash :: s :: inside) closing

end Bodies

namespace Enclosure

def opening : Enclosure → Text
  | .lineComment => [byte '/', byte '/']
  | .blockComment => [byte '/', byte '*']
  | .string => [byte '"']
  | .character => [byte '\'']
  | .textBlock => [byte '"', byte '"', byte '"']

/-- What can stand inside, and what ends it. Only a block comment or a text block can lack its
    end. -/
def Holds : Enclosure → List Symbol → List Symbol → Prop
  | .lineComment, inside, closing => Symbol.lineEnd ∉ inside ∧ closing = [.lineEnd]
  | .blockComment, inside, closing =>
    ¬ commentEnd <:+: inside ∧ (closing = commentEnd ∨ closing = [])
  | .string, inside, closing => QuotedBody (byte '"') inside closing
  | .character, inside, closing => QuotedBody (byte '\'') inside closing
  | .textBlock, inside, closing => TextBody inside closing

/-- Text that ends the enclosure nowhere and escapes nothing. A line comment goes on to the end of
    its line, whatever it holds. -/
def Harmless : Enclosure → List Symbol → Prop
  | .lineComment, _ => True
  | .blockComment, inside => ¬ commentEnd <:+: inside
  | .string, inside => ∀ s ∈ inside, s ≠ doubleQuote ∧ s ≠ backslash ∧ s.isFeed = false
  | .character, inside =>
    ∀ s ∈ inside, s ≠ .byte (byte '\'') ∧ s ≠ backslash ∧ s.isFeed = false
  | .textBlock, inside => ∀ s ∈ inside, s ≠ doubleQuote ∧ s ≠ backslash

def MetAfter (kind : Enclosure) (front : List Symbol) : Prop :=
  ∀ b ∈ kind.opening.head?, (LexMode.code.run front).inCodeAt b = true

def mode : Enclosure → LexMode
  | .lineComment => .lineComment
  | .blockComment => .blockComment
  | .string => .openQuote
  | .character => .quoted (byte '\'')
  | .textBlock => .textBlock

end Enclosure

def Symbol.endsLine (s : Symbol) : Bool := s = .lineEnd

/-- The same number of bytes on each line. -/
def SameShape (old new : List Symbol) : Prop :=
  old.map Symbol.endsLine = new.map Symbol.endsLine

instance (old new : List Symbol) : Decidable (SameShape old new) :=
  inferInstanceAs (Decidable (_ = _))

theorem SameShape.rows {old new : List Symbol} (shape : SameShape old new) (row : Nat) :
    old.foldl Symbol.nextRow row = new.foldl Symbol.nextRow row := by
  have byShape : Symbol.nextRow = fun row s => if s.endsLine then row + 1 else row := by
    funext row s
    cases s <;> rfl
  have counted (syms : List Symbol) : syms.foldl Symbol.nextRow row =
      (syms.map Symbol.endsLine).foldl (fun row ends => if ends then row + 1 else row) row := by
    rw [List.foldl_map, byShape]
  rw [counted, counted, shape]

theorem SameShape.lineEnd_notMem {old new : List Symbol} (shape : SameShape old new)
    (absent : Symbol.lineEnd ∉ old) : Symbol.lineEnd ∉ new := by
  have ends (syms : List Symbol) : Symbol.lineEnd ∈ syms ↔ true ∈ syms.map Symbol.endsLine := by
    simp [Symbol.endsLine]
  rwa [ends, ← shape, ← ends]

theorem SameShape.eq_nil {old new : List Symbol} (shape : SameShape old new) :
    old = [] ↔ new = [] := by
  rw [← List.map_eq_nil_iff (f := Symbol.endsLine), shape, List.map_eq_nil_iff]

/-- A comment or literal that a scan of the lines meets in code. -/
structure Enclosed (lines : List Text) where
  kind : Enclosure
  front : List Symbol
  inside : List Symbol
  closing : List Symbol
  back : List Symbol
  whole : symbols lines = front ++ kind.opening.map .byte ++ (inside ++ (closing ++ back))
  met : kind.MetAfter front
  holds : kind.Holds inside closing
  unended : closing = [] → back = []

def Enclosed.filledWith {lines : List Text} (e : Enclosed lines) (inside : List Symbol) : List Symbol :=
  e.front ++ e.kind.opening.map .byte ++ (inside ++ (e.closing ++ e.back))

section Replacement

variable {quote : UInt8} {inside inside' closing back : List Symbol}

theorem QuotedBody.ending (body : QuotedBody quote inside closing) :
    closing = [.byte quote] ∨ ∃ s : Symbol, s.isFeed = true ∧ closing = [s] := by
  induction body with
  | closed => exact .inl rfl
  | broken feed => exact .inr ⟨_, feed, rfl⟩
  | brokenEscape feed => exact .inr ⟨_, feed, rfl⟩
  | plain _ _ _ _ ih => exact ih
  | escape _ _ ih => exact ih

theorem QuotedBody.replace (body : QuotedBody quote inside closing)
    (harmless : ∀ s ∈ inside', s ≠ .byte quote ∧ s ≠ backslash ∧ s.isFeed = false) :
    QuotedBody quote inside' closing := by
  induction inside' with
  | nil =>
    rcases body.ending with rfl | ⟨s, feed, rfl⟩
    · exact .closed
    · exact .broken feed
  | cons s more ih =>
    obtain ⟨other, ordinary, unbroken⟩ := harmless s List.mem_cons_self
    exact .plain ordinary other unbroken
      (ih fun t member => harmless t (List.mem_cons_of_mem _ member))

theorem TextBody.ending (body : TextBody inside closing) :
    closing = textBlockEnd ∨ closing = [] := by
  induction body with
  | closed => exact .inl rfl
  | unclosed => exact .inr rfl
  | plain _ _ _ ih => exact ih
  | escape _ ih => exact ih

theorem TextBody.replace (body : TextBody inside closing)
    (harmless : ∀ s ∈ inside', s ≠ doubleQuote ∧ s ≠ backslash) : TextBody inside' closing := by
  induction inside' with
  | nil =>
    rcases body.ending with rfl | rfl
    · exact .closed
    · exact .unclosed
  | cons s more ih =>
    obtain ⟨other, ordinary⟩ := harmless s List.mem_cons_self
    have going : ¬ textBlockEnd <+: s :: (more ++ closing) := by
      rw [textBlockEnd, List.cons_prefix_cons]
      exact fun both => other both.1.symm
    exact .plain ordinary going (ih fun t member => harmless t (List.mem_cons_of_mem _ member))

theorem Enclosure.Holds.replace {kind : Enclosure} (holds : kind.Holds inside closing)
    (shape : SameShape inside inside') (harmless : kind.Harmless inside') :
    kind.Holds inside' closing := by
  cases kind with
  | lineComment => exact ⟨shape.lineEnd_notMem holds.1, holds.2⟩
  | blockComment => exact ⟨harmless, holds.2⟩
  | string => exact QuotedBody.replace holds harmless
  | character => exact QuotedBody.replace holds harmless
  | textBlock => exact TextBody.replace holds harmless

end Replacement

section Passing

variable {m m' : LexMode} {s : Symbol} {row : Nat} {inside closing back rest : List Symbol}

theorem LexMode.located_quiet (quiet : m.step s = (m', [])) :
    m.located row (s :: rest) = m'.located (s.nextRow row) rest := by
  rw [located, quiet]
  rfl

theorem located_lineBody (absent : Symbol.lineEnd ∉ inside) (row : Nat) (back : List Symbol) :
    LexMode.lineComment.located row (inside ++ .lineEnd :: back) =
      LexMode.code.located ((inside ++ [Symbol.lineEnd]).foldl Symbol.nextRow row) back := by
  induction inside generalizing row with
  | nil => rfl
  | cons s more ih =>
    simp only [List.mem_cons, not_or] at absent
    have quiet : LexMode.lineComment.step s = (.lineComment, []) := by
      simp [LexMode.step, Ne.symm absent.1]
    rw [List.cons_append, LexMode.located_quiet quiet, ih absent.2]
    rfl

theorem LexMode.blockStar_step (other : s ≠ .byte (byte '/')) :
    LexMode.blockStar.step s = LexMode.blockComment.step s := by
  have noSlash : s.isByte '/' = false := by simpa [Symbol.isByte] using other
  simp [step, noSlash]

theorem located_blockStar (noSlash : rest.head? ≠ some (.byte (byte '/'))) :
    LexMode.blockStar.located row rest = LexMode.blockComment.located row rest := by
  cases rest with
  | nil => rfl
  | cons s more =>
    have other : s ≠ .byte (byte '/') := by simpa using noSlash
    rw [LexMode.located, LexMode.blockStar_step other, ← LexMode.located]

theorem located_blockBody (going : ¬ commentEnd <:+: inside)
    (ending : closing = commentEnd ∨ closing = []) (unended : closing = [] → back = [])
    (row : Nat) :
    LexMode.blockComment.located row (inside ++ (closing ++ back)) =
      LexMode.code.located ((inside ++ closing).foldl Symbol.nextRow row) back := by
  induction inside generalizing row with
  | nil =>
    rcases ending with rfl | rfl
    · rfl
    · rw [unended rfl]
      rfl
  | cons s more ih =>
    rw [List.infix_cons_iff, not_or] at going
    have tail := ih going.2 (s.nextRow row)
    rw [List.cons_append, List.cons_append, List.foldl_cons, ← tail, LexMode.located]
    by_cases star : s = .byte (byte '*')
    · subst star
      refine located_blockStar ?_
      intro slash
      cases more with
      | nil =>
        rcases ending with rfl | rfl
        · simp [commentEnd, byte] at slash
        · simp [unended rfl] at slash
      | cons t others =>
        obtain rfl : t = .byte (byte '/') := by simpa using slash
        exact going.1 ⟨others, rfl⟩
    · simp [LexMode.step, Symbol.isByte, star]

theorem located_textQuotes (other : rest.head? ≠ some doubleQuote) :
    LexMode.textQuote.located row rest = LexMode.textBlock.located row rest ∧
      LexMode.textQuotes.located row rest = LexMode.textBlock.located row rest := by
  cases rest with
  | nil => exact ⟨rfl, rfl⟩
  | cons s more =>
    have plain : s.isByte '"' = false := by simpa [Symbol.isByte, doubleQuote] using other
    simp [LexMode.located, LexMode.step, plain]

theorem located_oneTextQuote (going : ¬ [doubleQuote, doubleQuote] <+: rest) :
    LexMode.textQuote.located row rest = LexMode.textBlock.located row rest := by
  cases rest with
  | nil => rfl
  | cons s more =>
    by_cases second : s = doubleQuote
    · subst second
      have third : more.head? ≠ some doubleQuote := by
        intro head
        cases more with
        | nil => cases head
        | cons t others =>
          cases Option.some.inj head
          exact going ⟨others, rfl⟩
      obtain ⟨one, two⟩ := @located_textQuotes (doubleQuote.nextRow row) more third
      exact two.trans one.symm
    · exact (located_textQuotes (by simpa using second)).1

theorem TextBody.located (body : TextBody inside closing) (unended : closing = [] → back = [])
    (row : Nat) :
    LexMode.textBlock.located row (inside ++ (closing ++ back)) =
      LexMode.code.located ((inside ++ closing).foldl Symbol.nextRow row) back := by
  induction body generalizing row with
  | closed => rfl
  | unclosed =>
    rw [unended rfl]
    rfl
  | @plain s inside closing ordinary going rest ih =>
    have tail := ih unended (s.nextRow row)
    rw [List.cons_append, List.cons_append, List.foldl_cons, ← tail, LexMode.located]
    by_cases quote : s = doubleQuote
    · subst quote
      refine located_oneTextQuote ?_
      -- the end lies before what follows, so that two more quotes would be part of the text
      intro two
      rw [← List.append_assoc] at two
      have inner : [doubleQuote, doubleQuote] <+: inside ++ closing := by
        rcases rest.ending with rfl | rfl
        · refine List.prefix_of_prefix_length_le two (List.prefix_append _ _) ?_
          simp [textBlockEnd]
        · rwa [unended rfl, List.append_nil] at two
      exact going (List.cons_prefix_cons.mpr ⟨rfl, inner⟩)
    · have plain : s.isByte '\\' = false ∧ s.isByte '"' = false := by
        simpa [Symbol.isByte, backslash, doubleQuote] using And.intro ordinary quote
      simp [LexMode.step, LexMode.stepText, plain]
  | @escape s inside closing rest ih => exact ih unended (s.nextRow row)

theorem QuotedBody.located {quote : UInt8} (ordinary : backslash ≠ .byte quote)
    (body : QuotedBody quote inside closing) (row : Nat) (back : List Symbol) :
    (LexMode.quoted quote).located row (inside ++ (closing ++ back)) =
      LexMode.code.located ((inside ++ closing).foldl Symbol.nextRow row) back := by
  have noEscape {s : Symbol} (other : s ≠ backslash) : s.isByte '\\' = false := by
    simpa [Symbol.isByte, backslash] using other
  have opens : (LexMode.quoted quote).step backslash = (.quotedEscape quote, []) := rfl
  induction body generalizing row with
  | closed =>
    have ends : (LexMode.quoted quote).step (.byte quote) = (.code, []) := by
      simp [LexMode.step, LexMode.stepQuoted, noEscape ordinary.symm]
    exact LexMode.located_quiet ends
  | @broken s feed =>
    have other : s ≠ backslash := by
      rintro rfl
      exact absurd feed (by decide)
    have ends : (LexMode.quoted quote).step s = (.code, []) := by
      simp [LexMode.step, LexMode.stepQuoted, noEscape other, feed]
    exact LexMode.located_quiet ends
  | @brokenEscape s feed =>
    have ends : (LexMode.quotedEscape quote).step s = (.code, []) := by simp [LexMode.step, feed]
    exact (LexMode.located_quiet opens).trans (LexMode.located_quiet ends)
  | @plain s inside closing other differs unbroken rest ih =>
    have goes : (LexMode.quoted quote).step s = (.quoted quote, []) := by
      simp [LexMode.step, LexMode.stepQuoted, noEscape other, differs, unbroken]
    exact (LexMode.located_quiet goes).trans (ih _)
  | @escape s inside closing unbroken rest ih =>
    have goes : (LexMode.quotedEscape quote).step s = (.quoted quote, []) := by
      simp [LexMode.step, unbroken]
    exact (LexMode.located_quiet opens).trans ((LexMode.located_quiet goes).trans (ih _))

theorem QuotedBody.head {quote : UInt8} (ordinary : backslash ≠ .byte quote)
    (body : QuotedBody quote inside closing) (nonempty : inside ≠ []) :
    inside.head? ≠ some (.byte quote) := by
  cases body with
  | closed => exact absurd rfl nonempty
  | broken feed => exact absurd rfl nonempty
  | brokenEscape feed => simpa using ordinary
  | plain other differs unbroken rest => simpa using differs
  | escape unbroken rest => simpa using ordinary

theorem located_openString (other : rest.head? ≠ some doubleQuote) (row : Nat) :
    LexMode.openQuote.located row rest = (LexMode.quoted (byte '"')).located row rest := by
  cases rest with
  | nil => rfl
  | cons s more =>
    have plain : s.isByte '"' = false := by simpa [Symbol.isByte, doubleQuote] using other
    simp [LexMode.located, LexMode.step, plain]

/-- What is left behind after the opening does not depend on what stands inside. -/
theorem Enclosure.Holds.located {kind : Enclosure} (holds : kind.Holds inside closing)
    (nonempty : inside ≠ []) (unended : closing = [] → back = []) (row : Nat) :
    kind.mode.located row (inside ++ (closing ++ back)) =
      LexMode.code.located ((inside ++ closing).foldl Symbol.nextRow row) back := by
  cases kind with
  | lineComment =>
    obtain ⟨absent, rfl⟩ := holds
    exact located_lineBody absent row back
  | blockComment => exact located_blockBody holds.1 holds.2 unended row
  | string =>
    have head := QuotedBody.head (by decide) holds nonempty
    rw [← List.head?_append_of_ne_nil inside nonempty] at head
    exact (located_openString head row).trans (QuotedBody.located (by decide) holds row back)
  | character => exact QuotedBody.located (by decide) holds row back
  | textBlock => exact TextBody.located holds unended row

end Passing

section Coverage

theorem symbols_last (lines : List Text) : ∀ s ∈ (symbols lines).getLast?, s = Symbol.lineEnd := by
  induction lines using List.reverseRecOn with
  | nil => simp [symbols]
  | append_singleton lines line _ =>
    intro s last
    simpa [symbols, lineSymbols, eq_comm] using last

theorem exists_lineBody {rest : List Symbol} (ends : Symbol.lineEnd ∈ rest) :
    ∃ inside back, rest = inside ++ ([Symbol.lineEnd] ++ back) ∧ Symbol.lineEnd ∉ inside := by
  obtain ⟨inside, back, whole, absent⟩ := List.eq_append_cons_of_mem ends
  exact ⟨inside, back, whole, absent⟩

theorem exists_blockBody (rest : List Symbol) :
    ∃ inside closing back, rest = inside ++ (closing ++ back) ∧
      (¬ commentEnd <:+: inside ∧ (closing = commentEnd ∨ closing = [])) ∧
      (closing = [] → back = []) := by
  induction rest with
  | nil => exact ⟨[], [], [], rfl, ⟨by decide, .inr rfl⟩, fun _ => rfl⟩
  | cons s more ih =>
    by_cases here : commentEnd <+: s :: more
    · obtain ⟨back, whole⟩ := here
      exact ⟨[], commentEnd, back, whole.symm, ⟨by decide, .inl rfl⟩, nofun⟩
    · obtain ⟨inside, closing, back, rfl, ⟨going, ending⟩, unended⟩ := ih
      refine ⟨s :: inside, closing, back, rfl, ⟨?_, ending⟩, unended⟩
      rw [List.infix_cons_iff, not_or]
      exact ⟨fun starts => here (starts.trans (List.prefix_append (s :: inside) _)), going⟩

theorem lineEnd_mem_tail {s : Symbol} {more : List Symbol} (unbroken : s.isFeed = false)
    (ends : Symbol.lineEnd ∈ s :: more) : Symbol.lineEnd ∈ more := by
  rcases List.mem_cons.mp ends with rfl | later
  · cases unbroken
  · exact later

theorem exists_quotedBody (quote : UInt8) : ∀ rest : List Symbol, Symbol.lineEnd ∈ rest →
    ∃ inside closing back, rest = inside ++ (closing ++ back) ∧ QuotedBody quote inside closing
  | [], ends => nomatch ends
  | s :: more, ends => by
    by_cases feed : s.isFeed = true
    · exact ⟨[], [s], more, rfl, .broken feed⟩
    have unbroken := Bool.eq_false_iff.mpr feed
    have later := lineEnd_mem_tail unbroken ends
    by_cases escaped : s = backslash
    · subst escaped
      match more with
      | t :: others =>
        by_cases feed' : t.isFeed = true
        · exact ⟨[backslash], [t], others, rfl, .brokenEscape feed'⟩
        · have unbroken' := Bool.eq_false_iff.mpr feed'
          obtain ⟨inside, closing, back, rfl, body⟩ :=
            exists_quotedBody quote others (lineEnd_mem_tail unbroken' later)
          exact ⟨_, closing, back, rfl, .escape unbroken' body⟩
    · by_cases closes : s = .byte quote
      · exact ⟨[], [.byte quote], more, by rw [closes]; rfl, .closed⟩
      · obtain ⟨inside, closing, back, rfl, body⟩ := exists_quotedBody quote more later
        exact ⟨s :: inside, closing, back, rfl, .plain escaped closes unbroken body⟩

theorem QuotedBody.closing_ne_nil {quote : UInt8} {inside closing : List Symbol}
    (body : QuotedBody quote inside closing) : closing ≠ [] := by
  rcases body.ending with rfl | ⟨s, -, rfl⟩ <;> exact List.cons_ne_nil _ _

theorem last_tail {s : Symbol} {more : List Symbol}
    (ends : ∀ t ∈ (s :: more).getLast?, t = Symbol.lineEnd) :
    ∀ t ∈ more.getLast?, t = Symbol.lineEnd := by
  intro t last
  refine ends t ?_
  rw [List.getLast?_cons, Option.mem_def.mp last]
  rfl

theorem exists_textBody : ∀ rest : List Symbol, (∀ s ∈ rest.getLast?, s = Symbol.lineEnd) →
    ∃ inside closing back, rest = inside ++ (closing ++ back) ∧ TextBody inside closing ∧
      (closing = [] → back = [])
  | [], _ => ⟨[], [], [], rfl, .unclosed, fun _ => rfl⟩
  | s :: more, ends => by
    by_cases escaped : s = backslash
    · subst escaped
      match more with
      | [] => exact absurd (ends backslash rfl) (by decide)
      | t :: others =>
        obtain ⟨inside, closing, back, rfl, body, unended⟩ :=
          exists_textBody others (last_tail (last_tail ends))
        exact ⟨_, closing, back, rfl, .escape body, unended⟩
    · by_cases here : textBlockEnd <+: s :: more
      · obtain ⟨back, whole⟩ := here
        exact ⟨[], textBlockEnd, back, whole.symm, .closed, nofun⟩
      · obtain ⟨inside, closing, back, rfl, body, unended⟩ :=
          exists_textBody more (last_tail ends)
        refine ⟨s :: inside, closing, back, rfl, .plain escaped ?_ body, unended⟩
        intro starts
        refine here (starts.trans ?_)
        rw [← List.append_assoc]
        exact List.prefix_append (s :: (inside ++ closing)) back

theorem Enclosure.exists_holds (kind : Enclosure) {rest : List Symbol} (more : rest ≠ [])
    (last : ∀ s ∈ rest.getLast?, s = Symbol.lineEnd) :
    ∃ inside closing back, rest = inside ++ (closing ++ back) ∧ kind.Holds inside closing ∧
      (closing = [] → back = []) := by
  have ends : Symbol.lineEnd ∈ rest := by
    have there := List.getLast?_eq_some_getLast more
    exact last _ there ▸ List.getLast_mem more
  have quoted (quote : UInt8) : ∃ inside closing back, rest = inside ++ (closing ++ back) ∧
      QuotedBody quote inside closing ∧ (closing = [] → back = []) := by
    obtain ⟨inside, closing, back, whole, body⟩ := exists_quotedBody quote rest ends
    exact ⟨inside, closing, back, whole, body, fun none => absurd none body.closing_ne_nil⟩
  cases kind with
  | lineComment =>
    obtain ⟨inside, back, whole, absent⟩ := exists_lineBody ends
    exact ⟨inside, _, back, whole, ⟨absent, rfl⟩, nofun⟩
  | blockComment => exact exists_blockBody rest
  | string => exact quoted _
  | character => exact quoted _
  | textBlock => exact exists_textBody rest last

/-- Every opening that a scan meets in code begins a comment or literal in this sense. -/
theorem exists_enclosed {lines : List Text} (kind : Enclosure) (front rest : List Symbol)
    (whole : symbols lines = front ++ kind.opening.map .byte ++ rest)
    (met : kind.MetAfter front) : ∃ e : Enclosed lines, e.kind = kind ∧ e.front = front := by
  have last := symbols_last lines
  have more : rest ≠ [] := by
    rintro rfl
    rw [whole, List.append_nil] at last
    cases kind <;> exact absurd (last _ (by simp [Enclosure.opening]; rfl)) (by decide)
  have ends : ∀ s ∈ rest.getLast?, s = Symbol.lineEnd := by
    intro s found
    refine last s ?_
    rw [whole, List.getLast?_append, Option.mem_def.mp found]
    rfl
  obtain ⟨inside, closing, back, rfl, holds, unended⟩ := kind.exists_holds more ends
  exact ⟨⟨kind, front, inside, closing, back, whole, met, holds, unended⟩, rfl, rfl⟩

end Coverage

theorem Enclosed.run_opening {lines : List Text} (e : Enclosed lines) :
    LexMode.code.run (e.front ++ e.kind.opening.map .byte) = e.kind.mode := by
  have enters : LexMode.code.run (e.kind.opening.map .byte) = e.kind.mode := by
    cases e.kind <;> rfl
  obtain ⟨b, more, opening⟩ : ∃ b more, e.kind.opening = b :: more := by
    cases e.kind <;> exact ⟨_, _, rfl⟩
  have inCode := e.met b (by rw [opening]; rfl)
  rw [← enters, opening, List.map_cons, LexMode.run_append]
  change ((LexMode.code.run e.front).step (.byte b)).1.run _ = _
  rw [LexMode.step_inCodeAt inCode]
  rfl

theorem Enclosed.fileTokens_filledWith {lines lines' : List Text} (e : Enclosed lines)
    {inside' : List Symbol} (shape : SameShape e.inside inside')
    (harmless : e.kind.Harmless inside') (replaced : symbols lines' = e.filledWith inside') :
    fileTokens lines' = fileTokens lines := by
  rw [fileTokens, fileTokens, replaced, e.whole, filledWith]
  by_cases empty : e.inside = []
  · rw [empty, shape.eq_nil.mp empty]
  · have nonempty : inside' ≠ [] := fun none => empty (shape.eq_nil.mpr none)
    have rows (row : Nat) : (inside' ++ e.closing).foldl Symbol.nextRow row =
        (e.inside ++ e.closing).foldl Symbol.nextRow row := by
      rw [List.foldl_append, List.foldl_append, shape.rows]
    rw [LexMode.located_append, LexMode.located_append _ _ _ (e.inside ++ _), e.run_opening,
      e.holds.located empty e.unended, (e.holds.replace shape harmless).located nonempty e.unended,
      rows]

/-- Whatever opens a comment or literal in code, other bytes inside it, as many on each line and
    none that ends it, leave every declaration of the file as it was. -/
theorem enclosed_text_ignored (lines : List Text) :
    (∀ (kind : Enclosure) (front rest : List Symbol),
        symbols lines = front ++ kind.opening.map .byte ++ rest → kind.MetAfter front →
          ∃ e : Enclosed lines, e.kind = kind ∧ e.front = front) ∧
      ∀ (e : Enclosed lines) (inside' : List Symbol) (lines' : List Text),
        SameShape e.inside inside' → e.kind.Harmless inside' →
          symbols lines' = e.filledWith inside' → declarations lines' = declarations lines := by
  refine ⟨fun kind front rest => exists_enclosed kind front rest, ?_⟩
  intro e inside' lines' shape harmless replaced
  rw [declarations_readAll, declarations_readAll,
    e.fileTokens_filledWith shape harmless replaced]

def commentBetween (first second : Text) : List Text :=
  [utf8 "class A \x7b /*" ++ first, second ++ utf8 "*/ \x7d", utf8 "class B ;"]

/-- A comment over two lines, with a star and a slash that do not end it. -/
def twoLineComment : Enclosed (commentBetween (utf8 "/ * /") (utf8 " x *")) where
  kind := .blockComment
  front := (utf8 "class A \x7b ").map .byte
  inside := lineSymbols (utf8 "/ * /") ++ (utf8 " x *").map .byte
  closing := commentEnd
  back := lineSymbols (utf8 " \x7d") ++ lineSymbols (utf8 "class B ;")
  whole := by decide +kernel
  met := show ∀ b ∈ some (byte '/'), _ by decide +kernel
  holds := ⟨by decide, .inl rfl⟩
  unended := by decide

theorem enclosed_text_ignored_braces :
    (declarations (commentBetween (utf8 "/ * /") (utf8 " x *"))).map
        (fun d => (d.name, d.line, d.nested)) =
      [(utf8 "A", 1, false), (utf8 "B", 3, false)] ∧
      declarations (commentBetween (utf8 "class") (utf8 " Z\"\x7b")) =
        declarations (commentBetween (utf8 "/ * /") (utf8 " x *")) :=
  ⟨by decide +kernel,
    (enclosed_text_ignored _).2 twoLineComment
      (lineSymbols (utf8 "class") ++ (utf8 " Z\"\x7b").map .byte) _ (by decide +kernel)
      (show ¬ commentEnd <:+: _ by decide) (by decide +kernel)⟩

end JavadocLint
