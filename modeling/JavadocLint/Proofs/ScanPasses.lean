import Mathlib
import JavadocLint.Proofs.CursorReads
import JavadocLint.Proofs.PlacedTokens
import JavadocLint.Proofs.SymbolsAhead

/- A scan as loops over a cursor. The outer loop reads code, and inner ones pass over a comment, a
   text block or a literal that it meets; each of their passes looks up to two bytes ahead and then
   goes forward, perhaps into the next line. No pass reads where nothing can be read, every pass
   goes forward, and the loops find what the machine finds symbol by symbol. The passes of an inner
   loop are told one by one, and together they belong to the pass of the outer loop that opened
   it. -/
namespace JavadocLint

inductive ScanLoop where
  | code
  | comment
  | textBlock
  | quoted (quote : UInt8)
  deriving DecidableEq, Repr

structure Reader where
  cursor : Cursor := ⟨0, 0⟩
  loop : ScanLoop := .code
  members : MemberState := {}
  deriving DecidableEq, Repr

namespace Reader

variable (lines : List Text) (r : Reader)

def readTokens (tokens : List Token) : MemberState :=
  tokens.foldl (fun m t => m.read (r.cursor.row + 1) t) r.members

def goOn (loop : ScanLoop) (count : Nat) (tokens : List Token) : Option Reader :=
  (r.cursor.forward? lines count).map fun cursor => ⟨cursor, loop, r.readTokens tokens⟩

def passCode : Option Reader := do
  let first ← r.cursor.peek? lines 0
  let second ← r.cursor.peek? lines 1
  let third ← r.cursor.peek? lines 2
  if isBlankByte first then r.goOn lines .code 1 []
  else if first = byte '/' ∧ second = byte '/' then
    some ⟨⟨r.cursor.row + 1, 0⟩, .code, r.members⟩
  else if first = byte '/' ∧ second = byte '*' then r.goOn lines .comment 2 []
  else if first = byte '"' ∧ second = byte '"' ∧ third = byte '"' then
    r.goOn lines .textBlock 3 [.literal first]
  else if first = byte '"' ∨ first = byte '\'' then r.goOn lines (.quoted first) 1 [.literal first]
  else if isWordStart first then do
    let line ← r.cursor.line? lines
    let word := (line.drop r.cursor.col).takeWhile isWordPart
    r.goOn lines .code word.length [.word word]
  else r.goOn lines .code 1 [.punct first]

def passComment : Option Reader := do
  let first ← r.cursor.peek? lines 0
  let second ← r.cursor.peek? lines 1
  if first = byte '*' ∧ second = byte '/' then r.goOn lines .code 2 []
  else r.goOn lines .comment 1 []

def passTextBlock : Option Reader := do
  let first ← r.cursor.peek? lines 0
  let second ← r.cursor.peek? lines 1
  let third ← r.cursor.peek? lines 2
  if first = byte '\\' then r.goOn lines .textBlock 2 []
  else if first = byte '"' ∧ second = byte '"' ∧ third = byte '"' then r.goOn lines .code 3 []
  else r.goOn lines .textBlock 1 []

/-- A literal never goes past the end of its line, not even behind a backslash. -/
def passQuoted (quote : UInt8) : Option Reader := do
  let first ← r.cursor.peek? lines 0
  let second ← r.cursor.peek? lines 1
  if first = byte '\\' then
    if second = lineFeed then r.goOn lines .code 1 [] else r.goOn lines (.quoted quote) 2 []
  else if first = quote ∨ first = lineFeed then r.goOn lines .code 1 []
  else r.goOn lines (.quoted quote) 1 []

/-- One pass of the loop that is going on; there is none if something is read out of range. -/
def pass? : Option Reader :=
  match r.loop with
  | .code => r.passCode lines
  | .comment => r.passComment lines
  | .textBlock => r.passTextBlock lines
  | .quoted quote => r.passQuoted lines quote

def Passes (r r' : Reader) : Prop := r.cursor.row < lines.length ∧ r.pass? lines = some r'

end Reader

def ScanLoop.mode : ScanLoop → LexMode
  | .code => .code
  | .comment => .blockComment
  | .textBlock => .textBlock
  | .quoted quote => .quoted quote

namespace Reader

variable {lines : List Text} {r r' : Reader}

/-- The members once the machine has read the rest of the lines. The loops do not change it, and so
    they find what the machine finds. -/
def outcome (lines : List Text) (r : Reader) : MemberState :=
  r.members.readAll (r.loop.mode.located r.cursor.row (r.cursor.rest lines))

structure Advances (lines : List Text) (r r' : Reader) : Prop where
  range : r'.cursor.InRange lines
  before : r.cursor.Before r'.cursor
  shorter : (r'.cursor.rest lines).length < (r.cursor.rest lines).length
  same : r'.outcome lines = r.outcome lines

section Moves

variable {front back : List Symbol} {current : ScanLoop}

theorem advances_over (inside : r.cursor.InLines lines) (here : r.loop = current)
    (loop : ScanLoop) (tokens : List Token) (split : r.cursor.rest lines = front ++ back)
    (some : front ≠ [])
    (located : current.mode.located r.cursor.row (front ++ back) =
      tokens.map (·, r.cursor.row + 1) ++
        loop.mode.located (front.foldl Symbol.nextRow r.cursor.row) back) :
    r.Advances lines ⟨front.foldl Cursor.advance r.cursor, loop, r.readTokens tokens⟩ := by
  obtain ⟨range, rest⟩ := Cursor.InRange.after (.inl inside) split
  refine ⟨range, Cursor.before_advances _ some, ?_, ?_⟩
  · rw [rest, split, List.length_append]
    exact Nat.lt_add_of_pos_left (List.length_pos_iff.mpr some)
  · rw [outcome, outcome, here, split, located, MemberState.readAll_append, rest,
      Cursor.advances_row]
    congr 1
    rw [readTokens, MemberState.readAll, List.foldl_map]

theorem goOn_advances (inside : r.cursor.InLines lines) (here : r.loop = current)
    (loop : ScanLoop) (tokens : List Token) (front back : List Symbol)
    (split : r.cursor.rest lines = front ++ back) (some : front ≠ [])
    (located : current.mode.located r.cursor.row (front ++ back) =
      tokens.map (·, r.cursor.row + 1) ++
        loop.mode.located (front.foldl Symbol.nextRow r.cursor.row) back) :
    ∃ r', r.goOn lines loop front.length tokens = .some r' ∧ r.Advances lines r' := by
  refine ⟨_, ?_, advances_over inside here loop tokens split some located⟩
  rw [goOn, Cursor.forward?_over (.inl inside) split, Option.map_some]

end Moves

section Loops

theorem passComment_advances (inside : r.cursor.InLines lines) (here : r.loop = .comment) :
    ∃ r', r.passComment lines = some r' ∧ r.Advances lines r' := by
  obtain ⟨line, back, -, rest, peek⟩ := inside.reads
  generalize line.drop r.cursor.col = left at rest peek
  simp only [passComment, peek, Option.bind_eq_bind, Option.bind_some]
  split
  · rename_i closed
    obtain ⟨more, rfl⟩ := (starts_two (by decide)).mp closed
    exact goOn_advances inside here .code [] commentEnd _ rest (by simp [commentEnd]) rfl
  · rename_i going
    rw [starts_two (by decide), ← bytes_begin_iff back] at going
    obtain ⟨s, others, next, -⟩ := exists_next left back
    rw [next] at rest going
    exact goOn_advances inside here .comment [] [s] others rest (by simp)
      (located_commentPass going)

theorem passTextBlock_advances (inside : r.cursor.InLines lines) (here : r.loop = .textBlock) :
    ∃ r', r.passTextBlock lines = some r' ∧ r.Advances lines r' := by
  obtain ⟨line, back, -, rest, peek⟩ := inside.reads
  generalize line.drop r.cursor.col = left at rest peek
  simp only [passTextBlock, peek, Option.bind_eq_bind, Option.bind_some]
  split
  · rename_i escape
    obtain ⟨more, rfl⟩ := (starts_one (by decide)).mp escape
    -- the symbol behind a backslash may be the end of the line
    obtain ⟨s, others, next, -⟩ := exists_next more back
    have split : r.cursor.rest lines = [backslash, s] ++ others := by
      rw [rest, List.cons_append, List.singleton_append, ← next]
      rfl
    exact goOn_advances inside here .textBlock [] _ others split (by simp) rfl
  split
  · rename_i closed
    obtain ⟨more, rfl⟩ := (starts_three (by decide)).mp closed
    exact goOn_advances inside here .code [] textBlockEnd _ rest (by simp [textBlockEnd]) rfl
  · rename_i plain going
    rw [starts_three (by decide), ← bytes_begin_iff back] at going
    obtain ⟨s, others, next, value⟩ := exists_next left back
    rw [next] at rest going
    rw [value] at plain
    exact goOn_advances inside here .textBlock [] [s] others rest (by simp)
      (located_textPass (ne_backslash plain) going)

theorem passQuoted_advances {quote : UInt8} (inside : r.cursor.InLines lines)
    (here : r.loop = .quoted quote) :
    ∃ r', r.passQuoted lines quote = some r' ∧ r.Advances lines r' := by
  obtain ⟨line, back, -, rest, peek⟩ := inside.reads
  generalize line.drop r.cursor.col = left at rest peek
  simp only [passQuoted, peek, Option.bind_eq_bind, Option.bind_some]
  split
  · rename_i escape
    obtain ⟨more, rfl⟩ := (starts_one (by decide)).mp escape
    obtain ⟨s, others, next, value⟩ := exists_next more back
    have split : r.cursor.rest lines = backslash :: s :: others := by
      rw [rest, ← next]
      rfl
    simp only [List.cons_append, List.getD_cons_succ, value]
    split
    · rename_i feed
      exact goOn_advances inside here .code [] [backslash] _ split (by simp)
        (located_quotedBroken quote ((isFeed_iff s).mpr feed))
    · rename_i solid
      rw [← isFeed_iff, Bool.not_eq_true] at solid
      exact goOn_advances inside here (.quoted quote) [] [backslash, s] others split (by simp)
        (located_quotedEscape quote solid)
  · rename_i plain
    obtain ⟨s, others, next, value⟩ := exists_next left back
    rw [next] at rest
    rw [value] at plain ⊢
    have located := @located_quotedPass r.cursor.row s others quote (ne_backslash plain)
    simp only [ends_quoted_iff] at located
    split
    · rename_i ends
      rw [if_pos ends] at located
      exact goOn_advances inside here .code [] [s] others rest (by simp) located
    · rename_i goes
      rw [if_neg goes] at located
      exact goOn_advances inside here (.quoted quote) [] [s] others rest (by simp) located

section Code

variable {b : UInt8} {more : Text} {back : List Symbol}

theorem lineComment_advances (inside : r.cursor.InLines lines) (here : r.loop = .code)
    (rest : r.cursor.rest lines = lineSymbols (byte '/' :: byte '/' :: more) ++ back) :
    r.Advances lines ⟨⟨r.cursor.row + 1, 0⟩, .code, r.members⟩ := by
  have skipped := advances_over inside here .code [] rest (by simp [lineSymbols])
  rw [LexMode.advance_line, nextRow_line] at skipped
  exact skipped (located_lineComment_left r.cursor.row more back)

theorem word_advances (inside : r.cursor.InLines lines) (here : r.loop = .code)
    (rest : r.cursor.rest lines = lineSymbols (b :: more) ++ back)
    (solid : isBlankByte b = false) (noQuote : ¬ (b = byte '"' ∨ b = byte '\''))
    (start : isWordStart b = true) :
    ∃ r', r.goOn lines .code ((b :: more).takeWhile isWordPart).length
      [.word ((b :: more).takeWhile isWordPart)] = some r' ∧ r.Advances lines r' := by
  have part : isWordPart b = true := by simp [isWordPart, start]
  have word := goOn_advances inside here .code [.word ((b :: more).takeWhile isWordPart)]
    (((b :: more).takeWhile isWordPart).map Symbol.byte)
    (lineSymbols ((b :: more).dropWhile isWordPart) ++ back)
  rw [List.length_map, ← lineSymbols_split, nextRow_bytes] at word
  exact word rest (by simp [part]) (located_wordLeft solid noQuote start r.cursor.row more back)

end Code

theorem passCode_advances (inside : r.cursor.InLines lines) (here : r.loop = .code) :
    ∃ r', r.passCode lines = some r' ∧ r.Advances lines r' := by
  obtain ⟨line, back, read, rest, peek⟩ := inside.reads
  simp only [passCode, peek, read, Option.bind_eq_bind, Option.bind_some]
  generalize line.drop r.cursor.col = left at rest
  split
  · rename_i blank
    obtain ⟨s, others, next, value⟩ := exists_next left back
    rw [value] at blank
    exact goOn_advances inside here .code [] [s] others (rest.trans next) (by simp)
      (located_blank blank)
  rename_i solid
  split
  · rename_i opened
    obtain ⟨more, rfl⟩ := (starts_two (by decide)).mp opened
    exact ⟨_, rfl, lineComment_advances inside here rest⟩
  rename_i noLine
  split
  · rename_i opened
    obtain ⟨more, rfl⟩ := (starts_two (by decide)).mp opened
    exact goOn_advances inside here .comment [] [.byte (byte '/'), .byte (byte '*')] _ rest
      (by simp) rfl
  rename_i noBlock
  split
  · rename_i opened
    obtain ⟨more, rfl⟩ := (starts_three (by decide)).mp opened
    exact goOn_advances inside here .textBlock [.literal (byte '"')] textBlockEnd _ rest
      (by simp [textBlockEnd]) rfl
  rename_i noText
  -- the end of a line is blank, so that a byte is left, and the bytes ahead open nothing
  obtain ⟨b, more, rfl⟩ : ∃ b more, left = b :: more := by
    cases left with
    | nil => exact absurd (by decide) solid
    | cons b more => exact ⟨b, more, rfl⟩
  rw [starts_two (by decide), ← bytes_begin_iff back] at noLine noBlock
  rw [starts_three (by decide), ← bytes_begin_iff back] at noText
  simp only [List.cons_append, List.getD_cons_zero, Bool.not_eq_true] at solid ⊢
  split
  · rename_i quote
    exact goOn_advances inside here (.quoted b) [.literal b] [.byte b] _ rest (by simp)
      (located_quote quote noText)
  rename_i noQuote
  split
  · rename_i start
    exact word_advances inside here rest solid noQuote start
  · rename_i noWord
    rw [Bool.not_eq_true] at noWord
    exact goOn_advances inside here .code [.punct b] [.byte b] _ rest (by simp)
      (located_mark solid noQuote noWord noLine noBlock)

theorem pass?_advances (inside : r.cursor.InLines lines) :
    ∃ r', r.pass? lines = some r' ∧ r.Advances lines r' := by
  unfold pass?
  split
  · exact passCode_advances inside ‹_›
  · exact passComment_advances inside ‹_›
  · exact passTextBlock_advances inside ‹_›
  · exact passQuoted_advances inside ‹_›

-- Behind a backslash a pass goes over the end of the line; past that end nothing is read.
example :
    (Reader.pass? [utf8 "\\", utf8 "x"] { loop := .textBlock }).map Reader.cursor = some ⟨1, 0⟩ ∧
      Reader.pass? [utf8 "x"] { cursor := ⟨0, 2⟩ } = none := by decide

end Loops

section Runs

theorem Passes.advances (passes : Passes lines r r') (range : r.cursor.InRange lines) :
    r.Advances lines r' := by
  obtain ⟨r'', done, advances⟩ := pass?_advances (range.inLines passes.1)
  cases Option.some.inj (passes.2.symm.trans done)
  exact advances

theorem reached (run : Relation.ReflTransGen (Passes lines) {} r) :
    r.cursor.InRange lines ∧ r.outcome lines = outcome lines {} := by
  induction run with
  | refl => exact ⟨Cursor.inRange_row (Nat.zero_le _), rfl⟩
  | tail _ passes ih =>
    have advances := passes.advances ih.1
    exact ⟨advances.range, advances.same.trans ih.2⟩

theorem before_of_passes (range : r.cursor.InRange lines)
    (run : Relation.TransGen (Passes lines) r r') :
    r'.cursor.InRange lines ∧ r.cursor.Before r'.cursor := by
  induction run with
  | single passes =>
    have advances := passes.advances range
    exact ⟨advances.range, advances.before⟩
  | tail _ passes ih =>
    have advances := passes.advances ih.1
    exact ⟨advances.range, ih.2.trans advances.before⟩

theorem exists_end (range : r.cursor.InRange lines) :
    ∃ r', Relation.ReflTransGen (Passes lines) r r' ∧ r'.cursor = Cursor.behind lines := by
  -- each pass leaves fewer symbols
  induction size : (r.cursor.rest lines).length using Nat.strongRecOn generalizing r with
  | ind n ih =>
    by_cases more : r.cursor.row < lines.length
    · obtain ⟨r', done, advances⟩ := pass?_advances (range.inLines more)
      obtain ⟨last, run, ended⟩ := ih _ (size ▸ advances.shorter) advances.range rfl
      exact ⟨last, .head ⟨more, done⟩ run, ended⟩
    · exact ⟨r, .refl, range.ended more⟩

theorem outcome_start (lines : List Text) :
    outcome lines {} = MemberState.readAll {} (fileTokens lines) := by
  rw [outcome, Cursor.rest_start]
  rfl

theorem outcome_behind (ended : r.cursor = Cursor.behind lines) : r.outcome lines = r.members := by
  rw [outcome, ended, Cursor.rest_behind]
  rfl

theorem exists_found (lines : List Text) :
    ∃ r, Relation.ReflTransGen (Passes lines) {} r ∧ r.cursor = Cursor.behind lines ∧
      r.members.found.reverse = declarations lines := by
  obtain ⟨r, run, ended⟩ := @exists_end lines {} (Cursor.inRange_row (Nat.zero_le _))
  have same := (reached run).2
  rw [outcome_behind ended, outcome_start] at same
  exact ⟨r, run, ended, by rw [same, declarations_readAll]⟩

end Runs
end Reader

section Machine

variable {lines : List Text} {front back : List Symbol}

theorem scan_cursor (s : ScanState) (syms : List Symbol) :
    (s.run syms).cursor = syms.foldl Cursor.advance s.cursor := by
  induction syms generalizing s with
  | nil => rfl
  | cons sym more ih => exact ih (s.step sym)

theorem scan_meets (split : symbols lines = front ++ back) :
    (ScanState.run {} front).cursor.InRange lines ∧
      (ScanState.run {} front).cursor.rest lines = back := by
  rw [scan_cursor]
  refine Cursor.InRange.after (Cursor.inRange_row (Nat.zero_le _)) ?_
  rw [Cursor.rest_start, split]

theorem scan_inLines {s : Symbol} (split : symbols lines = front ++ s :: back) :
    (ScanState.run {} front).cursor.InLines lines := by
  obtain ⟨range, rest⟩ := scan_meets split
  rcases range with inside | ended
  · exact inside
  · rw [ended, Cursor.rest_behind] at rest
    cases rest

theorem scan_ends (lines : List Text) :
    (ScanState.run {} (symbols lines)).cursor = Cursor.behind lines := by
  obtain ⟨range, rest⟩ := scan_meets (List.append_nil (symbols lines)).symm
  rcases range with inside | ended
  · obtain ⟨s, step, -⟩ := inside.next
    rw [rest] at step
    cases step
  · exact ended

end Machine

/-- A scan reads in range, goes forward and comes to an end behind the last line. That holds of the
    machine, which reads one symbol after the other, and of the loops with all they read ahead: a
    pass is possible as long as there are lines, any passes that follow each other go forward, and
    at the end the loops have found the declarations. -/
theorem scan_stays_in_range (lines : List Text) :
    (∀ front s back, symbols lines = front ++ s :: back →
      (ScanState.run {} front).cursor.InLines lines ∧
        (ScanState.run {} front).cursor.rest lines = s :: back ∧
        (ScanState.run {} front).cursor.Before (ScanState.run {} (front ++ [s])).cursor) ∧
    (ScanState.run {} (symbols lines)).cursor = Cursor.behind lines ∧
    (∀ r : Reader, Relation.ReflTransGen (Reader.Passes lines) {} r →
      (r.cursor.row < lines.length →
        r.cursor.InLines lines ∧ ∃ r', r.pass? lines = some r') ∧
      ∀ r', Relation.TransGen (Reader.Passes lines) r r' → r.cursor.Before r'.cursor) ∧
    ∃ r : Reader, Relation.ReflTransGen (Reader.Passes lines) {} r ∧
      r.cursor = Cursor.behind lines ∧ r.members.found.reverse = declarations lines := by
  refine ⟨?_, scan_ends lines, ?_, Reader.exists_found lines⟩
  · intro front s back split
    refine ⟨scan_inLines split, (scan_meets split).2, ?_⟩
    rw [scan_cursor, scan_cursor, List.foldl_append]
    exact Cursor.before_advance _ s
  · intro r run
    have range := (Reader.reached run).1
    refine ⟨?_, fun r' passes => (Reader.before_of_passes range passes).2⟩
    intro more
    obtain ⟨r', done, -⟩ := Reader.pass?_advances (range.inLines more)
    exact ⟨range.inLines more, r', done⟩

end JavadocLint
