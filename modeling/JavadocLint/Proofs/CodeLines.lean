import Mathlib
import JavadocLint.Proofs.OpaqueText
import JavadocLint.Proofs.SourceLexemes
import JavadocLint.Proofs.SuppressionReach
import JavadocLint.Proofs.LineShift

/- Lines of code. A suppression comment looks for the next one by the beginnings of lines, the scan
   tells code from comments byte by byte. Both agree as long as no line closes a block comment and
   leaves another one open, and they stop at the same line exactly if its first character is code:
   code behind a comment is passed over. -/
namespace JavadocLint

section Spec

/-- Whether a byte is code: neither white space nor a part of a comment. The first byte of a comment
    is known by the one after it. -/
def LexMode.isCode (m : LexMode) (b : UInt8) (next : Option UInt8) : Bool :=
  if m.inCodeAt b then
    !isBlankByte b && !(b = byte '/' && (next = some (byte '/') || next = some (byte '*')))
  else
    match m with
    | .slash | .lineComment | .blockComment | .blockStar => false
    | _ => true

def holdsCode (m : LexMode) : Text → Bool
  | [] => false
  | b :: rest => m.isCode b rest.head? || holdsCode (m.step (.byte b)).1 rest

def modeAt (lines : List Text) (n : Nat) : LexMode := LexMode.code.run (symbols (lines.take n))

def isCodeLine (lines : List Text) (n : Nat) : Bool := lines[n]?.any (holdsCode (modeAt lines n))

def IsFirstCodeLine (lines : List Text) (start n : Nat) : Prop :=
  start ≤ n ∧ isCodeLine lines n = true ∧ ∀ k < n, start ≤ k → isCodeLine lines k = false

instance (lines : List Text) (start n : Nat) : Decidable (IsFirstCodeLine lines start n) :=
  inferInstanceAs (Decidable (_ ∧ _ ∧ _))

/-- What stands on a line after the opening of its first block comment, which may lie above. -/
def commentText (m : LexMode) (line : Text) : Text :=
  if m = .blockComment then line else ((Text.cut? (utf8 "/*") line).map Prod.snd).getD []

def reopensComment (lines : List Text) (n : Nat) : Bool :=
  lines[n]?.any fun line => modeAt lines (n + 1) = .blockComment &&
    Text.containsText (utf8 "*/") (commentText (modeAt lines n) line)

/-- From `start` on, no line above the first one of code leaves a second comment open. -/
def OpensOnce (lines : List Text) (start : Nat) : Prop :=
  ∀ n < lines.length, start ≤ n → (∀ k < n + 1, start ≤ k → isCodeLine lines k = false) →
    reopensComment lines n = false

instance (lines : List Text) (start : Nat) : Decidable (OpensOnce lines start) :=
  inferInstanceAs (Decidable (∀ n < lines.length, _ → _ → _))

/-- The first character of a line that is no blank is code, if no comment is open above. -/
def startsWithCode (line : Text) : Bool :=
  match line.trimStart with
  | [] => false
  | b :: rest => LexMode.code.isCode b rest.head?

def beginsWithCode (lines : List Text) (n : Nat) : Bool :=
  lines[n]?.any fun line => modeAt lines n = .code && startsWithCode line

/-- A suppression comment on a line of its own, not above the package statement. -/
def StandsAlone (lines : List Text) (i : Nat) (line : Text) : Prop :=
  (packageLine? lines).any (i + 1 < ·) = false ∧
    ∃ before rest, Text.cut? suppressionMark line = some (before, rest) ∧ before.trim = []

end Spec

section Modes

variable {m : LexMode} {line rest : Text} {b : UInt8}

def LexMode.Passing (m : LexMode) : Prop :=
  m = .code ∨ m = .slash ∨ m = .lineComment ∨ m = .blockComment ∨ m = .blockStar

theorem stepCode_blank (blank : isBlankByte b = true) :
    LexMode.stepCode (.byte b) = (.code, []) := by
  simp only [isBlankByte, Bool.or_eq_true, decide_eq_true_eq] at blank
  rcases blank with (((rfl | rfl) | rfl) | rfl) | rfl <;> rfl

theorem stepCode_passing {next : Option UInt8} (noCode : LexMode.code.isCode b next = false) :
    (LexMode.stepCode (.byte b)).1.Passing := by
  simp only [LexMode.isCode, LexMode.inCodeAt, if_true, Bool.and_eq_false_iff,
    Bool.not_eq_false', Bool.and_eq_true, decide_eq_true_eq] at noCode
  rcases noCode with blank | ⟨rfl, -⟩
  · rw [stepCode_blank blank]
    exact .inl rfl
  · exact .inr (.inl rfl)

theorem LexMode.Passing.step (passing : m.Passing) {next : Option UInt8}
    (noCode : m.isCode b next = false) : (m.step (.byte b)).1.Passing := by
  rcases passing with rfl | rfl | rfl | rfl | rfl
  · exact stepCode_passing noCode
  · by_cases line : b = byte '/'
    · subst line
      exact .inr (.inr (.inl rfl))
    by_cases block : b = byte '*'
    · subst block
      exact .inr (.inr (.inr (.inl rfl)))
    · have inCode : LexMode.slash.inCodeAt b = true := by simp [inCodeAt, line, block]
      rw [step_inCodeAt inCode]
      rw [isCode, if_pos inCode] at noCode
      exact stepCode_passing noCode
  · exact .inr (.inr (.inl rfl))
  · simp only [LexMode.step]
    split_ifs
    · exact .inr (.inr (.inr (.inr rfl)))
    · exact .inr (.inr (.inr (.inl rfl)))
  · simp only [LexMode.step]
    split_ifs
    · exact .inl rfl
    · exact .inr (.inr (.inr (.inr rfl)))
    · exact .inr (.inr (.inr (.inl rfl)))

theorem run_noCode (passing : m.Passing) (noCode : holdsCode m line = false) :
    m.run (lineSymbols line) = .code ∨ m.run (lineSymbols line) = .blockComment := by
  induction line generalizing m with
  | nil => rcases passing with rfl | rfl | rfl | rfl | rfl <;> decide
  | cons b rest ih =>
    rw [holdsCode, Bool.or_eq_false_iff] at noCode
    exact ih (passing.step noCode.1) noCode.2

theorem run_lineComment (line : Text) : LexMode.lineComment.run (lineSymbols line) = .code := by
  induction line with
  | nil => rfl
  | cons b rest ih => exact ih

theorem run_blockComment (going : ¬ utf8 "*/" <:+: line) :
    LexMode.blockComment.run (lineSymbols line) = .blockComment ∧
      (line.head? ≠ some (byte '/') →
        LexMode.blockStar.run (lineSymbols line) = .blockComment) := by
  induction line with
  | nil => exact ⟨rfl, fun _ => rfl⟩
  | cons b rest ih =>
    rw [List.infix_cons_iff, not_or] at going
    obtain ⟨block, star⟩ := ih going.2
    have first : LexMode.blockComment.run (lineSymbols (b :: rest)) = .blockComment := by
      change ((if (Symbol.byte b).isByte '*' then LexMode.blockStar else .blockComment).run
        (lineSymbols rest)) = _
      split_ifs with isStar
      · refine star fun slash => going.1 ?_
        obtain ⟨more, rfl⟩ : ∃ more, rest = byte '/' :: more := by cases rest <;> simp_all
        obtain rfl : b = byte '*' := by simpa [Symbol.isByte] using isStar
        exact ⟨more, rfl⟩
      · exact block
    refine ⟨first, fun noSlash => ?_⟩
    have other : Symbol.byte b ≠ .byte (byte '/') := by simpa using noSlash
    change ((LexMode.blockStar.step (.byte b)).1.run (lineSymbols rest)) = _
    rw [LexMode.blockStar_step other]
    exact first

theorem noCode_cases (noCode : holdsCode .code line = false) :
    ∃ blanks rest, line = blanks ++ rest ∧ (∀ b ∈ blanks, isBlankByte b = true) ∧
      LexMode.code.run (lineSymbols line) = LexMode.code.run (lineSymbols rest) ∧
      (rest = [] ∨ (∃ more, rest = byte '/' :: byte '/' :: more) ∨
        ∃ more, rest = byte '/' :: byte '*' :: more) := by
  induction line with
  | nil => exact ⟨[], [], rfl, nofun, rfl, .inl rfl⟩
  | cons b line ih =>
    rw [holdsCode, Bool.or_eq_false_iff] at noCode
    by_cases blank : isBlankByte b = true
    · have stays : (LexMode.code.step (.byte b)).1 = .code :=
        congrArg Prod.fst (stepCode_blank blank)
      rw [stays] at noCode
      obtain ⟨blanks, rest, rfl, all, run, comment⟩ := ih noCode.2
      refine ⟨b :: blanks, rest, rfl, List.forall_mem_cons.mpr ⟨blank, all⟩, ?_, comment⟩
      change (LexMode.code.step (.byte b)).1.run (lineSymbols (blanks ++ rest)) = _
      rw [stays, run]
    · refine ⟨[], b :: line, rfl, nofun, rfl, .inr ?_⟩
      have opens := noCode.1
      simp only [LexMode.isCode, LexMode.inCodeAt, if_true, blank, Bool.not_false, Bool.true_and,
        Bool.not_eq_false', Bool.and_eq_true, Bool.or_eq_true, decide_eq_true_eq] at opens
      obtain ⟨rfl, head⟩ := opens
      obtain ⟨c, more, rfl⟩ : ∃ c more, line = c :: more := by cases line <;> simp_all
      rcases head with slash | star
      · cases Option.some.inj slash
        exact .inl ⟨more, rfl⟩
      · cases Option.some.inj star
        exact .inr ⟨more, rfl⟩

end Modes

section Search

variable {m : LexMode} {line : Text}

theorem blankByte_ascii {b : UInt8} (blank : isBlankByte b = true) :
    b < 0x80 ∧ isBlank b.toNat = true := by
  simp only [isBlankByte, Bool.or_eq_true, decide_eq_true_eq] at blank
  rcases blank with (((rfl | rfl) | rfl) | rfl) | rfl <;> decide

theorem trimStart_blanks {blanks : Text} (all : ∀ b ∈ blanks, isBlankByte b = true) (t : Text) :
    Text.trimStart (blanks ++ t) = t.trimStart := by
  induction blanks with
  | nil => rfl
  | cons b rest ih =>
    obtain ⟨⟨ascii, blank⟩, others⟩ := (List.forall_mem_cons.mp all).imp_left blankByte_ascii
    rw [List.cons_append, trimStart_blank ascii blank, ih others]

theorem trim_comment {c : UInt8} (second : c = byte '/' ∨ c = byte '*') {more : Text}
    (start : line.trimStart = byte '/' :: c :: more) :
    line.trim = byte '/' :: c :: more.trimEnd := by
  have solid : c < 0x80 ∧ isBlank c.toNat = false := by rcases second with rfl | rfl <;> decide
  rw [Text.trim, start, trimEnd_solid (by decide) (by decide), trimEnd_solid solid.1 solid.2]

theorem trimStart_comment {blanks : Text} (all : ∀ b ∈ blanks, isBlankByte b = true)
    (more : Text) : Text.trimStart (blanks ++ byte '/' :: more) = byte '/' :: more := by
  rw [trimStart_blanks all, trimStart_solid (by decide) (by decide)]

theorem codeOffset?_lineComment {more : Text} (start : line.trimStart = byte '/' :: byte '/' :: more)
    (rest : List Text) :
    codeOffset? false (line :: rest) = (codeOffset? false rest).map (· + 1) := by
  rw [codeOffset?, trim_comment (.inl rfl) start]
  rfl

theorem codeOffset?_blockComment {more : Text}
    (start : line.trimStart = byte '/' :: byte '*' :: more) (rest : List Text) :
    codeOffset? false (line :: rest) =
      (codeOffset? (!Text.containsText (utf8 "*/") more.trimEnd) rest).map (· + 1) := by
  rw [codeOffset?, trim_comment (.inr rfl) start]
  rfl

theorem commentText_comment {blanks : Text} (all : ∀ b ∈ blanks, isBlankByte b = true)
    (more : Text) : commentText .code (blanks ++ byte '/' :: byte '*' :: more) = more := by
  have absent : byte '/' ∉ blanks := fun inside => absurd (all _ inside) (by decide)
  have cut : Text.cut? (byte '/' :: [byte '*']) (blanks ++ (byte '/' :: [byte '*'] ++ more)) =
      some (blanks, more) := cut?_skip absent more
  have opening : utf8 "/*" = byte '/' :: [byte '*'] := rfl
  rw [commentText, if_neg nofun, opening]
  exact congrArg (fun found => (found.map Prod.snd).getD []) cut

theorem search_open {m : LexMode} {t whole : Text}
    (trimmed : utf8 "*/" <:+: t ↔ utf8 "*/" <:+: whole)
    (goesOn : m = .blockComment ↔ ¬ utf8 "*/" <:+: whole) :
    (!Text.containsText (utf8 "*/") t) = decide (m = .blockComment) := by
  rw [Bool.eq_iff_iff, Bool.not_eq_true', decide_eq_true_iff, goesOn, ← trimmed,
    ← containsText_iff, Bool.not_eq_true]

/-- A line without code that leaves no second comment open is passed over, and the search then
    knows whether a comment is open. -/
theorem codeOffset?_noCode (between : m = .code ∨ m = .blockComment)
    (noCode : holdsCode m line = false)
    (single : m.run (lineSymbols line) = .blockComment → ¬ utf8 "*/" <:+: commentText m line)
    (rest : List Text) :
    codeOffset? (m = .blockComment) (line :: rest) =
      (codeOffset? (m.run (lineSymbols line) = .blockComment) rest).map (· + 1) := by
  have closing : IsSolid (utf8 "*/") := by decide +kernel
  rcases between with rfl | rfl
  · obtain ⟨blanks, comment, rfl, all, run, rfl | ⟨more, rfl⟩ | ⟨more, rfl⟩⟩ :=
      noCode_cases noCode
    · have empty : Text.trim (blanks ++ []) = [] := by
        rw [Text.trim, trimStart_blanks all]
        rfl
      rw [codeOffset?, run, empty]
      rfl
    · have after : LexMode.code.run (lineSymbols (byte '/' :: byte '/' :: more)) = .code :=
        run_lineComment more
      rw [run, after]
      exact codeOffset?_lineComment (trimStart_comment all _) rest
    · rw [commentText_comment all] at single
      have goesOn := Iff.intro single fun going => run ▸ (run_blockComment going).1
      rw [← search_open closing.infix_trimEnd goesOn]
      exact codeOffset?_blockComment (trimStart_comment all _) rest
  · have goesOn := Iff.intro single fun going => (run_blockComment going).1
    rw [codeOffset?, ← search_open closing.infix_trim goesOn]
    rfl

def codeLineFrom? (lines : List Text) (n : Nat) : Option Nat :=
  (codeOffset? (modeAt lines n = .blockComment) (lines.drop n)).map (n + ·)

variable {lines : List Text} {start n : Nat}

theorem modeAt_succ (there : lines[n]? = some line) :
    modeAt lines (n + 1) = (modeAt lines n).run (lineSymbols line) := by
  have one : symbols (lines.take (n + 1)) = symbols (lines.take n) ++ lineSymbols line := by
    rw [List.take_add_one, there]
    simp [symbols]
  rw [modeAt, one, LexMode.run_append, modeAt]

theorem codeLineFrom?_step (inside : n < lines.length)
    (between : modeAt lines n = .code ∨ modeAt lines n = .blockComment)
    (noCode : isCodeLine lines n = false) (single : reopensComment lines n = false) :
    (modeAt lines (n + 1) = .code ∨ modeAt lines (n + 1) = .blockComment) ∧
      codeLineFrom? lines n = codeLineFrom? lines (n + 1) := by
  have there := List.getElem?_eq_getElem inside
  have next := modeAt_succ there
  rw [isCodeLine, there, Option.any_some] at noCode
  rw [reopensComment, there, Option.any_some, next, Bool.and_eq_false_imp, decide_eq_true_iff,
    Bool.eq_false_iff, Ne, containsText_iff] at single
  constructor
  · rw [next]
    exact run_noCode (between.imp_right fun block => .inr (.inr (.inl block))) noCode
  · rw [codeLineFrom?, codeLineFrom?, List.drop_eq_getElem_cons inside,
      codeOffset?_noCode between noCode single, next, Option.map_map]
    congr 1
    funext k
    simp only [Function.comp_apply]
    omega

theorem codeLineFrom?_run (single : OpensOnce lines start)
    (between : modeAt lines start = .code ∨ modeAt lines start = .blockComment)
    (reached : start ≤ n) (inside : n ≤ lines.length)
    (noCode : ∀ k < n, start ≤ k → isCodeLine lines k = false) :
    (modeAt lines n = .code ∨ modeAt lines n = .blockComment) ∧
      codeLineFrom? lines start = codeLineFrom? lines n := by
  induction n, reached using Nat.le_induction with
  | base => exact ⟨between, rfl⟩
  | succ n reached ih =>
    obtain ⟨here, same⟩ := ih (by omega) fun k before => noCode k (by omega)
    obtain ⟨next, step⟩ := codeLineFrom?_step inside here (noCode n (by omega) reached)
      (single n inside reached noCode)
    exact ⟨next, same.trans step⟩

theorem trimStart_first {b : UInt8} {rest : Text} (first : line.trimStart = b :: rest) :
    isBlankByte b = false := by
  by_contra blank
  obtain ⟨ascii, isBlank⟩ := blankByte_ascii (Bool.not_eq_false _ ▸ blank)
  have again : line.trimStart.trimStart = line.trimStart := by
    rw [Text.trimStart, (chunks_trimStart line).2, List.dropWhile_idempotent, ← Text.trimStart]
  rw [first, trimStart_blank ascii isBlank] at again
  have shorter := (chunks_trimStart rest).1.length_le
  rw [again, List.length_cons] at shorter
  omega

theorem codeOffset?_zero (line : Text) (rest : List Text) :
    codeOffset? false (line :: rest) = some 0 ↔ startsWithCode line = true := by
  cases start : line.trimStart with
  | nil =>
    have empty : line.trim = [] := by
      rw [Text.trim, start]
      rfl
    rw [codeOffset?, empty, startsWithCode, start]
    simp
  | cons b more =>
    have first : startsWithCode line = true ↔
        ¬ (b = byte '/' ∧ (more.head? = some (byte '/') ∨ more.head? = some (byte '*'))) := by
      simp [startsWithCode, start, LexMode.isCode, LexMode.inCodeAt, trimStart_first start,
        imp_iff_not_or]
    rw [first]
    by_cases opens : b = byte '/' ∧ (more.head? = some (byte '/') ∨ more.head? = some (byte '*'))
    · refine iff_of_false ?_ (not_not_intro opens)
      obtain ⟨rfl, second⟩ := opens
      obtain ⟨c, more, rfl⟩ : ∃ c text, more = c :: text := by cases more <;> simp_all
      rw [List.head?_cons, Option.some_inj, Option.some_inj] at second
      rcases second with rfl | rfl
      · simp [codeOffset?_lineComment start]
      · simp [codeOffset?_blockComment start]
    · refine iff_of_true ?_ opens
      have begins : line.trim <+: b :: more := start ▸ trimEnd_begins line.trimStart
      have present : line.trim ≠ [] := by
        rw [Ne, trim_eq_nil_iff, isBlankText_iff]
        intro blank
        rw [Text.trimStart, blank] at start
        cases start
      have notOpened (c : UInt8) (second : c = byte '/' ∨ c = byte '*') :
          ¬ [byte '/', c] <+: line.trim := by
        intro comment
        obtain ⟨rfl, after⟩ := List.cons_prefix_cons.mp (comment.trans begins)
        obtain ⟨text, rfl⟩ := after
        exact opens ⟨rfl, by simpa using second⟩
      exact codeOffset?_code present (notOpened _ (.inl rfl)) (notOpened _ (.inr rfl)) rest

theorem codeLineFrom?_here (there : lines[n]? = some line)
    (between : modeAt lines n = .code ∨ modeAt lines n = .blockComment) :
    codeLineFrom? lines n = some n ↔ beginsWithCode lines n = true := by
  obtain ⟨inside, rfl⟩ := List.getElem?_eq_some_iff.mp there
  rw [beginsWithCode, there, Option.any_some, codeLineFrom?, List.drop_eq_getElem_cons inside]
  rcases between with mode | mode
  · have stops := codeOffset?_zero lines[n] (lines.drop (n + 1))
    simpa [mode] using stops
  · rw [mode, codeOffset?]
    simp

theorem nextCodeLine?_eq (outside : modeAt lines start = .code) :
    nextCodeLine? lines start = codeLineFrom? lines start := by
  rw [codeLineFrom?, outside]
  rfl

theorem nextCodeLine?_noCode (outside : modeAt lines start = .code)
    (single : OpensOnce lines start) (noCode : ∀ n, start ≤ n → isCodeLine lines n = false) :
    nextCodeLine? lines start = none := by
  by_cases within : start ≤ lines.length
  · obtain ⟨-, same⟩ := codeLineFrom?_run single (.inl outside) within le_rfl
      fun k _ from' => noCode k from'
    rw [nextCodeLine?_eq outside, same, codeLineFrom?, List.drop_length]
    rfl
  · rw [nextCodeLine?, List.drop_eq_nil_of_le (by omega)]
    rfl

theorem nextCodeLine?_first (outside : modeAt lines start = .code)
    (single : OpensOnce lines start) (first : IsFirstCodeLine lines start n) :
    nextCodeLine? lines start = codeLineFrom? lines n ∧
      (nextCodeLine? lines start = some n ↔ beginsWithCode lines n = true) := by
  obtain ⟨reached, code, noCode⟩ := first
  obtain ⟨line, there⟩ : ∃ line, lines[n]? = some line := by
    rw [← Option.isSome_iff_exists]
    exact Option.isSome_of_any code
  have inside := (List.getElem?_eq_some_iff.mp there).1
  obtain ⟨between, same⟩ := codeLineFrom?_run single (.inl outside) reached inside.le noCode
  rw [nextCodeLine?_eq outside, same]
  exact ⟨rfl, codeLineFrom?_here there between⟩

theorem suppressionAt?_standing {file : Text} {i : Nat} {s : Suppression}
    (alone : StandsAlone lines i line) (found : suppressionAt? file lines i line = some s) :
    s.start.line = i + 1 ∧ s.stop.line = ((nextCodeLine? lines (i + 1)).getD i : Nat) + 1 := by
  obtain ⟨below, before, rest, cut, blank⟩ := alone
  have whole := suppressionAt?_reach file lines i line
  rw [found, cut, Option.map_some, Option.bind_some, eq_comm] at whole
  obtain ⟨rules, -, same⟩ := Option.map_eq_some_iff.mp whole
  simpa [reach, below, blank, eq_comm] using (Prod.ext_iff.mp same).2

end Search

/-- From a line outside comments on, the search finds no line if there is none of code, and else
    none before the first of them; it stops there, and a suppression comment ends there, exactly if
    that line begins with code. -/
theorem next_code_line_agrees (lines : List Text) (start : Nat)
    (outside : modeAt lines start = .code) (single : OpensOnce lines start) :
    ((∀ n, start ≤ n → isCodeLine lines n = false) → nextCodeLine? lines start = none) ∧
      (∀ n, IsFirstCodeLine lines start n →
        (nextCodeLine? lines start = some n ↔ beginsWithCode lines n = true) ∧
        ∀ k, nextCodeLine? lines start = some k → n ≤ k) ∧
      ∀ file i line s n, start = i + 1 → StandsAlone lines i line →
        suppressionAt? file lines i line = some s → IsFirstCodeLine lines start n →
        (s.stop.line = n + 1 ↔ beginsWithCode lines n = true) := by
  refine ⟨nextCodeLine?_noCode outside single, ?_, ?_⟩
  · intro n first
    obtain ⟨same, stops⟩ := nextCodeLine?_first outside single first
    refine ⟨stops, fun k found => ?_⟩
    rw [same, codeLineFrom?] at found
    obtain ⟨offset, -, rfl⟩ := Option.map_eq_some_iff.mp found
    exact Nat.le_add_right n offset
  · rintro file i line s n rfl alone found first
    rw [(suppressionAt?_standing alone found).2, ← (nextCodeLine?_first outside single first).2]
    have later := first.1
    cases nextCodeLine? lines (i + 1) with
    | none => simp; omega
    | some next => simp

def commentedLines : List Text :=
  [utf8 "//nolint", utf8 "/* a", utf8 " b */ // c", utf8 "", utf8 "  class A \x7b\x7d // d"]

theorem next_code_line_agrees_comments :
    nextCodeLine? commentedLines 1 = some 4 ∧
      ∃ s, suppressionAt? (utf8 "A.java") commentedLines 0 (utf8 "//nolint") = some s ∧
        s.stop.line = 5 := by
  have agrees := next_code_line_agrees commentedLines 1 (by decide +kernel) (by decide +kernel)
  have first : IsFirstCodeLine commentedLines 1 4 := by decide +kernel
  have begins : beginsWithCode commentedLines 4 = true := by decide +kernel
  have alone : StandsAlone commentedLines 0 (utf8 "//nolint") :=
    ⟨by decide +kernel, [], [], by decide +kernel, rfl⟩
  have found : suppressionAt? (utf8 "A.java") commentedLines 0 (utf8 "//nolint") =
      some ⟨⟨utf8 "A.java", 1, 1⟩, ⟨utf8 "A.java", 5, 0⟩, []⟩ := by decide +kernel
  exact ⟨(agrees.2.1 4 first).1.mpr begins, _, found,
    (agrees.2.2 _ 0 _ _ 4 rfl alone found first).mpr begins⟩

/-- Code behind a comment is passed over, so that a suppression reaches past it; and where a line
    leaves a second comment open, the text of that comment is taken for code. -/
theorem code_behind_comment_passed :
    (let lines := [utf8 "/* a */ class A \x7b\x7d", utf8 "class B \x7b\x7d"]
     modeAt lines 0 = .code ∧ IsFirstCodeLine lines 0 0 ∧ nextCodeLine? lines 0 = some 1) ∧
    (let lines := [utf8 "//nolint", utf8 "/* a */ class A \x7b\x7d", utf8 "class B \x7b\x7d"]
     IsFirstCodeLine lines 1 1 ∧
       isSuppressed (suppressions (utf8 "A.java") lines) 3 (utf8 "javadoc-tags") = true) ∧
    (let lines := [utf8 "/* a */ /* b", utf8 " c */", utf8 "class A \x7b\x7d"]
     IsFirstCodeLine lines 0 2 ∧ nextCodeLine? lines 0 = some 1) := by
  decide +kernel

end JavadocLint
