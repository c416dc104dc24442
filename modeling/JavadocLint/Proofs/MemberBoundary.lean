import Mathlib
import JavadocLint.Proofs.DeclarationSites
import JavadocLint.Proofs.LineShift

/- A file that is cut between two members at its outermost level. The scan of the lower part may
   start afresh there. All that is left of the upper part is the token read last, and between members
   this can only be one after which a declaration starts just as at the beginning of a file. -/
namespace JavadocLint

/-- Outside comments, literals, braces and parentheses, with no keyword that waits for its name and
    no member begun. -/
structure ScanState.BetweenMembers (s : ScanState) : Prop where
  mode : s.mode = .code
  depth : s.members.depth = 0
  parens : s.members.parens = 0
  pending : s.members.pending = none
  memberLine : s.members.memberLine = none

section Lines

variable (n : Nat)

def Declaration.below (d : Declaration) : Declaration :=
  { d with line := d.line + n, keywordLine := d.keywordLine + n }

def OpenDeclaration.below (o : OpenDeclaration) : OpenDeclaration :=
  { o with line := o.line + n, keywordLine := o.keywordLine + n }

theorem close_below (o : OpenDeclaration) (name : Text) :
    (o.below n).close name = (o.close name).below n := by
  simp [OpenDeclaration.close, OpenDeclaration.below, Declaration.below]

theorem LexMode.located_below (m : LexMode) (row : Nat) (syms : List Symbol) :
    m.located (row + n) syms = (m.located row syms).map fun t => (t.1, t.2 + n) := by
  induction n with
  | zero => simp
  | succ n ih =>
    rw [← Nat.add_assoc, located_later, ih, List.map_map]
    rfl

theorem nextRow_lines (lines : List Text) (row : Nat) :
    (symbols lines).foldl Symbol.nextRow row = row + lines.length := by
  induction lines generalizing row with
  | nil => rfl
  | cons line rest ih =>
    have split : symbols (line :: rest) = lineSymbols line ++ symbols rest := rfl
    rw [split, List.foldl_append, nextRow_line, ih, List.length_cons]
    omega

theorem scan_mode (s : ScanState) (syms : List Symbol) : (s.run syms).mode = s.mode.run syms := by
  induction syms generalizing s with
  | nil => rfl
  | cons sym rest ih => exact ih (s.step sym)

end Lines

section LastToken

def Previous.startsMember : Previous → Bool
  | .none => true
  | .word => false
  | .mark b => isStartMark b

theorem keywordKind?_startsMember {p : Previous} (starts : p.startsMember = true) (w : Text) :
    keywordKind? w p = keywordKind? w .none := by
  cases p with
  | none => rfl
  | word => cases starts
  | mark b =>
    simp only [Previous.startsMember, isStartMark, Bool.or_eq_true, decide_eq_true_eq] at starts
    rcases starts with ((rfl | rfl) | rfl) | rfl <;>
      simp [keywordKind?, recordMayFollow, byte]

/-- Inside parentheses a member has begun, and between members the last token is one that a
    declaration can follow. -/
structure MemberState.Orderly (s : MemberState) : Prop where
  inside : s.parens ≠ 0 → s.memberLine.isSome = true
  between : s.memberLine = none → s.previous.startsMember = true

variable {s : MemberState}

theorem MemberState.Orderly.readPunct (orderly : s.Orderly) (b : UInt8) (line : Nat) :
    (s.readPunct b line).Orderly := by
  obtain ⟨previous, -, -⟩ := readPunct_rest s b line
  have marks : (Lexeme.mark b).endsMember = true → isStartMark b = true ∧ b ≠ byte '(' := by
    simp only [Lexeme.endsMember, isStartMark, Lexeme.mark.injEq, Bool.or_eq_true,
      decide_eq_true_eq]
    rintro ((rfl | rfl) | rfl) <;> decide
  refine ⟨?_, ?_⟩
  · rw [readPunct_parens, readPunct_memberLine]
    intro inside
    split_ifs with ends outside closing
    · -- a brace or semicolon outside parentheses leaves their depth at zero
      rw [if_neg (marks ends).2, outside] at inside
      split_ifs at inside <;> exact absurd rfl inside
    · exact orderly.inside outside
    · refine orderly.inside fun outside => inside ?_
      rw [closing, if_neg (by decide), if_pos rfl, outside]
    · rfl
  · rw [readPunct_memberLine, previous]
    intro none
    split_ifs at none with ends outside closing
    · exact (marks ends).1
    · exact absurd (orderly.inside outside) (by simp [none])
    · simp [Previous.startsMember, isStartMark, closing]

theorem MemberState.Orderly.read (orderly : s.Orderly) (line : Nat) (t : Token) :
    (s.read line t).Orderly := by
  cases t with
  | word w =>
    have begun : (s.readWord w line).memberLine.isSome = true := by
      unfold MemberState.readWord
      cases s.pending <;> rfl
    refine ⟨fun _ => begun, fun none => ?_⟩
    rw [show s.read line (.word w) = s.readWord w line from rfl] at none
    simp [none] at begun
  | literal q => exact ⟨fun _ => rfl, nofun⟩
  | punct b => exact orderly.readPunct b line

theorem MemberState.Orderly.readAll (orderly : s.Orderly) (tokens : List LocatedToken) :
    (s.readAll tokens).Orderly := by
  induction tokens generalizing s with
  | nil => exact orderly
  | cons t rest ih => exact ih (orderly.read t.2 t.1)

end LastToken

section Composition

variable {n : Nat} {earlier : List Declaration} {t s : MemberState}

/-- A scan that goes on below `n` lines, against one that starts afresh there. -/
structure Resumes (n : Nat) (earlier : List Declaration) (t s : MemberState) : Prop where
  depth : s.depth = t.depth
  parens : s.parens = t.parens
  memberLine : s.memberLine = t.memberLine.map (· + n)
  pending : s.pending = t.pending.map (OpenDeclaration.below n)
  found : s.found = t.found.map (Declaration.below n) ++ earlier
  previous : s.previous = t.previous ∨ t.previous = .none ∧ s.previous.startsMember = true

theorem Resumes.keywordKind? (resumes : Resumes n earlier t s) (w : Text) :
    keywordKind? w s.previous = keywordKind? w t.previous := by
  rcases resumes.previous with same | ⟨fresh, starts⟩
  · rw [same]
  · rw [fresh, keywordKind?_startsMember starts]

theorem Resumes.begun (resumes : Resumes n earlier t s) (line : Nat) :
    s.memberLine.getD (line + n) = t.memberLine.getD line + n := by
  rw [resumes.memberLine]
  cases t.memberLine <;> rfl

theorem Resumes.word (resumes : Resumes n earlier t s) (w : Text) (line : Nat) :
    Resumes n earlier (t.readWord w line) (s.readWord w (line + n)) := by
  have begun := resumes.begun line
  unfold MemberState.readWord
  rw [resumes.pending]
  cases waiting : t.pending with
  | some o =>
    exact ⟨resumes.depth, resumes.parens, congrArg some begun, rfl,
      by simp [resumes.found, close_below], .inl rfl⟩
  | none =>
    refine ⟨resumes.depth, resumes.parens, congrArg some begun, ?_, resumes.found, .inl rfl⟩
    simp only [Option.map_none, resumes.parens, resumes.keywordKind?, resumes.depth, begun]
    split
    · simp [Function.comp_def, OpenDeclaration.below]
    · rfl

theorem Resumes.punct (resumes : Resumes n earlier t s) (b : UInt8) (line : Nat) :
    Resumes n earlier (t.readPunct b line) (s.readPunct b (line + n)) := by
  obtain ⟨previous, pending, found⟩ := readPunct_rest t b line
  obtain ⟨previous', pending', found'⟩ := readPunct_rest s b (line + n)
  refine ⟨?_, ?_, ?_, ?_, ?_, .inl (previous'.trans previous.symm)⟩
  · rw [readPunct_depth, readPunct_depth, resumes.depth, resumes.parens]
  · rw [readPunct_parens, readPunct_parens, resumes.parens]
  · rw [readPunct_memberLine, readPunct_memberLine, resumes.parens, resumes.begun,
      resumes.memberLine]
    split_ifs <;> rfl
  · rw [pending', pending]
    rfl
  · rw [found', found, resumes.found]

theorem Resumes.read (resumes : Resumes n earlier t s) (line : Nat) (token : Token) :
    Resumes n earlier (t.read line token) (s.read (line + n) token) := by
  cases token with
  | word w => exact resumes.word w line
  | literal q =>
    exact ⟨resumes.depth, resumes.parens, congrArg some (resumes.begun line), resumes.pending,
      resumes.found, .inl rfl⟩
  | punct b => exact resumes.punct b line

theorem Resumes.readAll (resumes : Resumes n earlier t s) (tokens : List LocatedToken) :
    Resumes n earlier (t.readAll tokens) (s.readAll (tokens.map fun u => (u.1, u.2 + n))) := by
  induction tokens generalizing t s with
  | nil => exact resumes
  | cons u rest ih => exact ih (resumes.read u.2 u.1)

end Composition

/-- Where the first lines leave the scan between members, the declarations of the whole file are
    those of both parts, each scanned alone. -/
theorem declarations_compose (upper lower : List Text)
    (boundary : (ScanState.run {} (symbols upper)).BetweenMembers) :
    declarations (upper ++ lower) =
      declarations upper ++ (declarations lower).map (Declaration.below upper.length) := by
  have members := scan_members {} (symbols upper)
  have mode := scan_mode {} (symbols upper)
  rw [boundary.mode] at mode
  have tokens : fileTokens (upper ++ lower) =
      fileTokens upper ++ (fileTokens lower).map fun t => (t.1, t.2 + upper.length) := by
    have split : symbols (upper ++ lower) = symbols upper ++ symbols lower := List.flatMap_append
    rw [fileTokens, split, LexMode.located_append, nextRow_lines, ← mode, LexMode.located_below]
    rfl
  have orderly : (MemberState.readAll {} (fileTokens upper)).Orderly :=
    MemberState.Orderly.readAll ⟨fun inside => absurd rfl inside, fun _ => rfl⟩ _
  have resumes : Resumes upper.length (MemberState.readAll {} (fileTokens upper)).found {}
      (MemberState.readAll {} (fileTokens upper)) := by
    have there : (ScanState.run {} (symbols upper)).members =
      MemberState.readAll {} (fileTokens upper) := members
    obtain ⟨-, depth, parens, pending, memberLine⟩ := boundary
    rw [there] at depth parens pending memberLine
    exact ⟨depth, parens, memberLine, pending, rfl, .inr ⟨rfl, orderly.between memberLine⟩⟩
  rw [declarations_readAll, tokens, MemberState.readAll_append,
    (resumes.readAll (fileTokens lower)).found, List.reverse_append, ← List.map_reverse,
    ← declarations_readAll, ← declarations_readAll]

theorem declarations_compose_stray_parenthesis :
    let upper := [utf8 "enum E \x7b A; \x7d /* class */", utf8 ") // class X"]
    let lower := [utf8 "", utf8 "record R(int x) \x7b class I \x7b\x7d \x7d"]
    (ScanState.run {} (symbols upper)).members.previous = .mark (byte ')') ∧
      (declarations lower).map (fun d => (d.name, d.line, d.nested)) =
        [(utf8 "R", 2, false), (utf8 "I", 2, true)] ∧
      declarations (upper ++ lower) =
        declarations upper ++ (declarations lower).map (Declaration.below upper.length) :=
  ⟨by decide +kernel, by decide +kernel,
    declarations_compose _ _ ⟨by decide +kernel, by decide +kernel, by decide +kernel,
      by decide +kernel, by decide +kernel⟩⟩

end JavadocLint
