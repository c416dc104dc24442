import Mathlib
import JavadocLint.Proofs.MachineLexemes

/- Where a file declares types, told from its lexemes alone. Whether a word declares a type depends
   on the lexemes before it, here always listed from the last one back, and on the next word. The
   scan finds exactly these declarations.

   It takes a zero byte for the start of the file. So `record` right after one declares a type,
   which it does after no other mark but those at which a declaration can start. -/
namespace JavadocLint

section Before

/-- The depth of parentheses; one that closes nothing is passed over. -/
def parensAfter : List LocatedLexeme → Nat
  | [] => 0
  | t :: before =>
    if t.1 = .mark (byte '(') then parensAfter before + 1
    else if t.1 = .mark (byte ')') then parensAfter before - 1
    else parensAfter before

/-- The depth of those braces that stand outside parentheses. -/
def bracesAfter : List LocatedLexeme → Nat
  | [] => 0
  | t :: before =>
    if parensAfter before ≠ 0 then bracesAfter before
    else if t.1 = .mark (byte '\x7b') then bracesAfter before + 1
    else if t.1 = .mark (byte '\x7d') then bracesAfter before - 1
    else bracesAfter before

def currentMember : List LocatedLexeme → List LocatedLexeme
  | [] => []
  | t :: before =>
    if parensAfter before = 0 ∧ t.1.endsMember then [] else t :: currentMember before

/-- The line of the first lexeme of the current member; a closing parenthesis does not count. -/
def memberStart (before : List LocatedLexeme) : Option Nat :=
  ((currentMember before).reverse.find? fun t => t.1 ≠ .mark (byte ')')).map Prod.snd

/-- The marks after which a declaration can start. -/
def isStartMark (b : UInt8) : Bool :=
  b = byte ';' || b = byte '\x7b' || b = byte '\x7d' || b = byte ')'

/-- The marks after which the scan takes `record` for a keyword. -/
def isScanMark (b : UInt8) : Bool := b = 0 || isStartMark b

def recordPlace (marks : UInt8 → Bool) : Option Lexeme → Bool
  | none => true
  | some (.word _) => true
  | some (.mark b) => marks b
  | some (.literal _) => false

def keywordAfter (marks : UInt8 → Bool) (before : List LocatedLexeme) (w : Text) :
    Option DeclarationKind :=
  let previous := before.head?.map Prod.fst
  if previous.bind (fun l => l.bytes.getLast?) = some (byte '.') then none
  else if w = utf8 "class" then some .classType
  else if w = utf8 "interface" then
    some (if previous = some (.mark (byte '@')) then .annotationType else .interfaceType)
  else if w = utf8 "enum" then some .enumType
  else if w = utf8 "record" ∧ recordPlace marks previous then some .recordType
  else none

/-- Whether the next word is the name of a declaration: the last word was its keyword, and only
    literals have followed. -/
def awaitsName (marks : UInt8 → Bool) : List LocatedLexeme → Bool
  | [] => false
  | (.literal _, _) :: before => awaitsName marks before
  | (.mark _, _) :: _ => false
  | (.word w, _) :: before =>
    !awaitsName marks before && decide (parensAfter before = 0) &&
      (keywordAfter marks before w).isSome

def opens? (marks : UInt8 → Bool) (before : List LocatedLexeme) :
    LocatedLexeme → Option OpenDeclaration
  | (.word w, line) =>
    if awaitsName marks before ∨ parensAfter before ≠ 0 then none
    else (keywordAfter marks before w).map fun kind =>
      ⟨kind, (memberStart before).getD line, line, decide (0 < bracesAfter before)⟩
  | _ => none

end Before

def nextName : List LocatedLexeme → Option Text
  | (.literal _, _) :: later => nextName later
  | (.word w, _) :: _ => some w
  | _ => none

structure Site where
  before : List LocatedLexeme
  here : LocatedLexeme
  later : List LocatedLexeme

def sitesAfter (before : List LocatedLexeme) : List LocatedLexeme → List Site
  | [] => []
  | t :: later => ⟨before, t, later⟩ :: sitesAfter (t :: before) later

def Site.declares (marks : UInt8 → Bool) (site : Site) : Option Declaration :=
  (opens? marks site.before site.here).bind fun o => (nextName site.later).map o.close

def declaredAfter (marks : UInt8 → Bool) (before later : List LocatedLexeme) : List Declaration :=
  (sitesAfter before later).filterMap (Site.declares marks)

theorem declaredAfter_cons (marks : UInt8 → Bool) (before : List LocatedLexeme) (t : LocatedLexeme)
    (later : List LocatedLexeme) :
    declaredAfter marks before (t :: later) =
      (Site.declares marks ⟨before, t, later⟩).toList ++
        declaredAfter marks (t :: before) later := by
  rw [declaredAfter, sitesAfter, List.filterMap_cons]
  cases Site.declares marks ⟨before, t, later⟩ <;> rfl

section Members

variable {t : LocatedLexeme} {before : List LocatedLexeme}

theorem memberStart_ended (outside : parensAfter before = 0) (ends : t.1.endsMember = true) :
    memberStart (t :: before) = none := by
  simp [memberStart, currentMember, outside, ends]

theorem memberStart_kept (goesOn : ¬(parensAfter before = 0 ∧ t.1.endsMember = true)) :
    memberStart (t :: before) =
      (memberStart before).or (if t.1 = .mark (byte ')') then none else some t.2) := by
  simp only [memberStart, currentMember, goesOn, if_false, List.reverse_cons, List.find?_append,
    List.find?_singleton, Option.map_or]
  by_cases closing : t.1 = .mark (byte ')') <;> simp [closing]

theorem memberStart_inside (inside : parensAfter before ≠ 0) : (memberStart before).isSome := by
  induction before with
  | nil => exact absurd rfl inside
  | cons t before ih =>
    by_cases opening : t.1 = .mark (byte '(')
    · rw [memberStart_kept (by simp [opening, Lexeme.endsMember, byte])]
      simp [opening, byte]
    · have deeper : parensAfter before ≠ 0 := by
        simp only [parensAfter, opening, if_false] at inside
        split at inside <;> omega
      rw [memberStart_kept fun both => deeper both.1, Option.isSome_or, ih deeper]
      rfl

end Members

section Simulation

variable {before : List LocatedLexeme} {s : MemberState} {line : Nat}

def previousOf : List LocatedLexeme → Previous
  | [] => .none
  | (.word _, _) :: _ => .word
  | (.literal bytes, _) :: _ => .mark (bytes.headD 0)
  | (.mark b, _) :: _ => .mark b

def waiting : List LocatedLexeme → Option OpenDeclaration
  | [] => none
  | (.literal _, _) :: before => waiting before
  | (.mark _, _) :: _ => none
  | (.word w, line) :: before => opens? isScanMark before (.word w, line)

/-- The state of a scan that has read these lexemes, but for what it has found. -/
structure Describes (before : List LocatedLexeme) (s : MemberState) : Prop where
  depth : s.depth = bracesAfter before
  parens : s.parens = parensAfter before
  memberLine : s.memberLine = memberStart before
  previous : s.previous = previousOf before
  pending : s.pending = waiting before

theorem isSome_waiting (before : List LocatedLexeme) :
    (waiting before).isSome = awaitsName isScanMark before := by
  induction before with
  | nil => rfl
  | cons t before ih =>
    obtain ⟨l, line⟩ := t
    cases l with
    | literal bytes => exact ih
    | mark b => rfl
    | word w =>
      simp only [waiting, opens?, awaitsName]
      cases awaitsName isScanMark before <;> by_cases outside : parensAfter before = 0 <;>
        simp [outside]

/-- The scan looks at the first byte of a literal where the last one is asked for; neither is a mark
    that matters. -/
theorem keywordKind?_previousOf (proper : ∀ t ∈ before.head?, t.1.Proper) (w : Text) :
    keywordKind? w (previousOf before) = keywordAfter isScanMark before w := by
  cases before with
  | nil => simp [keywordKind?, keywordAfter, previousOf, recordMayFollow, recordPlace]
  | cons t before =>
    obtain ⟨l, line⟩ := t
    have ok : l.Proper := proper _ rfl
    cases l with
    | word v =>
      have last : v.getLast? ≠ some (byte '.') := by
        intro dot
        exact absurd (ok _ (List.mem_of_getLast? dot)) (by decide)
      simp [keywordKind?, keywordAfter, previousOf, recordMayFollow, recordPlace, Lexeme.bytes,
        last]
    | literal bytes =>
      obtain ⟨⟨q, head, quote⟩, ends⟩ := ok
      have first : bytes.headD 0 = q := by
        rw [List.headD_eq_head?_getD, Option.mem_def.mp head]
        rfl
      have last : bytes.getLast? ≠ some (byte '.') := by
        intro dot
        rcases ends _ dot with eq | eq | eq <;> exact absurd eq (by decide)
      have plain : q ≠ byte '.' ∧ q ≠ byte '@' ∧ recordMayFollow (.mark q) = false := by
        rcases quote with rfl | rfl <;> decide
      change keywordKind? w (.mark (bytes.headD 0)) = _
      rw [first]
      simp [keywordKind?, keywordAfter, recordPlace, Lexeme.bytes, last, plain]
    | mark b =>
      simp [keywordKind?, keywordAfter, previousOf, recordMayFollow, recordPlace, Lexeme.bytes,
        isScanMark, isStartMark, or_assoc]

theorem Describes.initial : Describes [] {} := ⟨rfl, rfl, rfl, rfl, rfl⟩

theorem Describes.word (describes : Describes before s)
    (proper : ∀ t ∈ before.head?, t.1.Proper) (w : Text) (line : Nat) :
    Describes ((.word w, line) :: before) (s.readWord w line) := by
  have begun : memberStart ((.word w, line) :: before) = some ((memberStart before).getD line) := by
    rw [memberStart_kept (by simp [Lexeme.endsMember])]
    cases memberStart before <;> simp
  have pending : waiting ((.word w, line) :: before) =
      if (waiting before).isSome ∨ parensAfter before ≠ 0 then none
      else (keywordAfter isScanMark before w).map fun kind =>
        ⟨kind, (memberStart before).getD line, line, decide (0 < bracesAfter before)⟩ := by
    rw [isSome_waiting]
    rfl
  unfold MemberState.readWord
  rw [describes.pending]
  cases waits : waiting before with
  | some o =>
    rw [waits] at pending
    refine ⟨?_, ?_, ?_, rfl, ?_⟩
    · simpa [MemberState.begin, bracesAfter] using describes.depth
    · simpa [MemberState.begin, parensAfter] using describes.parens
    · rw [begun, ← describes.memberLine]
      rfl
    · simp [pending]
  | none =>
    rw [waits] at pending
    refine ⟨?_, ?_, ?_, rfl, ?_⟩
    · simpa [MemberState.begin, bracesAfter] using describes.depth
    · simpa [MemberState.begin, parensAfter] using describes.parens
    · rw [begun, ← describes.memberLine]
      rfl
    · rw [pending, ← keywordKind?_previousOf proper, ← describes.previous, ← describes.parens,
        ← describes.memberLine, ← describes.depth]
      by_cases outside : s.parens = 0 <;> simp [outside]

theorem Describes.literal (describes : Describes before s) (bytes : Text) (line : Nat) :
    Describes ((.literal bytes, line) :: before)
      { s.begin line with previous := .mark (bytes.headD 0) } := by
  refine ⟨?_, ?_, ?_, rfl, describes.pending⟩
  · simpa [MemberState.begin, bracesAfter] using describes.depth
  · simpa [MemberState.begin, parensAfter] using describes.parens
  · rw [memberStart_kept (by simp [Lexeme.endsMember]), ← describes.memberLine]
    cases begun : s.memberLine <;> simp [MemberState.begin, begun]

theorem mark_cases (b : UInt8) :
    (b = byte '\x7b' ∨ b = byte '\x7d' ∨ b = byte ';' ∨ b = byte '(' ∨ b = byte ')') ∨
      (b ≠ byte '\x7b' ∧ b ≠ byte '\x7d' ∧ b ≠ byte ';' ∧ b ≠ byte '(' ∧ b ≠ byte ')') := by
  tauto

theorem readPunct_parens (s : MemberState) (b : UInt8) (line : Nat) :
    (s.readPunct b line).parens =
      if b = byte '(' then s.parens + 1 else if b = byte ')' then s.parens - 1 else s.parens := by
  rcases mark_cases b with (rfl | rfl | rfl | rfl | rfl) | ⟨h₁, h₂, h₃, h₄, h₅⟩
  · by_cases outside : s.parens = 0 <;> simp [MemberState.readPunct, outside, byte]
  · by_cases outside : s.parens = 0 <;> simp [MemberState.readPunct, outside, byte]
  · by_cases outside : s.parens = 0 <;> simp [MemberState.readPunct, outside, byte]
  · simp [MemberState.readPunct, byte]
  · simp [MemberState.readPunct, byte]
  · simp [MemberState.readPunct, MemberState.begin, h₁, h₂, h₃, h₄, h₅]

theorem readPunct_depth (s : MemberState) (b : UInt8) (line : Nat) :
    (s.readPunct b line).depth =
      if s.parens ≠ 0 then s.depth
      else if b = byte '\x7b' then s.depth + 1
      else if b = byte '\x7d' then s.depth - 1 else s.depth := by
  rcases mark_cases b with (rfl | rfl | rfl | rfl | rfl) | ⟨h₁, h₂, h₃, h₄, h₅⟩
  · by_cases outside : s.parens = 0 <;> simp [MemberState.readPunct, outside]
  · by_cases outside : s.parens = 0 <;> simp [MemberState.readPunct, outside, byte]
  · by_cases outside : s.parens = 0 <;> simp [MemberState.readPunct, outside, byte]
  · simp [MemberState.readPunct, MemberState.begin, byte]
  · simp [MemberState.readPunct, byte]
  · simp [MemberState.readPunct, MemberState.begin, h₁, h₂, h₃, h₄, h₅]

theorem readPunct_memberLine (s : MemberState) (b : UInt8) (line : Nat) :
    (s.readPunct b line).memberLine =
      if (Lexeme.mark b).endsMember then if s.parens = 0 then none else s.memberLine
      else if b = byte ')' then s.memberLine else some (s.memberLine.getD line) := by
  rcases mark_cases b with (rfl | rfl | rfl | rfl | rfl) | ⟨h₁, h₂, h₃, h₄, h₅⟩
  · by_cases outside : s.parens = 0 <;> simp [MemberState.readPunct, Lexeme.endsMember, outside]
  · by_cases outside : s.parens = 0 <;>
      simp [MemberState.readPunct, Lexeme.endsMember, outside, byte]
  · by_cases outside : s.parens = 0 <;>
      simp [MemberState.readPunct, Lexeme.endsMember, outside, byte]
  · simp [MemberState.readPunct, MemberState.begin, Lexeme.endsMember, byte]
  · simp [MemberState.readPunct, Lexeme.endsMember, byte]
  · simp [MemberState.readPunct, MemberState.begin, Lexeme.endsMember, h₁, h₂, h₃, h₄, h₅]

theorem readPunct_rest (s : MemberState) (b : UInt8) (line : Nat) :
    (s.readPunct b line).previous = .mark b ∧ (s.readPunct b line).pending = none ∧
      (s.readPunct b line).found = s.found := by
  unfold MemberState.readPunct
  dsimp only
  split_ifs <;> exact ⟨rfl, rfl, rfl⟩

theorem Describes.mark (describes : Describes before s) (b : UInt8) (line : Nat) :
    Describes ((.mark b, line) :: before) (s.readPunct b line) := by
  obtain ⟨previous, pending, -⟩ := readPunct_rest s b line
  refine ⟨?_, ?_, ?_, previous, pending⟩
  · simp [readPunct_depth, bracesAfter, describes.depth, describes.parens]
  · simp [readPunct_parens, parensAfter, describes.parens]
  · rw [readPunct_memberLine, describes.memberLine, describes.parens]
    by_cases ends : (Lexeme.mark b).endsMember = true
    · by_cases outside : parensAfter before = 0
      · rw [memberStart_ended outside ends, if_pos ends, if_pos outside]
      · -- a brace or semicolon inside parentheses begins no member, since one has begun
        obtain ⟨first, begun⟩ := Option.isSome_iff_exists.mp (memberStart_inside outside)
        rw [memberStart_kept fun both => outside both.1, if_pos ends, if_neg outside, begun]
        rfl
    · rw [memberStart_kept fun both => ends both.2, if_neg ends]
      cases memberStart before <;> by_cases closing : b = byte ')' <;> simp [closing]

theorem Describes.read (describes : Describes before s) (proper : ∀ t ∈ before.head?, t.1.Proper)
    (t : LocatedLexeme) : Describes (t :: before) (s.read t.2 t.1.token) := by
  obtain ⟨l, line⟩ := t
  cases l with
  | word w => exact describes.word proper w line
  | literal bytes => exact describes.literal bytes line
  | mark b => exact describes.mark b line

theorem readWord_found (s : MemberState) (w : Text) (line : Nat) :
    (s.readWord w line).found = (s.pending.map fun o => o.close w).toList ++ s.found := by
  unfold MemberState.readWord
  cases s.pending <;> rfl

/-- What a scan finds from some place on: the declaration that waits for its name, if a name comes,
    and then those of the lexemes that follow. -/
theorem readAll_found (describes : Describes before s) (proper : ∀ t ∈ before.head?, t.1.Proper)
    {later : List LocatedLexeme} (properLater : ∀ t ∈ later, t.1.Proper) :
    (s.readAll (later.map fun t => (t.1.token, t.2))).found.reverse =
      s.found.reverse ++
        ((waiting before).bind fun o => (nextName later).map o.close).toList ++
          declaredAfter isScanMark before later := by
  induction later generalizing before s with
  | nil => cases waiting before <;> simp [MemberState.readAll, nextName, declaredAfter, sitesAfter]
  | cons t later ih =>
    have tail := ih (describes.read proper t)
      (fun u head => Option.some.inj head ▸ properLater t List.mem_cons_self)
      (fun u member => properLater u (List.mem_cons_of_mem _ member))
    change ((s.read t.2 t.1.token).readAll _).found.reverse = _
    rw [tail, declaredAfter_cons]
    obtain ⟨l, line⟩ := t
    cases l with
    | word w =>
      have found := readWord_found s w line
      rw [describes.pending] at found
      change (s.readWord w line).found.reverse ++ _ ++ _ = _
      rw [found]
      cases waiting before <;> simp [nextName, Site.declares, waiting]
    | literal bytes =>
      change s.found.reverse ++ _ ++ _ = _
      simp [nextName, Site.declares, waiting, opens?]
    | mark b =>
      change (s.readPunct b line).found.reverse ++ _ ++ _ = _
      rw [(readPunct_rest s b line).2.2]
      cases waiting before <;> simp [nextName, Site.declares, waiting, opens?]

end Simulation

theorem declarations_declaredAfter {lines : List Text}
    (unbroken : ∀ line ∈ lines, lineFeed ∉ line) :
    declarations lines = declaredAfter isScanMark [] (fileLexemes lines) := by
  rw [declarations_readAll, fileTokens_fileLexemes unbroken,
    readAll_found .initial (by simp) (proper_fileLexemes lines)]
  rfl

section ZeroByte

variable {before later : List LocatedLexeme}

/-- The word `record` right after a zero byte, where it would declare a type at the start of the
    file. -/
def Site.ZeroRecord (site : Site) : Prop :=
  site.before.head?.map Prod.fst = some (.mark 0) ∧ site.here.1 = .word (utf8 "record") ∧
    parensAfter site.before = 0 ∧ (nextName site.later).isSome

instance (site : Site) : Decidable site.ZeroRecord := inferInstanceAs (Decidable (_ ∧ _ ∧ _ ∧ _))

theorem awaitsName_zero (marks : UInt8 → Bool)
    (zero : before.head?.map Prod.fst = some (.mark 0)) : awaitsName marks before = false := by
  cases before with
  | nil => cases zero
  | cons t before =>
    obtain ⟨l, line⟩ := t
    cases Option.some.inj zero
    rfl

theorem recordPlace_agree {previous : Option Lexeme} (other : previous ≠ some (.mark 0)) :
    recordPlace isScanMark previous = recordPlace isStartMark previous := by
  rcases previous with _ | ⟨w | bytes | b⟩
  · rfl
  · rfl
  · rfl
  · have nonzero : b ≠ 0 := by
      rintro rfl
      exact other rfl
    simp [recordPlace, isScanMark, nonzero]

theorem keywordAfter_agree {w : Text}
    (other : ¬(before.head?.map Prod.fst = some (.mark 0) ∧ w = utf8 "record")) :
    keywordAfter isScanMark before w = keywordAfter isStartMark before w := by
  unfold keywordAfter
  dsimp only
  by_cases isRecord : w = utf8 "record"
  · rw [recordPlace_agree fun zero => other ⟨zero, isRecord⟩]
  · simp [isRecord]

theorem declares_agree
    (start : awaitsName isScanMark before = awaitsName isStartMark before ∨ nextName later = none)
    (clean : ∀ site ∈ sitesAfter before later, ¬site.ZeroRecord) :
    ∀ site ∈ sitesAfter before later, site.declares isScanMark = site.declares isStartMark := by
  -- both await a name at once, unless none comes: this is what the induction carries
  induction later generalizing before with
  | nil =>
    intro site member
    cases member
  | cons t later ih =>
    have cleanLater := fun site member => clean site (List.mem_cons_of_mem _ member)
    have cleanHere : ¬Site.ZeroRecord ⟨before, t, later⟩ := clean _ List.mem_cons_self
    suffices both : Site.declares isScanMark ⟨before, t, later⟩ =
          Site.declares isStartMark ⟨before, t, later⟩ ∧
        (awaitsName isScanMark (t :: before) = awaitsName isStartMark (t :: before) ∨
          nextName later = none) by
      intro site member
      rcases List.mem_cons.mp member with rfl | tail
      · exact both.1
      · exact ih both.2 cleanLater site tail
    obtain ⟨l, line⟩ := t
    cases l with
    | literal bytes => exact ⟨rfl, start⟩
    | mark b => exact ⟨rfl, .inl rfl⟩
    | word w =>
      have await := start.resolve_right (by simp [nextName])
      by_cases special : before.head?.map Prod.fst = some (.mark 0) ∧ w = utf8 "record"
      · by_cases outside : parensAfter before = 0
        · -- the scan opens a declaration here, which is dropped for want of a name
          have nameless : nextName later = none := by
            by_contra named
            exact cleanHere ⟨special.1, congrArg _ special.2, outside,
              Option.isSome_iff_ne_none.mpr named⟩
          exact ⟨by simp [Site.declares, nameless], .inr nameless⟩
        · exact ⟨by simp [Site.declares, opens?, outside], .inl (by simp [awaitsName, outside])⟩
      · have same := keywordAfter_agree special
        refine ⟨?_, .inl ?_⟩
        · simp [Site.declares, opens?, await, same]
        · simp [awaitsName, await, same]

theorem zeroRecord_declares {site : Site} (zero : site.ZeroRecord) :
    site.declares isScanMark ≠ site.declares isStartMark := by
  obtain ⟨before, ⟨l, line⟩, later⟩ := site
  obtain ⟨previous, rfl, outside, named⟩ := zero
  obtain ⟨name, next⟩ := Option.isSome_iff_exists.mp named
  have scan : keywordAfter isScanMark before (utf8 "record") = some .recordType := by
    unfold keywordAfter
    rw [previous]
    decide
  have start : keywordAfter isStartMark before (utf8 "record") = none := by
    unfold keywordAfter
    rw [previous]
    decide
  simp_all [Site.declares, opens?, awaitsName_zero]

end ZeroByte

/-- The scan finds what the lexemes declare. At every site it follows the rule for `record` that
    leaves the zero byte out, but for those where `record` follows one. -/
theorem declarations_two_stages {lines : List Text} (unbroken : ∀ line ∈ lines, lineFeed ∉ line) :
    declarations lines = declaredAfter isScanMark [] (fileLexemes lines) ∧
      ((∀ site ∈ sitesAfter [] (fileLexemes lines),
          site.declares isScanMark = site.declares isStartMark) ↔
        ∀ site ∈ sitesAfter [] (fileLexemes lines), ¬site.ZeroRecord) ∧
      ((∀ site ∈ sitesAfter [] (fileLexemes lines), ¬site.ZeroRecord) →
        declarations lines = declaredAfter isStartMark [] (fileLexemes lines)) := by
  have scan := declarations_declaredAfter unbroken
  refine ⟨scan, ⟨fun agree site member zero => zeroRecord_declares zero (agree site member),
    declares_agree (.inl rfl)⟩, fun clean => ?_⟩
  rw [scan]
  exact List.filterMap_congr (declares_agree (.inl rfl) clean)

def zeroArgumentLines : List Text :=
  [utf8 "/* class X */ @A(", 0 :: utf8 "record R, \"class Y", utf8 ") class 'q' Z ; record Q"]

theorem declarations_two_stages_zero_argument :
    (∀ line ∈ zeroArgumentLines, lineFeed ∉ line) ∧
      (declarations zeroArgumentLines).map (fun d => (d.name, d.line, d.keywordLine)) =
        [(utf8 "Z", 1, 3), (utf8 "Q", 3, 3)] ∧
      declarations zeroArgumentLines =
        declaredAfter isStartMark [] (fileLexemes zeroArgumentLines) :=
  ⟨by decide, by decide +kernel, (declarations_two_stages (by decide)).2.2 (by decide +kernel)⟩

/-- A zero byte makes a declaration of a `record` that is none by its place. -/
theorem zero_byte_declares_record :
    declarations [0 :: utf8 "record A"] = [⟨.recordType, utf8 "A", 1, 1, false⟩] ∧
      declaredAfter isStartMark [] (fileLexemes [0 :: utf8 "record A"]) = [] := by
  decide +kernel

end JavadocLint
