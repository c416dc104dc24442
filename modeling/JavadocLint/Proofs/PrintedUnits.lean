import Mathlib
import JavadocLint.Proofs.DeclarationSites
import JavadocLint.Proofs.UnitTrees

/- Printed compilation units. However the lexemes of a unit are laid out, a scan of the printed
   lines finds the types of its tree in the order they are printed. -/
namespace JavadocLint

def MemberState.readFrom (s : MemberState) (line : Nat → Nat) (n : Nat) :
    List Lexeme → MemberState
  | [] => s
  | l :: rest => (s.read (line n) l.token).readFrom line (n + 1) rest

section Reading

variable (line : Nat → Nat) {s s' : MemberState}

theorem readAll_numbered (s : MemberState) (line : Nat → Nat) (n : Nat) (lexemes : List Lexeme) :
    s.readAll ((numbered line n lexemes).map fun t => (t.1.token, t.2)) =
      s.readFrom line n lexemes := by
  induction lexemes generalizing s n with
  | nil => rfl
  | cons l rest ih => exact ih (s.read (line n) l.token) (n + 1)

theorem readFrom_append (s : MemberState) (line : Nat → Nat) (n : Nat)
    (first second : List Lexeme) :
    s.readFrom line n (first ++ second) =
      (s.readFrom line n first).readFrom line (n + first.length) second := by
  induction first generalizing s n with
  | nil => rfl
  | cons l rest ih =>
    rw [List.cons_append, MemberState.readFrom, ih, MemberState.readFrom, List.length_cons]
    rw [show n + 1 + rest.length = n + (rest.length + 1) by omega]

/-- Reading from one state to another opened no member that had begun, and declared nothing. -/
structure Passes (s s' : MemberState) : Prop where
  depth : s'.depth = s.depth
  parens : s'.parens = s.parens
  pending : s'.pending = none
  found : s'.found = s.found
  memberLine : ∀ first, s.memberLine = some first → s'.memberLine = some first

theorem Passes.refl (idle : s.pending = none) : Passes s s :=
  ⟨rfl, rfl, idle, rfl, fun _ begun => begun⟩

theorem Passes.trans {s'' : MemberState} (first : Passes s s') (second : Passes s' s'') :
    Passes s s'' :=
  ⟨second.depth.trans first.depth, second.parens.trans first.parens, second.pending,
    second.found.trans first.found,
    fun line begun => second.memberLine line (first.memberLine line begun)⟩

theorem begin_kept {first : Nat} (line : Nat) (begun : s.memberLine = some first) :
    some (s.memberLine.getD line) = some first := by
  rw [begun]
  rfl

theorem passes_word (idle : s.pending = none) (w : Text) (line : Nat)
    (none' : s.parens = 0 → keywordKind? w s.previous = none) :
    Passes s (s.readWord w line) ∧ (s.readWord w line).previous = .word ∧
      (s.readWord w line).memberLine = some (s.memberLine.getD line) := by
  unfold MemberState.readWord
  rw [idle]
  refine ⟨⟨rfl, rfl, ?_, rfl, fun _ begun => begin_kept line begun⟩, rfl, rfl⟩
  by_cases outside : s.parens = 0
  · simp [outside, none' outside]
  · simp [outside]

theorem passes_literal (idle : s.pending = none) (q : UInt8) (line : Nat) :
    Passes s (s.read line (.literal q)) :=
  ⟨rfl, rfl, idle, rfl, fun _ begun => begin_kept line begun⟩

theorem passes_mark (s : MemberState) {b : UInt8} (line : Nat)
    (parens : b ≠ byte '(' ∧ b ≠ byte ')')
    (goesOn : s.parens = 0 → (Lexeme.mark b).endsMember = false) :
    Passes s (s.readPunct b line) := by
  obtain ⟨-, pending, found⟩ := readPunct_rest s b line
  refine ⟨?_, ?_, pending, found, ?_⟩
  · rw [readPunct_depth]
    by_cases outside : s.parens = 0
    · have no := goesOn outside
      simp only [Lexeme.endsMember, Lexeme.mark.injEq, Bool.or_eq_false_iff,
        decide_eq_false_iff_not] at no
      simp [outside, no]
    · simp [outside]
  · rw [readPunct_parens, if_neg parens.1, if_neg parens.2]
  · intro first begun
    rw [readPunct_memberLine, if_neg parens.2, begin_kept line begun]
    by_cases outside : s.parens = 0
    · simp [goesOn outside]
    · simp [outside, begun]

theorem passes_sign (s : MemberState) (line : Nat) :
    Passes s (s.readPunct (byte '@') line) ∧
      (s.readPunct (byte '@') line).memberLine = some (s.memberLine.getD line) := by
  refine ⟨passes_mark s line (by decide) fun _ => by decide, ?_⟩
  rw [readPunct_memberLine]
  simp [Lexeme.endsMember, byte]

theorem passes_group (s : MemberState) {inner : List Lexeme}
    (passes : ∀ (t : MemberState) (k : Nat), t.parens ≠ 0 → t.pending = none →
      Passes t (t.readFrom line k inner)) (n : Nat) :
    Passes s (s.readFrom line n (groupLexemes inner)) ∧
      (s.readFrom line n (groupLexemes inner)).previous = .mark (byte ')') := by
  -- the state after the opening parenthesis, after what it encloses, and after the closing one
  obtain ⟨opened, eq⟩ : ∃ t, t = s.readPunct (byte '(') (line n) := ⟨_, rfl⟩
  have deeper : opened.parens = s.parens + 1 := by
    rw [eq, readPunct_parens, if_pos rfl]
  have depth : opened.depth = s.depth := by
    rw [eq, readPunct_depth]
    simp [byte]
  have begun : opened.memberLine = some (s.memberLine.getD (line n)) := by
    rw [eq, readPunct_memberLine]
    simp [Lexeme.endsMember, byte]
  obtain ⟨-, pending, found⟩ := readPunct_rest s (byte '(') (line n)
  rw [← eq] at pending found
  have inside := passes opened (n + 1) (by omega) pending
  have whole : s.readFrom line n (groupLexemes inner) =
      (opened.readFrom line (n + 1) inner).readPunct (byte ')') (line (n + 1 + inner.length)) := by
    rw [groupLexemes, MemberState.readFrom, readFrom_append, eq]
    rfl
  obtain ⟨previous, pending', found'⟩ := readPunct_rest (opened.readFrom line (n + 1) inner)
    (byte ')') (line (n + 1 + inner.length))
  rw [whole]
  refine ⟨⟨?_, ?_, pending', found'.trans (inside.found.trans found), ?_⟩, previous⟩
  · rw [readPunct_depth, inside.depth, depth]
    simp [byte]
  · rw [readPunct_parens, inside.parens, deeper]
    simp [byte]
  · intro first was
    rw [readPunct_memberLine, inside.memberLine first (by rw [begun, begin_kept _ was])]
    simp [Lexeme.endsMember, byte]

theorem passes_balanced (b : Balanced) (inside : s.parens ≠ 0) (idle : s.pending = none)
    (n : Nat) : Passes s (s.readFrom line n b.lexemes) := by
  induction b generalizing s n with
  | nil => exact .refl idle
  | word w rest ih =>
    have first := (passes_word idle w.bytes (line n) fun outside => absurd outside inside).1
    exact first.trans (ih (first.parens ▸ inside) first.pending (n + 1))
  | literal l rest ih =>
    have first := passes_literal idle (l.bytes.headD 0) (line n)
    exact first.trans (ih (first.parens ▸ inside) first.pending (n + 1))
  | mark m other rest ih =>
    have first := passes_mark s (line n) (not_or.mp other) fun outside => absurd outside inside
    exact first.trans (ih (first.parens ▸ inside) first.pending (n + 1))
  | group inner rest innerPasses ih =>
    have first := (passes_group line s (fun t k deep still => innerPasses deep still k) n).1
    rw [Balanced.lexemes, readFrom_append]
    exact first.trans (ih (first.parens ▸ inside) first.pending _)

theorem keywordKind?_ordinary {w : Word} (ordinary : w.IsOrdinary) (previous : Previous) :
    keywordKind? w.bytes previous = none := by
  obtain ⟨noClass, noInterface, noEnum, noRecord⟩ := ordinary
  simp [keywordKind?, noClass, noInterface, noEnum, noRecord]

theorem passes_plain (p : Plain) (outside : s.parens = 0) (idle : s.pending = none) (n : Nat) :
    Passes s (s.readFrom line n p.lexemes) := by
  induction p generalizing s n with
  | nil => exact .refl idle
  | word w ordinary rest ih =>
    have first := (passes_word idle w.bytes (line n) fun _ => keywordKind?_ordinary ordinary _).1
    exact first.trans (ih (first.parens.trans outside) first.pending (n + 1))
  | literal l rest ih =>
    have first := passes_literal idle (l.bytes.headD 0) (line n)
    exact first.trans (ih (first.parens.trans outside) first.pending (n + 1))
  | mark m ordinary rest ih =>
    have first := passes_mark s (line n) (not_or.mp ordinary.1) fun _ => ordinary.2
    exact first.trans (ih (first.parens.trans outside) first.pending (n + 1))
  | group inner rest ih =>
    have first := (passes_group line s
      (fun t k deep still => passes_balanced line inner deep still k) n).1
    rw [Plain.lexemes, readFrom_append]
    exact first.trans (ih (first.parens.trans outside) first.pending _)

def CanOpen (previous : Previous) : Prop :=
  recordMayFollow previous = true ∧ previous ≠ .mark (byte '.') ∧ previous ≠ .mark (byte '@')

theorem canOpen_word : CanOpen .word := ⟨rfl, by decide, by decide⟩

theorem passes_dotted (further : List Word) (outside : s.parens = 0) (idle : s.pending = none)
    (canOpen : CanOpen s.previous) (n : Nat) :
    Passes s (s.readFrom line n (dottedLexemes further)) ∧
      CanOpen (s.readFrom line n (dottedLexemes further)).previous := by
  induction further generalizing s n with
  | nil => exact ⟨.refl idle, canOpen⟩
  | cons w rest ih =>
    have dot := passes_mark s (line n) (show byte '.' ≠ byte '(' ∧ byte '.' ≠ byte ')' by decide)
      fun _ => by decide
    have afterDot := (readPunct_rest s (byte '.') (line n)).1
    obtain ⟨word, previous, -⟩ := passes_word dot.pending w.bytes (line (n + 1)) fun _ => by
      rw [afterDot]
      simp [keywordKind?]
    have first := dot.trans word
    obtain ⟨later, open'⟩ := ih (first.parens.trans outside) first.pending
      (previous ▸ canOpen_word) (n + 1 + 1)
    exact ⟨first.trans later, open'⟩

theorem passes_argument (argument : Option Balanced) (idle : s.pending = none)
    (canOpen : CanOpen s.previous) (n : Nat) :
    Passes s (s.readFrom line n (argumentLexemes argument)) ∧
      CanOpen (s.readFrom line n (argumentLexemes argument)).previous := by
  cases argument with
  | none => exact ⟨.refl idle, canOpen⟩
  | some inner =>
    obtain ⟨passes, previous⟩ := passes_group line s
      (fun t k deep still => passes_balanced line inner deep still k) n
    exact ⟨passes, by rw [argumentLexemes, previous]; exact ⟨by decide, by decide, by decide⟩⟩

theorem passes_annotated {name : Word} (ordinary : name.IsOrdinary) (further : List Word)
    (argument : Option Balanced) (outside : s.parens = 0) (n : Nat) :
    Passes s (s.readFrom line n (annotationLexemes name further argument)) ∧
      CanOpen (s.readFrom line n (annotationLexemes name further argument)).previous ∧
        (s.readFrom line n (annotationLexemes name further argument)).memberLine =
          some (s.memberLine.getD (line n)) := by
  obtain ⟨sign, begun⟩ := passes_sign s (line n)
  obtain ⟨word, previous, -⟩ := passes_word sign.pending name.bytes (line (n + 1)) fun _ =>
    keywordKind?_ordinary ordinary _
  obtain ⟨dotted, open₁⟩ := passes_dotted line further
    ((sign.trans word).parens.trans outside) word.pending (previous ▸ canOpen_word) (n + 1 + 1)
  obtain ⟨argued, open₂⟩ := passes_argument line argument dotted.pending open₁
    (n + 1 + 1 + (dottedLexemes further).length)
  have later := (word.trans dotted).trans argued
  rw [annotationLexemes, MemberState.readFrom, MemberState.readFrom, readFrom_append]
  exact ⟨sign.trans later, open₂, later.memberLine _ begun⟩

theorem passes_modifiers (m : Modifiers) (outside : s.parens = 0) (idle : s.pending = none)
    (canOpen : CanOpen s.previous) (n : Nat) :
    Passes s (s.readFrom line n m.lexemes) ∧
      CanOpen (s.readFrom line n m.lexemes).previous ∧
        (s.readFrom line n m.lexemes).memberLine.getD (line (n + m.lexemes.length)) =
          s.memberLine.getD (line n) := by
  induction m generalizing s n with
  | nil => exact ⟨.refl idle, canOpen, rfl⟩
  | word w ordinary rest ih =>
    obtain ⟨first, previous, begun⟩ := passes_word idle w.bytes (line n) fun _ =>
      keywordKind?_ordinary ordinary _
    obtain ⟨later, open', -⟩ := ih (first.parens.trans outside) first.pending
      (previous ▸ canOpen_word) (n + 1)
    have kept := later.memberLine _ begun
    have reads : s.read (line n) (Lexeme.word w.bytes).token = s.readWord w.bytes (line n) := rfl
    rw [Modifiers.lexemes, MemberState.readFrom, reads, kept]
    exact ⟨first.trans later, open', rfl⟩
  | annotated name ordinary further argument rest ih =>
    obtain ⟨first, open', begun⟩ := passes_annotated line ordinary further argument outside n
    obtain ⟨later, open'', -⟩ := ih (first.parens.trans outside) first.pending open'
      (n + (annotationLexemes name further argument).length)
    have kept := later.memberLine _ begun
    rw [Modifiers.lexemes, readFrom_append, kept]
    exact ⟨first.trans later, open'', rfl⟩

theorem keywordKind?_keyword {previous : Previous} (canOpen : CanOpen previous) :
    keywordKind? (utf8 "class") previous = some .classType ∧
      keywordKind? (utf8 "interface") previous = some .interfaceType ∧
      keywordKind? (utf8 "enum") previous = some .enumType ∧
      keywordKind? (utf8 "record") previous = some .recordType := by
  obtain ⟨mayFollow, noDot, noSign⟩ := canOpen
  have apart : utf8 "interface" ≠ utf8 "class" ∧ utf8 "enum" ≠ utf8 "class" ∧
      utf8 "enum" ≠ utf8 "interface" ∧ utf8 "record" ≠ utf8 "class" ∧
      utf8 "record" ≠ utf8 "interface" ∧ utf8 "record" ≠ utf8 "enum" := by decide
  simp [keywordKind?, mayFollow, noDot, noSign, apart]

theorem readWord_opens (outside : s.parens = 0) (idle : s.pending = none) {w : Text}
    {kind : DeclarationKind} (opens : keywordKind? w s.previous = some kind) (line : Nat) :
    (s.readWord w line).pending =
        some ⟨kind, s.memberLine.getD line, line, decide (0 < s.depth)⟩ ∧
      (s.readWord w line).depth = s.depth ∧ (s.readWord w line).parens = s.parens ∧
        (s.readWord w line).found = s.found := by
  unfold MemberState.readWord
  rw [idle]
  simp [outside, opens, MemberState.begin]

theorem readKeyword (kind : DeclarationKind) (outside : s.parens = 0) (idle : s.pending = none)
    (canOpen : CanOpen s.previous) (n : Nat) :
    (s.readFrom line n (keywordLexemes kind)).pending =
        some ⟨kind, s.memberLine.getD (line n), line (n + ((keywordLexemes kind).length - 1)),
          decide (0 < s.depth)⟩ ∧
      (s.readFrom line n (keywordLexemes kind)).depth = s.depth ∧
        (s.readFrom line n (keywordLexemes kind)).parens = s.parens ∧
          (s.readFrom line n (keywordLexemes kind)).found = s.found := by
  obtain ⟨isClass, isInterface, isEnum, isRecord⟩ := keywordKind?_keyword canOpen
  cases kind with
  | classType => exact readWord_opens outside idle isClass (line n)
  | interfaceType => exact readWord_opens outside idle isInterface (line n)
  | enumType => exact readWord_opens outside idle isEnum (line n)
  | recordType => exact readWord_opens outside idle isRecord (line n)
  | annotationType =>
    obtain ⟨sign, begun⟩ := passes_sign s (line n)
    have isSigned : keywordKind? (utf8 "interface")
        (s.readPunct (byte '@') (line n)).previous = some .annotationType := by
      rw [(readPunct_rest s (byte '@') (line n)).1]
      decide
    obtain ⟨pending, depth, parens, found⟩ := readWord_opens (sign.parens.trans outside)
      sign.pending isSigned (line (n + 1))
    rw [begun, sign.depth] at pending
    exact ⟨pending, depth.trans sign.depth, parens.trans sign.parens, found.trans sign.found⟩

structure Ready (s : MemberState) : Prop where
  outside : s.parens = 0
  idle : s.pending = none
  fresh : s.memberLine = none
  canOpen : CanOpen s.previous

theorem ready_ended {b : UInt8} (outside : s.parens = 0) (line : Nat)
    (ends : (Lexeme.mark b).endsMember = true) : Ready (s.readPunct b line) := by
  obtain ⟨previous, pending, -⟩ := readPunct_rest s b line
  simp only [Lexeme.endsMember, Lexeme.mark.injEq, Bool.or_eq_true, decide_eq_true_eq] at ends
  refine ⟨?_, pending, ?_, ?_⟩
  · rw [readPunct_parens, outside]
    rcases ends with (rfl | rfl) | rfl <;> simp [byte]
  · rw [readPunct_memberLine, outside]
    rcases ends with (rfl | rfl) | rfl <;> simp [Lexeme.endsMember]
  · rw [previous]
    rcases ends with (rfl | rfl) | rfl <;> exact ⟨by decide, by decide, by decide⟩

theorem readWord_name {o : OpenDeclaration} (waits : s.pending = some o) (w : Text) (line : Nat) :
    (s.readWord w line).pending = none ∧ (s.readWord w line).found = o.close w :: s.found ∧
      (s.readWord w line).depth = s.depth ∧ (s.readWord w line).parens = s.parens := by
  unfold MemberState.readWord
  rw [waits]
  exact ⟨rfl, rfl, rfl, rfl⟩

theorem readHead (ready : Ready s) (modifiers : Modifiers) (kind : DeclarationKind) (name : Word)
    (n : Nat) {t : MemberState} (reads : t = s.readFrom line n (headLexemes modifiers kind name)) :
    t.parens = 0 ∧ t.pending = none ∧ t.depth = s.depth ∧
      t.found = typeDeclaration line (decide (0 < s.depth)) n modifiers kind name :: s.found := by
  obtain ⟨first, canOpen, start⟩ := passes_modifiers line modifiers ready.outside ready.idle
    ready.canOpen n
  obtain ⟨waits, depth, parens, found⟩ := readKeyword line kind (first.parens.trans ready.outside)
    first.pending canOpen (n + modifiers.lexemes.length)
  rw [start, ready.fresh, first.depth] at waits
  obtain ⟨idle, declared, depth', parens'⟩ := readWord_name waits name.bytes
    (line (n + modifiers.lexemes.length + (keywordLexemes kind).length))
  rw [headLexemes, readFrom_append, readFrom_append, List.length_append, ← Nat.add_assoc] at reads
  subst reads
  refine ⟨?_, idle, ?_, ?_⟩
  · exact parens'.trans (parens.trans (first.parens.trans ready.outside))
  · exact depth'.trans (depth.trans first.depth)
  · exact declared.trans (by rw [found, first.found]; rfl)

/-- Reading members finds their types and ends as it began. -/
def ReadsBack (members : Members) : Prop :=
  ∀ (s : MemberState) (n : Nat), Ready s →
    Ready (s.readFrom line n members.lexemes) ∧
      (s.readFrom line n members.lexemes).depth = s.depth ∧
      (s.readFrom line n members.lexemes).found =
        (members.declarations line (decide (0 < s.depth)) n).reverse ++ s.found

theorem readBody {inner : Members} (back : ReadsBack line inner) (closing : Plain)
    (outside : s.parens = 0) (n : Nat) {t : MemberState}
    (reads : t = s.readFrom line n (bodyLexemes inner.lexemes closing.lexemes)) :
    Ready t ∧ t.depth = s.depth ∧
      t.found = (inner.declarations line true (n + 1)).reverse ++ s.found := by
  have opened := ready_ended outside (line n)
    (show (Lexeme.mark (byte '\x7b')).endsMember by decide)
  have deeper : (s.readPunct (byte '\x7b') (line n)).depth = s.depth + 1 := by
    rw [readPunct_depth]
    simp [outside]
  obtain ⟨ready, depth, found⟩ := back _ (n + 1) opened
  rw [deeper, (readPunct_rest s (byte '\x7b') (line n)).2.2] at found
  have plain := passes_plain line closing ready.outside ready.idle (n + 1 + inner.lexemes.length)
  have whole : t = ((((s.readPunct (byte '\x7b') (line n)).readFrom line (n + 1)
      inner.lexemes).readFrom line (n + 1 + inner.lexemes.length) closing.lexemes).readPunct
        (byte '\x7d') (line (n + 1 + (inner.lexemes ++ closing.lexemes).length))) := by
    rw [reads, bodyLexemes, MemberState.readFrom, readFrom_append, readFrom_append]
    rfl
  have before := plain.parens.trans ready.outside
  rw [whole]
  refine ⟨ready_ended before _ (by decide), ?_, ?_⟩
  · rw [readPunct_depth, before, plain.depth, depth, deeper]
    simp [byte]
  · rw [(readPunct_rest _ _ _).2.2, plain.found, found]
    simp

theorem reads_back (members : Members) : ReadsBack line members := by
  induction members with
  | nil =>
    intro s n ready
    exact ⟨ready, rfl, rfl⟩
  | statement plain rest ih =>
    intro s n ready
    have first := passes_plain line plain ready.outside ready.idle n
    have before := first.parens.trans ready.outside
    obtain ⟨ready', depth, found⟩ := ih _ (n + plain.lexemes.length + 1)
      (ready_ended before (line (n + plain.lexemes.length))
        (show (Lexeme.mark (byte ';')).endsMember by decide))
    have same : ((s.readFrom line n plain.lexemes).readPunct (byte ';')
        (line (n + plain.lexemes.length))).depth = s.depth := by
      rw [readPunct_depth, first.depth]
      simp [byte]
    rw [same, (readPunct_rest _ _ _).2.2, first.found] at found
    rw [Members.lexemes, readFrom_append, MemberState.readFrom]
    exact ⟨ready', depth.trans same, found⟩
  | block opening inner closing rest innerBack ih =>
    intro s n ready
    have first := passes_plain line opening ready.outside ready.idle n
    obtain ⟨ready', depth, found⟩ := readBody line innerBack closing
      (first.parens.trans ready.outside) (n + opening.lexemes.length) rfl
    obtain ⟨ready'', depth', found'⟩ := ih _ (n + (opening.lexemes ++
      bodyLexemes inner.lexemes closing.lexemes).length) ready'
    rw [Members.lexemes, readFrom_append, readFrom_append]
    refine ⟨ready'', depth'.trans (depth.trans first.depth), ?_⟩
    have next : n + (opening.lexemes ++ bodyLexemes inner.lexemes closing.lexemes).length =
        n + opening.lexemes.length + 1 + inner.lexemes.length + closing.lexemes.length + 1 := by
      simp only [bodyLexemes, List.length_append, List.length_cons, List.length_nil]
      omega
    rw [found', found, depth, first.depth, first.found, next]
    simp [Members.declarations]
  | type modifiers kind name header inner closing rest innerBack ih =>
    intro s n ready
    obtain ⟨outside, idle, depth, found⟩ := readHead line ready modifiers kind name n rfl
    have first := passes_plain line header outside idle
      (n + (headLexemes modifiers kind name).length)
    obtain ⟨ready', depth', found'⟩ := readBody line innerBack closing
      (first.parens.trans outside)
      (n + (headLexemes modifiers kind name).length + header.lexemes.length) rfl
    obtain ⟨ready'', depth'', found''⟩ := ih _
      (n + (headLexemes modifiers kind name).length + header.lexemes.length +
        (bodyLexemes inner.lexemes closing.lexemes).length) ready'
    have next : n + (headLexemes modifiers kind name).length + header.lexemes.length +
        (bodyLexemes inner.lexemes closing.lexemes).length =
          n + (headLexemes modifiers kind name).length + header.lexemes.length + 1 +
            inner.lexemes.length + closing.lexemes.length + 1 := by
      simp only [bodyLexemes, List.length_append, List.length_cons, List.length_nil]
      omega
    rw [Members.lexemes, List.append_assoc, List.append_assoc, readFrom_append, readFrom_append,
      readFrom_append]
    refine ⟨ready'', depth''.trans (depth'.trans (first.depth.trans depth)), ?_⟩
    rw [found'', found', depth', first.depth, first.found, depth, found, next]
    simp [Members.declarations]

end Reading

/-- A scan of a printed unit finds the types of its tree, each before those inside it, on the lines
    where its first lexeme and its keyword were printed. -/
theorem declarations_printed (unit : Members) (layout : Layout) {lines : List Text}
    (unbroken : ∀ line ∈ lines, lineFeed ∉ line)
    (printed : fileText lines = layout.print unit.lexemes) :
    declarations lines = unit.declarations (layout.line unit.lexemes) false 0 ∧
      topLevelDeclarations lines =
        (unit.roots (layout.line unit.lexemes) 0).filter fun d =>
          d.kind = .classType ∨ d.kind = .interfaceType := by
  have lexemes := fileLexemes_printed layout (printable_members unit) printed
  have start : Ready {} := ⟨rfl, rfl, rfl, ⟨rfl, by decide, by decide⟩⟩
  obtain ⟨-, -, found⟩ := reads_back (layout.line unit.lexemes) unit {} 0 start
  have all : declarations lines = unit.declarations (layout.line unit.lexemes) false 0 := by
    rw [declarations_readAll, fileTokens_fileLexemes unbroken, lexemes, readAll_numbered, found]
    simp
  refine ⟨all, ?_⟩
  rw [topLevelDeclarations, all, filter_declarations]
  rfl

def sampleUnit : Members :=
  .statement (.word ⟨utf8 "package", by decide⟩ (by decide)
    (.word ⟨utf8 "p", by decide⟩ (by decide) .nil))
  (.type
    (.annotated ⟨utf8 "A", by decide⟩ (by decide) [⟨utf8 "record", by decide⟩]
      (some (.literal (.closed .double (utf8 "; class X") (by decide))
        (.mark ⟨byte '\x7b', by decide⟩ (by decide) .nil))) .nil)
    .classType ⟨utf8 "B", by decide⟩ .nil
    (.type .nil .recordType ⟨utf8 "R", by decide⟩
      (.group (.word ⟨utf8 "int", by decide⟩ .nil) .nil) .nil .nil .nil)
    .nil
  (.type (.word ⟨utf8 "final", by decide⟩ (by decide) .nil) .annotationType ⟨utf8 "C", by decide⟩
    .nil .nil .nil .nil))

def sampleLayout : Layout where
  lead := .blockComment (utf8 "*") (by decide) .nil
  after n :=
    if n % 4 = 3 then ⟨lineFeed, by decide, .lineComment (utf8 " class D") (by decide) .nil⟩
    else ⟨byte ' ', by decide, .nil⟩

def sampleLines : List Text :=
  [utf8 "/***/package p ; @", utf8 "// class D", utf8 "A . record (", utf8 "// class D",
    utf8 "\"; class X\" \x7b ) class", utf8 "// class D", utf8 "B \x7b record R",
    utf8 "// class D", utf8 "( int ) \x7b", utf8 "// class D", utf8 "\x7d \x7d final @",
    utf8 "// class D", utf8 "interface C \x7b \x7d", utf8 "// class D"]

theorem declarations_printed_sample :
    fileText sampleLines = sampleLayout.print sampleUnit.lexemes ∧
      sampleUnit.declarations (sampleLayout.line sampleUnit.lexemes) false 0 =
        [⟨.classType, utf8 "B", 1, 5, false⟩, ⟨.recordType, utf8 "R", 7, 7, true⟩,
          ⟨.annotationType, utf8 "C", 11, 13, false⟩] ∧
      declarations sampleLines =
        sampleUnit.declarations (sampleLayout.line sampleUnit.lexemes) false 0 :=
  have printed : fileText sampleLines = sampleLayout.print sampleUnit.lexemes := by decide +kernel
  ⟨printed, by decide +kernel,
    (declarations_printed sampleUnit sampleLayout (by decide +kernel) printed).1⟩

end JavadocLint
