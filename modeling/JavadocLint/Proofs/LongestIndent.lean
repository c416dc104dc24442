import JavadocLint.Proofs.UnderlinedText

/- The common indent of some lines is the longest text of blanks that begins all of them, blank lines
   apart. The indents are compared character by character, while a line begins with a text if its
   bytes do. For blanks the two agree: a blank is a well-formed sequence, so a text of blanks has the
   same characters wherever it begins a line, and no indent ends inside a character. -/
namespace JavadocLint

/-- All characters are blanks. A byte outside any character reads as one that is no blank. -/
def Text.OnlyBlanks (t : Text) : Prop := ∀ r ∈ t.runes, isBlank r = true

instance (t : Text) : Decidable t.OnlyBlanks :=
  inferInstanceAs (Decidable (∀ r ∈ t.runes, isBlank r = true))

section Blanks

variable {front line t : Text}

theorem onlyBlanks_iff : t.OnlyBlanks ↔ ∀ c ∈ t.chunks, isBlank c.rune = true := by
  simp [Text.OnlyBlanks, Text.runes]

theorem isBlankText_eq_true : t.isBlankText = true ↔ t.OnlyBlanks := by
  rw [onlyBlanks_iff, Text.isBlankText, List.all_eq_true]

theorem isBlankText_eq_false : t.isBlankText = false ↔ ¬ t.OnlyBlanks := by
  rw [← isBlankText_eq_true, Bool.not_eq_true]

theorem blank_encodes {c : Chunk} (member : c ∈ t.chunks) (blank : isBlank c.rune = true) :
    Encodes c.bytes c.rune := by
  rcases chunk_cases member with proper | ⟨stray, -⟩
  · exact proper
  · rw [stray] at blank
    exact absurd blank (by decide)

theorem chunks_ofChunks_append {cs : List Chunk} (proper : ∀ c ∈ cs, Encodes c.bytes c.rune)
    (rest : Text) : (Text.ofChunks cs ++ rest).chunks = cs ++ rest.chunks := by
  induction cs with
  | nil => rfl
  | cons c cs ih =>
    rw [List.forall_mem_cons] at proper
    have bytes : Text.ofChunks (c :: cs) ++ rest = c.bytes ++ (Text.ofChunks cs ++ rest) := by
      rw [Text.ofChunks, List.flatMap_cons, List.append_assoc, Text.ofChunks]
    rw [bytes, proper.1.chunks_append, ih proper.2, List.cons_append]

theorem Text.OnlyBlanks.chunks_append (blanks : front.OnlyBlanks) (rest : Text) :
    (front ++ rest).chunks = front.chunks ++ rest.chunks := by
  have proper : ∀ c ∈ front.chunks, Encodes c.bytes c.rune :=
    fun c member => blank_encodes member (onlyBlanks_iff.mp blanks c member)
  rw [← chunks_ofChunks_append proper, ofChunks_chunks]

theorem begins_of_chunks (begins : front.chunks <+: t.chunks) : front <+: t := by
  have bytes := ofChunks_begins begins
  rwa [ofChunks_chunks, ofChunks_chunks] at bytes

theorem chunks_begin_indent_iff :
    front.chunks <+: line.indent.chunks ↔ front.OnlyBlanks ∧ front <+: line := by
  constructor
  · intro begins
    constructor
    · rw [onlyBlanks_iff]
      intro c member
      have inside := begins.subset member
      rw [chunks_indent] at inside
      simpa using List.mem_takeWhile_imp inside
    · exact (begins_of_chunks begins).trans (indent_begins line)
  · rintro ⟨blanks, rest, rfl⟩
    rw [chunks_indent, blanks.chunks_append, List.takeWhile_append_of_pos (onlyBlanks_iff.mp blanks)]
    exact List.prefix_append _ _

end Blanks

/-- A text of blanks that begins every line, lines without any other character apart. -/
structure SharedIndent (lines : List Text) (indent : Text) : Prop where
  blanks : indent.OnlyBlanks
  begins : ∀ line ∈ lines, ¬ line.OnlyBlanks → indent <+: line

section Longest

variable {lines : List Text}

theorem commonIndent_blank (blank : ∀ line ∈ lines, line.OnlyBlanks) : commonIndent lines = [] := by
  have none : lines.filter (fun line => !line.isBlankText) = [] := by
    rw [List.filter_eq_nil_iff]
    intro line member
    simp [isBlankText_eq_true.mpr (blank line member)]
  rw [commonIndent, none]
  rfl

theorem forall_indents_iff {p : List Chunk → Prop} :
    (∀ cs ∈ (lines.filter fun line => !line.isBlankText).map fun line => line.indent.chunks, p cs) ↔
      ∀ line ∈ lines, ¬ line.OnlyBlanks → p line.indent.chunks := by
  simp only [List.forall_mem_map, List.mem_filter, Bool.not_eq_true', isBlankText_eq_false, and_imp]

/-- In the order of beginnings, the common indent is the greatest lower bound of the indents. -/
theorem begins_commonIndent_iff (some : ∃ line ∈ lines, ¬ line.OnlyBlanks) {front : List Chunk} :
    front <+: (commonIndent lines).chunks ↔
      ∀ line ∈ lines, ¬ line.OnlyBlanks → front <+: line.indent.chunks := by
  obtain ⟨line, member, solid⟩ := some
  rw [← forall_indents_iff]
  have among := forall_indents_iff.mp (fun _ inside => inside) line member solid
  obtain ⟨first, rest, split⟩ := List.exists_cons_of_ne_nil (List.ne_nil_of_mem among)
  rw [split] at among ⊢
  -- what the indents share is cut off behind a character of this one
  have whole : (commonIndent lines).chunks = rest.foldl commonStart first := by
    rw [commonIndent, split]
    exact chunks_cut (begins_foldl_commonStart_iff.mp List.prefix_rfl _ among)
  rw [whole, begins_foldl_commonStart_iff]

theorem sharedIndent_iff (some : ∃ line ∈ lines, ¬ line.OnlyBlanks) {indent : Text} :
    SharedIndent lines indent ↔ indent.chunks <+: (commonIndent lines).chunks := by
  rw [begins_commonIndent_iff some]
  constructor
  · intro shared line member solid
    exact chunks_begin_indent_iff.mpr ⟨shared.blanks, shared.begins line member solid⟩
  · intro begins
    obtain ⟨line, member, solid⟩ := some
    exact ⟨(chunks_begin_indent_iff.mp (begins line member solid)).1,
      fun line member solid => (chunks_begin_indent_iff.mp (begins line member solid)).2⟩

end Longest

/-- One blank line is put between the lines, before the first or behind the last. -/
inductive AddsBlankLine : List Text → List Text → Prop where
  | add {line : Text} (blank : line.OnlyBlanks) (front back : List Text) :
      AddsBlankLine (front ++ back) (front ++ line :: back)

section BlankLines

variable {lines others : List Text}

theorem AddsBlankLine.commonIndent (adds : AddsBlankLine lines others) :
    commonIndent others = commonIndent lines := by
  obtain ⟨blank, front, back⟩ := adds
  simp only [JavadocLint.commonIndent, List.filter_append, List.filter_cons,
    isBlankText_eq_true.mpr blank, Bool.not_true, Bool.false_eq_true, if_false]

theorem commonIndent_eqvGen (changes : Relation.EqvGen AddsBlankLine lines others) :
    commonIndent others = commonIndent lines := by
  induction changes with
  | rel _ _ adds => exact adds.commonIndent
  | refl _ => rfl
  | symm _ _ _ ih => exact ih.symm
  | trans _ _ _ _ _ first second => exact second.trans first

end BlankLines

/-- The common indent is the longest text of blanks that begins every line with another character;
    blank lines do not count, however many are added or removed, and alone they have no indent. -/
theorem common_indent_longest (lines : List Text) :
    ((∃ line ∈ lines, ¬ line.OnlyBlanks) →
      SharedIndent lines (commonIndent lines) ∧
        ∀ indent, SharedIndent lines indent → indent <+: commonIndent lines) ∧
    (∀ others, Relation.EqvGen AddsBlankLine lines others →
      commonIndent others = commonIndent lines) ∧
    ((∀ line ∈ lines, line.OnlyBlanks) → commonIndent lines = []) := by
  refine ⟨?_, fun others changes => commonIndent_eqvGen changes, commonIndent_blank⟩
  intro some
  constructor
  · exact (sharedIndent_iff some).mpr List.prefix_rfl
  · intro indent shared
    exact begins_of_chunks ((sharedIndent_iff some).mp shared)

/-- Behind a tab stand two blanks that differ in the last of their three bytes, and in the last line
    only the two bytes that they share. The second line is one wide blank. -/
def splitBlanks : List Text :=
  [[9, 0xE2, 0x80, 0x83, 0x61], [0xE3, 0x80, 0x80], [9, 0xE2, 0x80, 0x82, 0x62], [9, 0xE2, 0x80]]

theorem common_indent_longest_split :
    (∃ line ∈ splitBlanks, ¬ line.OnlyBlanks) ∧ commonIndent splitBlanks = [9] ∧
      SharedIndent splitBlanks (commonIndent splitBlanks) ∧
      (∀ indent, SharedIndent splitBlanks indent → indent <+: commonIndent splitBlanks) ∧
      commonIndent (splitBlanks.eraseIdx 1) = commonIndent splitBlanks ∧
      (∀ line ∈ [[], [0xE3, 0x80, 0x80]], Text.OnlyBlanks line) ∧
      commonIndent [[], [0xE3, 0x80, 0x80]] = [] := by
  have some : ∃ line ∈ splitBlanks, ¬ line.OnlyBlanks := by decide
  have removed : Relation.EqvGen AddsBlankLine splitBlanks (splitBlanks.eraseIdx 1) :=
    .symm _ _ (.rel _ _ (@AddsBlankLine.add [0xE3, 0x80, 0x80] (by decide) (splitBlanks.take 1)
      (splitBlanks.drop 2)))
  have blank : ∀ line ∈ [[], [0xE3, 0x80, 0x80]], Text.OnlyBlanks line := by decide
  obtain ⟨longest, indifferent, -⟩ := common_indent_longest splitBlanks
  exact ⟨some, by decide, (longest some).1, (longest some).2, indifferent _ removed, blank,
    (common_indent_longest _).2.2 blank⟩

end JavadocLint
