import Mathlib
import JavadocLint.Text.Blank

/- Texts without the blanks around them. The characters of a text make up the text again, and a text
   from which characters were dropped at the front is cut into the ones that are left; so a trimmed
   text is a part of the text, and it is empty only if there is nothing but blanks. -/
namespace JavadocLint

section Occurrences

theorem indexOf?_isSome_iff (needle t : Text) :
    (Text.indexOf? needle t).isSome = true ↔ needle <:+: t := by
  induction t with
  | nil =>
    cases needle with
    | nil => simp [Text.indexOf?]
    | cons b rest => simp [Text.indexOf?]
  | cons b rest ih =>
    rw [List.infix_cons_iff, ← ih, Text.indexOf?]
    by_cases here : needle.isPrefixOf (b :: rest) = true
    · simp [here, List.isPrefixOf_iff_prefix.mp here]
    · have later : ¬ needle <+: b :: rest := fun h => here (List.isPrefixOf_iff_prefix.mpr h)
      simp [here, later]

theorem containsText_iff (needle t : Text) :
    Text.containsText needle t = true ↔ needle <:+: t := indexOf?_isSome_iff needle t

theorem containsText_part {needle part whole : Text} (inside : part <:+: whole)
    (absent : Text.containsText needle whole = false) : Text.containsText needle part = false := by
  rw [Bool.eq_false_iff] at absent ⊢
  intro found
  exact absent ((containsText_iff needle whole).mpr
    (((containsText_iff needle part).mp found).trans inside))

theorem indexOf?_skip {b : UInt8} {needle front : Text} (absent : b ∉ front) (t : Text) :
    Text.indexOf? (b :: needle) (front ++ t) =
      (Text.indexOf? (b :: needle) t).map (· + front.length) := by
  induction front with
  | nil => simp
  | cons c rest ih =>
    simp only [List.mem_cons, not_or] at absent
    have other : (b :: needle).isPrefixOf (c :: (rest ++ t)) = false := by
      simp [List.isPrefixOf, absent.1]
    rw [List.cons_append, Text.indexOf?, other, ih absent.2]
    simp [Option.map_map, Function.comp_def, Nat.add_assoc]

theorem cut?_skip {b : UInt8} {needle front : Text} (absent : b ∉ front) (rest : Text) :
    Text.cut? (b :: needle) (front ++ (b :: needle ++ rest)) = some (front, rest) := by
  have here : Text.indexOf? (b :: needle) (b :: needle ++ rest) = some 0 := by
    rw [List.cons_append, Text.indexOf?, if_pos]
    exact List.isPrefixOf_iff_prefix.mpr ⟨rest, rfl⟩
  rw [Text.cut?, indexOf?_skip absent, here]
  simp [List.drop_append]

end Occurrences

section Characters

theorem secondRange_first (lead : UInt8) : 0x80 ≤ (secondRange lead).1 := by
  unfold secondRange
  split_ifs <;> decide

theorem isSecond_high {lead b : UInt8} (second : isSecond lead b = true) : 0x80 ≤ b := by
  simp only [isSecond, Bool.and_eq_true, decide_eq_true_eq] at second
  exact UInt8.le_trans (secondRange_first lead) second.1

theorem isContinuation_high {b : UInt8} (continues : isContinuation b = true) : 0x80 ≤ b := by
  simp only [isContinuation, Bool.and_eq_true, decide_eq_true_eq] at continues
  exact continues.1

theorem sequence?_width {t : Text} {width rune : Nat} (found : sequence? t = some (width, rune)) :
    1 ≤ width ∧ width ≤ t.length ∧ ∀ b ∈ (t.take width).tail, 0x80 ≤ b := by
  cases t with
  | nil => cases found
  | cons a rest =>
    simp only [sequence?] at found
    split at found
    · cases found
      simp
    split at found
    · split at found
      · rename_i b more
        split at found
        · rename_i second
          cases found
          simp [isSecond_high second]
        · cases found
      · cases found
    split at found
    · split at found
      · rename_i b c more
        split at found
        · rename_i others
          cases found
          simp only [Bool.and_eq_true] at others
          simp [isSecond_high others.1, isContinuation_high others.2]
        · cases found
      · cases found
    split at found
    · split at found
      · rename_i b c d more
        split at found
        · rename_i others
          cases found
          simp only [Bool.and_eq_true] at others
          simp [isSecond_high others.1.1, isContinuation_high others.1.2,
            isContinuation_high others.2]
        · cases found
      · cases found
    · cases found

theorem headChunk_bytes (b : UInt8) (t : Text) :
    ∃ width, 1 ≤ width ∧ (headChunk b t).bytes.length = width ∧
      (headChunk b t).bytes = (b :: t).take width ∧ ∀ c ∈ ((b :: t).take width).tail, 0x80 ≤ c := by
  unfold headChunk
  split
  · rename_i width rune found
    obtain ⟨some, inside, tail⟩ := sequence?_width found
    exact ⟨width, some, by rw [List.length_take]; omega, rfl, tail⟩
  · exact ⟨1, by omega, rfl, rfl, by simp⟩

theorem headChunk_ascii {b : UInt8} (ascii : b < 0x80) (t : Text) :
    (headChunk b t).rune = b.toNat := by
  simp [headChunk, sequence?, ascii]

theorem chunksFrom_drop (skip : Nat) (t : Text) :
    chunksFrom skip t = Text.chunks (t.drop skip) := by
  induction t generalizing skip with
  | nil => simp [Text.chunks, chunksFrom]
  | cons b rest ih =>
    cases skip with
    | zero => rfl
    | succ n => rw [chunksFrom, ih, List.drop_succ_cons]

theorem chunks_cons (b : UInt8) (t : Text) :
    Text.chunks (b :: t) =
      headChunk b t :: Text.chunks ((b :: t).drop (headChunk b t).bytes.length) := by
  obtain ⟨width, some, length, -, -⟩ := headChunk_bytes b t
  obtain ⟨n, rfl⟩ : ∃ n, width = n + 1 := ⟨width - 1, by omega⟩
  rw [Text.chunks, chunksFrom, chunksFrom_drop, length, List.drop_succ_cons]
  rfl

theorem chunk_induction {motive : Text → Prop} (empty : motive [])
    (more : ∀ b t, motive ((b :: t).drop (headChunk b t).bytes.length) → motive (b :: t))
    (t : Text) : motive t := by
  induction size : t.length using Nat.strongRecOn generalizing t with
  | ind n ih =>
    cases t with
    | nil => exact empty
    | cons b rest =>
      obtain ⟨width, some, length, -, -⟩ := headChunk_bytes b rest
      have shorter : ((b :: rest).drop (headChunk b rest).bytes.length).length < n := by
        rw [List.length_drop, length, ← size, List.length_cons]
        omega
      exact more b rest (ih _ shorter _ rfl)

theorem ofChunks_append (first second : List Chunk) :
    Text.ofChunks (first ++ second) = Text.ofChunks first ++ Text.ofChunks second := by
  simp [Text.ofChunks]

theorem ofChunks_chunks (t : Text) : Text.ofChunks t.chunks = t := by
  induction t using chunk_induction with
  | empty => rfl
  | more b rest ih =>
    obtain ⟨width, -, length, eq, -⟩ := headChunk_bytes b rest
    rw [chunks_cons]
    simp only [Text.ofChunks, List.flatMap_cons] at ih ⊢
    rw [ih, length, eq, List.take_append_drop]

theorem chunk_nonempty {t : Text} {c : Chunk} (member : c ∈ t.chunks) : c.bytes ≠ [] := by
  induction t using chunk_induction with
  | empty => cases member
  | more b rest ih =>
    rw [chunks_cons] at member
    rcases List.mem_cons.mp member with rfl | later
    · obtain ⟨width, some, length, -, -⟩ := headChunk_bytes b rest
      intro none
      rw [none] at length
      simp only [List.length_nil] at length
      omega
    · exact ih later

theorem ofChunks_eq_nil {t : Text} {cs : List Chunk} (among : ∀ c ∈ cs, c ∈ t.chunks)
    (empty : Text.ofChunks cs = []) : cs = [] := by
  cases cs with
  | nil => rfl
  | cons c rest =>
    simp only [Text.ofChunks, List.flatMap_cons, List.append_eq_nil_iff] at empty
    exact absurd empty.1 (chunk_nonempty (among c List.mem_cons_self))

end Characters

section Trimming

theorem mem_dropWhile_of_neg {α : Type} {p : α → Bool} {xs : List α} {x : α} (member : x ∈ xs)
    (kept : ¬ p x = true) : x ∈ xs.dropWhile p := by
  induction xs with
  | nil => cases member
  | cons y ys ih =>
    by_cases dropped : p y = true
    · rw [List.dropWhile_cons_of_pos dropped]
      rcases List.mem_cons.mp member with rfl | later
      · exact absurd dropped kept
      · exact ih later
    · rw [List.dropWhile_cons_of_neg dropped]
      exact member

theorem isBlankText_iff (t : Text) :
    t.isBlankText = true ↔ (t.chunks.dropWhile fun c => isBlank c.rune) = [] := by
  rw [List.dropWhile_eq_nil_iff]
  simp [Text.isBlankText]

theorem chunks_dropWhile (p : Chunk → Bool) (t : Text) :
    ∃ rest, rest <:+ t ∧ t.chunks.dropWhile p = Text.chunks rest := by
  induction t using chunk_induction with
  | empty => exact ⟨[], List.suffix_rfl, rfl⟩
  | more b rest ih =>
    by_cases dropped : p (headChunk b rest) = true
    · obtain ⟨later, suffix, eq⟩ := ih
      refine ⟨later, suffix.trans (List.drop_suffix _ _), ?_⟩
      rw [chunks_cons, List.dropWhile_cons_of_pos dropped, eq]
    · refine ⟨b :: rest, List.suffix_rfl, ?_⟩
      conv_lhs => rw [chunks_cons]
      rw [List.dropWhile_cons_of_neg dropped, ← chunks_cons]

theorem chunks_trimStart (t : Text) :
    t.trimStart <:+ t ∧ t.trimStart.chunks = t.chunks.dropWhile fun c => isBlank c.rune := by
  obtain ⟨rest, suffix, eq⟩ := chunks_dropWhile (fun c => isBlank c.rune) t
  have same : t.trimStart = rest := by rw [Text.trimStart, eq, ofChunks_chunks]
  rw [same]
  exact ⟨suffix, eq.symm⟩

theorem trimEnd_begins (t : Text) : t.trimEnd <+: t := by
  have kept : (t.chunks.reverse.dropWhile fun c => isBlank c.rune).reverse <+: t.chunks := by
    rw [← List.reverse_suffix, List.reverse_reverse]
    exact List.dropWhile_suffix _
  obtain ⟨dropped, eq⟩ := kept
  refine ⟨Text.ofChunks dropped, ?_⟩
  rw [Text.trimEnd, ← ofChunks_append, eq, ofChunks_chunks]

theorem trim_inside (t : Text) : t.trim <:+: t :=
  (trimEnd_begins t.trimStart).isInfix.trans (chunks_trimStart t).1.isInfix

theorem trimEnd_eq_nil {t : Text} (empty : t.trimEnd = []) : t.isBlankText = true := by
  have none := ofChunks_eq_nil (fun c member => by
    have kept := List.mem_reverse.mp member
    exact List.mem_reverse.mp ((List.dropWhile_suffix _).subset kept)) empty
  rw [List.reverse_eq_nil_iff, List.dropWhile_eq_nil_iff] at none
  simpa [Text.isBlankText] using none

theorem trim_eq_nil_iff (t : Text) : t.trim = [] ↔ t.isBlankText = true := by
  constructor
  · intro empty
    have blank := trimEnd_eq_nil empty
    rwa [isBlankText_iff, (chunks_trimStart t).2, List.dropWhile_idempotent, ← isBlankText_iff]
      at blank
  · intro blank
    rw [Text.trim, Text.trimStart, (isBlankText_iff t).mp blank]
    rfl

theorem firstWord_blank {t : Text} (blank : t.isBlankText = true) : t.firstWord = [] := by
  rw [Text.firstWord, (isBlankText_iff t).mp blank]
  rfl

section Solid

variable {b : UInt8} {t : Text}

theorem rune_of_ascii (ascii : b < 0x80) {c : Chunk} (member : c ∈ t.chunks)
    (inside : b ∈ c.bytes) : c.rune = b.toNat := by
  induction t using chunk_induction with
  | empty => cases member
  | more first rest ih =>
    rw [chunks_cons] at member
    rcases List.mem_cons.mp member with rfl | later
    · obtain ⟨width, some, -, eq, tail⟩ := headChunk_bytes first rest
      obtain ⟨n, rfl⟩ : ∃ n, width = n + 1 := ⟨width - 1, by omega⟩
      rw [eq] at inside
      rcases List.mem_cons.mp inside with rfl | deeper
      · exact headChunk_ascii ascii rest
      · exact absurd (tail b deeper) (UInt8.not_le.mpr ascii)
    · exact ih later

theorem solid_notMem_blankChunk (ascii : b < 0x80) (solid : isBlank b.toNat = false) {c : Chunk}
    (member : c ∈ t.chunks) (blank : isBlank c.rune = true) : b ∉ c.bytes := by
  intro inside
  rw [rune_of_ascii ascii member inside, solid] at blank
  cases blank

theorem mem_chunk (member : b ∈ t) : ∃ c ∈ t.chunks, b ∈ c.bytes := by
  rw [← ofChunks_chunks t, Text.ofChunks, List.mem_flatMap] at member
  exact member

theorem solid_notMem_blank (ascii : b < 0x80) (solid : isBlank b.toNat = false)
    (blank : t.isBlankText = true) : b ∉ t := by
  intro member
  obtain ⟨c, among, inside⟩ := mem_chunk member
  exact solid_notMem_blankChunk ascii solid among (List.all_eq_true.mp blank c among) inside

theorem solid_mem_trim (ascii : b < 0x80) (solid : isBlank b.toNat = false) (member : b ∈ t) :
    b ∈ t.trim := by
  obtain ⟨c, among, inside⟩ := mem_chunk member
  have kept : ¬ isBlank c.rune = true := by
    intro blank
    exact solid_notMem_blankChunk ascii solid among blank inside
  have front : c ∈ t.trimStart.chunks := by
    rw [(chunks_trimStart t).2]
    exact mem_dropWhile_of_neg among kept
  rw [Text.trim, Text.trimEnd, Text.ofChunks, List.mem_flatMap]
  exact ⟨c, List.mem_reverse.mpr (mem_dropWhile_of_neg (List.mem_reverse.mpr front) kept), inside⟩

end Solid

section Ends

variable {b : UInt8} {t : Text}

theorem chunks_ascii (ascii : b < 0x80) (t : Text) :
    Text.chunks (b :: t) = ⟨b.toNat, [b]⟩ :: t.chunks := by
  have first : headChunk b t = ⟨b.toNat, [b]⟩ := by simp [headChunk, sequence?, ascii]
  rw [chunks_cons, first]
  rfl

theorem trimEnd_solid (ascii : b < 0x80) (solid : isBlank b.toNat = false) (t : Text) :
    Text.trimEnd (b :: t) = b :: t.trimEnd := by
  have stops : ([⟨b.toNat, [b]⟩] : List Chunk).dropWhile (fun c => isBlank c.rune) =
      [⟨b.toNat, [b]⟩] := List.dropWhile_cons_of_neg (by simp [solid])
  rw [Text.trimEnd, Text.trimEnd, chunks_ascii ascii, List.reverse_cons, List.dropWhile_append]
  split_ifs with all
  · rw [stops, List.isEmpty_iff.mp all]
    rfl
  · rw [List.reverse_append, ofChunks_append]
    rfl

theorem trimStart_solid (ascii : b < 0x80) (solid : isBlank b.toNat = false) (t : Text) :
    Text.trimStart (b :: t) = b :: t := by
  rw [Text.trimStart, chunks_ascii ascii, List.dropWhile_cons_of_neg (by simp [solid]),
    ← chunks_ascii ascii, ofChunks_chunks]

theorem trimStart_blank (ascii : b < 0x80) (blank : isBlank b.toNat = true) (t : Text) :
    Text.trimStart (b :: t) = t.trimStart := by
  rw [Text.trimStart, chunks_ascii ascii, List.dropWhile_cons_of_pos (by simpa using blank),
    Text.trimStart]

/-- A text that trimming cannot take a byte of. -/
def IsSolid (part : Text) : Prop :=
  part ≠ [] ∧ ∀ b ∈ part, b < 0x80 ∧ isBlank b.toNat = false

instance (part : Text) : Decidable (IsSolid part) := inferInstanceAs (Decidable (_ ∧ _))

variable {part : Text}

theorem IsSolid.notMem_blanks (solid : IsSolid part) {cs : List Chunk}
    (among : ∀ c ∈ cs, c ∈ t.chunks ∧ isBlank c.rune = true) :
    ∀ b ∈ part, b ∉ Text.ofChunks cs := by
  intro b member inside
  obtain ⟨c, here, holds⟩ := List.mem_flatMap.mp inside
  obtain ⟨ascii, notBlank⟩ := solid.2 b member
  exact solid_notMem_blankChunk ascii notBlank (among c here).1 (among c here).2 holds

theorem infix_of_append {front : Text} (nonempty : part ≠ []) (apart : ∀ b ∈ part, b ∉ front)
    (inside : part <:+: front ++ t) : part <:+: t := by
  induction front with
  | nil => exact inside
  | cons a front ih =>
    rcases List.infix_cons_iff.mp inside with starts | later
    · obtain ⟨b, more, rfl⟩ := List.exists_cons_of_ne_nil nonempty
      obtain ⟨rfl, -⟩ := List.cons_prefix_cons.mp starts
      exact absurd (by simp) (apart b (by simp))
    · exact ih (fun b member inside => apart b member (by simp [inside])) later

theorem IsSolid.infix_trimStart (solid : IsSolid part) :
    part <:+: t.trimStart ↔ part <:+: t := by
  refine ⟨fun inside => inside.trans (chunks_trimStart t).1.isInfix, fun inside => ?_⟩
  have whole : Text.ofChunks (t.chunks.takeWhile fun c => isBlank c.rune) ++ t.trimStart = t := by
    rw [Text.trimStart, ← ofChunks_append, List.takeWhile_append_dropWhile, ofChunks_chunks]
  refine infix_of_append solid.1 (solid.notMem_blanks (t := t) fun c member => ?_)
    (whole.symm ▸ inside)
  exact ⟨(List.takeWhile_prefix _).subset member, by simpa using List.mem_takeWhile_imp member⟩

theorem IsSolid.infix_trimEnd (solid : IsSolid part) : part <:+: t.trimEnd ↔ part <:+: t := by
  refine ⟨fun inside => inside.trans (trimEnd_begins t).isInfix, fun inside => ?_⟩
  let dropped := Text.ofChunks (t.chunks.reverse.takeWhile fun c => isBlank c.rune).reverse
  have whole : t.trimEnd ++ dropped = t := by
    rw [Text.trimEnd, ← ofChunks_append, ← List.reverse_append, List.takeWhile_append_dropWhile,
      List.reverse_reverse, ofChunks_chunks]
  have apart : ∀ b ∈ part, b ∉ dropped := solid.notMem_blanks (t := t) fun c member => by
    rw [List.mem_reverse] at member
    exact ⟨List.mem_reverse.mp ((List.takeWhile_prefix _).subset member),
      by simpa using List.mem_takeWhile_imp member⟩
  rw [← whole, ← List.reverse_infix, List.reverse_append] at inside
  rw [← List.reverse_infix]
  exact infix_of_append (by simpa using solid.1) (by simpa using apart) inside

theorem IsSolid.infix_trim (solid : IsSolid part) : part <:+: t.trim ↔ part <:+: t :=
  solid.infix_trimEnd.trans solid.infix_trimStart

end Ends

end Trimming
end JavadocLint
