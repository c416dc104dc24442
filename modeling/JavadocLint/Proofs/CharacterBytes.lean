import Mathlib
import JavadocLint.Proofs.TrimmedText

/- Characters and their bytes. A well-formed sequence is recognized by its own bytes, whatever
   stands behind it, and writing its code point gives these bytes again. So the characters of a text
   do not change when the text is cut off behind one of them. -/
namespace JavadocLint

inductive Encodes : Text → Nat → Prop where
  | one {a : UInt8} (ascii : a < 0x80) : Encodes [a] a.toNat
  | two {a b : UInt8} (low : 0xC2 ≤ a) (high : a ≤ 0xDF) (second : isSecond a b = true) :
      Encodes [a, b] ((a.toNat - 0xC0) * 64 + (b.toNat - 0x80))
  | three {a b c : UInt8} (low : 0xE0 ≤ a) (high : a ≤ 0xEF) (second : isSecond a b = true)
      (third : isContinuation c = true) :
      Encodes [a, b, c] (((a.toNat - 0xE0) * 64 + (b.toNat - 0x80)) * 64 + (c.toNat - 0x80))
  | four {a b c d : UInt8} (low : 0xF0 ≤ a) (high : a ≤ 0xF4) (second : isSecond a b = true)
      (third : isContinuation c = true) (fourth : isContinuation d = true) :
      Encodes [a, b, c, d]
        ((((a.toNat - 0xF0) * 64 + (b.toNat - 0x80)) * 64 + (c.toNat - 0x80)) * 64
          + (d.toNat - 0x80))

theorem sequence?_encodes {t : Text} {width rune : Nat} (found : sequence? t = some (width, rune)) :
    Encodes (t.take width) rune := by
  cases t with
  | nil => cases found
  | cons a rest =>
    simp only [sequence?] at found
    split at found
    · cases found
      exact .one ‹_›
    split at found
    · rename_i lead
      simp only [Bool.and_eq_true, decide_eq_true_eq] at lead
      split at found
      · split at found
        · cases found
          exact .two lead.1 lead.2 ‹_›
        · cases found
      · cases found
    split at found
    · rename_i lead
      simp only [Bool.and_eq_true, decide_eq_true_eq] at lead
      split at found
      · split at found
        · rename_i others
          rw [Bool.and_eq_true] at others
          cases found
          exact .three lead.1 lead.2 others.1 others.2
        · cases found
      · cases found
    split at found
    · rename_i lead
      simp only [Bool.and_eq_true, decide_eq_true_eq] at lead
      split at found
      · split at found
        · rename_i others
          rw [Bool.and_eq_true, Bool.and_eq_true] at others
          cases found
          exact .four lead.1 lead.2 others.1.1 others.1.2 others.2
        · cases found
      · cases found
    · cases found

section Written

variable {r : Nat}

theorem ofRune_one (high : r < 0x80) : Text.ofRune r = [r.toUInt8] := by
  unfold Text.ofRune
  rw [if_pos high]

theorem ofRune_two (low : 0x80 ≤ r) (high : r < 0x800) :
    Text.ofRune r = [(0xC0 + r / 64).toUInt8, (0x80 + r % 64).toUInt8] := by
  unfold Text.ofRune
  rw [if_neg (by omega), if_pos high]

theorem ofRune_three (low : 0x800 ≤ r) (high : r < 0x10000) (scalar : r < 0xD800 ∨ 0xDFFF < r) :
    Text.ofRune r =
      [(0xE0 + r / 4096).toUInt8, (0x80 + r / 64 % 64).toUInt8, (0x80 + r % 64).toUInt8] := by
  unfold Text.ofRune
  rw [if_neg (by omega), if_neg (by omega), if_neg (by simp; omega), if_pos high]

theorem ofRune_four (low : 0x10000 ≤ r) (high : r ≤ 0x10FFFF) :
    Text.ofRune r =
      [(0xF0 + r / 262144).toUInt8, (0x80 + r / 4096 % 64).toUInt8, (0x80 + r / 64 % 64).toUInt8,
        (0x80 + r % 64).toUInt8] := by
  unfold Text.ofRune
  rw [if_neg (by omega), if_neg (by omega), if_neg (by simp; omega), if_neg (by omega)]

theorem toUInt8_eq {n : Nat} {b : UInt8} (same : n = b.toNat) : n.toUInt8 = b := by
  rw [same]
  exact UInt8.ofNat_toNat

end Written

section Heads

variable {b : UInt8} {t : Text}

theorem headChunk_some {pair : Nat × Nat} (found : sequence? (b :: t) = some pair) :
    headChunk b t = ⟨pair.2, (b :: t).take pair.1⟩ := by
  rw [headChunk, found]

theorem headChunk_none (none : sequence? (b :: t) = none) :
    headChunk b t = ⟨replacement, [b]⟩ := by
  rw [headChunk, none]

end Heads

namespace Encodes

variable {bytes : Text} {rune : Nat}

theorem recognized (encodes : Encodes bytes rune) (rest : Text) :
    sequence? (bytes ++ rest) = some (bytes.length, rune) := by
  cases encodes with
  | one ascii => simp [sequence?, ascii]
  | @two a b low high second =>
    have past : ¬ a < 0x80 := by grind
    simp [sequence?, past, low, high, second]
  | @three a b c low high second third =>
    have past : ¬ a < 0x80 := by grind
    have longer : ¬ a ≤ 0xDF := by grind
    simp [sequence?, past, longer, low, high, second, third]
  | @four a b c d low high second third fourth =>
    have past : ¬ a < 0x80 := by grind
    have longer : ¬ a ≤ 0xDF := by grind
    have longest : ¬ a ≤ 0xEF := by grind
    simp [sequence?, past, longer, longest, low, high, second, third, fourth]

theorem isSecond_bounds {a b : UInt8} (second : isSecond a b = true) :
    0x80 ≤ b.toNat ∧ b.toNat ≤ 0xBF ∧ (a.toNat = 0xE0 → 0xA0 ≤ b.toNat) ∧
      (a.toNat = 0xED → b.toNat ≤ 0x9F) ∧ (a.toNat = 0xF0 → 0x90 ≤ b.toNat) ∧
      (a.toNat = 0xF4 → b.toNat ≤ 0x8F) := by
  simp only [isSecond, secondRange, Bool.and_eq_true, decide_eq_true_eq, ← UInt8.toNat_inj,
    UInt8.le_iff_toNat_le] at second
  split_ifs at second <;> simp at * <;> omega

theorem isContinuation_bounds {b : UInt8} (continues : isContinuation b = true) :
    0x80 ≤ b.toNat ∧ b.toNat ≤ 0xBF := by
  simpa [isContinuation, UInt8.le_iff_toNat_le] using continues

theorem written (encodes : Encodes bytes rune) : Text.ofRune rune = bytes := by
  cases encodes with
  | @one a ascii =>
    simp only [UInt8.lt_iff_toNat_lt, UInt8.reduceToNat] at ascii
    rw [ofRune_one ascii, toUInt8_eq rfl]
  | @two a b low high second =>
    obtain ⟨least, greatest, -⟩ := isSecond_bounds second
    simp only [UInt8.le_iff_toNat_le, UInt8.reduceToNat] at low high
    rw [ofRune_two (by omega) (by omega), @toUInt8_eq _ a (by omega), @toUInt8_eq _ b (by omega)]
  | @three a b c low high second third =>
    obtain ⟨least, greatest, overlong, surrogate, -⟩ := isSecond_bounds second
    obtain ⟨lower, upper⟩ := isContinuation_bounds third
    simp only [UInt8.le_iff_toNat_le, UInt8.reduceToNat] at low high
    rw [ofRune_three (by omega) (by omega) (by omega), @toUInt8_eq _ a (by omega),
      @toUInt8_eq _ b (by omega), @toUInt8_eq _ c (by omega)]
  | @four a b c d low high second third fourth =>
    obtain ⟨least, greatest, -, -, overlong, greater⟩ := isSecond_bounds second
    obtain ⟨lower, upper⟩ := isContinuation_bounds third
    obtain ⟨lower', upper'⟩ := isContinuation_bounds fourth
    simp only [UInt8.le_iff_toNat_le, UInt8.reduceToNat] at low high
    rw [ofRune_four (by omega) (by omega), @toUInt8_eq _ a (by omega), @toUInt8_eq _ b (by omega),
      @toUInt8_eq _ c (by omega), @toUInt8_eq _ d (by omega)]

theorem ne_nil (encodes : Encodes bytes rune) : bytes ≠ [] := by
  cases encodes <;> simp

theorem chunks_append (encodes : Encodes bytes rune) (rest : Text) :
    Text.chunks (bytes ++ rest) = ⟨rune, bytes⟩ :: rest.chunks := by
  obtain ⟨b, more, rfl⟩ := List.exists_cons_of_ne_nil encodes.ne_nil
  have first : headChunk b (more ++ rest) = ⟨rune, b :: more⟩ := by
    have found : sequence? (b :: (more ++ rest)) = _ := encodes.recognized rest
    rw [headChunk_some found, ← List.cons_append, List.take_left]
  rw [List.cons_append, chunks_cons, first, ← List.cons_append, List.drop_left]

end Encodes

section Characters

variable {t : Text}

theorem headChunk_cases (b : UInt8) (t : Text) :
    Encodes (headChunk b t).bytes (headChunk b t).rune ∨ headChunk b t = ⟨replacement, [b]⟩ := by
  cases found : sequence? (b :: t) with
  | none => exact Or.inr (headChunk_none found)
  | some pair =>
    rw [headChunk_some found]
    exact Or.inl (sequence?_encodes found)

theorem chunk_cases {c : Chunk} (member : c ∈ t.chunks) :
    Encodes c.bytes c.rune ∨ c.rune = replacement ∧ c.bytes.length = 1 := by
  induction t using chunk_induction with
  | empty => cases member
  | more b rest ih =>
    rw [chunks_cons] at member
    rcases List.mem_cons.mp member with rfl | later
    · rcases headChunk_cases b rest with proper | stray
      · exact Or.inl proper
      · rw [stray]
        exact Or.inr ⟨rfl, rfl⟩
    · exact ih later

theorem headChunk_cut {b : UInt8} {rest : Text} (cut : Text) {more : Text}
    (whole : rest = cut ++ more) (kept : (headChunk b rest).bytes.length ≤ cut.length + 1) :
    headChunk b cut = headChunk b rest := by
  subst whole
  have taken : ∀ {width rune : Nat}, sequence? (b :: cut) = some (width, rune) →
      sequence? (b :: (cut ++ more)) = some (width, rune) := by
    intro width rune found
    obtain ⟨-, inside, -⟩ := sequence?_width found
    have again := (sequence?_encodes found).recognized ((b :: cut).drop width ++ more)
    rwa [← List.append_assoc, List.take_append_drop, List.length_take_of_le inside] at again
  cases found : sequence? (b :: (cut ++ more)) with
  | none =>
    -- a sequence in the part would be one in the whole
    have none : sequence? (b :: cut) = none := by
      rw [Option.eq_none_iff_forall_ne_some]
      rintro ⟨width, rune⟩ found'
      rw [taken found'] at found
      cases found
    rw [headChunk_none none, headChunk_none found]
  | some pair =>
    obtain ⟨width, rune⟩ := pair
    obtain ⟨-, inside, -⟩ := sequence?_width found
    rw [headChunk_some found, List.length_take_of_le inside] at kept
    have same : (b :: (cut ++ more)).take width = (b :: cut).take width := by
      rw [← List.cons_append, List.take_append_of_le_length kept]
    have again := (sequence?_encodes found).recognized ((b :: cut).drop width)
    rw [List.length_take_of_le inside, same, List.take_append_drop] at again
    rw [headChunk_some again, headChunk_some found, same]

theorem chunks_cut {front : List Chunk} (starts : front <+: t.chunks) :
    (Text.ofChunks front).chunks = front := by
  induction t using chunk_induction generalizing front with
  | empty =>
    rw [List.prefix_nil.mp starts]
    rfl
  | more b rest ih =>
    rw [chunks_cons] at starts
    cases front with
    | nil => rfl
    | cons c front =>
      obtain ⟨rfl, later⟩ := List.cons_prefix_cons.mp starts
      have tail := ih later
      obtain ⟨dropped, split⟩ := later
      have more := congrArg Text.ofChunks split
      rw [ofChunks_chunks, ofChunks_append] at more
      obtain ⟨width, some, length, bytes, -⟩ := headChunk_bytes b rest
      obtain ⟨n, rfl⟩ : ∃ n, width = n + 1 := ⟨width - 1, by omega⟩
      have whole : rest = rest.take n ++ Text.ofChunks front ++ Text.ofChunks dropped := by
        rw [List.append_assoc, more, length, List.drop_succ_cons, List.take_append_drop]
      have text : Text.ofChunks (headChunk b rest :: front) =
          b :: (rest.take n ++ Text.ofChunks front) := by
        rw [Text.ofChunks, List.flatMap_cons, bytes]
        rfl
      have same : headChunk b (rest.take n ++ Text.ofChunks front) = headChunk b rest := by
        apply headChunk_cut _ whole
        rw [bytes, List.take_succ_cons, List.length_cons, List.length_append]
        omega
      rw [text, chunks_cons, same, bytes, ← List.cons_append, ← List.take_succ_cons, List.drop_left,
        tail]

end Characters
end JavadocLint
