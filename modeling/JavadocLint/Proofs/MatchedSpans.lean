import JavadocLint.Javadoc.Rule
import JavadocLint.Proofs.TrimmedText

/- What a regular expression matches, said without a search: the stretches of text that it spans.
   The sets of positions that matching follows are the ends of these stretches. A loop without an
   upper bound is followed for as many rounds as there are positions; that is enough, since a round
   that takes up no text leads nowhere new. -/
namespace JavadocLint

inductive Times (step : Nat → Nat → Prop) : Nat → Nat → Nat → Prop where
  | zero (i : Nat) : Times step 0 i i
  | next {n i j k : Nat} (first : step i j) (others : Times step n j k) : Times step (n + 1) i k

namespace Regex

/-- Whether a match can begin at one position and end at another. An upper bound of a loop counts
    only if it is not below the lower one. -/
def Spans (text : Array Nat) : Regex → Nat → Nat → Prop
  | .empty, i, j => j = i
  | .rune r fold, i, j => j = i + 1 ∧ ∃ c, text[i]? = some c ∧
      if fold then Unicode.fold c = Unicode.fold r else c = r
  | .set s, i, j => j = i + 1 ∧ ∃ c, text[i]? = some c ∧ s.holds c = true
  | .assert a, i, j => j = i ∧ a.holds text i = true
  | .seq first second, i, k => ∃ j, Spans text first i j ∧ Spans text second j k
  | .alt left right, i, j => Spans text left i j ∨ Spans text right i j
  | .loop body least most, i, j =>
      ∃ n ≥ least, (∀ m ∈ most, n ≤ max least m) ∧ Times (Spans text body) n i j

end Regex

section Steps

variable {step : Nat → Nat → Prop} {i j k m n : Nat}

theorem Times.append (first : Times step m i j) (second : Times step n j k) :
    Times step (m + n) i k := by
  induction first with
  | zero i => simpa using second
  | next once _ ih =>
    rw [Nat.add_right_comm]
    exact .next once (ih second)

theorem Times.split (path : Times step (m + n) i k) :
    ∃ j, Times step m i j ∧ Times step n j k := by
  induction m generalizing i with
  | zero => exact ⟨i, .zero i, by simpa using path⟩
  | succ m ih =>
    rw [Nat.add_right_comm] at path
    cases path with
    | next once others =>
      obtain ⟨j, front, back⟩ := ih others
      exact ⟨j, .next once front, back⟩

theorem Times.stays {set : List Nat} (closed : ∀ i ∈ set, ∀ j, step i j → j ∈ set)
    (path : Times step n i j) (start : i ∈ set) : j ∈ set := by
  induction path with
  | zero i => exact start
  | next once _ ih => exact ih (closed _ start _ once)

theorem mem_times_succ {seen : List Nat} :
    (∃ m ≤ n, ∃ i, (i ∈ seen ∨ ∃ k ∈ seen, step k i) ∧ Times step m i j) ↔
      ∃ m ≤ n + 1, ∃ i ∈ seen, Times step m i j := by
  constructor
  · rintro ⟨m, few, i, old | ⟨k, old, once⟩, path⟩
    · exact ⟨m, by omega, i, old, path⟩
    · exact ⟨m + 1, by omega, k, old, .next once path⟩
  · rintro ⟨m, few, i, old, path⟩
    cases path with
    | zero => exact ⟨0, by omega, _, .inl old, .zero _⟩
    | next once others => exact ⟨_, by omega, _, .inr ⟨i, old, once⟩, others⟩

/-- Steps that take up no text can be left out, and there is no room for more than `size` others. -/
theorem Times.shorten {size : Nat} (forward : ∀ i j, step i j → j = i ∨ (i < j ∧ j ≤ size))
    (path : Times step n i j) :
    ∃ m, Times step m i j ∧ (m = 0 ∨ (i + m ≤ j ∧ j ≤ size)) := by
  induction path with
  | zero i => exact ⟨0, .zero i, .inl rfl⟩
  | @next n i j k once others ih =>
    obtain ⟨m, short, bound⟩ := ih
    rcases forward i j once with rfl | ⟨less, inside⟩
    · exact ⟨m, short, bound⟩
    · refine ⟨m + 1, .next once short, .inr ?_⟩
      rcases bound with rfl | ⟨room, last⟩
      · cases short
        omega
      · omega

end Steps

namespace Regex

section Sets

variable {f : List Nat → List Nat} {step : Nat → Nat → Prop}
variable {seen fresh starts : List Nat} {j : Nat}

theorem mem_union (xs ys : List Nat) : j ∈ union xs ys ↔ j ∈ xs ∨ j ∈ ys := by
  simp only [union, List.mem_append, List.mem_filter, Bool.not_eq_true', List.contains_eq_mem,
    decide_eq_false_iff_not]
  tauto

theorem mem_after {p : Nat → Bool} {text : Array Nat} :
    j ∈ after p text starts ↔ ∃ i ∈ starts, j = i + 1 ∧ ∃ c, text[i]? = some c ∧ p c = true := by
  simp only [after, List.mem_filterMap, Option.bind_eq_some_iff]
  constructor
  · rintro ⟨i, member, c, there, passed⟩
    split at passed
    · rename_i holds
      cases passed
      exact ⟨i, member, rfl, c, there, holds⟩
    · cases passed
  · rintro ⟨i, member, rfl, c, there, holds⟩
    exact ⟨i, member, c, there, if_pos holds⟩

variable (image : ∀ starts j, j ∈ f starts ↔ ∃ i ∈ starts, step i j)
include image

theorem mem_iterate (n : Nat) :
    j ∈ iterate f n starts ↔ ∃ i ∈ starts, Times step n i j := by
  induction n generalizing starts with
  | zero =>
    constructor
    · intro member
      exact ⟨j, member, .zero j⟩
    · rintro ⟨i, member, path⟩
      cases path
      exact member
  | succ n ih =>
    rw [iterate, ih]
    constructor
    · rintro ⟨k, reached, path⟩
      obtain ⟨i, member, once⟩ := (image starts k).mp reached
      exact ⟨i, member, .next once path⟩
    · rintro ⟨i, member, path⟩
      cases path with
      | next once others => exact ⟨_, (image starts _).mpr ⟨i, member, once⟩, others⟩

theorem mem_round (known : ∀ i ∈ fresh, i ∈ seen)
    (followed : ∀ i ∈ seen, i ∉ fresh → ∀ k, step i k → k ∈ seen) :
    (j ∈ seen ∨ j ∈ (f fresh).filter fun i => !seen.contains i) ↔
      j ∈ seen ∨ ∃ i ∈ seen, step i j := by
  simp only [List.mem_filter, image, Bool.not_eq_true', List.contains_eq_mem,
    decide_eq_false_iff_not]
  constructor
  · rintro (old | ⟨⟨i, member, once⟩, -⟩)
    · exact .inl old
    · exact .inr ⟨i, known i member, once⟩
  · rintro (old | ⟨i, member, once⟩)
    · exact .inl old
    · by_cases new : i ∈ fresh
      · by_cases again : j ∈ seen
        · exact .inl again
        · exact .inr ⟨⟨i, new, once⟩, again⟩
      · exact .inl (followed i member new j once)

/-- The search follows only what is new. Nothing is lost if the positions seen before were followed
    already. -/
theorem mem_closure (rounds : Nat) (known : ∀ i ∈ fresh, i ∈ seen)
    (followed : ∀ i ∈ seen, i ∉ fresh → ∀ k, step i k → k ∈ seen) :
    j ∈ closure f rounds seen fresh ↔ ∃ n ≤ rounds, ∃ i ∈ seen, Times step n i j := by
  induction rounds generalizing seen fresh with
  | zero =>
    constructor
    · intro member
      exact ⟨0, Nat.le_refl 0, j, member, .zero j⟩
    · rintro ⟨n, none, i, member, path⟩
      obtain rfl : n = 0 := by omega
      cases path
      exact member
  | succ rounds ih =>
    have round := fun k => @mem_round f step seen fresh k image known followed
    rw [closure]
    split
    · rename_i none
      -- nothing is new, so no step leads out of what was seen
      have closed : ∀ i ∈ seen, ∀ k, step i k → k ∈ seen := by
        intro i member k once
        have found := (round k).mpr (.inr ⟨i, member, once⟩)
        rw [none] at found
        exact found.resolve_right List.not_mem_nil
      constructor
      · intro member
        exact ⟨0, Nat.zero_le _, j, member, .zero j⟩
      · rintro ⟨n, -, i, member, path⟩
        exact path.stays closed member
    · rw [ih (fun i member => (mem_union _ _).mpr (.inr member)), ← mem_times_succ]
      · simp only [mem_union, round]
      · intro i member old k once
        rw [mem_union] at member ⊢
        exact (round k).mpr (.inr ⟨i, member.resolve_right old, once⟩)

end Sets

section Ends

variable {text : Array Nat}

theorem Spans.forward {r : Regex} {i j : Nat} (spans : r.Spans text i j) :
    j = i ∨ (i < j ∧ j ≤ text.size) := by
  induction r generalizing i j with
  | empty => exact .inl spans
  | rune r fold =>
    obtain ⟨rfl, c, there, -⟩ := spans
    have := (Array.getElem?_eq_some_iff.mp there).1
    omega
  | set s =>
    obtain ⟨rfl, c, there, -⟩ := spans
    have := (Array.getElem?_eq_some_iff.mp there).1
    omega
  | assert a => exact .inl spans.1
  | seq first second ihFirst ihSecond =>
    obtain ⟨k, front, back⟩ := spans
    have := ihFirst front
    have := ihSecond back
    omega
  | alt left right ihLeft ihRight =>
    rcases spans with spans | spans
    · exact ihLeft spans
    · exact ihRight spans
  | loop body least most ih =>
    obtain ⟨n, -, -, path⟩ := spans
    obtain ⟨m, short, rfl | bound⟩ := path.shorten fun _ _ => ih
    · cases short
      exact .inl rfl
    · omega

theorem mem_ends_loop {body : Regex} {least : Nat} {most : Option Nat} {starts : List Nat} {j : Nat}
    (image : ∀ starts j, j ∈ ends text body starts ↔ ∃ i ∈ starts, body.Spans text i j) :
    j ∈ ends text (.loop body least most) starts ↔
      ∃ i ∈ starts, (loop body least most).Spans text i j := by
  simp only [ends, Spans]
  rw [mem_closure image _ (fun i member => member) (fun i member new => absurd member new)]
  simp only [mem_iterate image]
  constructor
  · rintro ⟨n, few, k, ⟨i, member, front⟩, back⟩
    refine ⟨i, member, least + n, Nat.le_add_right least n, ?_, front.append back⟩
    rintro m rfl
    dsimp only at few
    omega
  · rintro ⟨i, member, n, enough, bounded, path⟩
    obtain ⟨extra, rfl⟩ := Nat.exists_eq_add_of_le enough
    obtain ⟨k, front, back⟩ := path.split
    cases most with
    | some m =>
      have := bounded m rfl
      exact ⟨extra, by dsimp only; omega, k, ⟨i, member, front⟩, back⟩
    | none =>
      obtain ⟨m, short, room⟩ := back.shorten fun _ _ => Spans.forward
      exact ⟨m, by dsimp only; omega, k, ⟨i, member, front⟩, short⟩

/-- Matching follows exactly the ends of the stretches that begin at the given positions. -/
theorem mem_ends (r : Regex) (starts : List Nat) (j : Nat) :
    j ∈ ends text r starts ↔ ∃ i ∈ starts, r.Spans text i j := by
  induction r generalizing starts j with
  | empty => simp [ends, Spans]
  | rune r fold =>
    cases fold <;> simp [ends, Spans, mem_after]
  | set s => simp [ends, Spans, mem_after]
  | assert a =>
    simp only [ends, Spans, List.mem_filter]
    constructor
    · rintro ⟨member, holds⟩
      exact ⟨j, member, rfl, holds⟩
    · rintro ⟨i, member, rfl, holds⟩
      exact ⟨member, holds⟩
  | seq first second ihFirst ihSecond =>
    simp only [ends, Spans, ihFirst, ihSecond]
    constructor
    · rintro ⟨k, ⟨i, member, front⟩, back⟩
      exact ⟨i, member, k, front, back⟩
    · rintro ⟨i, member, k, front, back⟩
      exact ⟨k, ⟨i, member, front⟩, back⟩
  | alt left right ihLeft ihRight =>
    simp only [ends, Spans, mem_union, ihLeft, ihRight]
    constructor
    · rintro (⟨i, member, spans⟩ | ⟨i, member, spans⟩)
      · exact ⟨i, member, .inl spans⟩
      · exact ⟨i, member, .inr spans⟩
    · rintro ⟨i, member, spans | spans⟩
      · exact .inl ⟨i, member, spans⟩
      · exact .inr ⟨i, member, spans⟩
  | loop body least most ih => exact mem_ends_loop ih

theorem search_iff (r : Regex) : r.search text = true ↔ ∃ i ≤ text.size, ∃ j, r.Spans text i j := by
  rw [search, Bool.not_eq_true', List.isEmpty_eq_false_iff_exists_mem]
  simp only [mem_ends, List.mem_range, Nat.lt_succ_iff]
  constructor
  · rintro ⟨j, i, inside, spans⟩
    exact ⟨i, inside, j, spans⟩
  · rintro ⟨i, inside, j, spans⟩
    exact ⟨j, i, inside, spans⟩

def anchored (r : Regex) : Regex := .seq (.seq (.assert .textStart) r) (.assert .textEnd)

/-- Between the two ends of the text an expression is found only if it spans the whole text. -/
theorem search_anchored (r : Regex) :
    r.anchored.search text = true ↔ r.Spans text 0 text.size := by
  rw [search_iff]
  simp only [anchored, Spans, Assertion.holds, beq_iff_eq]
  constructor
  · rintro ⟨i, -, j, k, ⟨i', ⟨rfl, rfl⟩, spans⟩, rfl, rfl⟩
    exact spans
  · intro spans
    exact ⟨0, Nat.zero_le _, text.size, text.size, ⟨0, ⟨rfl, rfl⟩, spans⟩, rfl, rfl⟩

end Ends
end Regex

section Bytes

def Text.offset (t : Text) (i : Nat) : Nat := (Text.ofChunks (t.chunks.take i)).length

def Regex.MatchesFrom (r : Regex) (t : Text) (start stop : Nat) : Prop :=
  ∃ i j, i ≤ t.chunks.length ∧ j ≤ t.chunks.length ∧ t.offset i = start ∧ t.offset j = stop ∧
    r.Spans t.runes.toArray i j

theorem runes_size (t : Text) : t.runes.toArray.size = t.chunks.length := by
  simp [Text.runes]

theorem offset_split (t : Text) (i : Nat) :
    t.offset i + (Text.ofChunks (t.chunks.drop i)).length = t.length := by
  have whole := ofChunks_append (t.chunks.take i) (t.chunks.drop i)
  rw [List.take_append_drop, ofChunks_chunks] at whole
  rw [Text.offset, ← List.length_append, ← whole]

theorem offset_eq_zero {t : Text} {i : Nat} (inside : i ≤ t.chunks.length) :
    t.offset i = 0 ↔ i = 0 := by
  constructor
  · intro none
    have empty := ofChunks_eq_nil (fun c member => List.mem_of_mem_take member)
      (List.length_eq_zero_iff.mp none)
    have size := congrArg List.length empty
    rw [List.length_take, List.length_nil] at size
    omega
  · rintro rfl
    rfl

theorem offset_eq_length {t : Text} {i : Nat} (inside : i ≤ t.chunks.length) :
    t.offset i = t.length ↔ i = t.chunks.length := by
  have split := offset_split t i
  constructor
  · intro all
    have empty := ofChunks_eq_nil (fun c member => List.mem_of_mem_drop member)
      (List.length_eq_zero_iff.mp (show (Text.ofChunks (t.chunks.drop i)).length = 0 by omega))
    have size := congrArg List.length empty
    rw [List.length_drop, List.length_nil] at size
    omega
  · rintro rfl
    rw [List.drop_length] at split
    exact split

theorem matchesFrom_whole (r : Regex) (t : Text) :
    r.MatchesFrom t 0 t.length ↔ r.Spans t.runes.toArray 0 t.runes.toArray.size := by
  rw [runes_size]
  constructor
  · rintro ⟨i, j, insideI, insideJ, first, last, spans⟩
    rw [offset_eq_zero insideI] at first
    rw [offset_eq_length insideJ] at last
    rwa [first, last] at spans
  · intro spans
    exact ⟨0, _, Nat.zero_le _, Nat.le_refl _, rfl,
      (offset_eq_length (Nat.le_refl _)).mpr rfl, spans⟩

end Bytes
end JavadocLint
