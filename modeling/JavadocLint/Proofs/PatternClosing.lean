import JavadocLint.Proofs.TrimmedText
import JavadocLint.Regex.Parse

/- The tokens of a pattern with the closing of the anchored group behind it. A token that can be
   read is read again with the closing left over, since no token is completed or prolonged by it;
   only a quotation that is never ended takes it in. Where no token can be read there is still none,
   or it takes part of the closing. -/
namespace JavadocLint

def closing : Text := utf8 ")$"

theorem closing_eq : closing = [0x29, 0x24] := by decide

section Bytes

theorem sequence?_closing (b : UInt8) (t : Text) :
    sequence? (b :: t ++ closing) = sequence? (b :: t) := by
  have second : ∀ lead, isSecond lead 0x29 = false := by
    intro lead
    rw [Bool.eq_false_iff]
    intro high
    exact absurd (isSecond_high high) (by decide)
  have paren : isContinuation 0x29 = false := by decide
  have dollar : isContinuation 0x24 = false := by decide
  rw [closing_eq]
  rcases t with _ | ⟨c, _ | ⟨d, _ | ⟨e, t⟩⟩⟩ <;>
    simp only [List.cons_append, List.nil_append, sequence?, second, paren, dollar, Bool.and_false,
      Bool.false_eq_true, if_false]

theorem isPrefixOf_closing {front : Text} {last : UInt8} (absent : last ∉ closing) (t : Text) :
    (front ++ [last]).isPrefixOf (t ++ closing) = (front ++ [last]).isPrefixOf t := by
  rw [Bool.eq_iff_iff, List.isPrefixOf_iff_prefix, List.isPrefixOf_iff_prefix]
  constructor
  · rintro ⟨rest, whole⟩
    rcases List.append_eq_append_iff.mp whole with ⟨more, shorter, -⟩ | ⟨more, longer, ends⟩
    · exact ⟨more, shorter.symm⟩
    · -- the last byte would come from the closing
      rcases List.eq_nil_or_concat more with rfl | ⟨most, final, rfl⟩
      · rw [List.append_nil] at longer
        exact ⟨[], by rw [List.append_nil, longer]⟩
      · rw [List.concat_eq_append, ← List.append_assoc] at longer
        obtain ⟨-, same⟩ := List.append_inj' longer rfl
        rw [List.singleton_inj] at same
        exact absurd (by rw [ends, same]; simp) absent
  · intro begins
    exact begins.trans (List.prefix_append t closing)

theorem head?_closing {b : UInt8} (absent : b ≠ 0x29) (t : Text) :
    (t ++ closing).head? = some b ↔ t.head? = some b := by
  cases t with
  | nil => simp [closing_eq, absent.symm]
  | cons c t => rfl

theorem indexOf?_closing {front : Text} {last : UInt8} (absent : last ∉ closing) (t : Text) :
    Text.indexOf? (front ++ [last]) (t ++ closing) = Text.indexOf? (front ++ [last]) t := by
  induction t with
  | nil =>
    rw [List.nil_append, Text.indexOf?, if_neg (by simp), ← Option.not_isSome_iff_eq_none,
      indexOf?_isSome_iff]
    intro occurs
    exact absent (occurs.subset (by simp))
  | cons b t ih =>
    have start := @isPrefixOf_closing front last absent (b :: t)
    rw [List.cons_append] at start ⊢
    rw [Text.indexOf?, Text.indexOf?, start, ih]

theorem indexOf?_bound {needle t : Text} {i : Nat} (found : Text.indexOf? needle t = some i) :
    i + needle.length ≤ t.length := by
  induction t generalizing i with
  | nil =>
    rw [Text.indexOf?] at found
    split at found
    · rename_i none
      cases found
      simp [List.isEmpty_iff.mp none]
    · cases found
  | cons b t ih =>
    rw [Text.indexOf?] at found
    split at found
    · rename_i here
      cases found
      simpa using (List.isPrefixOf_iff_prefix.mp here).length_le
    · obtain ⟨j, later, rfl⟩ := Option.map_eq_some_iff.mp found
      have := ih later
      rw [List.length_cons]
      omega

theorem cut?_closing {front : Text} {last : UInt8} (absent : last ∉ closing) (t : Text) :
    Text.cut? (front ++ [last]) (t ++ closing) =
      (Text.cut? (front ++ [last]) t).map fun parts => (parts.1, parts.2 ++ closing) := by
  rw [Text.cut?, Text.cut?, indexOf?_closing absent]
  cases found : Text.indexOf? (front ++ [last]) t with
  | none => rfl
  | some i =>
    have bound := indexOf?_bound found
    simp only [Option.map_some, Option.some.injEq, Prod.mk.injEq]
    exact ⟨List.take_append_of_le_length (by omega), List.drop_append_of_le_length bound⟩

theorem cut?_suffix {needle t before rest : Text}
    (found : Text.cut? needle t = some (before, rest)) : rest <:+ t.drop needle.length := by
  rw [Text.cut?] at found
  obtain ⟨i, -, parts⟩ := Option.map_eq_some_iff.mp found
  cases parts
  rw [Nat.add_comm, ← List.drop_drop]
  exact List.drop_suffix _ _

end Bytes

namespace PatternToken

theorem taken_closing {t rest : Text} (left : rest <:+ t) :
    taken (t ++ closing) (rest ++ closing) = taken t rest := by
  have := left.length_le
  rw [taken, taken, List.length_append, List.length_append, Nat.add_sub_add_right,
    List.take_append_of_le_length (by omega)]

section Outcomes

variable {α β : Type} {t : Text}

/-- Reading gives the same with the closing behind the text: what is read leaves the closing over,
    and what is refused is refused again. -/
inductive Kept (t : Text) :
    Except PatternError (α × Text) → Except PatternError (α × Text) → Prop where
  | read (a : α) {rest : Text} (left : rest <:+ t) :
      Kept t (.ok (a, rest)) (.ok (a, rest ++ closing))
  | refused (e e' : PatternError) : Kept t (.error e) (.error e')

/-- Otherwise nothing could be read, and now something is that takes part of the closing. -/
inductive Continued (t : Text) :
    Except PatternError (α × Text) → Except PatternError (α × Text) → Prop where
  | kept {x x' : Except PatternError (α × Text)} (same : Kept t x x') : Continued t x x'
  | taken (e : PatternError) (a : α) {rest : Text} (left : rest <:+ [0x24]) :
      Continued t (.error e) (.ok (a, rest))

inductive KeptItem (t : Text) :
    Except PatternError (Option (α × Text)) → Except PatternError (Option (α × Text)) → Prop where
  | absent : KeptItem t (.ok none) (.ok none)
  | read (a : α) {rest : Text} (left : rest <:+ t) :
      KeptItem t (.ok (some (a, rest))) (.ok (some (a, rest ++ closing)))
  | refused (e e' : PatternError) : KeptItem t (.error e) (.error e')

variable {x x' : Except PatternError (α × Text)} {g g' : α × Text → Except PatternError (β × Text)}

theorem Kept.weaken {u : Text} (same : Kept t x x') (part : t <:+ u) : Kept u x x' := by
  cases same with
  | read a left => exact .read a (left.trans part)
  | refused e e' => exact .refused e e'

theorem Continued.weaken {u : Text} (next : Continued t x x') (part : t <:+ u) :
    Continued u x x' := by
  cases next with
  | kept same => exact .kept (same.weaken part)
  | taken e a left => exact .taken e a left

theorem Kept.bind {u : Text} (same : Kept t x x')
    (more : ∀ a rest, rest <:+ t → Kept u (g (a, rest)) (g' (a, rest ++ closing))) :
    Kept u (x >>= g) (x' >>= g') := by
  cases same with
  | read a left => exact more a _ left
  | refused e e' => exact .refused e e'

theorem Kept.bindContinued {u : Text} (same : Kept t x x')
    (more : ∀ a rest, rest <:+ t → Continued u (g (a, rest)) (g' (a, rest ++ closing))) :
    Continued u (x >>= g) (x' >>= g') := by
  cases same with
  | read a left => exact more a _ left
  | refused e e' => exact .kept (.refused e e')

theorem Kept.ite {c : Prop} [Decidable c] {y y' : Except PatternError (α × Text)}
    (yes : c → Kept t x x') (no : ¬ c → Kept t y y') :
    Kept t (if c then x else y) (if c then x' else y') := by
  by_cases holds : c
  · rw [if_pos holds, if_pos holds]
    exact yes holds
  · rw [if_neg holds, if_neg holds]
    exact no holds

theorem Continued.ite {c : Prop} [Decidable c] {y y' : Except PatternError (α × Text)}
    (yes : c → Continued t x x') (no : ¬ c → Continued t y y') :
    Continued t (if c then x else y) (if c then x' else y') := by
  by_cases holds : c
  · rw [if_pos holds, if_pos holds]
    exact yes holds
  · rw [if_neg holds, if_neg holds]
    exact no holds

end Outcomes

section Characters

theorem nextRune_kept (b : UInt8) (t : Text) :
    Kept t (nextRune (b :: t)) (nextRune (b :: t ++ closing)) := by
  simp only [nextRune, List.cons_append]
  rw [← List.cons_append, sequence?_closing]
  cases found : sequence? (b :: t) with
  | some pair =>
    obtain ⟨width, r⟩ := pair
    obtain ⟨some, inside, -⟩ := sequence?_width found
    obtain ⟨n, rfl⟩ : ∃ n, width = n + 1 := ⟨width - 1, by omega⟩
    simp only
    rw [List.drop_append_of_le_length inside]
    exact .read r (List.drop_suffix n t)
  | none =>
    have high : ¬ b < 0x80 := by
      intro ascii
      simp [sequence?, ascii] at found
    simp only [if_neg high]
    exact .refused _ _

theorem nextRune_closing : nextRune closing = .ok (0x29, [0x24]) := by decide +kernel

theorem octalDigits_closing (n value : Nat) (t : Text) :
    (octalDigits n value t).2 <:+ t ∧ octalDigits n value (t ++ closing) =
      ((octalDigits n value t).1, (octalDigits n value t).2 ++ closing) := by
  have stop : isOctal 0x29 = false := by decide
  induction n generalizing value t with
  | zero => cases t <;> simp [octalDigits, closing_eq]
  | succ n ih =>
    cases t with
    | nil => simp [octalDigits, closing_eq, stop]
    | cons b t =>
      rw [List.cons_append, octalDigits, octalDigits]
      split
      · obtain ⟨left, same⟩ := ih (value * 8 + (b.toNat - 48)) t
        exact ⟨left.trans (List.suffix_cons b t), same⟩
      · exact ⟨List.suffix_rfl, rfl⟩

theorem bracedHex_closing (whole : Text) (n value : Nat) (seen : Bool) :
    ∃ e, bracedHex whole n value seen closing = .error e := by
  cases n with
  | zero => exact ⟨_, rfl⟩
  | succ n =>
    have noDigit : hexRune? 0x29 = none := by decide
    rw [bracedHex, nextRune_closing]
    exact ⟨_, by simp [closing_eq, bind, Except.bind, noDigit]; rfl⟩

theorem bracedHex_kept (whole whole' : Text) {n : Nat} (value : Nat) (seen : Bool) {t : Text}
    (fuel : t.length ≤ n) :
    Kept t (bracedHex whole n value seen t)
      (bracedHex whole' (n + 2) value seen (t ++ closing)) := by
  induction n generalizing value seen t with
  | zero =>
    obtain rfl : t = [] := List.length_eq_zero_iff.mp (Nat.le_zero.mp fuel)
    obtain ⟨e, refused⟩ := bracedHex_closing whole' 2 value seen
    rw [List.nil_append, refused]
    exact .refused _ _
  | succ n ih =>
    cases t with
    | nil =>
      obtain ⟨e, refused⟩ := bracedHex_closing whole' (n + 1 + 2) value seen
      rw [List.nil_append, refused]
      exact .refused _ _
    | cons b t =>
      rw [Nat.add_right_comm, bracedHex, bracedHex, if_neg (by simp), if_neg (by simp)]
      refine (nextRune_kept b t).bind ?_
      intro r rest left
      have inside : rest <:+ b :: t := left.trans (List.suffix_cons b t)
      have shorter : rest.length ≤ n := by
        have := left.length_le
        simp only [List.length_cons] at fuel
        omega
      dsimp only
      split
      · split
        · exact .read value inside
        · exact .refused _ _
      · split
        · exact .refused _ _
        · split
          · exact .refused _ _
          · exact (ih _ true shorter).weaken inside

theorem escape_kept (a b : UInt8) (t : Text) :
    Kept t (escape (a :: b :: t)) (escape (a :: b :: t ++ closing)) := by
  rw [List.cons_append, escape, escape]
  dsimp only [List.drop_succ_cons, List.drop_zero]
  rw [if_neg (by simp), if_neg (by simp)]
  refine (nextRune_kept b t).bind ?_
  intro r rest left
  dsimp only
  refine .ite (fun zero => ?_) fun _ => ?_
  · obtain ⟨digits, same⟩ := octalDigits_closing 2 0 rest
    rw [same]
    exact .read _ (digits.trans left)
  refine .ite (fun octal => ?_) fun _ => ?_
  · cases rest with
    | nil => exact .refused _ _
    | cons c rest =>
      dsimp only [List.cons_append]
      refine .ite (fun digit => ?_) fun _ => .refused _ _
      obtain ⟨digits, same⟩ := octalDigits_closing 2 (r - 48) (c :: rest)
      rw [← List.cons_append, same]
      exact .read _ (digits.trans left)
  refine .ite (fun hex => ?_) fun _ => ?_
  · cases rest with
    | nil =>
      -- the closing is no pair of digits
      rw [if_pos List.isEmpty_nil, List.nil_append, if_neg (by decide), nextRune_closing]
      exact .refused _ _
    | cons c rest =>
      rw [if_neg (by simp), if_neg (by simp)]
      refine (nextRune_kept c rest).bind ?_
      intro x rest' left'
      replace left' := left'.trans ((List.suffix_cons c rest).trans left)
      dsimp only
      refine .ite (fun braced => ?_) fun _ => ?_
      · rw [List.length_append]
        exact (bracedHex_kept _ _ 0 false (Nat.le_refl _)).weaken left'
      cases rest' with
      | nil =>
        rw [List.nil_append, nextRune_closing, nextRune]
        cases hexRune? x <;> exact .refused _ _
      | cons d rest' =>
        refine (nextRune_kept d rest').bind ?_
        intro y rest'' left''
        dsimp only
        split
        · exact .read _ (left''.trans ((List.suffix_cons d rest').trans left'))
        · exact .refused _ _
  iterate 7 refine .ite (fun _ => .read _ left) fun _ => ?_
  exact .refused _ _

theorem escape_continued (b : UInt8) (t : Text) :
    Continued t (escape (b :: t)) (escape (b :: t ++ closing)) := by
  cases t with
  | nil =>
    have whole : escape (b :: [] ++ closing) = .ok (0x29, [0x24]) := by
      rw [List.cons_append, List.nil_append, escape]
      dsimp only
      rw [show List.drop 1 (b :: closing) = closing from rfl, if_neg (by decide), nextRune_closing]
      rfl
    rw [whole]
    exact .taken _ _ List.suffix_rfl
  | cons c t => exact .kept ((escape_kept b c t).weaken (List.suffix_cons c t))

end Characters

end PatternToken
end JavadocLint
