import Mathlib
import JavadocLint.Text.Basic

/- Numbers in decimal notation: the digits are those of the tenth part and one more, so they give
   the number back and there are never fewer of them for a greater number. -/
namespace JavadocLint

theorem digitChar_bytes : ∀ d < 10,
    String.utf8EncodeChar (Nat.digitChar d) = [(48 + d).toUInt8] := by
  decide

theorem ofNat_eq (n : Nat) :
    Text.ofNat n = (if n < 10 then [] else Text.ofNat (n / 10)) ++ [(48 + n % 10).toUInt8] := by
  have bytes : ∀ m, Text.ofNat m = (Nat.toDigits 10 m).flatMap String.utf8EncodeChar := by
    intro m
    simp only [Text.ofNat, utf8, String.toUTF8_eq_toByteArray, Nat.toString_eq_ofList_toDigits,
      String.toByteArray_ofList, List.utf8Encode, List.data_toByteArray]
  rw [bytes, bytes, Nat.toDigits_eq_if (by omega)]
  split
  · rename_i small
    simp [digitChar_bytes n small, Nat.mod_eq_of_lt small]
  · simp [digitChar_bytes (n % 10) (Nat.mod_lt _ (by omega))]

theorem digit_byte : ∀ d < 10,
    Text.isDigit (48 + d).toUInt8 = true ∧ (48 + d).toUInt8.toNat - 48 = d := by
  decide

theorem ofNat_digits (n : Nat) : (Text.ofNat n).all Text.isDigit = true := by
  induction n using Nat.strongRecOn with
  | ind n ih =>
    have last := (digit_byte (n % 10) (Nat.mod_lt _ (by omega))).1
    rw [ofNat_eq, List.all_append, List.all_cons, last]
    split
    · rfl
    · rw [ih (n / 10) (by omega)]
      rfl

theorem ofNat_value (n : Nat) :
    (Text.ofNat n).foldl (fun value b => value * 10 + (b.toNat - 48)) 0 = n := by
  induction n using Nat.strongRecOn with
  | ind n ih =>
    have last := (digit_byte (n % 10) (Nat.mod_lt _ (by omega))).2
    rw [ofNat_eq]
    split
    · simp only [List.nil_append, List.foldl_cons, List.foldl_nil, last]
      omega
    · rw [List.foldl_append, ih (n / 10) (by omega)]
      simp only [List.foldl_cons, List.foldl_nil, last]
      omega

theorem notMem_ofNat {b : UInt8} (other : Text.isDigit b = false) (n : Nat) :
    b ∉ Text.ofNat n := by
  intro member
  have digit := List.all_eq_true.mp (ofNat_digits n) b member
  rw [other] at digit
  cases digit

theorem ofNat_length_mono {m n : Nat} (less : m ≤ n) :
    (Text.ofNat m).length ≤ (Text.ofNat n).length := by
  induction n using Nat.strongRecOn generalizing m with
  | ind n ih =>
    rw [ofNat_eq m, ofNat_eq n, List.length_append, List.length_append]
    apply Nat.add_le_add_right
    split
    · exact Nat.zero_le _
    · rw [if_neg (by omega)]
      exact ih (n / 10) (by omega) (by omega)

end JavadocLint
