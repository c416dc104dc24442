import Mathlib
import JavadocLint.Sorting

/- Insertion is a stable sort: for a total preorder it agrees with the merge sort of the library,
   and elements with one key keep the order in which they came. -/
namespace JavadocLint

variable {α : Type}

theorem insertSorted_between (le : α → α → Bool) (a : α) (smaller others : List α)
    (before : ∀ b ∈ smaller, le a b = false) (after : ∀ b ∈ others, le a b = true) :
    insertSorted le a (smaller ++ others) = smaller ++ a :: others := by
  induction smaller with
  | nil =>
    cases others with
    | nil => rfl
    | cons b rest => simp [insertSorted, after b]
  | cons b rest ih =>
    have skipped : le a b = false := before b (by simp)
    have tail := ih (fun c member => before c (by simp [member]))
    simp [insertSorted, skipped, tail]

theorem sorted_eq_mergeSort (le : α → α → Bool)
    (trans : ∀ a b c, le a b → le b c → le a c) (total : ∀ a b, le a b || le b a)
    (xs : List α) : sorted le xs = xs.mergeSort le := by
  induction xs with
  | nil => simp [sorted]
  | cons a xs ih =>
    obtain ⟨smaller, others, whole, rest, before⟩ := List.mergeSort_cons trans total a xs
    have ordered := List.pairwise_mergeSort trans total (a :: xs)
    rw [whole] at ordered ⊢
    have after : ∀ b ∈ others, le a b = true :=
      (List.pairwise_cons.mp (List.pairwise_append.mp ordered).2.1).1
    change insertSorted le a (sorted le xs) = _
    rw [ih, rest]
    exact insertSorted_between le a smaller others (fun b member => by simpa using before b member)
      after

theorem mem_insertSorted (le : α → α → Bool) (a b : α) (xs : List α) :
    b ∈ insertSorted le a xs ↔ b = a ∨ b ∈ xs := by
  induction xs with
  | nil => simp [insertSorted]
  | cons c rest ih =>
    simp only [insertSorted]
    split
    · simp
    · simp only [List.mem_cons, ih]
      tauto

theorem mem_sorted (le : α → α → Bool) (b : α) (xs : List α) : b ∈ sorted le xs ↔ b ∈ xs := by
  induction xs with
  | nil => simp [sorted]
  | cons a xs ih =>
    change b ∈ insertSorted le a (sorted le xs) ↔ _
    rw [mem_insertSorted, ih, List.mem_cons]

theorem insertSorted_congr (le le' : α → α → Bool) (a : α) (xs : List α)
    (same : ∀ b ∈ xs, le a b = le' a b) : insertSorted le a xs = insertSorted le' a xs := by
  induction xs with
  | nil => rfl
  | cons b rest ih =>
    have head : le a b = le' a b := same b (by simp)
    have tail := ih fun c member => same c (by simp [member])
    simp [insertSorted, head, tail]

theorem sorted_congr (le le' : α → α → Bool) (xs : List α)
    (same : ∀ a ∈ xs, ∀ b ∈ xs, le a b = le' a b) : sorted le xs = sorted le' xs := by
  induction xs with
  | nil => rfl
  | cons a xs ih =>
    have tail := ih fun b hb c hc => same b (by simp [hb]) c (by simp [hc])
    change insertSorted le a (sorted le xs) = insertSorted le' a (sorted le' xs)
    rw [tail]
    refine insertSorted_congr le le' a _ fun b member => ?_
    exact same a (by simp) b (by simp [(mem_sorted le' b xs).mp member])

section Key

variable (key : α → Int)

def keyLe (a b : α) : Bool := decide (key a ≤ key b)

theorem keyLe_trans (a b c : α) (first : keyLe key a b) (second : keyLe key b c) :
    keyLe key a c := by
  simp only [keyLe, decide_eq_true_eq] at *
  omega

theorem keyLe_total (a b : α) : keyLe key a b || keyLe key b a := by
  simp only [keyLe, Bool.or_eq_true, decide_eq_true_eq]
  omega

/-- The second list is the stable sort of the first: it holds the same elements as often, the keys
    do not decrease, and the elements with one key stand as they stood before. -/
structure StablySorted (unsorted result : List α) : Prop where
  perm : result.Perm unsorted
  ordered : result.Pairwise fun a b => key a ≤ key b
  stable : ∀ k, result.filter (fun a => decide (key a = k)) =
    unsorted.filter fun a => decide (key a = k)

theorem mergeSort_key_ordered (xs : List α) :
    (xs.mergeSort (keyLe key)).Pairwise fun a b => key a ≤ key b := by
  have ordered := List.pairwise_mergeSort (keyLe_trans key) (keyLe_total key) xs
  exact ordered.imp fun le => by simpa [keyLe] using le

theorem mergeSort_key_stable (xs : List α) (k : Int) :
    (xs.mergeSort (keyLe key)).filter (fun a => decide (key a = k)) =
      xs.filter fun a => decide (key a = k) := by
  let same : α → Bool := fun a => decide (key a = k)
  have tied : (xs.filter same).Pairwise fun a b => keyLe key a b = true := by
    refine List.pairwise_of_forall_mem_list fun a ha b hb => ?_
    have eqA : key a = k := by simpa [same] using (List.mem_filter.mp ha).2
    have eqB : key b = k := by simpa [same] using (List.mem_filter.mp hb).2
    simp [keyLe, eqA, eqB]
  have kept : (xs.filter same).Sublist (xs.mergeSort (keyLe key)) :=
    List.sublist_mergeSort (keyLe_trans key) (keyLe_total key) tied List.filter_sublist
  have inside : (xs.filter same).Sublist ((xs.mergeSort (keyLe key)).filter same) := by
    simpa using kept.filter same
  have count := ((List.mergeSort_perm xs (keyLe key)).filter same).length_eq
  exact (inside.eq_of_length count.symm).symm

theorem mergeSort_stablySorted (xs : List α) :
    StablySorted key xs (xs.mergeSort (keyLe key)) :=
  ⟨List.mergeSort_perm xs _, mergeSort_key_ordered key xs, mergeSort_key_stable key xs⟩

end Key
end JavadocLint
