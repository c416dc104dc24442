import Mathlib
import JavadocLint.Files.Path
import JavadocLint.Proofs.DecimalText

/- The names that a path is cut into. A path that was put together from a directory and a name ends
   in that name, also after it was cleaned; numbered names differ as their numbers do. -/
namespace JavadocLint

/-- A name that a look-up takes literally. -/
structure OrdinaryName (name : Text) : Prop where
  notEmpty : name.isEmpty = false
  notHere : name ≠ utf8 "."
  notUp : name ≠ utf8 ".."

def EndsIn (path name : Text) : Prop := ∃ front, Text.splitOn Path.slash path = front ++ [name]

namespace Text

theorem splitOn_ne_nil (sep : UInt8) (t : Text) : splitOn sep t ≠ [] := by
  cases t with
  | nil => simp [splitOn]
  | cons b rest =>
    simp only [splitOn]
    split
    · simp
    · split <;> simp

theorem splitOn_append (sep : UInt8) (front back : Text) :
    splitOn sep (front ++ sep :: back) = splitOn sep front ++ splitOn sep back := by
  induction front with
  | nil => simp [splitOn]
  | cons b rest ih =>
    by_cases here : b = sep
    · simp [splitOn, here, ih]
    · obtain ⟨piece, pieces, eq⟩ := List.exists_cons_of_ne_nil (splitOn_ne_nil sep rest)
      rw [eq] at ih
      simp [splitOn, here, ih, eq]

theorem splitOn_single {sep : UInt8} {t : Text} (absent : sep ∉ t) : splitOn sep t = [t] := by
  induction t with
  | nil => rfl
  | cons b rest ih =>
    simp only [List.mem_cons, not_or] at absent
    simp [splitOn, Ne.symm absent.1, ih absent.2]

theorem sep_notMem_splitOn {sep : UInt8} {piece t : Text} (member : piece ∈ splitOn sep t) :
    sep ∉ piece := by
  induction t generalizing piece with
  | nil =>
    simp only [splitOn, List.mem_singleton] at member
    simp [member]
  | cons b rest ih =>
    rw [splitOn] at member
    split at member
    · rcases List.mem_cons.mp member with rfl | later
      · exact List.not_mem_nil
      · exact ih later
    · rename_i other
      obtain ⟨head, tail, pieces⟩ := List.exists_cons_of_ne_nil (splitOn_ne_nil sep rest)
      rw [pieces] at member ih
      rcases List.mem_cons.mp member with rfl | later
      · simp [Ne.symm other, ih List.mem_cons_self]
      · exact ih (List.mem_cons_of_mem _ later)

theorem splitOn_join {sep : UInt8} {pieces : List Text} (present : pieces ≠ [])
    (absent : ∀ piece ∈ pieces, sep ∉ piece) :
    splitOn sep (join [sep] pieces) = pieces := by
  induction pieces with
  | nil => exact absurd rfl present
  | cons piece rest ih =>
    have here := splitOn_single (absent piece (by simp))
    cases rest with
    | nil => exact here
    | cons next more =>
      have tail := ih (by simp) fun other member => absent other (by simp [member])
      rw [join, List.append_assoc, List.singleton_append, splitOn_append, here, tail]
      · rfl
      · simp

theorem utf8_injective {s s' : String} (same : utf8 s = utf8 s') : s = s' := by
  simp only [utf8, String.toUTF8_eq_toByteArray] at same
  exact String.toByteArray_inj.mp (ByteArray.ext (Array.toList_inj.mp same))

theorem ofNat_injective {m n : Nat} (same : ofNat m = ofNat n) : m = n :=
  Nat.repr_injective (utf8_injective same)

theorem slash_notMem_ofNat (n : Nat) : Path.slash ∉ ofNat n := notMem_ofNat (by decide) n

end Text

namespace Path

open Text (splitOn splitOn_append splitOn_single)

variable {name : Text}

theorem endsIn_append (dir : Text) (plain : slash ∉ name) : EndsIn (dir ++ slash :: name) name :=
  ⟨splitOn slash dir, by rw [splitOn_append, splitOn_single plain]⟩

theorem elements_append (dir : Text) (ordinary : OrdinaryName name) (plain : slash ∉ name) :
    elements (dir ++ slash :: name) = elements dir ++ [name] := by
  simp [elements, splitOn_append, splitOn_single plain, ordinary.notEmpty]

theorem cleanElements_append (dir : Text) (ordinary : OrdinaryName name) (plain : slash ∉ name) :
    ∃ above, cleanElements (dir ++ slash :: name) = above ++ [name] := by
  refine ⟨((elements dir).foldl (pushElement (isRooted (dir ++ slash :: name))) []).reverse, ?_⟩
  simp [cleanElements, elements_append dir ordinary plain, List.foldl_append, pushElement,
    ordinary.notHere, ordinary.notUp]

theorem endsIn_join (above : List Text) (plain : slash ∉ name) :
    EndsIn (Text.join [slash] (above ++ [name])) name := by
  induction above with
  | nil => exact ⟨[], by simp [Text.join, splitOn_single plain]⟩
  | cons first rest ih =>
    obtain ⟨front, eq⟩ := ih
    refine ⟨splitOn slash first ++ front, ?_⟩
    have joined : Text.join [slash] (first :: (rest ++ [name])) =
        first ++ slash :: Text.join [slash] (rest ++ [name]) := by
      cases rest <;> simp [Text.join]
    rw [List.cons_append, joined, splitOn_append, eq, List.append_assoc]

theorem endsIn_clean (dir : Text) (ordinary : OrdinaryName name) (plain : slash ∉ name) :
    EndsIn (clean (dir ++ slash :: name)) name := by
  obtain ⟨above, parts⟩ := cleanElements_append dir ordinary plain
  obtain ⟨front, eq⟩ := endsIn_join above plain
  rw [clean, parts]
  by_cases rooted : isRooted (dir ++ slash :: name) = true
  · refine ⟨[] :: front, ?_⟩
    rw [if_pos rooted, ← List.nil_append (slash :: _), splitOn_append, eq]
    rfl
  · have some : (above ++ [name]).isEmpty = false := by simp
    exact ⟨front, by rw [if_neg rooted, some, if_neg (by simp), eq]⟩

end Path
end JavadocLint
