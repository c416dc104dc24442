import Mathlib
import JavadocLint.Proofs.SettingsText
import JavadocLint.Proofs.SuppressionReach

/- Names in bytewise order. The comparison of the checker is the lexicographic one, so names put into
   an ordered list one by one stay in order, each once; and a table of patterns becomes rules in
   the order of their names, whatever the order of the table. -/
namespace JavadocLint

namespace Text

theorem lt_iff (s t : Text) : lt s t = true ↔ s < t := by
  induction s generalizing t with
  | nil => cases t <;> simp [lt]
  | cons a s ih =>
    cases t with
    | nil => simp [lt]
    | cons b t =>
      rw [List.cons_lt_cons_iff, ← ih, lt]
      by_cases same : a = b <;> simp [same]

theorem le_iff (s t : Text) : le s t = true ↔ s ≤ t := by
  rw [le, Bool.not_eq_true', Bool.eq_false_iff, ne_eq, lt_iff]
  exact List.not_lt

theorem lt_of_le_of_ne {s t : Text} (less : le s t = true) (other : s ≠ t) : lt s t = true := by
  rw [le_iff] at less
  rw [lt_iff, ← List.not_le]
  intro greater
  exact other (List.le_antisymm less greater)

theorem le_of_le_of_le (a b c : Text) (first : le a b = true) (second : le b c = true) :
    le a c = true := by
  rw [le_iff] at first second ⊢
  exact List.le_trans first second

theorem le_or_le (a b : Text) : (le a b || le b a) = true := by
  rw [Bool.or_eq_true, le_iff, le_iff]
  exact List.le_total a b

end Text

/-- Each name once, in bytewise order. -/
def Increasing (names : List Text) : Prop := names.Pairwise fun a b => Text.lt a b = true

theorem Increasing.nodup {names : List Text} (increasing : Increasing names) : names.Nodup := by
  refine increasing.imp ?_
  intro a b less same
  rw [Text.lt_iff, same] at less
  exact List.lt_irrefl b less

section Insertion

variable {name : Text} {names : List Text}

theorem increasing_insertSorted (new : name ∉ names) (increasing : Increasing names) :
    Increasing (insertSorted Text.le name names) := by
  induction names with
  | nil => exact List.pairwise_singleton _ _
  | cons first rest ih =>
    obtain ⟨smallest, ordered⟩ := List.pairwise_cons.mp increasing
    simp only [List.mem_cons, not_or] at new
    unfold insertSorted
    split
    · rename_i before
      have less := Text.lt_of_le_of_ne before new.1
      refine List.pairwise_cons.mpr ⟨?_, increasing⟩
      intro other member
      rcases List.mem_cons.mp member with rfl | later
      · exact less
      · rw [Text.lt_iff] at less ⊢
        exact List.lt_trans less ((Text.lt_iff _ _).mp (smallest other later))
    · rename_i after
      have less : Text.lt first name = true := by simpa [Text.le] using after
      refine List.pairwise_cons.mpr ⟨?_, ih new.2 ordered⟩
      intro other member
      rcases (mem_insertSorted Text.le name other rest).mp member with rfl | later
      · exact less
      · exact smallest other later

theorem increasing_insertName (name : Text) (increasing : Increasing names) :
    Increasing (insertName name names) := by
  unfold insertName
  split
  · exact increasing
  · rename_i unknown
    exact increasing_insertSorted (by simpa using unknown) increasing

end Insertion

section RuleSets

variable {table : List (Text × Text)} {rules : TagRules}

theorem mapM_patterns {made : List TagRule}
    (accepted : table.mapM (fun p => TagRule.make p.1 p.2) = .ok made) :
    made.map (fun r => (r.name, r.pattern)) = table := by
  induction table generalizing made with
  | nil =>
    cases accepted
    rfl
  | cons p rest ih =>
    rw [List.mapM_cons] at accepted
    cases first : TagRule.make p.1 p.2 with
    | error f =>
      rw [first] at accepted
      cases accepted
    | ok rule =>
      cases others : rest.mapM (fun p => TagRule.make p.1 p.2) with
      | error f =>
        rw [first, others] at accepted
        cases accepted
      | ok more =>
        rw [first, others] at accepted
        cases accepted
        obtain ⟨name, pattern⟩ := make_fields first
        rw [List.map_cons, ih others, name, pattern]

theorem entryLe_trans (a b c : Text × Text) (first : Text.le a.1 b.1 = true)
    (second : Text.le b.1 c.1 = true) : Text.le a.1 c.1 = true :=
  Text.le_of_le_of_le a.1 b.1 c.1 first second

theorem entryLe_total (a b : Text × Text) : (Text.le a.1 b.1 || Text.le b.1 a.1) = true :=
  Text.le_or_le a.1 b.1

theorem ofPatterns_sorted (accepted : TagRules.ofPatterns table = .ok rules) :
    rules.patterns = table.mergeSort fun a b => Text.le a.1 b.1 := by
  have ordered : sorted (fun a b => Text.le a.1 b.1) table =
      table.mergeSort fun a b => Text.le a.1 b.1 :=
    sorted_eq_mergeSort _ entryLe_trans entryLe_total table
  unfold TagRules.ofPatterns at accepted
  rw [ordered] at accepted
  cases made : (table.mergeSort fun a b => Text.le a.1 b.1).mapM
      (fun p => TagRule.make p.1 p.2) with
  | error f =>
    rw [made] at accepted
    cases accepted
  | ok compiled =>
    rw [made] at accepted
    cases accepted
    exact mapM_patterns made

theorem ofPatterns_increasing (distinct : (table.map Prod.fst).Nodup)
    (accepted : TagRules.ofPatterns table = .ok rules) :
    Increasing (rules.rules.map TagRule.name) := by
  have names : rules.rules.map TagRule.name = rules.patterns.map Prod.fst := by
    rw [TagRules.patterns, List.map_map]
    rfl
  have apart : (rules.patterns.map Prod.fst).Nodup := by
    rw [ofPatterns_sorted accepted]
    exact ((List.mergeSort_perm table _).map Prod.fst).nodup_iff.mpr distinct
  have ordered : (rules.patterns.map Prod.fst).Pairwise fun a b => Text.le a b = true := by
    rw [ofPatterns_sorted accepted, List.pairwise_map]
    exact List.pairwise_mergeSort entryLe_trans entryLe_total table
  rw [names]
  exact (ordered.and apart).imp fun both => Text.lt_of_le_of_ne both.1 both.2

structure TagRules.Given (table : Option (List (Text × Text))) (rules : TagRules) : Prop where
  distinct : ∀ patterns ∈ table, (patterns.map Prod.fst).Nodup
  accepted : TagRules.ofOptional table = .ok rules

theorem standard_accepted :
    TagRules.ofPatterns TagRules.defaultPatterns = .ok TagRules.standard := by
  have compiles : (TagRules.ofPatterns TagRules.defaultPatterns).toOption.isSome = true := by
    decide +kernel
  unfold TagRules.standard
  cases made : TagRules.ofPatterns TagRules.defaultPatterns with
  | error f =>
    rw [made] at compiles
    cases compiles
  | ok rules => rfl

namespace TagRules.Given

variable {table : Option (List (Text × Text))}

theorem compiled (given : Given table rules) :
    ofPatterns (table.getD defaultPatterns) = .ok rules := by
  cases table with
  | none =>
    cases given.accepted
    exact standard_accepted
  | some patterns => exact given.accepted

theorem perm (given : Given table rules) :
    rules.patterns.Perm (table.getD defaultPatterns) := by
  rw [ofPatterns_sorted given.compiled]
  exact List.mergeSort_perm _ _

theorem increasing (given : Given table rules) : Increasing (rules.rules.map TagRule.name) := by
  refine ofPatterns_increasing ?_ given.compiled
  cases table with
  | none => decide
  | some patterns => exact given.distinct patterns rfl

end TagRules.Given
end RuleSets
end JavadocLint
