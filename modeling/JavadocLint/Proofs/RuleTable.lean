import JavadocLint.Proofs.NameOrder

/- Rules stand for the table that they were compiled from. The order in which the table is gone
   through shows nowhere; the rules are in strict order of their names, so the search by halving
   finds the rule of every name of the table, and none for any other name. -/
namespace JavadocLint

section Compiling

variable {table : List (Text × Text)}

theorem make_fails_iff (name pattern : Text) :
    (∃ f, TagRule.make name pattern = .error f) ↔
      name = [] ∨ ∃ e, Regex.parse (TagRule.anchored pattern) = .error e := by
  unfold TagRule.make
  cases name with
  | nil => simp
  | cons b rest => cases Regex.parse (TagRule.anchored pattern) <;> simp

theorem make_regex {name pattern : Text} {rule : TagRule}
    (made : TagRule.make name pattern = .ok rule) :
    Regex.parse (TagRule.anchored pattern) = .ok rule.regex := by
  unfold TagRule.make at made
  split at made
  · cases made
  · split at made
    · rename_i compiled
      cases made
      exact compiled
    · cases made

theorem exists_made {ε α : Type} {x : Except ε α} {p : α → Bool} (holds : x.toOption.any p = true) :
    ∃ a, x = .ok a ∧ p a = true := by
  cases x with
  | error e => cases holds
  | ok a => exact ⟨a, rfl, holds⟩

theorem mapM_make_fails_iff (table : List (Text × Text)) :
    (∃ f, table.mapM (fun p => TagRule.make p.1 p.2) = .error f) ↔
      ∃ entry ∈ table, ∃ f, TagRule.make entry.1 entry.2 = .error f := by
  induction table with
  | nil => simp [pure, Except.pure]
  | cons p rest ih =>
    rw [List.mapM_cons]
    simp only [List.mem_cons, exists_eq_or_imp]
    cases first : TagRule.make p.1 p.2 with
    | error f => simp [bind, Except.bind]
    | ok rule =>
      rw [← ih]
      cases rest.mapM fun p => TagRule.make p.1 p.2 <;> simp [bind, Except.bind, pure, Except.pure]

theorem ofPatterns_fails_iff (table : List (Text × Text)) :
    (∃ f, TagRules.ofPatterns table = .error f) ↔
      ∃ entry ∈ table, ∃ f, TagRule.make entry.1 entry.2 = .error f := by
  have same : (∃ f, TagRules.ofPatterns table = .error f) ↔
      ∃ f, (sorted (fun a b => Text.le a.1 b.1) table).mapM
        (fun p => TagRule.make p.1 p.2) = .error f := by
    unfold TagRules.ofPatterns
    cases (sorted (fun a b => Text.le a.1 b.1) table).mapM fun p => TagRule.make p.1 p.2 <;>
      simp [bind, Except.bind, pure, Except.pure]
  rw [same, mapM_make_fails_iff]
  simp only [mem_sorted]

end Compiling

section Arrangement

variable {table : List (Text × Text)} {rules : TagRules}

theorem arrangement_unique (distinct : (table.map Prod.fst).Nodup)
    (accepted : TagRules.ofPatterns table = .ok rules) {arranged : List TagRule}
    (compiled : ∀ r ∈ arranged, TagRule.make r.name r.pattern = .ok r)
    (entries : (arranged.map fun r => (r.name, r.pattern)).Perm table)
    (ordered : arranged.Pairwise fun a b => Text.le a.name b.name = true) :
    arranged = rules.rules := by
  refine compiled_injective compiled (ofPatterns_compiled accepted) ?_
  change _ = rules.patterns
  have arrangedOrder : (arranged.map fun r => (r.name, r.pattern)).Pairwise
      fun a b => Text.le a.1 b.1 = true := List.pairwise_map.mpr ordered
  have tableOrder : rules.patterns.Pairwise fun a b => Text.le a.1 b.1 = true := by
    rw [ofPatterns_sorted accepted]
    exact List.pairwise_mergeSort entryLe_trans entryLe_total table
  have same : (arranged.map fun r => (r.name, r.pattern)).Perm rules.patterns := by
    rw [ofPatterns_sorted accepted]
    exact entries.trans (List.mergeSort_perm table _).symm
  refine List.Perm.eq_of_pairwise ?_ arrangedOrder tableOrder same
  intro a b first second less greater
  -- entries with one name are one entry, since no name comes twice
  rw [Text.le_iff] at less greater
  exact List.inj_on_of_nodup_map distinct (entries.subset first)
    (entries.subset (same.symm.subset second)) (List.le_antisymm less greater)

theorem mapM_make_perm (accepted : TagRules.ofPatterns table = .ok rules)
    {other : List (Text × Text)} (perm : other.Perm table) :
    ∃ made, other.mapM (fun p => TagRule.make p.1 p.2) = .ok made := by
  cases outcome : other.mapM fun p => TagRule.make p.1 p.2 with
  | ok made => exact ⟨made, rfl⟩
  | error f =>
    obtain ⟨entry, member, refused⟩ := (mapM_make_fails_iff other).mp ⟨f, outcome⟩
    obtain ⟨g, failed⟩ := (ofPatterns_fails_iff table).mpr ⟨entry, perm.subset member, refused⟩
    rw [accepted] at failed
    cases failed

theorem ofPatterns_perm (distinct : (table.map Prod.fst).Nodup)
    (accepted : TagRules.ofPatterns table = .ok rules) {other : List (Text × Text)}
    (perm : other.Perm table) : TagRules.ofPatterns other = .ok rules := by
  cases outcome : TagRules.ofPatterns other with
  | error f =>
    obtain ⟨entry, member, refused⟩ := (ofPatterns_fails_iff other).mp ⟨f, outcome⟩
    obtain ⟨g, failed⟩ := (ofPatterns_fails_iff table).mpr ⟨entry, perm.subset member, refused⟩
    rw [accepted] at failed
    cases failed
  | ok made =>
    have distinct' : (other.map Prod.fst).Nodup := (perm.map Prod.fst).nodup_iff.mpr distinct
    have entries : made.patterns.Perm table := by
      rw [ofPatterns_sorted outcome]
      exact (List.mergeSort_perm other _).trans perm
    have ordered : made.rules.Pairwise fun a b => Text.le a.name b.name = true := by
      refine (List.pairwise_map.mp (ofPatterns_increasing distinct' outcome)).imp ?_
      intro a b less
      rw [Text.lt_iff] at less
      exact (Text.le_iff _ _).mpr (List.le_of_lt less)
    have same := arrangement_unique distinct accepted (ofPatterns_compiled outcome) entries ordered
    exact congrArg Except.ok (congrArg TagRules.mk same)

end Arrangement

section Search

variable {rules : Array TagRule} {name : Text}

def Ascending (rules : Array TagRule) : Prop :=
  ∀ (i j : Nat) (r q : TagRule), i < j → rules[i]? = some r → rules[j]? = some q → r.name < q.name

/-- The rules before `lo` are below a name and those from `hi` on are not. -/
structure Bracketed (rules : Array TagRule) (name : Text) (lo hi : Nat) : Prop where
  ordered : lo ≤ hi
  inside : hi ≤ rules.size
  below : ∀ i < lo, ∀ r, rules[i]? = some r → Text.lt r.name name = true
  above : ∀ i ≥ hi, ∀ r, rules[i]? = some r → Text.lt r.name name = false

theorem Bracketed.halve {lo hi : Nat}
    (ascending : Ascending rules) (bracketed : Bracketed rules name lo hi) (wide : lo < hi) :
    if (rules[(lo + hi) / 2]?.map fun r => Text.lt r.name name).getD false
    then Bracketed rules name ((lo + hi) / 2 + 1) hi
    else Bracketed rules name lo ((lo + hi) / 2) := by
  have inside := bracketed.inside
  have there := Array.getElem?_eq_getElem (show (lo + hi) / 2 < rules.size by omega)
  rw [there, Option.map_some, Option.getD_some]
  split
  · rename_i below
    refine ⟨by omega, inside, ?_, bracketed.above⟩
    intro i before r found
    rcases Nat.lt_or_eq_of_le (Nat.le_of_lt_succ before) with less | rfl
    · rw [Text.lt_iff] at below ⊢
      exact List.lt_trans (ascending i _ r _ less found there) below
    · rw [there] at found
      cases found
      exact below
  · rename_i notBelow
    refine ⟨by omega, by omega, bracketed.below, ?_⟩
    intro i after r found
    rw [Bool.eq_false_iff]
    intro below
    apply notBelow
    rcases Nat.lt_or_eq_of_le after with greater | rfl
    · rw [Text.lt_iff] at below ⊢
      exact List.lt_trans (ascending _ i _ r greater there found) below
    · rw [there] at found
      cases found
      exact below

/-- The place found by halving divides the rules below the name from the others. -/
theorem searchName_bracketed (ascending : Ascending rules)
    {fuel lo hi : Nat} (bracketed : Bracketed rules name lo hi) (enough : hi - lo ≤ fuel) :
    Bracketed rules name (TagRules.searchName rules name fuel lo hi)
      (TagRules.searchName rules name fuel lo hi) := by
  induction fuel generalizing lo hi with
  | zero =>
    have closed : hi = lo := by
      have := bracketed.ordered
      omega
    subst closed
    exact bracketed
  | succ fuel ih =>
    rw [TagRules.searchName]
    split
    · rename_i wide
      have halved := bracketed.halve ascending wide
      dsimp only
      split at halved
      · rw [if_pos ‹_›]
        exact ih halved (by omega)
      · rw [if_neg ‹_›]
        exact ih halved (by omega)
    · have closed : hi = lo := by
        have := bracketed.ordered
        omega
      subst closed
      exact bracketed

end Search

section Lookup

variable {rules : TagRules}

theorem Increasing.ascending (increasing : Increasing (rules.rules.map TagRule.name)) :
    Ascending rules.rules.toArray := by
  intro i j r q less first second
  simp only [List.getElem?_toArray, List.getElem?_eq_some_iff] at first second
  obtain ⟨_, rfl⟩ := first
  obtain ⟨_, rfl⟩ := second
  exact (Text.lt_iff _ _).mp
    (List.pairwise_iff_getElem.mp (List.pairwise_map.mp increasing) i j _ _ less)

theorem lookup?_member (increasing : Increasing (rules.rules.map TagRule.name)) {rule : TagRule}
    (member : rule ∈ rules.rules) : rules.lookup? rule.name = some rule := by
  obtain ⟨i, inside, rfl⟩ := List.getElem_of_mem member
  have there : rules.rules.toArray[i]? = some rules.rules[i] := by simp [inside]
  have all : Bracketed rules.rules.toArray rules.rules[i].name 0 rules.rules.toArray.size := by
    refine ⟨Nat.zero_le _, Nat.le_refl _, ?_, ?_⟩
    · intro j none
      exact absurd none (Nat.not_lt_zero j)
    · intro j outside r found
      rw [Array.getElem?_eq_none outside] at found
      cases found
  have place := searchName_bracketed increasing.ascending all (Nat.le_refl _)
  rw [TagRules.lookup?]
  generalize TagRules.searchName rules.rules.toArray rules.rules[i].name
    rules.rules.toArray.size 0 rules.rules.toArray.size = k at place
  have first : k = i := by
    rcases Nat.lt_trichotomy k i with before | same | after
    · -- the rule found would have a name below the one looked for
      have inside : k < rules.rules.toArray.size := by
        simp only [List.size_toArray]
        omega
      have found := Array.getElem?_eq_getElem inside
      have less := increasing.ascending k i _ _ before found there
      have notLess := place.above k (Nat.le_refl k) _ found
      rw [(Text.lt_iff _ _).mpr less] at notLess
      cases notLess
    · exact same
    · have less := place.below i after _ there
      rw [Text.lt_iff] at less
      exact absurd less (List.lt_irrefl _)
  subst first
  simp [there]

theorem lookup?_found {name : Text} {rule : TagRule} (found : rules.lookup? name = some rule) :
    rule ∈ rules.rules ∧ rule.name = name := by
  rw [TagRules.lookup?, Option.filter_eq_some_iff] at found
  obtain ⟨there, same⟩ := found
  rw [List.getElem?_toArray] at there
  exact ⟨List.mem_of_getElem? there, by simpa using same⟩

end Lookup

structure TagRules.Represents (rules : TagRules) (table : List (Text × Text)) : Prop where
  /-- Going through the table in another order gives the same rules. -/
  anyOrder : ∀ other : List (Text × Text), other.Perm table → TagRules.ofPatterns other = .ok rules
  /-- Compiling the entries in whatever order and then putting the rules in order of their names by
      whatever method gives these rules. -/
  anyArrangement : ∀ other : List (Text × Text), other.Perm table →
    ∃ made : List TagRule, other.mapM (fun p => TagRule.make p.1 p.2) = .ok made ∧
      ∀ arranged : List TagRule, arranged.Perm made →
        arranged.Pairwise (fun a b => Text.le a.name b.name = true) → arranged = rules.rules
  increasing : Increasing (rules.rules.map TagRule.name)
  entries : rules.patterns.Perm table
  size : rules.rules.length = table.length
  found : ∀ name pattern, (name, pattern) ∈ table → ∃ rule, rules.lookup? name = some rule ∧
    rule.name = name ∧ rule.pattern = pattern ∧
      Regex.parse (TagRule.anchored pattern) = .ok rule.regex
  absent : ∀ name, name ∉ table.map Prod.fst → rules.lookup? name = none

section Table

variable {table : List (Text × Text)}

theorem arrangement_of_made (distinct : (table.map Prod.fst).Nodup) {rules : TagRules}
    (accepted : TagRules.ofPatterns table = .ok rules) {other : List (Text × Text)}
    (perm : other.Perm table) :
    ∃ made, other.mapM (fun p => TagRule.make p.1 p.2) = .ok made ∧
      ∀ arranged, arranged.Perm made →
        arranged.Pairwise (fun a b => Text.le a.name b.name = true) → arranged = rules.rules := by
  obtain ⟨made, compiled⟩ := mapM_make_perm accepted perm
  refine ⟨made, compiled, ?_⟩
  intro arranged moved ordered
  refine arrangement_unique distinct accepted ?_ ?_ ordered
  · intro r member
    exact mapM_make compiled r (moved.subset member)
  · have entries := moved.map fun r => (r.name, r.pattern)
    rw [mapM_patterns compiled] at entries
    exact entries.trans perm

theorem lookup?_entry (distinct : (table.map Prod.fst).Nodup) {rules : TagRules}
    (accepted : TagRules.ofPatterns table = .ok rules) (entries : rules.patterns.Perm table)
    {name pattern : Text} (member : (name, pattern) ∈ table) :
    ∃ rule, rules.lookup? name = some rule ∧ rule.name = name ∧ rule.pattern = pattern ∧
      Regex.parse (TagRule.anchored pattern) = .ok rule.regex := by
  obtain ⟨rule, among, same⟩ := List.mem_map.mp (entries.symm.subset member)
  cases same
  exact ⟨rule, lookup?_member (ofPatterns_increasing distinct accepted) among, rfl, rfl,
    make_regex (ofPatterns_compiled accepted rule among)⟩

/-- A table that names no tag twice is refused exactly if a name is empty or a pattern does not
    compile between its anchors. Otherwise its rules stand for it. -/
theorem table_represented (distinct : (table.map Prod.fst).Nodup) :
    ((∃ f, TagRules.ofPatterns table = .error f) ↔
      ∃ entry ∈ table, entry.1 = [] ∨
        ∃ e, Regex.parse (TagRule.anchored entry.2) = .error e) ∧
    ∀ rules, TagRules.ofPatterns table = .ok rules → rules.Represents table := by
  constructor
  · rw [ofPatterns_fails_iff]
    simp only [make_fails_iff]
  · intro rules accepted
    have entries : rules.patterns.Perm table := by
      rw [ofPatterns_sorted accepted]
      exact List.mergeSort_perm table _
    constructor
    case anyOrder => exact fun other perm => ofPatterns_perm distinct accepted perm
    case anyArrangement => exact fun other perm => arrangement_of_made distinct accepted perm
    case increasing => exact ofPatterns_increasing distinct accepted
    case entries => exact entries
    case size => simpa [TagRules.patterns] using entries.length_eq
    case found => exact fun name pattern member => lookup?_entry distinct accepted entries member
    case absent =>
      intro name unknown
      rw [Option.eq_none_iff_forall_ne_some]
      rintro rule found
      obtain ⟨member, rfl⟩ := lookup?_found found
      have listed : (rule.name, rule.pattern) ∈ table :=
        entries.subset (List.mem_map.mpr ⟨rule, member, rfl⟩)
      exact unknown (List.mem_map.mpr ⟨_, listed, rfl⟩)

theorem table_represented_unsorted :
    ∃ rules, TagRules.ofPatterns [(utf8 "see", utf8 "c"), (utf8 "Z", utf8 "a*"),
        (utf8 "sees", utf8 "(b)")] = .ok rules ∧
      rules.rules.map TagRule.name = [utf8 "Z", utf8 "see", utf8 "sees"] ∧
      (∃ rule, rules.lookup? (utf8 "sees") = some rule ∧ rule.pattern = utf8 "(b)") ∧
      rules.lookup? (utf8 "se") = none := by
  have accepted := tableEngine_accepted [(utf8 "see", utf8 "c"), (utf8 "Z", utf8 "a*"),
    (utf8 "sees", utf8 "(b)")] (by decide +kernel)
  have represents := (table_represented (by decide)).2 _ accepted
  obtain ⟨rule, found, -, pattern, -⟩ :=
    represents.found (utf8 "sees") (utf8 "(b)") (by decide)
  exact ⟨_, accepted, by decide +kernel, ⟨rule, found, pattern⟩, represents.absent _ (by decide)⟩

end Table
end JavadocLint
