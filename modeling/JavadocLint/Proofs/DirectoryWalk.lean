import Mathlib
import JavadocLint.Proofs.NameOrder
import JavadocLint.Proofs.RenderedIssue
import JavadocLint.Proofs.WatchedPaths

/- The walk of a directory. Everything that real directories lead to is met once, in the order of the
   names on the way; the entries of the directory, each with what it holds, give the same list.
   A walk that opens directories by their paths meets the same, as long as the cleaned path leads
   where the path does. -/
namespace JavadocLint

namespace FileTree

variable {t : FileTree} {dir place : Place} {node : FileNode} {name path : Text}
  {names : List Text}

/-- What real directories lead to from a directory, by the names on the way. -/
inductive Within (t : FileTree) : Place → List Text → FileNode → Prop where
  | entry {dir : Place} {name : Text} {node : FileNode} :
      t.get? (dir ++ [name]) = some node → Within t dir [name] node
  | deeper {dir : Place} {name : Text} {names : List Text} {node : FileNode} :
      t.get? (dir ++ [name]) = some .directory → Within t (dir ++ [name]) names node →
      Within t dir (name :: names) node

theorem Within.names_ne_nil (within : t.Within dir names node) : names ≠ [] := by
  cases within <;> exact List.cons_ne_nil _ _

theorem Within.there (within : t.Within dir names node) : t.get? (dir ++ names) = some node := by
  induction within with
  | entry there => exact there
  | deeper _ _ ih =>
    rw [List.append_assoc] at ih
    exact ih

theorem within_iff : t.Within dir names node ↔
    t.reaches dir names = true ∧ t.get? (dir ++ names) = some node := by
  constructor
  · intro within
    refine ⟨?_, within.there⟩
    induction within with
    | entry _ => rfl
    | @deeper dir name names node above inner ih =>
      obtain ⟨next, rest, rfl⟩ := List.exists_cons_of_ne_nil inner.names_ne_nil
      rw [reaches, above, ih]
      · rfl
      · simp
  · rintro ⟨reached, there⟩
    induction names generalizing dir with
    | nil => cases reached
    | cons name rest ih =>
      cases rest with
      | nil => exact .entry there
      | cons next more =>
        rw [reaches, Bool.and_eq_true, decide_eq_true_iff] at reached
        · refine .deeper reached.1 (ih reached.2 ?_)
          rw [List.append_assoc]
          exact there
        · simp

theorem get?_of_mem_nodes (member : (place, node) ∈ t.nodes) (present : place ≠ []) :
    t.get? place = some node := by
  rw [get?_eq_find t present, Option.map_eq_some_iff]
  refine ⟨(place, node), ?_, rfl⟩
  obtain ⟨before, after, split⟩ := List.append_of_mem member
  have distinct := t.distinct
  rw [split, List.pairwise_append] at distinct
  rw [List.find?_eq_some_iff_append]
  refine ⟨by simp, before, after, split, ?_⟩
  intro other earlier
  simpa using distinct.2.2 other earlier (place, node) List.mem_cons_self

theorem mem_below_iff : (names, node) ∈ t.below dir ↔ t.Within dir names node := by
  rw [within_iff]
  constructor
  · rw [below, mem_sorted, List.mem_filterMap]
    rintro ⟨⟨place, other⟩, member, kept⟩
    dsimp only at kept
    split at kept
    · rename_i inside
      rw [Bool.and_eq_true, List.isPrefixOf_iff_prefix] at inside
      cases kept
      obtain ⟨⟨rest, rfl⟩, reached⟩ := inside
      rw [List.drop_left] at reached ⊢
      refine ⟨reached, get?_of_mem_nodes member ?_⟩
      intro top
      rw [(List.append_eq_nil_iff.mp top).2] at reached
      cases reached
    · cases kept
  · rintro ⟨reached, there⟩
    refine mem_below_of_reaches ?_ reached there
    rintro rfl
    cases reached

section Order

theorem placeLe_iff (a b : Place) : placeLe a b = true ↔ a ≤ b := by
  induction a generalizing b with
  | nil => simp [placeLe]
  | cons first rest ih =>
    cases b with
    | nil => simp [placeLe]
    | cons other more =>
      rw [placeLe, List.cons_le_cons_iff]
      by_cases same : first = other
      · simp [same, ih]
      · simp [same, Text.lt_iff]

theorem placeLe_trans (a b c : List Text × FileNode) (one : placeLe a.1 b.1 = true)
    (two : placeLe b.1 c.1 = true) : placeLe a.1 c.1 = true := by
  rw [placeLe_iff] at one two ⊢
  exact List.le_trans one two

theorem placeLe_total (a b : List Text × FileNode) :
    (placeLe a.1 b.1 || placeLe b.1 a.1) = true := by
  rw [Bool.or_eq_true, placeLe_iff, placeLe_iff]
  exact List.le_total a.1 b.1

theorem below_distinct (t : FileTree) (dir : Place) :
    (t.below dir).Pairwise fun a b => a.1 ≠ b.1 := by
  rw [below, sorted_eq_mergeSort _ placeLe_trans placeLe_total,
    (List.mergeSort_perm _ _).pairwise_iff fun other => Ne.symm other]
  refine t.distinct.filterMap _ ?_
  rintro ⟨a, nodeA⟩ ⟨b, nodeB⟩ other a' keptA b' keptB same
  dsimp only at keptA keptB
  split at keptA <;> split at keptB <;> cases keptA <;> cases keptB
  rename_i insideA insideB
  rw [Bool.and_eq_true, List.isPrefixOf_iff_prefix, List.prefix_iff_eq_append] at insideA insideB
  refine other ?_
  dsimp only at same ⊢
  rw [← insideA.1, ← insideB.1, same]

/-- Nothing is met twice, and each directory comes just before what it holds. -/
theorem below_increasing (t : FileTree) (dir : Place) :
    (t.below dir).Pairwise fun a b => a.1 < b.1 := by
  have ordered : (t.below dir).Pairwise fun a b => placeLe a.1 b.1 = true := by
    rw [below, sorted_eq_mergeSort _ placeLe_trans placeLe_total]
    exact List.pairwise_mergeSort placeLe_trans placeLe_total _
  refine (ordered.and (t.below_distinct dir)).imp ?_
  rintro a b ⟨before, other⟩
  rw [placeLe_iff, List.le_iff_lt_or_eq] at before
  exact before.resolve_right other

end Order

section Entries

theorem mem_entries : (name, node) ∈ t.entries dir ↔ t.get? (dir ++ [name]) = some node := by
  rw [entries, List.mem_filterMap]
  constructor
  · rintro ⟨⟨names, other⟩, member, kept⟩
    dsimp only at kept
    split at kept
    · cases kept
      exact (mem_below_iff.mp member).there
    · cases kept
  · intro there
    exact ⟨([name], node), mem_below_iff.mpr (.entry there), rfl⟩

theorem entries_increasing (t : FileTree) (dir : Place) :
    (t.entries dir).Pairwise fun a b => a.1 < b.1 := by
  refine (t.below_increasing dir).filterMap _ ?_
  rintro ⟨a, nodeA⟩ ⟨b, nodeB⟩ less a' keptA b' keptB
  dsimp only at less keptA keptB
  split at keptA <;> split at keptB <;> cases keptA <;> cases keptB
  rcases List.cons_lt_cons_iff.mp less with first | ⟨-, impossible⟩
  · exact first
  · cases impossible

def branch (t : FileTree) (dir : Place) (entry : Text × FileNode) : List (List Text × FileNode) :=
  ([entry.1], entry.2) ::
    if entry.2 = .directory then
      (t.below (dir ++ [entry.1])).map fun inner => (entry.1 :: inner.1, inner.2)
    else []

theorem branch_names {entry : Text × FileNode} {met : List Text × FileNode}
    (member : met ∈ t.branch dir entry) : ∃ rest, met.1 = entry.1 :: rest := by
  rw [branch, List.mem_cons] at member
  rcases member with rfl | inner
  · exact ⟨[], rfl⟩
  · split at inner
    · obtain ⟨deeper, -, rfl⟩ := List.mem_map.mp inner
      exact ⟨deeper.1, rfl⟩
    · cases inner

theorem branch_increasing (t : FileTree) (dir : Place) (entry : Text × FileNode) :
    (t.branch dir entry).Pairwise fun a b => a.1 < b.1 := by
  rw [branch, List.pairwise_cons]
  split
  · refine ⟨?_, List.pairwise_map.mpr ((t.below_increasing _).imp ?_)⟩
    · intro met member
      obtain ⟨inner, below, rfl⟩ := List.mem_map.mp member
      obtain ⟨next, rest, eq⟩ :=
        List.exists_cons_of_ne_nil (mem_below_iff.mp below).names_ne_nil
      rw [eq]
      exact List.cons_lt_cons_iff.mpr (.inr ⟨rfl, List.nil_lt_cons next rest⟩)
    · intro a b less
      exact List.cons_lt_cons_iff.mpr (.inr ⟨rfl, less⟩)
  · exact ⟨by simp, .nil⟩

theorem mem_branches : (names, node) ∈ (t.entries dir).flatMap (t.branch dir) ↔
    t.Within dir names node := by
  rw [List.mem_flatMap]
  constructor
  · rintro ⟨⟨name, first⟩, entry, member⟩
    rw [mem_entries] at entry
    rw [branch, List.mem_cons] at member
    rcases member with here | inner
    · cases here
      exact .entry entry
    · split at inner
      · rename_i isDirectory
        dsimp only at isDirectory
        obtain ⟨deeper, below, eq⟩ := List.mem_map.mp inner
        cases eq
        rw [isDirectory] at entry
        exact .deeper entry (mem_below_iff.mp below)
      · cases inner
  · intro within
    cases within with
    | @entry _ name _ there => exact ⟨(name, node), mem_entries.mpr there, List.mem_cons_self⟩
    | @deeper _ name rest _ above inner =>
      refine ⟨(name, .directory), mem_entries.mpr above, List.mem_cons_of_mem _ ?_⟩
      rw [if_pos rfl]
      exact List.mem_map.mpr ⟨(rest, node), mem_below_iff.mpr inner, rfl⟩

theorem below_eq_branches (t : FileTree) (dir : Place) :
    t.below dir = (t.entries dir).flatMap (t.branch dir) := by
  have increasing : ((t.entries dir).flatMap (t.branch dir)).Pairwise fun a b => a.1 < b.1 := by
    refine List.pairwise_flatMap.mpr ⟨fun entry _ => t.branch_increasing dir entry, ?_⟩
    refine (t.entries_increasing dir).imp ?_
    intro a b less x memberX y memberY
    obtain ⟨restX, eqX⟩ := branch_names memberX
    obtain ⟨restY, eqY⟩ := branch_names memberY
    rw [eqX, eqY]
    exact List.cons_lt_cons_iff.mpr (.inl less)
  have nodup : ∀ {l : List (List Text × FileNode)}, l.Pairwise (fun a b => a.1 < b.1) → l.Nodup := by
    intro l ordered
    refine ordered.imp ?_
    rintro a b less rfl
    exact List.lt_irrefl _ less
  -- both lists are strictly increasing, so it is enough that they have the same members
  refine List.Perm.eq_of_pairwise ?_ (t.below_increasing dir) increasing ?_
  · intro a b _ _ less greater
    exact absurd greater (List.lt_asymm less)
  · rw [List.perm_ext_iff_of_nodup (nodup (t.below_increasing dir)) (nodup increasing)]
    rintro ⟨names, node⟩
    rw [mem_below_iff, mem_branches]

end Entries

section Visit

theorem pathBelow_eq (present : path ≠ []) (names : List Text) :
    pathBelow path names = Path.clean (path ++ Path.slash :: Text.join [Path.slash] names) := by
  rw [pathBelow, Path.join, if_neg (by simp [present])]

theorem pathBelow_append (present : path ≠ []) {above : List Text}
    (files : ∀ name ∈ above ++ names, FileName name) :
    pathBelow (pathBelow path above) names = pathBelow path (above ++ names) := by
  have front : ∀ name ∈ above, FileName name :=
    fun name member => files name (List.mem_append_left _ member)
  have back : ∀ name ∈ names, FileName name :=
    fun name member => files name (List.mem_append_right _ member)
  have some := Path.clean_ne_nil (path ++ Path.slash :: Text.join [Path.slash] above)
  rw [pathBelow_eq present above, pathBelow_eq some, pathBelow_eq present]
  refine Path.clean_congr ?_ ?_
  · rw [Path.isRooted_append some, Path.isRooted_clean, Path.isRooted_append present,
      Path.isRooted_append present]
  · rw [Path.cleanElements_below some back, Path.cleanElements_clean,
      Path.cleanElements_below present front, Path.cleanElements_below present files,
      List.append_assoc]

theorem openDirectory_of_leads (leads : t.Leads path dir) (standing : t.get? dir = some .directory) :
    t.openDirectory path = .ok dir := by
  rw [openDirectory, leads]
  exact if_pos standing

variable (proper : t.Proper) (standing : t.get? dir = some .directory)
  (leads : t.Leads (Path.clean path) dir) (present : path ≠ [])

include proper standing leads present

theorem visitEntry_eq (there : t.get? (dir ++ [name]) = some node) :
    t.visitEntry (Path.join path name) node =
      .ok ((t.branch dir (name, node)).map fun met => (pathBelow path met.1, met.2)) := by
  by_cases isDirectory : node = .directory
  · subst isDirectory
    have opened : t.openDirectory (pathBelow path [name]) = .ok (dir ++ [name]) := by
      rw [pathBelow_eq present]
      exact openDirectory_of_leads
        (leads.clean_below proper standing (by simp) there (by simp) present) there
    change t.visitEntry (pathBelow path [name]) .directory = _
    rw [visitEntry, opened]
    refine congrArg Except.ok (congrArg ((pathBelow path [name], FileNode.directory) :: ·) ?_)
    rw [if_pos rfl, List.map_map]
    refine List.map_congr_left ?_
    rintro ⟨names, inner⟩ below
    have within := (mem_below_iff.mp below).there
    have files := proper.names _ _ within
    rw [List.append_assoc] at files
    refine congrArg (·, inner) ?_
    exact pathBelow_append present fun other member => files other (List.mem_append_right dir member)
  · rw [branch, if_neg isDirectory]
    cases node with
    | directory => exact absurd rfl isDirectory
    | file content modified => rfl
    | link target => rfl

theorem visit_directory (itself : t.linkStat path = .ok .directory) (direct : t.Leads path dir) :
    t.visit path = .ok ((path, .directory) ::
      (t.below dir).map fun met => (pathBelow path met.1, met.2)) := by
  have visited : (t.entries dir).mapM (fun entry => t.visitEntry (Path.join path entry.1) entry.2) =
      .ok ((t.entries dir).map fun entry =>
        (t.branch dir entry).map fun met => (pathBelow path met.1, met.2)) := by
    refine mapM_ok ?_
    rintro ⟨name, node⟩ entry
    exact visitEntry_eq proper standing leads present (mem_entries.mp entry)
  unfold visit
  rw [itself]
  dsimp only [bind, Except.bind]
  rw [openDirectory_of_leads direct standing]
  dsimp only
  rw [visited, below_eq_branches, List.map_flatMap]
  rfl

end Visit

end FileTree
end JavadocLint
