import JavadocLint.Proofs.CleanPaths
import JavadocLint.Proofs.FileReplace
import JavadocLint.Proofs.StableSort
import JavadocLint.Proofs.SuppressionReach
import JavadocLint.Watch

/- Where the names of watched directories lead. A directory is watched under a cleaned path; the path
   of an entry in it leads to the entry, and watching a directory covers every directory below it,
   each under a cleaned path that leads there. Entries that are added later change none of this. -/
namespace JavadocLint

namespace FileTree

variable {t t' : FileTree} {dir place : Place} {node : FileNode} {name path : Text}
  {names : List Text}

def Leads (t : FileTree) (path : Text) (place : Place) : Prop :=
  t.locate ⟨true, false⟩ path = .ok place

theorem Leads.unique {other : Place} (one : t.Leads path place) (two : t.Leads path other) :
    place = other := Except.ok.inj (one.symm.trans two)

theorem Leads.path_ne_nil (leads : t.Leads path place) : path ≠ [] := by
  rintro rfl
  cases leads

/-- Every entry has a name that can be looked up and stands in a directory. -/
structure Proper (t : FileTree) : Prop where
  names : ∀ place node, t.get? place = some node → ∀ name ∈ place, FileName name
  parents : ∀ dir name node, t.get? (dir ++ [name]) = some node → t.get? dir = some .directory

theorem Proper.empty : FileTree.empty.Proper := by
  have nothing : ∀ place : Place, place ≠ [] → FileTree.empty.get? place = none := by
    intro place present
    rw [get?_eq_find _ present]
    rfl
  constructor
  · intro place node there name member
    rw [nothing place (List.ne_nil_of_mem member)] at there
    cases there
  · intro dir name node there
    rw [nothing _ (by simp)] at there
    cases there

theorem Proper.set (proper : t.Proper) (parent : t.get? dir = some .directory)
    (file : FileName name) (loose : t.get? (dir ++ [name]) ≠ some .directory) (node : FileNode) :
    (t.set (dir ++ [name]) node).Proper := by
  have others : ∀ place, t.get? place = some .directory →
      (t.set (dir ++ [name]) node).get? place = some .directory := by
    intro place standing
    rw [get?_set_ne t node, standing]
    rintro rfl
    exact loose standing
  constructor
  · intro place found there other member
    by_cases same : place = dir ++ [name]
    · subst same
      rcases List.mem_append.mp member with above | last
      · exact proper.names dir _ parent other above
      · rw [List.mem_singleton.mp last]
        exact file
    · rw [get?_set_ne t node same] at there
      exact proper.names place found there other member
  · intro above last found there
    by_cases same : above ++ [last] = dir ++ [name]
    · obtain ⟨rfl, -⟩ := List.append_inj' same rfl
      exact others above parent
    · rw [get?_set_ne t node same] at there
      exact others above (proper.parents above last found there)

theorem Proper.above (proper : t.Proper) (nonempty : names ≠ [])
    (there : t.get? (dir ++ names) = some node) : t.get? dir = some .directory := by
  induction names using List.reverseRecOn generalizing node with
  | nil => exact absurd rfl nonempty
  | append_singleton front last ih =>
    rw [← List.append_assoc] at there
    have parent := proper.parents _ _ _ there
    by_cases first : front = []
    · rwa [first, List.append_nil] at parent
    · exact ih first parent

section Growth

/-- Entries were added and files written again; all else is as it was. -/
structure Grown (t t' : FileTree) : Prop where
  current : t'.current = t.current
  kept : ∀ place node, t.get? place = some node → t'.get? place = some node ∨
    (∃ content modified, node = .file content modified) ∧
      ∃ content modified, t'.get? place = some (.file content modified)

theorem Grown.refl (t : FileTree) : Grown t t := ⟨rfl, fun _ _ there => .inl there⟩

theorem Grown.directory (grown : Grown t t') (standing : t.get? place = some .directory) :
    t'.get? place = some .directory := by
  rcases grown.kept place _ standing with same | ⟨⟨content, modified, impossible⟩, -⟩
  · exact same
  · cases impossible

theorem advance_grown (grown : Grown t t') (follow : Bool) {here : Place} {reached : Reached}
    (led : t.advance ⟨follow, false⟩ here names = .ok reached) :
    t'.advance ⟨follow, false⟩ here names = .ok reached := by
  induction names generalizing here with
  | nil => exact led
  | cons name rest ih =>
    rw [advance] at led ⊢
    split
    · rename_i skipped
      rw [if_pos skipped] at led
      exact ih led
    rename_i solid
    rw [if_neg solid] at led
    split
    · rename_i up
      rw [if_pos up] at led
      exact ih led
    rename_i down
    rw [if_neg down] at led
    cases there : t.get? (here ++ [name]) with
    | none =>
      rw [there] at led
      simp at led
    | some node =>
      rw [there] at led
      rcases grown.kept _ node there with same | ⟨⟨content, modified, rfl⟩, content', modified', new⟩
      · rw [same]
        cases node with
        | directory => exact ih led
        | file content modified => exact led
        | link target => exact led
      · rw [new]
        exact led

theorem locateFrom_grown (grown : Grown t t') (follow : Bool) {links : Nat} {here : Place}
    (located : t.locateFrom ⟨follow, false⟩ links here names = .ok place) :
    t'.locateFrom ⟨follow, false⟩ links here names = .ok place := by
  induction links, here, names using locateFrom.induct t ⟨follow, false⟩ with
  | case1 links here names reason led =>
    rw [locateFrom_eq, led] at located
    cases located
  | case2 links here names p led =>
    rw [locateFrom_eq, led] at located
    rw [locateFrom_eq, advance_grown grown follow led]
    exact located
  | case3 here names dir target rest led =>
    rw [locateFrom_eq, led] at located
    cases located
  | case4 here names dir target rest led links start ih =>
    rw [locateFrom_eq, led] at located
    rw [locateFrom_eq, advance_grown grown follow led]
    exact ih located

theorem Leads.grown (leads : t.Leads path place) (grown : Grown t t') : t'.Leads path place := by
  have present := leads.path_ne_nil
  unfold Leads at leads ⊢
  rw [locate_eq _ present] at leads ⊢
  rw [origin, grown.current]
  exact locateFrom_grown grown true leads

end Growth

section Onward

def Reached.onward (t : FileTree) (ending : Ending) (more : List Text) :
    Reached → Except FileReason Reached
  | .place dir => t.advance ending dir more
  | .link dir target rest => .ok (.link dir target (rest ++ more))

theorem advance_onward {more : List Text} (nonempty : more ≠ []) (follow : Bool) {here : Place}
    {reached : Reached} (led : t.advance ⟨true, false⟩ here names = .ok reached)
    (firm : ∀ dir, reached = .place dir → t.get? dir = some .directory) :
    t.advance ⟨follow, false⟩ here (names ++ more) = reached.onward t ⟨follow, false⟩ more := by
  induction names generalizing here with
  | nil =>
    cases led
    rfl
  | cons name rest ih =>
    have behind : (rest ++ more).isEmpty = false := by simp [nonempty]
    rw [List.cons_append]
    rcases t.advance_cases here name with
      ⟨next, onward⟩ | ⟨content, modified, there, stops⟩ | ⟨target, there, stops⟩ | fails
    · rw [onward] at led ⊢
      exact ih led
    · rw [stops] at led
      split at led
      · -- the path ends at this file, where a directory was promised
        cases led
        rw [firm _ rfl] at there
        cases there
      · cases led
    · rw [stops] at led ⊢
      simp only [Bool.not_true, Bool.and_false, Bool.false_eq_true, if_false] at led
      cases led
      simp [behind, Reached.onward]
    · rw [fails] at led
      cases led

theorem locateFrom_onward {more : List Text} (nonempty : more ≠ []) (follow : Bool) {links : Nat}
    {here : Place} (located : t.locateFrom ⟨true, false⟩ links here names = .ok dir)
    (standing : t.get? dir = some .directory)
    (led : t.advance ⟨follow, false⟩ dir more = .ok (.place place)) :
    t.locateFrom ⟨follow, false⟩ links here (names ++ more) = .ok place := by
  induction links, here, names using locateFrom.induct t ⟨true, false⟩ with
  | case1 links here names reason failed =>
    rw [locateFrom_eq, failed] at located
    cases located
  | case2 links here names p reached =>
    rw [locateFrom_eq, reached] at located
    cases located
    rw [locateFrom_eq, advance_onward nonempty follow reached (by rintro _ ⟨⟩; exact standing),
      Reached.onward, led]
    rfl
  | case3 here names d target rest reached =>
    rw [locateFrom_eq, reached] at located
    cases located
  | case4 here names d target rest reached links start ih =>
    rw [locateFrom_eq, reached] at located
    rw [locateFrom_eq, advance_onward nonempty follow reached (by rintro _ ⟨⟩), Reached.onward]
    have further := ih located
    rw [List.append_assoc] at further
    exact further

theorem advance_names (proper : t.Proper) {follow : Bool}
    (there : t.get? (dir ++ names) = some node)
    (noLink : follow = true → ∀ target, node ≠ .link target) :
    t.advance ⟨follow, false⟩ dir names = .ok (.place (dir ++ names)) := by
  induction names generalizing dir with
  | nil => rw [List.append_nil, advance]
  | cons name rest ih =>
    have step : dir ++ name :: rest = (dir ++ [name]) ++ rest := by simp
    have file : FileName name := proper.names _ _ there name (by simp)
    rw [step] at there ⊢
    rw [advance, if_neg (by simp [file.notEmpty, file.notHere]), if_neg file.notUp]
    by_cases last : rest = []
    · subst last
      rw [List.append_nil] at there ⊢
      rw [there]
      cases node with
      | directory => rfl
      | file content modified => rfl
      | link target =>
        cases follow with
        | true => exact absurd rfl (noLink rfl target)
        | false => rfl
    · rw [proper.above last there]
      exact ih there

end Onward

section Below

variable (proper : t.Proper) (standing : t.get? dir = some .directory) (nonempty : names ≠ [])
  (there : t.get? (dir ++ names) = some node)

include proper standing nonempty there

theorem locate_below (noLink : ∀ target, node ≠ .link target) (leads : t.Leads path dir)
    (follow : Bool) :
    t.locate ⟨follow, false⟩ (path ++ Path.slash :: Text.join [Path.slash] names) =
      .ok (dir ++ names) := by
  have present := leads.path_ne_nil
  have plain : ∀ name ∈ names, Path.slash ∉ name := by
    intro name member
    exact (proper.names _ _ there name (List.mem_append_right dir member)).plain
  rw [Leads, locate_eq _ present] at leads
  rw [locate_eq _ (by simp), origin, Path.isRooted_append present, Text.splitOn_append,
    Text.splitOn_join nonempty plain]
  exact locateFrom_onward nonempty follow leads standing
    (advance_names proper there fun _ => noLink)

/-- What stands below a cleaned path is found under the cleaned path of its names; a link is not
    followed there if it is not to be. -/
theorem locate_clean_below {follow : Bool} (noLink : follow = true → ∀ target, node ≠ .link target)
    (leads : t.Leads (Path.clean path) dir) (present : path ≠ []) :
    t.locate ⟨follow, false⟩ (Path.clean (path ++ Path.slash :: Text.join [Path.slash] names)) =
      .ok (dir ++ names) := by
  have files : ∀ name ∈ names, FileName name := by
    intro name member
    exact proper.names _ _ there name (List.mem_append_right dir member)
  unfold Leads at leads
  rw [locate_clean] at leads ⊢
  rw [origin, Path.isRooted_append present, Path.cleanElements_below present files]
  exact locateFrom_onward nonempty follow leads standing (advance_names proper there noLink)

theorem Leads.clean_below (noLink : ∀ target, node ≠ .link target)
    (leads : t.Leads (Path.clean path) dir) (present : path ≠ []) :
    t.Leads (Path.clean (path ++ Path.slash :: Text.join [Path.slash] names)) (dir ++ names) :=
  locate_clean_below proper standing nonempty there (fun _ => noLink) leads present

end Below

section Walk

theorem mem_nodes (present : place ≠ []) (there : t.get? place = some node) :
    (place, node) ∈ t.nodes := by
  rw [get?_eq_find t present, Option.map_eq_some_iff] at there
  obtain ⟨n, found, rfl⟩ := there
  have same : n.1 = place := by simpa using List.find?_some found
  rw [← same]
  exact List.mem_of_find?_eq_some found

theorem Proper.reaches (proper : t.Proper) (nonempty : names ≠ [])
    (there : t.get? (dir ++ names) = some node) : t.reaches dir names = true := by
  induction names generalizing dir with
  | nil => exact absurd rfl nonempty
  | cons name rest ih =>
    cases rest with
    | nil => rfl
    | cons next more =>
      have step : dir ++ name :: next :: more = (dir ++ [name]) ++ (next :: more) := by simp
      rw [step] at there
      rw [FileTree.reaches, proper.above (by simp) there, ih (by simp) there]
      · rfl
      · simp

theorem mem_below_of_reaches (nonempty : names ≠ []) (reached : t.reaches dir names = true)
    (there : t.get? (dir ++ names) = some node) : (names, node) ∈ t.below dir := by
  rw [below, mem_sorted, List.mem_filterMap]
  refine ⟨(dir ++ names, node), mem_nodes (by simp [nonempty]) there, ?_⟩
  have inside : dir.isPrefixOf (dir ++ names) = true :=
    List.isPrefixOf_iff_prefix.mpr (List.prefix_append dir names)
  simp [inside, reached]

theorem mem_below (proper : t.Proper) (nonempty : names ≠ [])
    (there : t.get? (dir ++ names) = some node) : (names, node) ∈ t.below dir :=
  mem_below_of_reaches nonempty (proper.reaches nonempty there) there

theorem walk_directory (located : t.locate ⟨false, false⟩ path = .ok dir)
    (standing : t.get? dir = some .directory) :
    t.walk path = .ok ((path, .directory) :: (t.below dir).map fun (names, node) =>
      (Path.join path (Text.join [Path.slash] names), node)) := by
  have stat : t.linkStat path = .ok .directory := by
    rw [linkStat, find_of_locate located standing]
    rfl
  unfold walk
  rw [stat]
  dsimp only [bind, Except.bind]
  rw [located]
  rfl

end Walk
end FileTree

namespace Path

theorem isJava_append (p : Text) {name : Text} (plain : slash ∉ name) :
    isJava (p ++ slash :: name) = isJava name := by
  have kept : ∀ b ∈ name.reverse, decide (b ≠ slash) = true := by
    intro b member
    have other : b ≠ slash := by
      rintro rfl
      exact plain (List.mem_reverse.mp member)
    simp [other]
  have last : (p ++ slash :: name).reverse.takeWhile (fun b => decide (b ≠ slash)) =
      name.reverse := by
    rw [List.reverse_append, List.reverse_cons, List.append_assoc,
      List.takeWhile_append_of_pos kept]
    simp
  have whole : name.reverse.takeWhile (fun b => decide (b ≠ slash)) = name.reverse :=
    List.takeWhile_eq_self_iff.mpr kept
  simp only [isJava, extension, last, whole]

end Path

namespace Watcher

variable {w w' : Watcher} {t : FileTree} {path : Text} {place : Place}

theorem directories_clean {dirs : List Text} (found : directories t path = .ok dirs) :
    ∀ p ∈ dirs, ∃ q, p = Path.clean q := by
  unfold directories at found
  cases walked : t.walk path with
  | error f =>
    rw [walked] at found
    cases found
  | ok visited =>
    rw [walked] at found
    cases found
    intro p member
    obtain ⟨⟨q, node⟩, -, cleaned⟩ := List.mem_filterMap.mp member
    dsimp only at cleaned
    split at cleaned
    · cases cleaned
      exact ⟨q, rfl⟩
    · cases cleaned

structure WatchesMore (w w' : Watcher) : Prop where
  closed : w'.closed = w.closed
  pending : w'.pending = w.pending
  watched : w.watched ⊆ w'.watched
  cleaned : ∀ p ∈ w'.watched, p ∈ w.watched ∨ ∃ q, p = Path.clean q

theorem WatchesMore.refl (w : Watcher) : w.WatchesMore w :=
  ⟨rfl, rfl, fun _ member => member, fun _ member => .inl member⟩

theorem WatchesMore.trans {w₁ w₂ w₃ : Watcher} (one : w₁.WatchesMore w₂)
    (two : w₂.WatchesMore w₃) : w₁.WatchesMore w₃ where
  closed := two.closed.trans one.closed
  pending := two.pending.trans one.pending
  watched := fun _ member => two.watched (one.watched member)
  cleaned := by
    intro p member
    rcases two.cleaned p member with before | cleaned
    · exact one.cleaned p before
    · exact .inr cleaned

theorem add_ok (added : w.add t path = .ok w') :
    ∃ dirs, directories t path = .ok dirs ∧ dirs ⊆ w'.watched ∧ w.WatchesMore w' := by
  unfold add at added
  cases found : directories t path with
  | error f =>
    rw [found] at added
    cases added
  | ok dirs =>
    rw [found] at added
    dsimp only at added
    split at added
    · cases added
    · cases added
      have members := fun p => mem_foldl_insertName p dirs w.watched
      refine ⟨dirs, rfl, fun p new => (members p).mpr (.inr new), rfl, rfl,
        fun p old => (members p).mpr (.inl old), ?_⟩
      intro p member
      rcases (members p).mp member with old | new
      · exact .inl old
      · exact .inr (directories_clean found p new)

theorem directories_cover (proper : t.Proper)
    (located : t.locate ⟨false, false⟩ path = .ok place) (present : path ≠ [])
    (leads : t.Leads (Path.clean path) place) (standing : t.get? place = some .directory) :
    ∃ dirs, directories t path = .ok dirs ∧
      ∀ names, t.get? (place ++ names) = some .directory →
        ∃ p ∈ dirs, t.Leads p (place ++ names) := by
  refine ⟨_, by rw [directories, FileTree.walk_directory located standing]; rfl, ?_⟩
  intro names there
  by_cases none : names = []
  · subst none
    rw [List.append_nil]
    exact ⟨Path.clean path, List.mem_filterMap.mpr ⟨_, List.mem_cons_self, rfl⟩, leads⟩
  · have below := List.mem_map_of_mem (f := fun n : List Text × FileNode =>
      (Path.join path (Text.join [Path.slash] n.1), n.2)) (FileTree.mem_below proper none there)
    refine ⟨Path.clean (Path.join path (Text.join [Path.slash] names)), ?_, ?_⟩
    · exact List.mem_filterMap.mpr ⟨_, List.mem_cons_of_mem _ below, rfl⟩
    · rw [Path.join, if_neg (by simp [present]), Path.clean_clean]
      exact FileTree.Leads.clean_below proper standing none there (by simp) leads present

theorem add_covers (proper : t.Proper) (running : w.closed = false)
    (located : t.locate ⟨false, false⟩ path = .ok place) (present : path ≠ [])
    (leads : t.Leads (Path.clean path) place) (standing : t.get? place = some .directory) :
    ∃ w', w.add t path = .ok w' ∧
      ∀ names, t.get? (place ++ names) = some .directory →
        ∃ p ∈ w'.watched, t.Leads p (place ++ names) := by
  obtain ⟨dirs, found, covers⟩ := directories_cover proper located present leads standing
  have added : w.add t path =
      .ok { w with watched := dirs.foldl (fun names d => insertName d names) w.watched } := by
    simp [add, found, running]
  refine ⟨_, added, ?_⟩
  intro names there
  obtain ⟨p, member, leadsThere⟩ := covers names there
  exact ⟨p, (mem_foldl_insertName p dirs w.watched).mpr (.inr member), leadsThere⟩

end Watcher
end JavadocLint
