import Mathlib
import JavadocLint.Files.Tree
import JavadocLint.Proofs.PathNames

/- Looking up paths in a tree of files. Everything before the last name of a path is followed in the
   same way whatever the look-up does at the end, and it is followed in the same way in two trees
   that agree on directories and links. -/
namespace JavadocLint

namespace FileTree

variable {t t' : FileTree} {place other : Place} {node : FileNode}

theorem get?_eq_find (t : FileTree) (present : place ≠ []) :
    t.get? place = (t.nodes.find? fun n => n.1 = place).map Prod.snd := by
  simp [get?, present]

theorem get?_top (t : FileTree) : t.get? [] = some .directory := rfl

theorem mem_of_get? (present : place ≠ []) (found : (t.get? place).isSome) :
    place ∈ t.nodes.map Prod.fst := by
  rw [get?_eq_find t present, Option.isSome_map, List.find?_isSome] at found
  obtain ⟨n, member, same⟩ := found
  exact List.mem_map.mpr ⟨n, member, by simpa using same⟩

theorem get?_filter (t : FileTree) (keep : Place → Bool) (present : place ≠ []) :
    (t.filter keep).get? place = if keep place then t.get? place else none := by
  rw [get?_eq_find _ present, get?_eq_find _ present]
  simp only [filter, List.find?_filter]
  split
  · rename_i kept
    congr 2
    funext n
    by_cases same : n.1 = place
    · simp [same, kept]
    · simp [same]
  · rename_i dropped
    simp only [Option.map_eq_none_iff, List.find?_eq_none]
    intro n _ both
    simp only [decide_eq_true_eq] at both
    exact dropped (both.2 ▸ both.1)

theorem get?_set_self (t : FileTree) (node : FileNode) (present : place ≠ []) :
    (t.set place node).get? place = some node := by
  simp [get?_eq_find _ present, set]

theorem get?_set_ne (t : FileTree) (node : FileNode) (different : other ≠ place) :
    (t.set place node).get? other = t.get? other := by
  by_cases top : other = []
  · simp [top, get?_top]
  · have kept := get?_filter t (· ≠ place) top
    simp only [different, ne_eq, not_false_eq_true, decide_true, if_true] at kept
    rw [← kept, get?_eq_find _ top, get?_eq_find _ top]
    simp [set, Ne.symm different]

theorem get?_erase (t : FileTree) (place other : Place) :
    (t.erase place).get? other = t.get? other ∨ (t.erase place).get? other = none := by
  by_cases top : other = []
  · simp [top, get?_top]
  · rw [erase, get?_filter t _ top]
    split
    · exact .inl rfl
    · exact .inr rfl

end FileTree

namespace FileTree

/-- Wherever the first tree has a directory or a link, so has the second; or, if something may be
    lost, it has nothing or a file there. -/
def Follows (loss : Prop) (t t' : FileTree) : Prop :=
  ∀ place node, t.get? place = some node → (∀ content modified, node ≠ .file content modified) →
    t'.get? place = some node ∨
      loss ∧ (t'.get? place = none ∨
        ∃ content modified, t'.get? place = some (.file content modified))

def Fails {α : Type} (r : Except FileReason α) : Prop := ∃ reason, r = .error reason

section Names

variable {loss : Prop} {t t' : FileTree} {name : Text}

theorem follows_refl (t : FileTree) : Follows False t t := fun _ _ found _ => .inl found

theorem advance_through (t : FileTree) (ending : Ending) (here : Place) (first : Text)
    (rest : List Text) (ordinary : OrdinaryName name) (literal : OrdinaryName first) :
    t.advance ending here (first :: (rest ++ [name])) =
      match t.get? (here ++ [first]) with
      | some .directory => t.advance ending (here ++ [first]) (rest ++ [name])
      | some (.file _ _) => .error .notDirectory
      | some (.link target) => .ok (.link here target (rest ++ [name]))
      | none => .error .notFound := by
  have more : (rest ++ [name]).isEmpty = false := by simp
  have named : (rest ++ [name]).all List.isEmpty = false := by simp [ordinary.notEmpty]
  rw [advance, if_neg (by simp [literal.notEmpty, literal.notHere]), if_neg literal.notUp]
  cases t.get? (here ++ [first]) with
  | none => simp [more, named]
  | some node => cases node <;> simp [more]

theorem advance_skip (t : FileTree) (ending : Ending) (here : Place) (first : Text)
    (rest : List Text) (skipped : (first.isEmpty || first = utf8 ".") = true) :
    t.advance ending here (first :: rest) = t.advance ending here rest := by
  rw [advance, if_pos skipped]

theorem advance_up (t : FileTree) (ending : Ending) (here : Place) (rest : List Text) :
    t.advance ending here (utf8 ".." :: rest) = t.advance ending here.dropLast rest := by
  rw [advance, if_neg (by decide), if_pos rfl]

/-- What one name of a path can do: lead on to another directory, or stop at a file, at a link or at
    nothing. -/
theorem advance_cases (t : FileTree) (here : Place) (first : Text) :
    (∃ next, ∀ ending rest,
      t.advance ending here (first :: rest) = t.advance ending next rest) ∨
    (∃ content modified, t.get? (here ++ [first]) = some (.file content modified) ∧
      ∀ ending rest, t.advance ending here (first :: rest) =
        if rest.isEmpty then .ok (.place (here ++ [first])) else .error .notDirectory) ∨
    (∃ target, t.get? (here ++ [first]) = some (.link target) ∧
      ∀ ending rest, t.advance ending here (first :: rest) =
        if rest.isEmpty && !ending.follow then .ok (.place (here ++ [first]))
        else .ok (.link here target rest)) ∨
    ∀ follow rest, t.advance ⟨follow, false⟩ here (first :: rest) = .error .notFound := by
  by_cases skipped : (first.isEmpty || first = utf8 ".") = true
  · exact .inl ⟨here, fun ending rest => advance_skip t ending here first rest skipped⟩
  by_cases up : first = utf8 ".."
  · subst up
    exact .inl ⟨here.dropLast, fun ending rest => advance_up t ending here rest⟩
  cases there : t.get? (here ++ [first]) with
  | none =>
    refine .inr (.inr (.inr fun follow rest => ?_))
    rw [advance, if_neg skipped, if_neg up, there]
    rfl
  | some node =>
    cases node with
    | directory =>
      refine .inl ⟨here ++ [first], fun ending rest => ?_⟩
      rw [advance, if_neg skipped, if_neg up, there]
    | file content modified =>
      refine .inr (.inl ⟨content, modified, rfl, fun ending rest => ?_⟩)
      rw [advance, if_neg skipped, if_neg up, there]
    | link target =>
      refine .inr (.inr (.inl ⟨target, rfl, fun ending rest => ?_⟩))
      rw [advance, if_neg skipped, if_neg up, there]

def Reached.goOn (t : FileTree) (ending : Ending) (name : Text) :
    Reached → Except FileReason Reached
  | .place dir => t.advance ending dir [name]
  | .link dir target rest => .ok (.link dir target (rest ++ [name]))

theorem advance_front (follows : Follows loss t t') (ordinary : OrdinaryName name) (here : Place)
    (front : List Text) : ∃ led : Except FileReason Reached, ∀ ending,
      t.advance ending here (front ++ [name]) = led.bind (Reached.goOn t ending name) ∧
      (Fails led ∨ loss ∧ Fails (t'.advance ending here (front ++ [name])) ∨
        t'.advance ending here (front ++ [name]) = led.bind (Reached.goOn t' ending name)) := by
  induction front generalizing here with
  | nil => exact ⟨.ok (.place here), fun ending => ⟨rfl, .inr (.inr rfl)⟩⟩
  | cons first rest ih =>
    rw [List.cons_append]
    by_cases skipped : (first.isEmpty || first = utf8 ".") = true
    · have skip := fun tree ending => advance_skip tree ending here first (rest ++ [name]) skipped
      simp only [skip]
      exact ih here
    by_cases up : first = utf8 ".."
    · subst up
      simp only [advance_up]
      exact ih here.dropLast
    have literal : OrdinaryName first := by
      simp only [Bool.or_eq_true, decide_eq_true_eq, not_or] at skipped
      exact ⟨by simpa using skipped.1, skipped.2, up⟩
    have through := fun tree ending => advance_through tree ending here first rest ordinary literal
    simp only [through]
    cases found : t.get? (here ++ [first]) with
    | none => exact ⟨.error .notFound, fun _ => ⟨rfl, .inl ⟨_, rfl⟩⟩⟩
    | some node =>
      cases node with
      | file content modified => exact ⟨.error .notDirectory, fun _ => ⟨rfl, .inl ⟨_, rfl⟩⟩⟩
      | directory =>
        obtain ⟨led, goes⟩ := ih (here ++ [first])
        refine ⟨led, fun ending => ?_⟩
        rcases follows _ _ found (by simp) with same | ⟨lost, gone | ⟨content, modified, replaced⟩⟩
        · simpa only [same] using goes ending
        · exact ⟨(goes ending).1, .inr (.inl ⟨lost, .notFound, by rw [gone]⟩)⟩
        · exact ⟨(goes ending).1, .inr (.inl ⟨lost, .notDirectory, by rw [replaced]⟩)⟩
      | link target =>
        refine ⟨.ok (.link here target rest), fun ending => ⟨rfl, .inr ?_⟩⟩
        rcases follows _ _ found (by simp) with same | ⟨lost, gone | ⟨content, modified, replaced⟩⟩
        · exact .inr (by rw [same]; rfl)
        · exact .inl ⟨lost, .notFound, by rw [gone]⟩
        · exact .inl ⟨lost, .notDirectory, by rw [replaced]⟩

/-- What a look-up makes of where it was led: a link costs one of the links that are left. -/
def Reached.settle (t : FileTree) (ending : Ending) (links : Nat) :
    Reached → Except FileReason Place
  | .place p => .ok p
  | .link dir target rest =>
    match links with
    | 0 => .error .tooManyLinks
    | links + 1 =>
      t.locateFrom ending links (if Path.isRooted target then [] else dir)
        (Text.splitOn Path.slash target ++ rest)

theorem locateFrom_eq (t : FileTree) (ending : Ending) (links : Nat) (here : Place)
    (names : List Text) :
    t.locateFrom ending links here names =
      (t.advance ending here names).bind (Reached.settle t ending links) := by
  rw [locateFrom.eq_def]
  dsimp only
  cases t.advance ending here names with
  | error reason => rfl
  | ok reached => cases reached <;> cases links <;> rfl

theorem locateFrom_fails {ending : Ending} {here : Place} {names : List Text} (links : Nat)
    (fails : Fails (t.advance ending here names)) :
    Fails (t.locateFrom ending links here names) := by
  obtain ⟨reason, error⟩ := fails
  exact ⟨reason, by rw [locateFrom_eq, error]; rfl⟩

theorem locateFrom_place {ending : Ending} {here dir : Place} {front : List Text} (links : Nat)
    (goes : t.advance ending here (front ++ [name]) = t.advance ending dir [name])
    (others : Fails (Except.ok (Reached.place dir)) ∨
      loss ∧ Fails (t'.advance ending here (front ++ [name])) ∨
        t'.advance ending here (front ++ [name]) = t'.advance ending dir [name]) :
    t.locateFrom ending links here (front ++ [name]) = t.locateFrom ending links dir [name] ∧
      (Fails (Except.ok (links, dir)) ∨
        loss ∧ Fails (t'.locateFrom ending links here (front ++ [name])) ∨
          t'.locateFrom ending links here (front ++ [name]) =
            t'.locateFrom ending links dir [name]) := by
  refine ⟨by rw [locateFrom_eq, locateFrom_eq, goes], .inr ?_⟩
  rcases others with ⟨_, impossible⟩ | ⟨lost, fails⟩ | same
  · cases impossible
  · exact .inl ⟨lost, locateFrom_fails links fails⟩
  · exact .inr (by rw [locateFrom_eq, locateFrom_eq, same])

theorem locateFrom_front (follows : Follows loss t t') (ordinary : OrdinaryName name)
    (links : Nat) (here : Place) (front : List Text) :
    ∃ led : Except FileReason (Nat × Place), ∀ ending,
      t.locateFrom ending links here (front ++ [name]) =
          led.bind (fun d => t.locateFrom ending d.1 d.2 [name]) ∧
      (Fails led ∨ loss ∧ Fails (t'.locateFrom ending links here (front ++ [name])) ∨
        t'.locateFrom ending links here (front ++ [name]) =
          led.bind fun d => t'.locateFrom ending d.1 d.2 [name]) := by
  induction links generalizing here front with
  | zero =>
    obtain ⟨led, goes⟩ := advance_front follows ordinary here front
    match led, goes with
    | .error reason, goes =>
      refine ⟨.error reason, fun ending => ⟨?_, .inl ⟨_, rfl⟩⟩⟩
      rw [locateFrom_eq, (goes ending).1]
      rfl
    | .ok (.link dir target rest), goes =>
      refine ⟨.error .tooManyLinks, fun ending => ⟨?_, .inl ⟨_, rfl⟩⟩⟩
      rw [locateFrom_eq, (goes ending).1]
      rfl
    | .ok (.place dir), goes =>
      refine ⟨.ok (0, dir), fun ending => ?_⟩
      exact locateFrom_place 0 (goes ending).1 (goes ending).2
  | succ links ih =>
    obtain ⟨led, goes⟩ := advance_front follows ordinary here front
    match led, goes with
    | .error reason, goes =>
      refine ⟨.error reason, fun ending => ⟨?_, .inl ⟨_, rfl⟩⟩⟩
      rw [locateFrom_eq, (goes ending).1]
      rfl
    | .ok (.link dir target rest), goes =>
      obtain ⟨further, ends⟩ :=
        ih (if Path.isRooted target then [] else dir) (Text.splitOn Path.slash target ++ rest)
      simp only [List.append_assoc] at ends
      refine ⟨further, fun ending => ⟨?_, ?_⟩⟩
      · rw [locateFrom_eq, (goes ending).1]
        exact (ends ending).1
      · rcases (goes ending).2 with ⟨_, impossible⟩ | ⟨lost, fails⟩ | same
        · cases impossible
        · exact .inr (.inl ⟨lost, locateFrom_fails _ fails⟩)
        · rw [locateFrom_eq, same]
          exact (ends ending).2
    | .ok (.place dir), goes =>
      refine ⟨.ok (links + 1, dir), fun ending => ?_⟩
      exact locateFrom_place (links + 1) (goes ending).1 (goes ending).2

theorem locate_front {path : Text} (follows : Follows loss t t')
    (current : t'.current = t.current) (ordinary : OrdinaryName name) (ends : EndsIn path name) :
    ∃ led : Except FileReason (Nat × Place), ∀ ending,
      t.locate ending path = led.bind (fun d => t.locateFrom ending d.1 d.2 [name]) ∧
      (Fails led ∨ loss ∧ Fails (t'.locate ending path) ∨
        t'.locate ending path = led.bind fun d => t'.locateFrom ending d.1 d.2 [name]) := by
  obtain ⟨front, names⟩ := ends
  have present : path.isEmpty = false := by
    cases path with
    | nil =>
      have last := congrArg List.getLast? names
      simp only [Text.splitOn, List.getLast?_append, List.getLast?_singleton] at last
      have empty := ordinary.notEmpty
      rw [← Option.some.inj last] at empty
      cases empty
    | cons b rest => rfl
  simp only [locate, present, current, names, Bool.false_eq_true, if_false]
  exact locateFrom_front follows ordinary maxLinks _ front

end Names

section LastName

variable {t t' : FileTree} {name path : Text} {dir place : Place}

theorem advance_last (t : FileTree) (ending : Ending) (dir : Place)
    (ordinary : OrdinaryName name) :
    t.advance ending dir [name] =
      match t.get? (dir ++ [name]) with
      | some .directory => .ok (.place (dir ++ [name]))
      | some (.file _ _) => .ok (.place (dir ++ [name]))
      | some (.link target) =>
        if ending.follow then .ok (.link dir target []) else .ok (.place (dir ++ [name]))
      | none => if ending.create then .ok (.place (dir ++ [name])) else .error .notFound := by
  rw [advance]
  simp only [ordinary.notEmpty, ordinary.notHere, ordinary.notUp, decide_false, Bool.or_false,
    List.isEmpty_nil, if_true, Bool.and_true, Bool.true_and, List.all_nil, advance]
  cases ending with
  | mk follow create => cases follow <;> cases create <;> rfl

theorem locateFrom_last_file {content : Text} {modified : Int} (ending : Ending) (links : Nat)
    (ordinary : OrdinaryName name)
    (found : t.get? (dir ++ [name]) = some (.file content modified)) :
    t.locateFrom ending links dir [name] = .ok (dir ++ [name]) := by
  rw [locateFrom_eq, advance_last t ending dir ordinary, found]
  rfl

theorem locateFrom_last_noFollow (create : Bool) (links : Nat) (ordinary : OrdinaryName name) :
    t.locateFrom ⟨false, create⟩ links dir [name] =
      if (t.get? (dir ++ [name])).isSome || create then .ok (dir ++ [name])
      else .error .notFound := by
  rw [locateFrom_eq, advance_last t _ dir ordinary]
  cases t.get? (dir ++ [name]) with
  | none => cases create <;> rfl
  | some node => cases node <;> rfl

theorem locateFrom_last_absent (follow : Bool) (links : Nat) (ordinary : OrdinaryName name)
    (absent : t.get? (dir ++ [name]) = none) :
    t.locateFrom ⟨follow, true⟩ links dir [name] = .ok (dir ++ [name]) := by
  rw [locateFrom_eq, advance_last t _ dir ordinary, absent]
  rfl

end LastName
end FileTree
end JavadocLint
