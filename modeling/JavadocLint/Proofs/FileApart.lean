import Mathlib
import JavadocLint.Proofs.FileReplace

/- Look-ups in trees that are almost the same. Nothing below a place where nothing stands can be
   reached, so two trees that differ at most there lead every path to the same node. A path that
   leads to a directory still leads there when files come and go elsewhere, and one that leads to a
   free place finds what is put there. -/
namespace JavadocLint

namespace FileTree

variable {t t' : FileTree} {hole : Place}

/-- The trees differ at most below a place where neither has anything. -/
structure AgreeApart (hole : Place) (t t' : FileTree) : Prop where
  vacant : t.get? hole = none
  vacant' : t'.get? hole = none
  others : ∀ place, ¬ hole <+: place → t'.get? place = t.get? place
  current : t'.current = t.current
  outside : ¬ hole <+: t.current

def Reached.StaysOut (hole : Place) : Reached → Prop
  | .place p => ¬ hole <+: p ∨ p = hole
  | .link dir _ _ => ¬ hole <+: dir

theorem ne_nil_of_vacant (vacant : t.get? hole = none) : hole ≠ [] := by
  rintro rfl
  cases vacant

theorem ne_of_vacant {place : Place} {node : FileNode} (vacant : t.get? hole = none)
    (there : t.get? place = some node) : place ≠ hole := by
  rintro rfl
  rw [vacant] at there
  cases there

theorem advance_apart (agree : AgreeApart hole t t') (ending : Ending) (names : List Text)
    {here : Place} (outside : ¬ hole <+: here) :
    t'.advance ending here names = t.advance ending here names ∧
      ∀ reached, t.advance ending here names = .ok reached → reached.StaysOut hole := by
  induction names generalizing here with
  | nil =>
    refine ⟨rfl, ?_⟩
    rintro reached ⟨⟩
    exact .inl outside
  | cons name rest ih =>
    simp only [advance]
    split
    · exact ih outside
    split
    · exact ih fun below => outside (below.trans (List.dropLast_prefix here))
    by_cases there : hole = here ++ [name]
    · rw [← there, agree.vacant, agree.vacant']
      refine ⟨rfl, fun reached done => ?_⟩
      dsimp only at done
      split at done
      · cases done
        exact .inr rfl
      · split at done <;> cases done
    · have next : ¬ hole <+: here ++ [name] := by
        rw [List.prefix_concat_iff]
        rintro (same | below)
        · exact there same
        · exact outside below
      rw [agree.others _ next]
      cases t.get? (here ++ [name]) with
      | none =>
        refine ⟨rfl, fun reached done => ?_⟩
        dsimp only at done
        split at done
        · cases done
          exact .inl next
        · split at done <;> cases done
      | some node =>
        cases node with
        | directory => exact ih next
        | file content modified =>
          refine ⟨rfl, fun reached done => ?_⟩
          dsimp only at done
          split at done
          · cases done
            exact .inl next
          · cases done
        | link target =>
          refine ⟨rfl, fun reached done => ?_⟩
          dsimp only at done
          split at done
          · cases done
            exact .inl next
          · cases done
            exact outside

theorem locateFrom_apart (agree : AgreeApart hole t t') (ending : Ending) (links : Nat)
    {here : Place} (outside : ¬ hole <+: here) (names : List Text) :
    t'.locateFrom ending links here names = t.locateFrom ending links here names ∧
      ∀ place, t.locateFrom ending links here names = .ok place →
        ¬ hole <+: place ∨ place = hole := by
  induction links, here, names using locateFrom.induct t ending with
  | case1 links here names reason led =>
    obtain ⟨same, -⟩ := advance_apart agree ending names outside
    rw [locateFrom_eq, locateFrom_eq, same, led]
    exact ⟨rfl, fun place done => by cases done⟩
  | case2 links here names p led =>
    obtain ⟨same, stays⟩ := advance_apart agree ending names outside
    rw [locateFrom_eq, locateFrom_eq, same, led]
    refine ⟨rfl, ?_⟩
    rintro place ⟨⟩
    exact stays _ led
  | case3 here names dir target rest led =>
    obtain ⟨same, -⟩ := advance_apart agree ending names outside
    rw [locateFrom_eq, locateFrom_eq, same, led]
    exact ⟨rfl, fun place done => by cases done⟩
  | case4 here names dir target rest led links start ih =>
    obtain ⟨same, stays⟩ := advance_apart agree ending names outside
    rw [locateFrom_eq, locateFrom_eq, same, led]
    refine ih ?_
    dsimp only [start]
    split
    · exact fun below => ne_nil_of_vacant agree.vacant (List.prefix_nil.mp below)
    · exact stays _ led

theorem locate_apart (agree : AgreeApart hole t t') (ending : Ending) (path : Text) :
    t'.locate ending path = t.locate ending path ∧
      ∀ place, t.locate ending path = .ok place → ¬ hole <+: place ∨ place = hole := by
  have present := ne_nil_of_vacant agree.vacant
  simp only [locate, agree.current]
  split
  · exact ⟨rfl, fun place done => by cases done⟩
  · refine locateFrom_apart agree ending maxLinks ?_ _
    split
    · exact fun below => present (List.prefix_nil.mp below)
    · exact agree.outside

theorem find_apart (agree : AgreeApart hole t t') (follow : Bool) (path : Text) :
    t'.find follow path = t.find follow path := by
  obtain ⟨same, stays⟩ := locate_apart agree ⟨follow, false⟩ path
  unfold find
  rw [same]
  cases located : t.locate ⟨follow, false⟩ path with
  | error reason => rfl
  | ok place =>
    have node : t'.get? place = t.get? place := by
      rcases stays place located with out | rfl
      · exact agree.others place out
      · rw [agree.vacant, agree.vacant']
    dsimp only [bind, Except.bind]
    rw [node]

theorem openFile_apart (agree : AgreeApart hole t t') (path : Text) :
    t'.openFile path = t.openFile path := by
  unfold openFile
  rw [find_apart agree]

section Kept

variable {place : Place} {ending ending' : Ending}

/-- A path ends at a directory, or at a free place where something other than a link is put. -/
def EndsFirmly (t t' : FileTree) (place : Place) : Prop :=
  t.get? place = some .directory ∨
    t.get? place = none ∧ ∃ node, t'.get? place = some node ∧ ∀ target, node ≠ .link target

theorem EndsFirmly.directory {node : FileNode} (firm : EndsFirmly t t' place)
    (there : t.get? place = some node) : node = .directory := by
  rcases firm with standing | ⟨free, -⟩
  · exact Option.some.inj (there.symm.trans standing)
  · rw [free] at there
    cases there

theorem advance_kept (follows : Follows False t t')
    (wider : ending.follow = true → ending'.follow = true) {names : List Text} {here : Place}
    {reached : Reached} (led : t.advance ending here names = .ok reached)
    (firm : ∀ place, reached = .place place → EndsFirmly t t' place) :
    t'.advance ending' here names = .ok reached := by
  have kept : ∀ place node, t.get? place = some node →
      (∀ content modified, node ≠ .file content modified) → t'.get? place = some node := by
    intro place node there noFile
    rcases follows place node there noFile with same | ⟨impossible, -⟩
    · exact same
    · exact impossible.elim
  induction names generalizing here with
  | nil => exact led
  | cons name rest ih =>
    rw [advance] at led ⊢
    split
    · rename_i skipped
      rw [if_pos skipped] at led
      exact ih led
    rename_i solid
    rw [if_neg solid] at led
    split
    · rename_i up
      rw [if_pos up] at led
      exact ih led
    rename_i down
    rw [if_neg down] at led
    cases there : t.get? (here ++ [name]) with
    | none =>
      rw [there] at led
      dsimp only at led
      split at led
      · rename_i last
        cases led
        rcases firm _ rfl with standing | ⟨-, node, put, noLink⟩
        · rw [there] at standing
          cases standing
        · simp only [Bool.and_eq_true, List.isEmpty_iff] at last
          rw [put, last.2]
          cases node with
          | directory => rfl
          | file content modified => rfl
          | link target => exact absurd rfl (noLink target)
      · split at led <;> cases led
    | some node =>
      rw [there] at led
      cases node with
      | directory =>
        rw [kept _ _ there (by simp)]
        exact ih led
      | file content modified =>
        dsimp only at led
        split at led
        · cases led
          cases (firm _ rfl).directory there
        · cases led
      | link target =>
        dsimp only at led
        split at led
        · cases led
          cases (firm _ rfl).directory there
        · rename_i followed
          have still : ¬ (rest.isEmpty && !ending'.follow) = true := by
            intro both
            simp only [Bool.and_eq_true, Bool.not_eq_true'] at both followed
            cases follow : ending.follow with
            | true => rw [wider follow] at both; cases both.2
            | false => exact followed ⟨both.1, follow⟩
          rw [kept _ _ there (by simp)]
          dsimp only
          rw [if_neg still]
          exact led

theorem locateFrom_kept (follows : Follows False t t')
    (wider : ending.follow = true → ending'.follow = true) {links : Nat} {here : Place}
    {names : List Text} (located : t.locateFrom ending links here names = .ok place)
    (firm : EndsFirmly t t' place) : t'.locateFrom ending' links here names = .ok place := by
  induction links, here, names using locateFrom.induct t ending with
  | case1 links here names reason led =>
    rw [locateFrom_eq, led] at located
    cases located
  | case2 links here names p led =>
    rw [locateFrom_eq, led] at located
    cases located
    rw [locateFrom_eq, advance_kept follows wider led (by rintro _ ⟨⟩; exact firm)]
    rfl
  | case3 here names dir target rest led =>
    rw [locateFrom_eq, led] at located
    cases located
  | case4 here names dir target rest led links start ih =>
    rw [locateFrom_eq, led] at located
    rw [locateFrom_eq, advance_kept follows wider led (by rintro _ ⟨⟩)]
    exact ih located

theorem locate_kept (follows : Follows False t t') (current : t'.current = t.current)
    (wider : ending.follow = true → ending'.follow = true) {path : Text}
    (located : t.locate ending path = .ok place) (firm : EndsFirmly t t' place) :
    t'.locate ending' path = .ok place := by
  unfold locate at located ⊢
  split at located
  · cases located
  · rename_i present
    rw [if_neg present, current]
    exact locateFrom_kept follows wider located firm

theorem find_directory_kept (follows : Follows False t t') (current : t'.current = t.current)
    {path : Text} (found : t.find true path = .ok .directory) :
    t'.find true path = .ok .directory := by
  obtain ⟨place, located, standing⟩ := find_ok found
  refine find_of_locate (locate_kept follows current id located (.inl standing)) ?_
  rcases follows place _ standing (by simp) with same | ⟨impossible, -⟩
  · exact same
  · exact impossible.elim

end Kept
end FileTree
end JavadocLint
