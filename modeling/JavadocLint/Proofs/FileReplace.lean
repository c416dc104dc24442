import Mathlib
import JavadocLint.Proofs.FileLookup

/- Replacing a file by writing another one under a new name and moving it over. The new file stands
   at a place of its own, and once it is moved a reader finds it under the old path, unless the way
   there is lost. -/
namespace JavadocLint

namespace FileTree

variable {t : FileTree} {path name : Text}

theorem find_ok {follow : Bool} {node : FileNode} (found : t.find follow path = .ok node) :
    ∃ place, t.locate ⟨follow, false⟩ path = .ok place ∧ t.get? place = some node := by
  unfold find at found
  cases located : t.locate ⟨follow, false⟩ path with
  | error reason =>
    rw [located] at found
    cases found
  | ok place =>
    rw [located] at found
    dsimp only [bind, Except.bind] at found
    cases node' : t.get? place with
    | none =>
      rw [node'] at found
      cases found
    | some other =>
      rw [node'] at found
      cases found
      exact ⟨place, rfl, node'⟩

theorem find_of_locate {follow : Bool} {place : Place} {node : FileNode}
    (located : t.locate ⟨follow, false⟩ path = .ok place) (there : t.get? place = some node) :
    t.find follow path = .ok node := by
  unfold find
  rw [located]
  dsimp only [bind, Except.bind]
  rw [there]
  rfl

theorem find_fails {follow : Bool} (fails : Fails (t.locate ⟨follow, false⟩ path)) :
    Fails (t.find follow path) := by
  obtain ⟨reason, error⟩ := fails
  exact ⟨reason, by unfold find; rw [error]; rfl⟩

theorem write_ok {content : Text} {modified : Int} {written : FileTree}
    (done : t.write path content modified = .ok written) :
    ∃ place, t.locate ⟨true, true⟩ path = .ok place ∧ place ≠ [] ∧
      written = t.set place (.file content modified) := by
  unfold write at done
  cases located : t.locate ⟨true, true⟩ path with
  | error reason =>
    rw [located] at done
    cases done
  | ok place =>
    rw [located] at done
    dsimp only at done
    split at done
    · cases done
    · rename_i free
      cases done
      refine ⟨place, rfl, ?_, rfl⟩
      intro top
      exact free (top ▸ get?_top t)

theorem rename_ok {source target : Text} {renamed : FileTree}
    (done : t.rename source target = .ok renamed) :
    ∃ origin place node, t.locate ⟨false, false⟩ source = .ok origin ∧
      t.locate ⟨false, true⟩ target = .ok place ∧ t.get? origin = some node ∧ place ≠ [] ∧
      renamed = (t.erase origin).set place node := by
  unfold rename at done
  cases origin' : t.locate ⟨false, false⟩ source with
  | error reason =>
    rw [origin'] at done
    cases done
  | ok origin =>
    cases place' : t.locate ⟨false, true⟩ target with
    | error reason =>
      rw [origin', place'] at done
      cases done
    | ok place =>
      rw [origin', place'] at done
      dsimp only at done
      split at done
      · cases done
      · rename_i node there free
        cases done
        refine ⟨origin, place, node, rfl, rfl, there, ?_, rfl⟩
        intro top
        exact free (top ▸ get?_top t)
      · cases done

theorem locate_unknown {place dir : Place} {links : Nat} (ordinary : OrdinaryName name)
    (located : t.locate ⟨true, true⟩ path = .ok place) (unknown : Fails (t.find false path))
    (leads : ∀ ending, t.locate ending path = t.locateFrom ending links dir [name]) :
    t.get? (dir ++ [name]) = none ∧ place = dir ++ [name] := by
  have absent : t.get? (dir ++ [name]) = none := by
    by_contra present
    obtain ⟨node, there⟩ := Option.ne_none_iff_exists'.mp present
    have here := leads ⟨false, false⟩
    rw [locateFrom_last_noFollow false links ordinary, there] at here
    obtain ⟨reason, error⟩ := unknown
    rw [find_of_locate here there] at error
    cases error
  have there := leads ⟨true, true⟩
  rw [located, locateFrom_last_absent true links ordinary absent] at there
  exact ⟨absent, Except.ok.inj there⟩

theorem get?_unknown {place : Place} (ordinary : OrdinaryName name) (ends : EndsIn path name)
    (located : t.locate ⟨true, true⟩ path = .ok place) (unknown : Fails (t.find false path)) :
    t.get? place = none := by
  obtain ⟨led, same⟩ := locate_front (follows_refl t) rfl ordinary ends
  match led, same with
  | .error reason, same =>
    have := (same ⟨true, true⟩).1
    rw [located] at this
    cases this
  | .ok (links, dir), same =>
    obtain ⟨absent, eq⟩ := locate_unknown ordinary located unknown fun ending => (same ending).1
    exact eq ▸ absent

theorem locate_written {place : Place} {content : Text} {modified : Int}
    (ordinary : OrdinaryName name) (ends : EndsIn path name)
    (located : t.locate ⟨true, true⟩ path = .ok place) (unknown : Fails (t.find false path)) :
    (t.set place (.file content modified)).locate ⟨false, false⟩ path = .ok place := by
  have vacant := get?_unknown ordinary ends located unknown
  have follows : Follows False t (t.set place (.file content modified)) := by
    intro other node there _
    refine .inl ?_
    rw [get?_set_ne t _ (by intro eq; rw [eq, vacant] at there; cases there), there]
  obtain ⟨led, same⟩ := locate_front follows rfl ordinary ends
  match led, same with
  | .error reason, same =>
    have := (same ⟨true, true⟩).1
    rw [located] at this
    cases this
  | .ok (links, dir), same =>
    obtain ⟨_, eq⟩ := locate_unknown ordinary located unknown fun ending => (same ending).1
    rcases (same ⟨false, false⟩).2 with ⟨_, impossible⟩ | ⟨impossible, _⟩ | there
    · cases impossible
    · exact impossible.elim
    · have stored : (t.set place (.file content modified)).get? (dir ++ [name]) =
          some (.file content modified) := by
        rw [eq]
        exact get?_set_self t _ (by simp)
      rw [there]
      change FileTree.locateFrom _ _ links dir [name] = _
      rw [locateFrom_last_file _ links ordinary stored, eq]

theorem follows_moved (t : FileTree) (origin place : Place) (content : Text) (modified : Int) :
    Follows True t ((t.erase origin).set place (.file content modified)) := by
  intro other node there _
  by_cases here : other = place
  · subst here
    by_cases top : other = []
    · subst top
      exact .inl (there ▸ rfl)
    · exact .inr ⟨trivial, .inr ⟨content, modified, get?_set_self _ _ top⟩⟩
  · rw [get?_set_ne _ _ here]
    rcases get?_erase t origin other with kept | gone
    · exact .inl (kept.trans there)
    · exact .inr ⟨trivial, .inl gone⟩

theorem find_moved {moved : FileTree} {place : Place} {content : Text} {modified : Int}
    (follows : Follows True t moved) (current : moved.current = t.current)
    (ordinary : OrdinaryName name) (ends : EndsIn path name)
    (located : t.locate ⟨false, true⟩ path = .ok place)
    (there : moved.get? place = some (.file content modified)) :
    moved.find true path = .ok (.file content modified) ∨ Fails (moved.find true path) := by
  obtain ⟨led, same⟩ := locate_front follows current ordinary ends
  match led, same with
  | .error reason, same =>
    have := (same ⟨false, true⟩).1
    rw [located] at this
    cases this
  | .ok (links, dir), same =>
    have eq : place = dir ++ [name] := by
      have goes := (same ⟨false, true⟩).1
      rw [located] at goes
      change _ = t.locateFrom _ links dir [name] at goes
      rw [locateFrom_last_noFollow true links ordinary, Bool.or_true, if_pos rfl] at goes
      exact Except.ok.inj goes
    subst eq
    rcases (same ⟨true, false⟩).2 with ⟨_, impossible⟩ | ⟨_, fails⟩ | goes
    · cases impossible
    · exact .inr (find_fails fails)
    · refine .inl (find_of_locate ?_ there)
      rw [goes]
      exact locateFrom_last_file _ links ordinary there

/-- A new file is written and moved: a reader of the path finds its content, or nothing. -/
theorem openFile_replaced {fresh freshName content : Text} {modified : Int}
    {written moved : FileTree} (freshOrdinary : OrdinaryName freshName)
    (freshEnds : EndsIn fresh freshName) (ordinary : OrdinaryName name) (ends : EndsIn path name)
    (unknown : Fails (t.find false fresh)) (wrote : t.write fresh content modified = .ok written)
    (renamed : written.rename fresh path = .ok moved) :
    moved.openFile path = .ok (some (content, modified)) ∨
      ∃ f, moved.openFile path = .error f := by
  obtain ⟨place, located, present, rfl⟩ := write_ok wrote
  obtain ⟨origin, target, node, source, goal, there, away, rfl⟩ := rename_ok renamed
  rw [locate_written freshOrdinary freshEnds located unknown] at source
  cases source
  rw [get?_set_self t _ present] at there
  cases there
  have follows := follows_moved (t.set place (.file content modified)) place target content modified
  have stored := get?_set_self ((t.set place (.file content modified)).erase place)
    (.file content modified) away
  rcases find_moved follows rfl ordinary ends goal stored with found | ⟨reason, error⟩
  · refine .inl ?_
    unfold openFile
    rw [found]
  · refine .inr ⟨.file .open path reason, ?_⟩
    unfold openFile
    rw [error]

end FileTree
end JavadocLint
