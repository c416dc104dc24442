import Mathlib
import JavadocLint.Proofs.CacheSave
import JavadocLint.Proofs.FileApart

/- Writes of the cache file that may be cut short. A new file is made beside the cache file, filled,
   and moved over it in one step; a write that fails on the way removes the new file again. So the
   cache file is either replaced as a whole or left as it was.

   The directory is the cache's own: it stands, and the ways to it and to the cache file do not lead
   through the cache file itself, as they could if that were a link back to the directory. -/
namespace JavadocLint

namespace FileTree

variable {t t' : FileTree} {place hole : Place}

/-- The current directory and those above it are there. -/
def Standing (t : FileTree) : Prop := ∀ place, place <+: t.current → t.get? place = some .directory

instance (t : FileTree) : Decidable t.Standing :=
  decidable_of_iff (∀ place ∈ t.current.inits, t.get? place = some .directory) (by
    simp [Standing, List.mem_inits])

def without (t : FileTree) (place : Place) : FileTree := t.filter (· ≠ place)

theorem get?_without_self (t : FileTree) (present : place ≠ []) :
    (t.without place).get? place = none := by
  rw [without, get?_filter t _ present, if_neg (by simp)]

theorem get?_without_ne (t : FileTree) {other : Place} (different : other ≠ place) :
    (t.without place).get? other = t.get? other := by
  by_cases top : other = []
  · rw [top, get?_top, get?_top]
  · rw [without, get?_filter t _ top, if_pos (by simpa using different)]

theorem follows_without (t : FileTree) (present : place ≠ []) : Follows False (t.without place) t := by
  intro other node there _
  have different := ne_of_vacant (get?_without_self t present) there
  exact .inl ((get?_without_ne t different).symm.trans there)

theorem get?_erase_self (t : FileTree) (present : place ≠ []) : (t.erase place).get? place = none := by
  rw [erase, get?_filter t _ present, if_neg (by simp)]

theorem get?_erase_outside (t : FileTree) {other : Place} (outside : ¬ place <+: other) :
    (t.erase place).get? other = t.get? other := by
  by_cases top : other = []
  · rw [top, get?_top, get?_top]
  · rw [erase, get?_filter t _ top, if_pos]
    rwa [Bool.not_eq_true', Bool.eq_false_iff, ne_eq, List.isPrefixOf_iff_prefix]

theorem Standing.outside (standing : t.Standing) (vacant : t.get? place = none) :
    ¬ place <+: t.current := by
  intro above
  rw [standing place above] at vacant
  cases vacant

theorem agreeApart_removed (standing : t.Standing) (vacant : t.get? place = none)
    (node : FileNode) : AgreeApart place t ((t.set place node).erase place) where
  vacant := vacant
  vacant' := get?_erase_self _ (ne_nil_of_vacant vacant)
  others := by
    intro other outside
    have different : other ≠ place := fun same => outside (same ▸ List.prefix_rfl)
    rw [get?_erase_outside _ outside, get?_set_ne t node different]
  current := rfl
  outside := standing.outside vacant

theorem AgreeApart.standing (agree : AgreeApart hole t t') (standing : t.Standing) :
    t'.Standing := by
  intro place above
  rw [agree.current] at above
  rw [agree.others place fun below => agree.outside (below.trans above)]
  exact standing place above

theorem AgreeApart.without (agree : AgreeApart hole t t') (present : place ≠ []) :
    AgreeApart hole (t.without place) (t'.without place) where
  vacant := by
    by_cases same : hole = place
    · rw [same, get?_without_self t present]
    · rw [get?_without_ne t same, agree.vacant]
  vacant' := by
    by_cases same : hole = place
    · rw [same, get?_without_self t' present]
    · rw [get?_without_ne t' same, agree.vacant']
  others := by
    intro other outside
    by_cases same : other = place
    · rw [same, get?_without_self t present, get?_without_self t' present]
    · rw [get?_without_ne t same, get?_without_ne t' same, agree.others other outside]
  current := agree.current
  outside := agree.outside

theorem locate_new_kept {path name : Text} (follows : Follows False t t')
    (current : t'.current = t.current) (ordinary : OrdinaryName name) (ends : EndsIn path name)
    (located : t.locate ⟨false, true⟩ path = .ok place) :
    t'.locate ⟨false, true⟩ path = .ok place := by
  obtain ⟨led, same⟩ := locate_front follows current ordinary ends
  obtain ⟨here, there⟩ := same ⟨false, true⟩
  match led with
  | .error reason =>
    rw [located] at here
    cases here
  | .ok (links, dir) =>
    rcases there with ⟨_, impossible⟩ | ⟨impossible, -⟩ | there
    · cases impossible
    · exact impossible.elim
    · rw [located] at here
      change _ = t.locateFrom _ links dir [name] at here
      rw [locateFrom_last_noFollow true links ordinary, Bool.or_true, if_pos rfl] at here
      rw [there, here]
      change t'.locateFrom _ links dir [name] = _
      rw [locateFrom_last_noFollow true links ordinary, Bool.or_true, if_pos rfl]

theorem rename_onto {source target : Text} {renamed : FileTree}
    (done : t.rename source target = .ok renamed)
    (goal : t.locate ⟨false, true⟩ target = .ok place) : t.get? place ≠ some .directory := by
  intro standing
  unfold rename at done
  cases origin : t.locate ⟨false, false⟩ source with
  | error reason =>
    rw [origin] at done
    cases done
  | ok from' =>
    rw [origin, goal] at done
    dsimp only at done
    rw [standing] at done
    cases t.get? from' <;> cases done

end FileTree

open FileTree

/-- The directory is the cache's own. The place is that of the cache file. -/
structure Owned (dir : Text) (t : FileTree) : Prop where
  standing : t.Standing
  apart : ∃ place, place ≠ [] ∧ (t.without place).find true dir = .ok .directory ∧
    (t.without place).locate ⟨false, true⟩ (Path.join dir Cache.fileName) = .ok place

theorem locate_file_without {dir : Text} {t : FileTree} {place : Place} (present : place ≠ [])
    (located : (t.without place).locate ⟨false, true⟩ (Path.join dir Cache.fileName) = .ok place) :
    t.locate ⟨false, true⟩ (Path.join dir Cache.fileName) = .ok place :=
  locate_new_kept (follows_without t present) rfl Cache.fileName_ordinary
    (Cache.file_endsIn ⟨dir, [], [], false, 0⟩) located

instance (dir : Text) (t : FileTree) : Decidable (Owned dir t) :=
  decidable_of_iff (t.Standing ∧
      ∃ place ∈ (t.locate ⟨false, true⟩ (Path.join dir Cache.fileName)).toOption,
        place ≠ [] ∧ (t.without place).find true dir = .ok .directory ∧
          (t.without place).locate ⟨false, true⟩ (Path.join dir Cache.fileName) = .ok place) (by
    constructor
    · intro owned
      obtain ⟨place, -, apart⟩ := owned.2
      exact ⟨owned.1, place, apart⟩
    · intro owned
      obtain ⟨place, present, found, located⟩ := owned.apart
      refine ⟨owned.standing, place, ?_, present, found, located⟩
      rw [locate_file_without present located]
      exact rfl)

theorem Owned.stands {dir : Text} {t : FileTree} (owned : Owned dir t) :
    t.find true dir = .ok .directory := by
  obtain ⟨place, present, found, -⟩ := owned.apart
  exact find_directory_kept (follows_without t present) rfl found

theorem Owned.agree {dir : Text} {t t' : FileTree} {hole : Place} (owned : Owned dir t)
    (agree : AgreeApart hole t t') : Owned dir t' := by
  obtain ⟨place, present, found, located⟩ := owned.apart
  have same := agree.without present
  refine ⟨agree.standing owned.standing, place, present, ?_, ?_⟩
  · rw [find_apart same, found]
  · rw [(locate_apart same _ _).1, located]

theorem owned_put {dir : Text} {t : FileTree} {place : Place} {content : Text} {modified : Int}
    (standing : t.Standing) (present : place ≠ []) (noDirectory : t.get? place ≠ some .directory)
    (found : (t.without place).find true dir = .ok .directory)
    (located : (t.without place).locate ⟨false, true⟩ (Path.join dir Cache.fileName) = .ok place) :
    Owned dir (t.set place (.file content modified)) ∧
      (t.set place (.file content modified)).openFile (Path.join dir Cache.fileName) =
        .ok (some (content, modified)) := by
  have outside : ¬ place <+: t.current := fun above => noDirectory (standing place above)
  have put := get?_set_self t (.file content modified) present
  have vacant := get?_without_self t present
  have follows : Follows False (t.without place) (t.set place (.file content modified)) := by
    intro other node there _
    have different := ne_of_vacant vacant there
    rw [get?_without_ne t different] at there
    exact .inl ((get?_set_ne t _ different).trans there)
  have agree : AgreeApart place (t.without place)
      ((t.set place (.file content modified)).without place) := by
    refine ⟨vacant, get?_without_self _ present, ?_, rfl, outside⟩
    intro other apart
    have different : other ≠ place := fun same => apart (same ▸ List.prefix_rfl)
    rw [get?_without_ne _ different, get?_without_ne t different, get?_set_ne t _ different]
  refine ⟨⟨?_, place, present, ?_, ?_⟩, ?_⟩
  · intro above isAbove
    have different : above ≠ place := fun same => outside (same ▸ isAbove)
    rw [get?_set_ne t _ different]
    exact standing above isAbove
  · rw [find_apart agree, found]
  · rw [(locate_apart agree _ _).1, located]
  · have reads : (t.set place (.file content modified)).locate ⟨true, false⟩
        (Path.join dir Cache.fileName) = .ok place :=
      locate_kept follows rfl (fun _ => rfl) located (.inr ⟨vacant, _, put, by simp⟩)
    unfold openFile
    rw [find_of_locate reads put]

namespace Cache

variable {c : Cache} {t : FileTree} {now : Int}

def leftBehind (c : Cache) (t : FileTree) (now : Int) (bytes : Text) : FileTree :=
  match t.write (freeName t c.dir t.nodes.length 1) bytes now with
  | .ok written => written.remove (freeName t c.dir t.nodes.length 1)
  | .error _ => t

/-- Where a write is cut short: no file can be made, only so many bytes are written, or the file
    cannot be moved. -/
inductive WriteFault where
  | create
  | fill (bytes : Nat)
  | rename
  deriving DecidableEq, Repr

def encoded (c : Cache) : Text := StoredCache.encode ⟨c.fingerprint, c.entries⟩

def attempt (c : Cache) (t : FileTree) (now : Int) : Option WriteFault → FileTree × Bool
  | none =>
    match c.save t now with
    | .ok saved => (saved, true)
    | .error _ => (t, false)
  | some .create => (t, false)
  | some (.fill bytes) => (c.leftBehind t now (c.encoded.take bytes), false)
  | some .rename => (c.leftBehind t now c.encoded, false)

theorem leftBehind_agrees (standing : t.Standing) (bytes : Text) :
    c.leftBehind t now bytes = t ∨ ∃ hole, AgreeApart hole t (c.leftBehind t now bytes) := by
  obtain ⟨k, named, unknown⟩ := freeName_unknown t c.dir
  have ordinary := temporaryName_ordinary k
  have ends := temporaryPath_endsIn c.dir k
  unfold leftBehind
  rw [named]
  cases wrote : t.write (temporaryPath c.dir k) bytes now with
  | error f => exact .inl rfl
  | ok written =>
    obtain ⟨hole, located, -, rfl⟩ := write_ok wrote
    have vacant := get?_unknown ordinary ends located unknown
    refine .inr ⟨hole, ?_⟩
    have removed : (t.set hole (.file bytes now)).remove (temporaryPath c.dir k) =
        (t.set hole (.file bytes now)).erase hole := by
      have outside : hole.isPrefixOf t.current = false := by
        rw [Bool.eq_false_iff, ne_eq, List.isPrefixOf_iff_prefix]
        exact standing.outside vacant
      unfold remove
      rw [locate_written ordinary ends located unknown]
      exact if_neg (by simp [FileTree.set, outside])
    dsimp only
    rw [removed]
    exact agreeApart_removed standing vacant _

theorem save_owned {t' : FileTree} (owned : Owned c.dir t) (done : c.save t now = .ok t') :
    Owned c.dir t' ∧ t'.openFile c.file = .ok (some (c.encoded, now)) := by
  obtain ⟨k, named, unknown⟩ := freeName_unknown t c.dir
  unfold save at done
  rw [named] at done
  change (do
    let written ← (t.write (temporaryPath c.dir k) c.encoded now).mapError _
    written.rename (temporaryPath c.dir k) c.file) = Except.ok t' at done
  cases wrote : t.write (temporaryPath c.dir k) c.encoded now with
  | error f =>
    rw [wrote] at done
    cases done
  | ok written =>
    rw [wrote] at done
    change written.rename (temporaryPath c.dir k) c.file = .ok t' at done
    obtain ⟨hole, located, filled, rfl⟩ := write_ok wrote
    have vacant := get?_unknown (temporaryName_ordinary k) (temporaryPath_endsIn c.dir k) located
      unknown
    have agree := agreeApart_removed owned.standing vacant (.file c.encoded now)
    obtain ⟨origin, target, node, source, goal, there, away, rfl⟩ := rename_ok done
    rw [locate_written (temporaryName_ordinary k) (temporaryPath_endsIn c.dir k) located unknown]
      at source
    cases source
    rw [get?_set_self t _ filled] at there
    cases there
    -- the place of the cache file is the same before and after the new file is made
    obtain ⟨place, present, found, leads⟩ := (owned.agree agree).apart
    have same : target = place := by
      have before := locate_file_without present leads
      rw [(locate_apart agree _ _).1] at before
      have follows : Follows False t (t.set hole (.file c.encoded now)) := by
        intro other node there _
        exact .inl ((get?_set_ne t _ (ne_of_vacant vacant there)).trans there)
      have after := locate_new_kept follows rfl fileName_ordinary (file_endsIn c) before
      exact Except.ok.inj (goal.symm.trans after)
    subst same
    refine owned_put (owned.agree agree).standing present ?_ found leads
    intro standing
    rcases get?_erase (t.set hole (.file c.encoded now)) hole target with kept | gone
    · exact rename_onto done goal (kept.symm.trans standing)
    · rw [gone] at standing
      cases standing

theorem leftBehind_owned (owned : Owned c.dir t) (now : Int) (bytes : Text) :
    Owned c.dir (c.leftBehind t now bytes) ∧
      (c.leftBehind t now bytes).openFile c.file = t.openFile c.file := by
  rcases leftBehind_agrees owned.standing bytes with same | ⟨hole, agree⟩
  · rw [same]
    exact ⟨owned, rfl⟩
  · exact ⟨owned.agree agree, openFile_apart agree _⟩

/-- A write replaces the cache file as a whole, or fails and leaves it as it was. -/
theorem attempt_cases (owned : Owned c.dir t) (now : Int) (fault : Option WriteFault) :
    Owned c.dir (c.attempt t now fault).1 ∧
      ((c.attempt t now fault).2 = true ∧
          (c.attempt t now fault).1.openFile c.file = .ok (some (c.encoded, now)) ∨
        (c.attempt t now fault).2 = false ∧
          (c.attempt t now fault).1.openFile c.file = t.openFile c.file) := by
  match fault with
  | none =>
    unfold attempt
    cases saved : c.save t now with
    | error f => exact ⟨owned, .inr ⟨rfl, rfl⟩⟩
    | ok t' =>
      obtain ⟨still, reads⟩ := save_owned owned saved
      exact ⟨still, .inl ⟨rfl, reads⟩⟩
  | some .create => exact ⟨owned, .inr ⟨rfl, rfl⟩⟩
  | some (.fill bytes) =>
    obtain ⟨still, reads⟩ := leftBehind_owned owned now (c.encoded.take bytes)
    exact ⟨still, .inr ⟨rfl, reads⟩⟩
  | some .rename =>
    obtain ⟨still, reads⟩ := leftBehind_owned owned now c.encoded
    exact ⟨still, .inr ⟨rfl, reads⟩⟩

end Cache
end JavadocLint
