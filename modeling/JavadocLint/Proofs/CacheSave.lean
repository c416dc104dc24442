import Mathlib
import JavadocLint.Cache.Basic
import JavadocLint.Proofs.FileReplace

/- Saving a cache. The temporary file gets a name that nothing has, so the file that is moved to the
   place of the cache file is the one just written: after a save a reader finds there what was
   written, or cannot reach it. -/
namespace JavadocLint

namespace Cache

open FileTree

def temporaryName (n : Nat) : Text := utf8 "tmp-" ++ Text.ofNat n

def temporaryPath (dir : Text) (n : Nat) : Text :=
  dir ++ (if dir.getLast? = some Path.slash then [] else [Path.slash]) ++ utf8 "tmp-"
    ++ Text.ofNat n

theorem temporaryName_head (n : Nat) : (temporaryName n).head? = some (byte 't') := rfl

theorem temporaryName_ordinary (n : Nat) : OrdinaryName (temporaryName n) where
  notEmpty := rfl
  notHere := by
    intro same
    have head := temporaryName_head n
    rw [same] at head
    exact absurd head (by decide)
  notUp := by
    intro same
    have head := temporaryName_head n
    rw [same] at head
    exact absurd head (by decide)

theorem temporaryName_injective {m n : Nat} (same : temporaryName m = temporaryName n) : m = n :=
  Text.ofNat_injective (List.append_cancel_left same)

theorem temporaryPath_endsIn (dir : Text) (n : Nat) :
    EndsIn (temporaryPath dir n) (temporaryName n) := by
  have plain : Path.slash ∉ temporaryName n := by
    simp only [temporaryName, List.mem_append, not_or]
    exact ⟨by decide, Text.slash_notMem_ofNat n⟩
  unfold temporaryPath
  rw [List.append_assoc _ (utf8 "tmp-")]
  split
  · rename_i ends
    obtain ⟨front, eq⟩ := List.getLast?_eq_some_iff.mp ends
    rw [eq, List.append_nil, List.append_assoc]
    exact Path.endsIn_append front plain
  · rw [List.append_assoc]
    exact Path.endsIn_append dir plain

theorem freeName_zero (t : FileTree) (dir : Text) (n : Nat) :
    freeName t dir 0 n = temporaryPath dir n := by
  rw [freeName.eq_def]
  rfl

theorem freeName_free {t : FileTree} {dir : Text} {n : Nat} (fuel : Nat) {f : Failure}
    (free : t.linkStat (temporaryPath dir n) = .error f) :
    freeName t dir (fuel + 1) n = temporaryPath dir n := by
  unfold temporaryPath at free ⊢
  rw [freeName.eq_def]
  dsimp only
  rw [free]

theorem freeName_taken {t : FileTree} {dir : Text} {n : Nat} (fuel : Nat) {node : FileNode}
    (taken : t.linkStat (temporaryPath dir n) = .ok node) :
    freeName t dir (fuel + 1) n = freeName t dir fuel (n + 1) := by
  unfold temporaryPath at taken
  rw [freeName.eq_def]
  dsimp only
  rw [taken]

theorem freeName_ends (t : FileTree) (dir : Text) (fuel n : Nat) :
    (∃ k, freeName t dir fuel n = temporaryPath dir k) ∧
      ((∃ f, t.linkStat (freeName t dir fuel n) = .error f) ∨
        ∀ i ≤ fuel, ∃ node, t.linkStat (temporaryPath dir (n + i)) = .ok node) := by
  induction fuel generalizing n with
  | zero =>
    rw [freeName_zero]
    refine ⟨⟨n, rfl⟩, ?_⟩
    cases status : t.linkStat (temporaryPath dir n) with
    | error f => exact .inl ⟨f, rfl⟩
    | ok node =>
      refine .inr fun i bound => ⟨node, ?_⟩
      rw [Nat.le_zero.mp bound, Nat.add_zero, status]
  | succ fuel ih =>
    cases status : t.linkStat (temporaryPath dir n) with
    | error f =>
      rw [freeName_free fuel status]
      exact ⟨⟨n, rfl⟩, .inl ⟨f, status⟩⟩
    | ok node =>
      rw [freeName_taken fuel status]
      obtain ⟨named, free | taken⟩ := ih (n + 1)
      · exact ⟨named, .inl free⟩
      · refine ⟨named, .inr fun i bound => ?_⟩
        cases i with
        | zero => exact ⟨node, status⟩
        | succ i =>
          have later := taken i (by omega)
          rwa [Nat.add_right_comm, Nat.add_assoc] at later

theorem temporary_place {t : FileTree} {dir : Text} {n : Nat} {node : FileNode}
    (taken : t.linkStat (temporaryPath dir n) = .ok node) :
    ∃ place ∈ t.nodes.map Prod.fst, place.getLast? = some (temporaryName n) := by
  have found : t.find false (temporaryPath dir n) = .ok node := by
    unfold linkStat at taken
    cases result : t.find false (temporaryPath dir n) with
    | error reason =>
      rw [result] at taken
      cases taken
    | ok other =>
      rw [result] at taken
      cases taken
      rfl
  obtain ⟨place, located, there⟩ := find_ok found
  obtain ⟨led, same⟩ := locate_front (follows_refl t) rfl (temporaryName_ordinary n)
    (temporaryPath_endsIn dir n)
  match led, same with
  | .error reason, same =>
    have := (same ⟨false, false⟩).1
    rw [located] at this
    cases this
  | .ok (links, inside), same =>
    have goes := (same ⟨false, false⟩).1
    rw [located] at goes
    change _ = t.locateFrom _ links inside [temporaryName n] at goes
    rw [locateFrom_last_noFollow false links (temporaryName_ordinary n)] at goes
    split at goes
    · cases goes
      exact ⟨inside ++ [temporaryName n], mem_of_get? (by simp) (by simp [there]), by simp⟩
    · cases goes

/-- There are more numbers to try than nodes in the tree, so the search always succeeds. -/
theorem freeName_unused (t : FileTree) (dir : Text) :
    ∃ k f, freeName t dir t.nodes.length 1 = temporaryPath dir k ∧
      t.linkStat (temporaryPath dir k) = .error f := by
  obtain ⟨⟨k, named⟩, ⟨f, free⟩ | taken⟩ := freeName_ends t dir t.nodes.length 1
  · exact ⟨k, f, named, named ▸ free⟩
  · exfalso
    have places : ∀ i ≤ t.nodes.length, ∃ place ∈ t.nodes.map Prod.fst,
        place.getLast? = some (temporaryName (1 + i)) := by
      intro i bound
      obtain ⟨node, status⟩ := taken i bound
      exact temporary_place status
    choose! place member last using places
    have distinct : ((List.range (t.nodes.length + 1)).map place).Nodup := by
      refine List.Nodup.map_on ?_ List.nodup_range
      intro i hi j hj same
      have li := last i (Nat.lt_succ_iff.mp (List.mem_range.mp hi))
      have lj := last j (Nat.lt_succ_iff.mp (List.mem_range.mp hj))
      rw [same, lj] at li
      have := temporaryName_injective (Option.some.inj li)
      omega
    have inside : (List.range (t.nodes.length + 1)).map place ⊆ t.nodes.map Prod.fst := by
      intro p hp
      obtain ⟨i, hi, rfl⟩ := List.mem_map.mp hp
      exact member i (Nat.lt_succ_iff.mp (List.mem_range.mp hi))
    have count := distinct.length_le_of_subset inside
    simp at count

theorem freeName_unknown (t : FileTree) (dir : Text) :
    ∃ k, freeName t dir t.nodes.length 1 = temporaryPath dir k ∧
      Fails (t.find false (temporaryPath dir k)) := by
  obtain ⟨k, f, named, unused⟩ := freeName_unused t dir
  refine ⟨k, named, ?_⟩
  unfold linkStat at unused
  cases result : t.find false (temporaryPath dir k) with
  | error reason => exact ⟨reason, rfl⟩
  | ok other =>
    rw [result] at unused
    cases unused

theorem fileName_ordinary : OrdinaryName fileName := ⟨by decide, by decide, by decide⟩

theorem file_endsIn (c : Cache) : EndsIn c.file fileName := by
  unfold file Path.join
  split
  · exact ⟨[], by decide⟩
  · exact Path.endsIn_clean c.dir fileName_ordinary (by decide)

theorem save_openFile {c : Cache} {t saved : FileTree} {now : Int}
    (done : c.save t now = .ok saved) :
    saved.openFile c.file = .ok (some (StoredCache.encode ⟨c.fingerprint, c.entries⟩, now)) ∨
      ∃ f, saved.openFile c.file = .error f := by
  obtain ⟨k, named, unknown⟩ := freeName_unknown t c.dir
  unfold save at done
  rw [named] at done
  dsimp only at done
  cases wrote : t.write (temporaryPath c.dir k)
      (StoredCache.encode ⟨c.fingerprint, c.entries⟩) now with
  | error reason =>
    rw [wrote] at done
    cases done
  | ok written =>
    rw [wrote] at done
    change written.rename (temporaryPath c.dir k) c.file = .ok saved at done
    exact openFile_replaced (temporaryName_ordinary k) (temporaryPath_endsIn c.dir k)
      fileName_ordinary (file_endsIn c) unknown wrote done

end Cache
end JavadocLint
