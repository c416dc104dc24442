import Mathlib
import JavadocLint.Proofs.CacheHonesty
import JavadocLint.Proofs.SourceFindings

/- Sessions with a cache. Files are written and removed, caches are opened on one directory by this
   engine and by others, entries expire, and the cache file is lost or damaged, in any order. Every
   run of the engine with its cache gives what a run without a cache gives at that moment.

   Two things are taken for granted: that no two contents read in the session have one digest, and
   that a cache which was encoded is not decoded as a different one. Nothing is claimed about steps
   that overlap. -/
namespace JavadocLint

inductive CacheUse where
  | get (now : Int) (path : Text)
  | set (now : Int) (path : Text) (issues : List Issue)
  | limitAge (limit : Int)
  | flush (now : Int)
  | invalidateAll (now : Int)

namespace CacheUse

def apply (t : FileTree) (c : Cache) : CacheUse → FileTree × Cache
  | .get now path => (t, (c.get t now path).1)
  | .set now path issues =>
    match c.set t now path issues with
    | .ok c' => (t, c')
    | .error _ => (t, c)
  | .limitAge limit => (t, { c with maxAge := limit })
  | .flush now =>
    match c.flush t now with
    | .ok flushed => flushed
    | .error _ => (t, c)
  | .invalidateAll now => c.invalidateAll t now

def encoded (c : Cache) : CacheUse → List StoredCache
  | .flush _ => if c.dirty then [⟨c.fingerprint, c.entries⟩] else []
  | .invalidateAll _ => [⟨c.fingerprint, []⟩]
  | _ => []

end CacheUse

/-- The steps of a session. Caches are numbered in the order they are opened. The cache file is lost
    or damaged by removing or writing it like any other file, and entries expire when a later step
    is past the age limit. -/
inductive SessionStep where
  | write (path content : Text) (modified : Int)
  | remove (path : Text)
  | openCache (fingerprint : Text)
  | use (number : Nat) (u : CacheUse)
  | run (number : Nat) (now : Int) (path : Text)

/-- A run of the engine: what the file held, what came out, and what comes out without a cache. -/
structure RunRecord where
  content : Option Text
  cached : Except Failure (List Issue)
  plain : Except Failure (List Issue)

structure SessionState where
  tree : FileTree
  caches : List Cache := []
  runs : List RunRecord := []
  encoded : List StoredCache := []

namespace SessionState

variable (e : Engine) (dir : Text)

def contents (s : SessionState) : List Text := s.runs.filterMap RunRecord.content

def step (s : SessionState) : SessionStep → SessionState
  | .write path content modified =>
    match s.tree.write path content modified with
    | .ok t => { s with tree := t }
    | .error _ => s
  | .remove path => { s with tree := s.tree.remove path }
  | .openCache fingerprint =>
    match Cache.load s.tree dir fingerprint with
    | .ok opened => { s with tree := opened.1, caches := s.caches ++ [opened.2] }
    | .error _ => s
  | .use number u =>
    match s.caches[number]? with
    | none => s
    | some c =>
      { s with
        tree := (u.apply s.tree c).1
        caches := s.caches.set number (u.apply s.tree c).2
        encoded := u.encoded c ++ s.encoded }
  | .run number now path =>
    let result := e.run s.tree now s.caches[number]? path
    { s with
      caches := (result.2.map (s.caches.set number)).getD s.caches
      runs := ⟨(s.tree.read path).toOption, result.1, (e.run s.tree now none path).1⟩ :: s.runs }

def after (s : SessionState) (steps : List SessionStep) : SessionState :=
  steps.foldl (step e dir) s

end SessionState

/-- Nothing but a use of a cache puts bytes that decode into the cache file. The engine runs with
    caches opened for its own fingerprint, and only its runs add entries to those.
    Opening makes directories, so a link that led nowhere may then lead to another file. -/
def SessionStep.Allowed (e : Engine) (dir : Text) (s : SessionState) (step : SessionStep) : Prop :=
  match step with
  | .use number (.set _ _ _) => ∀ c ∈ s.caches[number]?, c.fingerprint ≠ e.fingerprint
  | .use _ _ => True
  | .run number _ _ => ∀ c ∈ s.caches[number]?, c.fingerprint = e.fingerprint
  | _ => KeepsCacheFile dir s.tree (s.step e dir step).tree

def Lawful (e : Engine) (dir : Text) : SessionState → List SessionStep → Prop
  | _, [] => True
  | s, step :: rest => step.Allowed e dir s ∧ Lawful e dir (s.step e dir step) rest

instance (e : Engine) (dir : Text) (s : SessionState) :
    (step : SessionStep) → Decidable (step.Allowed e dir s)
  | .use _ (.set _ _ _) => inferInstanceAs (Decidable (∀ c ∈ _, _))
  | .use _ (.get _ _) => .isTrue trivial
  | .use _ (.limitAge _) => .isTrue trivial
  | .use _ (.flush _) => .isTrue trivial
  | .use _ (.invalidateAll _) => .isTrue trivial
  | .run _ _ _ => inferInstanceAs (Decidable (∀ c ∈ _, _))
  | .write _ _ _ => inferInstanceAs (Decidable (KeepsCacheFile _ _ _))
  | .remove _ => inferInstanceAs (Decidable (KeepsCacheFile _ _ _))
  | .openCache _ => inferInstanceAs (Decidable (KeepsCacheFile _ _ _))

instance Lawful.decidable (e : Engine) (dir : Text) :
    (s : SessionState) → (steps : List SessionStep) → Decidable (Lawful e dir s steps)
  | _, [] => .isTrue trivial
  | s, step :: rest =>
    have := Lawful.decidable e dir (s.step e dir step) rest
    inferInstanceAs (Decidable (_ ∧ _))

/-- What a session keeps: entries in memory and on disk are honest, and all runs so far agree. -/
structure SessionState.Coherent (e : Engine) (dir : Text) (s : SessionState) : Prop where
  memory : ∀ c ∈ s.caches, c.dir = dir ∧
    (c.fingerprint = e.fingerprint → HonestTable e s.contents c.entries)
  disk : ∀ bytes ∈ cacheBytes s.tree dir,
    HonestTable e s.contents (Cache.offered bytes e.fingerprint)
  runs : ∀ r ∈ s.runs, r.cached = r.plain

section Uses

variable {e : Engine} {dir : Text} {t : FileTree} {c : Cache} {known : List Text}

theorem set_cases (t : FileTree) (c : Cache) (now : Int) (path : Text) (issues : List Issue) :
    (CacheUse.set now path issues).apply t c = (t, c) ∨
      ∃ m, (CacheUse.set now path issues).apply t c = (t, c.put now path m issues) := by
  simp only [CacheUse.apply, Cache.set]
  cases fileMetadata t path with
  | error f => exact .inl rfl
  | ok m => exact .inr ⟨m, rfl⟩

theorem flush_cases (t : FileTree) (c : Cache) (now : Int) :
    (CacheUse.flush now).apply t c = (t, c) ∨
      ∃ t', c.dirty = true ∧ c.save t now = .ok t' ∧
        (CacheUse.flush now).apply t c = (t', { c with dirty := false }) := by
  simp only [CacheUse.apply, Cache.flush]
  split
  · rename_i flushed done
    split at done
    · rename_i dirty
      cases saved : c.save t now with
      | error f =>
        rw [saved] at done
        cases done
      | ok t' =>
        rw [saved] at done
        cases done
        exact .inr ⟨t', dirty, rfl, rfl⟩
    · cases done
      exact .inl rfl
  · exact .inl rfl

theorem invalidateAll_cases (t : FileTree) (c : Cache) (now : Int) :
    (CacheUse.invalidateAll now).apply t c = (t, { c with entries := [], dirty := true }) ∨
      ∃ t', Cache.save { c with entries := [] } t now = .ok t' ∧
        (CacheUse.invalidateAll now).apply t c =
          (t', { c with entries := [], dirty := false }) := by
  simp only [CacheUse.apply, Cache.invalidateAll]
  split
  · exact .inr ⟨_, ‹_›, rfl⟩
  · exact .inl rfl

theorem apply_owner (u : CacheUse) (t : FileTree) (c : Cache) : SameOwner c (u.apply t c).2 := by
  cases u with
  | get now path => exact get_owner c t now path
  | set now path issues =>
    rcases set_cases t c now path issues with eq | ⟨m, eq⟩ <;> rw [eq] <;> exact ⟨rfl, rfl⟩
  | limitAge limit => exact ⟨rfl, rfl⟩
  | flush now =>
    rcases flush_cases t c now with eq | ⟨t', -, -, eq⟩ <;> rw [eq] <;> exact ⟨rfl, rfl⟩
  | invalidateAll now =>
    rcases invalidateAll_cases t c now with eq | ⟨t', -, eq⟩ <;> rw [eq] <;> exact ⟨rfl, rfl⟩

theorem apply_honest {u : CacheUse} (lookups : ∀ now path issues, u ≠ .set now path issues)
    (honest : HonestTable e known c.entries) (t : FileTree) :
    HonestTable e known (u.apply t c).2.entries := by
  cases u with
  | get now path => exact get_honest honest t now path
  | set now path issues => exact absurd rfl (lookups now path issues)
  | limitAge limit => exact honest
  | flush now =>
    rcases flush_cases t c now with eq | ⟨t', -, -, eq⟩ <;> rw [eq] <;> exact honest
  | invalidateAll now =>
    rcases invalidateAll_cases t c now with eq | ⟨t', -, eq⟩ <;> rw [eq] <;> exact .nil

/-- A use leaves the files alone, or puts an encoding with the fingerprint of the cache and none but
    its entries into the cache file. -/
theorem apply_tree (u : CacheUse) (t : FileTree) (c : Cache) :
    (u.apply t c).1 = t ∨ ∃ stored ∈ u.encoded c, stored.fingerprint = c.fingerprint ∧
      stored.entries ⊆ c.entries ∧
        ∀ bytes ∈ cacheBytes (u.apply t c).1 c.dir, bytes = stored.encode := by
  cases u with
  | get now path => exact .inl rfl
  | set now path issues =>
    rcases set_cases t c now path issues with eq | ⟨m, eq⟩ <;> rw [eq] <;> exact .inl rfl
  | limitAge limit => exact .inl rfl
  | flush now =>
    rcases flush_cases t c now with eq | ⟨t', dirty, saved, eq⟩ <;> rw [eq]
    · exact .inl rfl
    · refine .inr ⟨⟨c.fingerprint, c.entries⟩, ?_, rfl, List.Subset.refl _, cacheBytes_saved saved⟩
      simp [CacheUse.encoded, dirty]
  | invalidateAll now =>
    rcases invalidateAll_cases t c now with eq | ⟨t', saved, eq⟩ <;> rw [eq]
    · exact .inl rfl
    · refine .inr ⟨⟨c.fingerprint, []⟩, ?_, rfl, List.nil_subset _, cacheBytes_saved saved⟩
      exact List.mem_singleton_self _

theorem apply_disk {u : CacheUse} (faithful : ∀ stored ∈ u.encoded c, stored.Faithful)
    (memory : c.fingerprint = e.fingerprint → HonestTable e known c.entries)
    (disk : ∀ bytes ∈ cacheBytes t c.dir, HonestTable e known (Cache.offered bytes e.fingerprint)) :
    ∀ bytes ∈ cacheBytes (u.apply t c).1 c.dir,
      HonestTable e known (Cache.offered bytes e.fingerprint) := by
  intro bytes found
  rcases apply_tree u t c with same | ⟨stored, member, owner, subset, encoded⟩
  · rw [same] at found
    exact disk bytes found
  · intro p offer
    rw [encoded bytes found] at offer
    obtain ⟨own, entry⟩ := offered_encoded (faithful stored member) e.fingerprint p offer
    exact memory (owner.symm.trans own) p (subset entry)

end Uses

namespace SessionState

variable {e : Engine} {dir : Text} {s : SessionState}

theorem contents_run (number : Nat) (now : Int) (path : Text) :
    (s.step e dir (.run number now path)).contents =
      (s.tree.read path).toOption.toList ++ s.contents := by
  simp only [step, contents, List.filterMap_cons]
  cases (s.tree.read path).toOption <;> rfl

theorem step_grows (e : Engine) (dir : Text) (s : SessionState) (st : SessionStep) :
    s.contents ⊆ (s.step e dir st).contents ∧ s.encoded ⊆ (s.step e dir st).encoded := by
  cases st with
  | write path content modified =>
    unfold step
    dsimp only
    split <;> exact ⟨List.Subset.refl _, List.Subset.refl _⟩
  | remove path => exact ⟨List.Subset.refl _, List.Subset.refl _⟩
  | openCache fingerprint =>
    unfold step
    dsimp only
    split <;> exact ⟨List.Subset.refl _, List.Subset.refl _⟩
  | use number u =>
    unfold step
    dsimp only
    split
    · exact ⟨List.Subset.refl _, List.Subset.refl _⟩
    · exact ⟨List.Subset.refl _, List.subset_append_right _ _⟩
  | run number now path =>
    rw [contents_run]
    exact ⟨List.subset_append_right _ _, List.Subset.refl _⟩

theorem after_grows (e : Engine) (dir : Text) (s : SessionState) (steps : List SessionStep) :
    s.contents ⊆ (s.after e dir steps).contents ∧ s.encoded ⊆ (s.after e dir steps).encoded := by
  induction steps generalizing s with
  | nil => exact ⟨List.Subset.refl _, List.Subset.refl _⟩
  | cons st rest ih =>
    have first := step_grows e dir s st
    have later := ih (s.step e dir st)
    exact ⟨List.Subset.trans first.1 later.1, List.Subset.trans first.2 later.2⟩

theorem Coherent.files {t : FileTree} (coherent : s.Coherent e dir)
    (kept : KeepsCacheFile dir s.tree t) : Coherent e dir { s with tree := t } :=
  ⟨coherent.memory, honest_kept kept coherent.disk, coherent.runs⟩

theorem Coherent.opened {fingerprint : Text} {opened : FileTree × Cache}
    (coherent : s.Coherent e dir) (done : Cache.load s.tree dir fingerprint = .ok opened)
    (kept : KeepsCacheFile dir s.tree opened.1) :
    Coherent e dir { s with tree := opened.1, caches := s.caches ++ [opened.2] } := by
  have disk := honest_kept kept coherent.disk
  obtain ⟨place, owner, entries⟩ := load_ok done
  refine ⟨?_, disk, coherent.runs⟩
  intro c member
  rcases List.mem_append.mp member with old | new
  · exact coherent.memory c old
  · cases List.mem_singleton.mp new
    refine ⟨place, fun own p entry => ?_⟩
    obtain ⟨bytes, found, offer⟩ := entries p entry
    exact disk bytes found p (own ▸ owner ▸ offer)

theorem Coherent.used {number : Nat} {c : Cache} {u : CacheUse} (coherent : s.Coherent e dir)
    (there : s.caches[number]? = some c)
    (lookups : c.fingerprint = e.fingerprint → ∀ now path issues, u ≠ .set now path issues)
    (faithful : ∀ stored ∈ u.encoded c, stored.Faithful) :
    Coherent e dir { s with
      tree := (u.apply s.tree c).1
      caches := s.caches.set number (u.apply s.tree c).2
      encoded := u.encoded c ++ s.encoded } := by
  obtain ⟨place, honest⟩ := coherent.memory c (List.mem_of_getElem? there)
  obtain ⟨samePlace, sameOwner⟩ := apply_owner u s.tree c
  refine ⟨?_, ?_, coherent.runs⟩
  · intro c' member
    rcases List.mem_or_eq_of_mem_set member with old | rfl
    · exact coherent.memory c' old
    · refine ⟨samePlace.trans place, fun own => ?_⟩
      have mine := sameOwner.symm.trans own
      exact apply_honest (lookups mine) (honest mine) s.tree
  · subst place
    exact apply_disk faithful honest coherent.disk

theorem mem_caches_run {number : Nat} {now : Int} {path : Text} {c' : Cache}
    (member : c' ∈ (s.step e dir (.run number now path)).caches) :
    c' ∈ s.caches ∨
      ∃ c ∈ s.caches[number]?, (e.run s.tree now (some c) path).2 = some c' := by
  simp only [step] at member
  cases there : s.caches[number]? with
  | none =>
    have unused : (e.run s.tree now none path).2 = none := by
      unfold Engine.run
      split <;> rfl
    rw [there, unused] at member
    exact .inl member
  | some c =>
    rw [there] at member
    cases result : (e.run s.tree now (some c) path).2 with
    | none =>
      rw [result] at member
      exact .inl member
    | some new =>
      rw [result] at member
      rcases List.mem_or_eq_of_mem_set member with old | rfl
      · exact .inl old
      · exact .inr ⟨c, rfl, result⟩

theorem Coherent.ran (coherent : s.Coherent e dir) (number : Nat) (now : Int) (path : Text)
    (own : ∀ c ∈ s.caches[number]?, c.fingerprint = e.fingerprint)
    (collisionFree : CollisionFree ((s.tree.read path).toOption.toList ++ s.contents)) :
    Coherent e dir (s.step e dir (.run number now path)) := by
  have wider : s.contents ⊆ (s.step e dir (.run number now path)).contents :=
    (step_grows e dir s _).1
  have agrees := fun (c : Cache) (there : c ∈ s.caches[number]?) =>
    @run_agrees e s.tree now c path s.contents
      ((coherent.memory c (List.mem_of_getElem? there)).2 (own c there)) collisionFree
  refine ⟨?_, fun bytes found => (coherent.disk bytes found).mono wider, ?_⟩
  · intro c' member
    rcases mem_caches_run member with old | ⟨c, there, result⟩
    · obtain ⟨place, honest⟩ := coherent.memory c' old
      exact ⟨place, fun own => (honest own).mono wider⟩
    · obtain ⟨owner, honest⟩ := (agrees c there).2 c' result
      have place := (coherent.memory c (List.mem_of_getElem? there)).1
      exact ⟨owner.1.trans place, fun _ => contents_run number now path ▸ honest⟩
  · intro r member
    rcases List.mem_cons.mp member with rfl | earlier
    · cases there : s.caches[number]? with
      | none => rfl
      | some c => exact (agrees c there).1
    · exact coherent.runs r earlier

theorem Coherent.step {st : SessionStep} (coherent : s.Coherent e dir)
    (allowed : st.Allowed e dir s) (collisionFree : CollisionFree (s.step e dir st).contents)
    (faithful : ∀ stored ∈ (s.step e dir st).encoded, stored.Faithful) :
    (s.step e dir st).Coherent e dir := by
  cases st with
  | write path content modified =>
    unfold SessionStep.Allowed SessionState.step at allowed
    unfold SessionState.step
    dsimp only at allowed ⊢
    split at allowed
    · exact coherent.files allowed
    · exact coherent
  | remove path => exact coherent.files allowed
  | openCache fingerprint =>
    unfold SessionStep.Allowed SessionState.step at allowed
    unfold SessionState.step
    dsimp only at allowed ⊢
    split at allowed
    · exact coherent.opened ‹_› allowed
    · exact coherent
  | use number u =>
    unfold SessionState.step at faithful ⊢
    dsimp only at faithful ⊢
    split
    · exact coherent
    · rename_i c there
      rw [there] at faithful
      refine coherent.used there ?_ fun stored member =>
        faithful stored (List.mem_append_left _ member)
      rintro own now path issues rfl
      exact allowed c there own
  | run number now path =>
    exact coherent.ran number now path allowed (contents_run number now path ▸ collisionFree)

theorem Coherent.after {steps : List SessionStep} (coherent : s.Coherent e dir)
    (lawful : Lawful e dir s steps) (collisionFree : CollisionFree (s.after e dir steps).contents)
    (faithful : ∀ stored ∈ (s.after e dir steps).encoded, stored.Faithful) :
    (s.after e dir steps).Coherent e dir := by
  induction steps generalizing s with
  | nil => exact coherent
  | cons st rest ih =>
    have grows := after_grows e dir (s.step e dir st) rest
    refine ih (coherent.step lawful.1 ?_ ?_) lawful.2 collisionFree faithful
    · intro a inA b inB
      exact collisionFree a (grows.1 inA) b (grows.1 inB)
    · intro stored member
      exact faithful stored (grows.2 member)

end SessionState

/-- Runs with a cache give what runs without one give, in every session that starts with no open
    cache and no entries for this engine on disk. -/
theorem cached_runs_agree {e : Engine} {dir : Text} {t : FileTree} {steps : List SessionStep}
    (fresh : ∀ bytes ∈ cacheBytes t dir, Cache.offered bytes e.fingerprint = [])
    (lawful : Lawful e dir ⟨t, [], [], []⟩ steps)
    (collisionFree : CollisionFree (SessionState.after e dir ⟨t, [], [], []⟩ steps).contents)
    (faithful : ∀ stored ∈ (SessionState.after e dir ⟨t, [], [], []⟩ steps).encoded,
      stored.Faithful) :
    ∀ r ∈ (SessionState.after e dir ⟨t, [], [], []⟩ steps).runs, r.cached = r.plain := by
  have start : SessionState.Coherent e dir ⟨t, [], [], []⟩ := by
    refine ⟨by simp, fun bytes found => ?_, by simp⟩
    rw [fresh bytes found]
    exact .nil
  exact (start.after lawful collisionFree faithful).runs

/-- Hits, misses, expiry, two open caches, another engine and a damaged cache file. -/
def busySession : List SessionStep :=
  [.write (utf8 "/A") (utf8 "class A ;") 1, .openCache authorEngine.fingerprint,
    .run 0 2 (utf8 "/A"), .run 0 3 (utf8 "/A"), .use 0 (.limitAge 5), .run 0 9 (utf8 "/A"),
    .use 0 (.flush 10), .openCache authorEngine.fingerprint, .openCache (utf8 "other"),
    .run 1 11 (utf8 "/A"), .write (utf8 "/A") (utf8 "enum A ;") 1, .run 1 12 (utf8 "/A"),
    .use 2 (.set 13 (utf8 "/A") []), .use 2 (.flush 14), .use 0 (.invalidateAll 15),
    .write (utf8 "/c/jdlint_cache.mp") [0xc1] 16, .openCache authorEngine.fingerprint,
    .run 3 17 (utf8 "/A"), .remove (utf8 "/A"), .run 3 18 (utf8 "/A")]

def busyStart : SessionState := { tree := FileTree.empty.set [utf8 "c"] .directory }

theorem cached_runs_agree_busy :
    Lawful authorEngine (utf8 "/c") busyStart busySession ∧
      ((busyStart.after authorEngine (utf8 "/c") busySession).runs.map fun r =>
        r.plain.toOption.map List.length) =
        [none, some 0, some 0, some 1, some 1, some 1, some 1] ∧
      ∀ r ∈ (busyStart.after authorEngine (utf8 "/c") busySession).runs, r.cached = r.plain :=
  have lawful : Lawful authorEngine (utf8 "/c") busyStart busySession := by decide +kernel
  ⟨lawful, by decide +kernel,
    cached_runs_agree (by decide +kernel) lawful (by decide +kernel) (by decide +kernel)⟩

end JavadocLint
