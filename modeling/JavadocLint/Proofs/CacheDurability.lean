import Mathlib
import JavadocLint.Proofs.CacheReopening
import JavadocLint.Proofs.CacheSession
import JavadocLint.Proofs.CacheWrites

/- The life of an open cache whose directory is its own, where any write of the cache file may be cut
   short. While the cache is not dirty, opening the directory again gives the entries that are in
   memory. A write that fails leaves the cache file as it was and the cache dirty.

   Two things are taken for granted: that moving a file is one step, and that a cache of issues at
   defined levels is decoded as it was encoded. The age limit is no part of the cache file, so a cache
   that is opened again looks up as the first one does once it has the same limit. -/
namespace JavadocLint

namespace CacheUse

def writing (c : Cache) : CacheUse → Option (Cache × Int)
  | .flush now => if c.dirty then some (c, now) else none
  | .invalidateAll now => some ({ c with entries := [] }, now)
  | _ => none

/-- A use of a cache where the write, if there is one, may be cut short. -/
def applyWith (fault : Option Cache.WriteFault) (t : FileTree) (c : Cache) (u : CacheUse) :
    FileTree × Cache :=
  match u.writing c with
  | none => u.apply t c
  | some (written, now) =>
    let outcome := written.attempt t now fault
    (outcome.1, { written with dirty := !outcome.2 })

def succeeds (fault : Option Cache.WriteFault) (t : FileTree) (c : Cache) (u : CacheUse) :
    Option Bool :=
  (u.writing c).map fun w => (w.1.attempt t w.2 fault).2

variable {u : CacheUse} {c written : Cache} {t : FileTree} {now : Int}

theorem writing_flush (now : Int) (dirty : c.dirty = true) :
    (CacheUse.flush now).writing c = some (c, now) := if_pos dirty

theorem writing_clean (now : Int) (clean : c.dirty = false) :
    (CacheUse.flush now).writing c = none := if_neg (by simp [clean])

theorem applyWith_none (u : CacheUse) (t : FileTree) (c : Cache) :
    u.applyWith none t c = u.apply t c := by
  cases u with
  | get now path => rfl
  | set now path issues => rfl
  | limitAge limit => rfl
  | flush now =>
    cases dirty : c.dirty with
    | false =>
      unfold applyWith
      rw [writing_clean now dirty]
    | true =>
      have stays : { c with dirty := true } = c := by rw [← dirty]
      unfold applyWith
      rw [writing_flush now dirty]
      unfold apply Cache.flush Cache.attempt
      dsimp only
      rw [if_pos dirty]
      cases c.save t now with
      | error f => exact congrArg (Prod.mk t) stays
      | ok saved => rfl
  | invalidateAll now =>
    unfold applyWith writing apply Cache.invalidateAll Cache.attempt
    dsimp only
    cases Cache.save { c with entries := [] } t now <;> rfl

theorem applyWith_quiet (quiet : u.writing c = none) (fault : Option Cache.WriteFault)
    (t : FileTree) : u.applyWith fault t c = u.apply t c := by
  unfold applyWith
  rw [quiet]

theorem applyWith_writing (writes : u.writing c = some (written, now))
    (fault : Option Cache.WriteFault) (t : FileTree) :
    u.applyWith fault t c = ((written.attempt t now fault).1,
      { written with dirty := !(written.attempt t now fault).2 }) := by
  unfold applyWith
  rw [writes]

theorem writing_owner (writes : u.writing c = some (written, now)) :
    SameOwner c written ∧ written.entries ⊆ c.entries ∧
      u.encoded c = [⟨written.fingerprint, written.entries⟩] := by
  cases u with
  | get now path => cases writes
  | set now path issues => cases writes
  | limitAge limit => cases writes
  | flush now =>
    cases dirty : c.dirty with
    | false =>
      rw [writing_clean now dirty] at writes
      cases writes
    | true =>
      rw [writing_flush now dirty] at writes
      cases writes
      exact ⟨⟨rfl, rfl⟩, List.Subset.refl _, if_pos dirty⟩
  | invalidateAll now =>
    cases writes
    exact ⟨⟨rfl, rfl⟩, List.nil_subset _, rfl⟩

theorem apply_quiet (quiet : u.writing c = none) (t : FileTree) :
    (u.apply t c).1 = t ∧ ((u.apply t c).2.dirty = false →
      c.dirty = false ∧ SameEntries c.entries (u.apply t c).2.entries) := by
  cases u with
  | get now path => exact ⟨rfl, sameEntries_get⟩
  | set now path issues =>
    rcases set_cases t c now path issues with same | ⟨m, put⟩
    · rw [same]
      exact ⟨rfl, fun clean => ⟨clean, .refl _⟩⟩
    · rw [put]
      refine ⟨rfl, ?_⟩
      intro clean
      cases clean
  | limitAge limit => exact ⟨rfl, fun clean => ⟨clean, .refl _⟩⟩
  | flush now =>
    rcases flush_cases t c now with same | ⟨t', dirty, -, -⟩
    · rw [same]
      exact ⟨rfl, fun clean => ⟨clean, .refl _⟩⟩
    · rw [writing_flush now dirty] at quiet
      cases quiet
  | invalidateAll now => cases quiet

theorem apply_levelled (levels : LevelledTable c.entries)
    (given : ∀ now path issues, u = .set now path issues → AtLevels issues) (t : FileTree) :
    LevelledTable (u.apply t c).2.entries := by
  cases u with
  | get now path => exact get_levelled levels t now path
  | set now path issues =>
    rcases set_cases t c now path issues with same | ⟨m, put⟩
    · rw [same]
      exact levels
    · rw [put]
      exact levels.insert (given now path issues rfl)
  | limitAge limit => exact levels
  | flush now =>
    rcases flush_cases t c now with same | ⟨t', -, -, same⟩ <;> rw [same] <;> exact levels
  | invalidateAll now =>
    rcases invalidateAll_cases t c now with same | ⟨t', -, same⟩ <;> rw [same] <;> exact .nil

theorem applyWith_failed {fault : Option Cache.WriteFault} (owned : Owned c.dir t)
    (failed : u.succeeds fault t c = some false) :
    (u.applyWith fault t c).1.openFile c.file = t.openFile c.file ∧
      (u.applyWith fault t c).2.dirty = true := by
  obtain ⟨⟨written, now⟩, writes, outcome⟩ := Option.map_eq_some_iff.mp failed
  obtain ⟨⟨samePlace, -⟩, -, -⟩ := writing_owner writes
  have sameFile : written.file = c.file := congrArg (Path.join · Cache.fileName) samePlace
  rw [applyWith_writing writes]
  obtain ⟨-, ⟨done, -⟩ | ⟨cut, reads⟩⟩ := Cache.attempt_cases (samePlace ▸ owned) now fault
  · rw [done] at outcome
    cases outcome
  · rw [sameFile] at reads
    exact ⟨reads, by simp [cut]⟩

theorem flush_clean {fault : Option Cache.WriteFault}
    (done : (CacheUse.flush now).succeeds fault t c ≠ some false) :
    ((CacheUse.flush now).applyWith fault t c).2.dirty = false := by
  unfold succeeds at done
  cases dirty : c.dirty with
  | false =>
    have quiet := writing_clean now dirty
    rw [applyWith_quiet quiet]
    rcases flush_cases t c now with same | ⟨t', wasDirty, -, -⟩
    · rw [same]
      exact dirty
    · rw [dirty] at wasDirty
      cases wasDirty
  | true =>
    have writes := writing_flush now dirty
    rw [writes] at done
    rw [applyWith_writing writes]
    simpa using done

end CacheUse

/-- The steps of a cache's life. Other programs may change any file but those of the cache. -/
inductive LifeStep where
  | use (u : CacheUse) (fault : Option Cache.WriteFault)
  | change (files : FileTree)

structure CacheLife where
  tree : FileTree
  cache : Cache
  encoded : List StoredCache := []

/-- The cache keeps issues at defined levels only, and its directory stays its own. -/
def LifeStep.Allowed (s : CacheLife) : LifeStep → Prop
  | .use (.set _ _ issues) _ => AtLevels issues
  | .use _ _ => True
  | .change files =>
    Owned s.cache.dir files ∧ files.find true s.cache.file = s.tree.find true s.cache.file

instance (s : CacheLife) : (step : LifeStep) → Decidable (step.Allowed s)
  | .use (.set _ _ _) _ => inferInstanceAs (Decidable (AtLevels _))
  | .use (.get _ _) _ => .isTrue trivial
  | .use (.limitAge _) _ => .isTrue trivial
  | .use (.flush _) _ => .isTrue trivial
  | .use (.invalidateAll _) _ => .isTrue trivial
  | .change _ => inferInstanceAs (Decidable (_ ∧ _))

namespace CacheLife

def step (s : CacheLife) : LifeStep → CacheLife
  | .use u fault =>
    { tree := (u.applyWith fault s.tree s.cache).1
      cache := (u.applyWith fault s.tree s.cache).2
      encoded := u.encoded s.cache ++ s.encoded }
  | .change files => { s with tree := files }

def after (s : CacheLife) (steps : List LifeStep) : CacheLife := steps.foldl step s

def Lawful : CacheLife → List LifeStep → Prop
  | _, [] => True
  | s, step :: rest => step.Allowed s ∧ Lawful (s.step step) rest

instance Lawful.decidable : (s : CacheLife) → (steps : List LifeStep) → Decidable (Lawful s steps)
  | _, [] => .isTrue trivial
  | s, step :: rest =>
    have := Lawful.decidable (s.step step) rest
    inferInstanceAs (Decidable (_ ∧ _))

def Readable (s : CacheLife) : Prop :=
  ∀ stored ∈ s.encoded, LevelledTable stored.entries →
    StoredCache.decode stored.encode = some stored

instance (s : CacheLife) : Decidable s.Readable :=
  inferInstanceAs (Decidable (∀ stored ∈ s.encoded, _ → _))

structure Durable (dir fingerprint : Text) (s : CacheLife) : Prop where
  owner : s.cache.dir = dir ∧ s.cache.fingerprint = fingerprint
  owned : Owned dir s.tree
  levels : LevelledTable s.cache.entries
  reopens : ∃ again, OpensAs dir fingerprint (s.tree.openFile (Path.join dir Cache.fileName)) again ∧
    (s.cache.dirty = false → SameEntries again.entries s.cache.entries)

variable {dir fingerprint : Text} {s : CacheLife}

theorem opensAs_written {written : Cache} {found : Except Failure (Option (Text × Int))} {now : Int}
    (reads : found = .ok (some (written.encoded, now)))
    (readable : StoredCache.decode written.encoded = some ⟨written.fingerprint, written.entries⟩) :
    OpensAs written.dir written.fingerprint found
      ⟨written.dir, written.fingerprint, written.entries, false, 0⟩ := by
  have offers : Cache.offered written.encoded written.fingerprint = written.entries := by
    unfold Cache.offered
    rw [readable]
    exact if_pos rfl
  rw [reads]
  have opens : OpensAs written.dir written.fingerprint (.ok (some (written.encoded, now))) _ :=
    .content written.encoded now
  rwa [offers] at opens

theorem Durable.quiet {u : CacheUse} (durable : s.Durable dir fingerprint)
    (quiet : u.writing s.cache = none)
    (given : ∀ now path issues, u = .set now path issues → AtLevels issues) (log : List StoredCache) :
    Durable dir fingerprint ⟨(u.apply s.tree s.cache).1, (u.apply s.tree s.cache).2, log⟩ := by
  obtain ⟨samePlace, sameOwner⟩ := apply_owner u s.tree s.cache
  obtain ⟨untouched, clean⟩ := CacheUse.apply_quiet quiet s.tree
  obtain ⟨again, opens, same⟩ := durable.reopens
  constructor
  · exact ⟨samePlace.trans durable.owner.1, sameOwner.trans durable.owner.2⟩
  · rw [untouched]
    exact durable.owned
  · exact CacheUse.apply_levelled durable.levels given s.tree
  · refine ⟨again, ?_, ?_⟩
    · rw [untouched]
      exact opens
    · intro still
      obtain ⟨before, alike⟩ := clean still
      exact (same before).trans alike

theorem Durable.writes {u : CacheUse} {written : Cache} {now : Int} {log : List StoredCache}
    (durable : s.Durable dir fingerprint) (writes : u.writing s.cache = some (written, now))
    (readable : Readable ⟨s.tree, s.cache, u.encoded s.cache ++ log⟩)
    (fault : Option Cache.WriteFault) :
    Durable dir fingerprint ⟨(written.attempt s.tree now fault).1,
      { written with dirty := !(written.attempt s.tree now fault).2 }, u.encoded s.cache ++ log⟩ := by
  obtain ⟨⟨samePlace, sameOwner⟩, subset, logged⟩ := CacheUse.writing_owner writes
  obtain ⟨rfl, rfl⟩ : written.dir = dir ∧ written.fingerprint = fingerprint :=
    ⟨samePlace.trans durable.owner.1, sameOwner.trans durable.owner.2⟩
  have levels : LevelledTable written.entries := fun p member => durable.levels p (subset member)
  obtain ⟨owned, outcome⟩ := Cache.attempt_cases durable.owned now fault
  constructor
  · exact ⟨rfl, rfl⟩
  · exact owned
  · exact levels
  · rcases outcome with ⟨done, reads⟩ | ⟨failed, reads⟩
    · have kept := readable ⟨written.fingerprint, written.entries⟩ (by simp [logged]) levels
      exact ⟨_, opensAs_written reads kept, fun _ => .refl _⟩
    · obtain ⟨again, opens, -⟩ := durable.reopens
      refine ⟨again, ?_, ?_⟩
      · rw [show (written.attempt s.tree now fault).1.openFile (Path.join written.dir Cache.fileName)
          = _ from reads]
        exact opens
      · intro clean
        rw [failed] at clean
        cases clean

theorem Durable.step {st : LifeStep} (durable : s.Durable dir fingerprint) (allowed : st.Allowed s)
    (readable : (s.step st).Readable) : (s.step st).Durable dir fingerprint := by
  cases st with
  | change files =>
    obtain ⟨owned, same⟩ := allowed
    obtain ⟨again, opens, entries⟩ := durable.reopens
    obtain ⟨rfl, rfl⟩ := durable.owner
    have reads : files.openFile s.cache.file = s.tree.openFile s.cache.file := by
      unfold FileTree.openFile
      rw [same]
    refine ⟨⟨rfl, rfl⟩, owned, durable.levels, again, ?_, entries⟩
    rw [show (s.step (.change files)).tree.openFile (Path.join s.cache.dir Cache.fileName) = _
      from reads]
    exact opens
  | use u fault =>
    unfold CacheLife.step at readable ⊢
    dsimp only at readable ⊢
    cases writes : u.writing s.cache with
    | none =>
      rw [CacheUse.applyWith_quiet writes]
      refine durable.quiet writes ?_ _
      intro now path issues isSet
      subst isSet
      exact allowed
    | some write =>
      obtain ⟨written, now⟩ := write
      rw [CacheUse.applyWith_writing writes]
      exact durable.writes writes readable fault

theorem encoded_step (s : CacheLife) (st : LifeStep) : s.encoded ⊆ (s.step st).encoded := by
  cases st with
  | use u fault => exact List.subset_append_right _ _
  | change files => exact List.Subset.refl _

theorem encoded_after (s : CacheLife) (steps : List LifeStep) :
    s.encoded ⊆ (s.after steps).encoded := by
  induction steps generalizing s with
  | nil => exact List.Subset.refl _
  | cons st rest ih => exact List.Subset.trans (encoded_step s st) (ih (s.step st))

theorem Durable.after {steps : List LifeStep} (durable : s.Durable dir fingerprint)
    (lawful : Lawful s steps) (readable : (s.after steps).Readable) :
    (s.after steps).Durable dir fingerprint := by
  induction steps generalizing s with
  | nil => exact durable
  | cons st rest ih =>
    refine ih (durable.step lawful.1 ?_) lawful.2 readable
    intro stored member
    exact readable stored (encoded_after (s.step st) rest member)

theorem after_last (s : CacheLife) (before : List LifeStep) (st : LifeStep) :
    s.after (before ++ [st]) = (s.after before).step st := by
  unfold after
  rw [List.foldl_append]
  rfl

theorem lawful_append {before rest : List LifeStep} (lawful : Lawful s (before ++ rest)) :
    Lawful s before := by
  induction before generalizing s with
  | nil => trivial
  | cons st before ih => exact ⟨lawful.1, ih lawful.2⟩

theorem Durable.again (durable : s.Durable dir fingerprint) (clean : s.cache.dirty = false) :
    ∃ again, Cache.load s.tree dir fingerprint = .ok (s.tree, again) ∧ again.maxAge = 0 ∧
      SameEntries again.entries s.cache.entries := by
  obtain ⟨again, opens, same⟩ := durable.reopens
  exact ⟨again, opensAs_load durable.owned.stands opens, opens.unlimited, same clean⟩

end CacheLife

/-- Two caches answer every look-up alike once the first has the age limit of the second, and
    without that for every entry that is not past the limit. -/
def AnswersAlike (again c : Cache) : Prop :=
  ∀ files now path,
    (Cache.get { again with maxAge := c.maxAge } files now path).2 = (c.get files now path).2 ∧
      ((∀ entry ∈ c.entries.get? path, c.isExpired now entry = false) →
        (again.get files now path).2 = (c.get files now path).2)

theorem answersAlike_of_same {again c : Cache} (unlimited : again.maxAge = 0)
    (same : SameEntries again.entries c.entries) : AnswersAlike again c := by
  intro files now path
  constructor
  · exact get_alike same fun _ _ => rfl
  · intro young
    refine get_alike same fun entry found => ?_
    rw [young entry found]
    simp [Cache.isExpired, unlimited]

/-- Whenever the cache is not dirty, its entries can be had back from its directory. A write that fails
    leaves the cache file as it was and the cache dirty; a flush that does not fail leaves it clean. -/
theorem clean_means_durable {t₀ t : FileTree} {dir fingerprint : Text} {c : Cache}
    {steps : List LifeStep} (opened : Cache.load t₀ dir fingerprint = .ok (t, c))
    (owned : Owned dir t) (lawful : CacheLife.Lawful ⟨t, c, []⟩ steps)
    (readable : (CacheLife.after ⟨t, c, []⟩ steps).Readable) :
    let s := CacheLife.after ⟨t, c, []⟩ steps
    (s.cache.dirty = false → ∃ again, Cache.load s.tree dir fingerprint = .ok (s.tree, again) ∧
      SameEntries again.entries s.cache.entries) ∧
    ∀ before u fault, steps = before ++ [.use u fault] →
      let s' := CacheLife.after ⟨t, c, []⟩ before
      (u.succeeds fault s'.tree s'.cache = some false →
        s.tree.openFile c.file = s'.tree.openFile c.file ∧ s.cache.dirty = true) ∧
      ∀ now, u = .flush now → u.succeeds fault s'.tree s'.cache ≠ some false →
        s.cache.dirty = false ∧
          ∃ again, Cache.load s.tree dir fingerprint = .ok (s.tree, again) ∧
            AnswersAlike again s.cache := by
  intro s
  obtain ⟨place, owner, -⟩ := load_ok opened
  have opens := load_opensAs opened
  have start : CacheLife.Durable dir fingerprint ⟨t, c, []⟩ :=
    ⟨⟨place, owner⟩, owned, opens.levelled, c, opens, fun _ => .refl _⟩
  have durable := start.after lawful readable
  constructor
  · intro clean
    obtain ⟨again, loads, -, same⟩ := durable.again clean
    exact ⟨again, loads, same⟩
  · intro before u fault last s'
    have reached : s = s'.step (.use u fault) := by
      change CacheLife.after _ steps = _
      rw [last, CacheLife.after_last]
    have grown : s'.encoded ⊆ s.encoded := by
      rw [reached]
      exact CacheLife.encoded_step s' _
    have earlier : s'.Durable dir fingerprint := by
      refine start.after (CacheLife.lawful_append (last ▸ lawful)) ?_
      intro stored member
      exact readable stored (grown member)
    have sameFile : s'.cache.file = c.file :=
      congrArg (Path.join · Cache.fileName) (earlier.owner.1.trans place.symm)
    constructor
    · intro failed
      have kept := CacheUse.applyWith_failed (earlier.owner.1.symm ▸ earlier.owned) failed
      rw [sameFile] at kept
      rw [reached]
      exact kept
    · intro now isFlush done
      have clean : s.cache.dirty = false := by
        subst isFlush
        rw [reached]
        exact CacheUse.flush_clean done
      obtain ⟨again, loads, unlimited, same⟩ := durable.again clean
      exact ⟨clean, again, loads, answersAlike_of_same unlimited same⟩

def damagedStart : CacheLife where
  tree := ((FileTree.empty.set [utf8 "c"] .directory).set [utf8 "c", Cache.fileName]
    (.file [0xc1] 1)).set [utf8 "A"] (.file (utf8 "class A ;") 1)
  cache := ⟨utf8 "/c", utf8 "settings", [], false, 0⟩

/-- A file changes, an entry expires, and a write fails at each of its three places. -/
def troubledLife : List LifeStep :=
  [.use (.set 2 (utf8 "/A") []) none,
    .change (damagedStart.tree.set [utf8 "A"] (.file (utf8 "enum A ;") 3)),
    .use (.get 4 (utf8 "/A")) none, .use (.set 5 (utf8 "/A") []) none,
    .use (.flush 6) (some (.fill 7)), .use (.flush 7) none, .use (.get 8 (utf8 "/A")) none,
    .use (.limitAge 2) none, .use (.get 9 (utf8 "/A")) none, .use (.flush 10) (some .rename),
    .use (.invalidateAll 11) (some .create), .use (.flush 12) none,
    .use (.set 13 (utf8 "/A") []) none]

theorem clean_means_durable_troubled :
    (List.range 14).map (fun n => (damagedStart.after (troubledLife.take n)).cache.dirty) =
        [false, true, true, true, true, true, false, false, false, true, true, true, false, true] ∧
      ∃ again, Cache.load (damagedStart.after (troubledLife ++ [.use (.flush 14) none])).tree
          (utf8 "/c") (utf8 "settings") =
            .ok ((damagedStart.after (troubledLife ++ [.use (.flush 14) none])).tree, again) ∧
        AnswersAlike again (damagedStart.after (troubledLife ++ [.use (.flush 14) none])).cache := by
  have opened : Cache.load damagedStart.tree (utf8 "/c") (utf8 "settings") =
      .ok (damagedStart.tree, damagedStart.cache) :=
    opensAs_load (by decide +kernel) (.content [0xc1] 1)
  have lawful : CacheLife.Lawful damagedStart (troubledLife ++ [.use (.flush 14) none]) := by
    decide +kernel
  have results := clean_means_durable opened (by decide +kernel) lawful (by decide +kernel)
  refine ⟨by decide +kernel, ?_⟩
  exact ((results.2 troubledLife (.flush 14) none rfl).2 14 rfl (by decide +kernel)).2

/-- A cache that was opened again after a flush does not know the age limit of the first. -/
theorem age_limit_not_stored :
    let s := damagedStart.after
      [.use (.set 2 (utf8 "/A") []) none, .use (.limitAge 1) none, .use (.flush 3) none]
    s.cache.dirty = false ∧ (s.cache.get s.tree 9 (utf8 "/A")).2 = none ∧
      ∃ again, Cache.load s.tree (utf8 "/c") (utf8 "settings") = .ok (s.tree, again) ∧
        (again.get s.tree 9 (utf8 "/A")).2 = some [] := by
  intro s
  have found : s.tree.find true s.cache.file = .ok (.file s.cache.encoded 3) := by decide +kernel
  have reads : s.tree.openFile s.cache.file = .ok (some (s.cache.encoded, 3)) := by
    unfold FileTree.openFile
    rw [found]
  have opens := CacheLife.opensAs_written reads (by decide +kernel)
  have loads := opensAs_load (by decide +kernel) opens
  exact ⟨by decide +kernel, by decide +kernel, _, loads, by decide +kernel⟩

end JavadocLint
