import Mathlib
import JavadocLint.Engine.Basic
import JavadocLint.Proofs.CacheSave

/- Honest caches. An entry is honest if it tells the issues of some content that has the digest it
   holds. Looking up, running the engine, and saving and loading keep every entry honest, and a run
   with an honest cache gives what a run without a cache gives. -/
namespace JavadocLint

def cacheBytes (t : FileTree) (dir : Text) : Option Text :=
  match t.openFile (Path.join dir Cache.fileName) with
  | .ok (some (content, _)) => some content
  | _ => none

/-- The cache file stays as it is, goes away, or is damaged: bytes that decode do not turn up. -/
def KeepsCacheFile (dir : Text) (before later : FileTree) : Prop :=
  cacheBytes later dir = cacheBytes before dir ∨
    ∀ bytes ∈ cacheBytes later dir, StoredCache.decode bytes = none

def CollisionFree (contents : List Text) : Prop :=
  ∀ a ∈ contents, ∀ b ∈ contents, Md5.hexDigest a = Md5.hexDigest b → a = b

def StoredCache.Faithful (stored : StoredCache) : Prop :=
  ∀ decoded ∈ StoredCache.decode stored.encode, decoded = stored

/-- An entry tells the issues of a known content that has its digest. -/
def CacheEntry.Honest (e : Engine) (known : List Text) (path : Text) (entry : CacheEntry) : Prop :=
  ∃ content ∈ known, Md5.hexDigest content = entry.metadata.hash ∧
    e.check path (sourceLines content) = .ok entry.issues

def HonestTable (e : Engine) (known : List Text) (entries : Table CacheEntry) : Prop :=
  ∀ p ∈ entries, p.2.Honest e known p.1

instance (dir : Text) (before later : FileTree) : Decidable (KeepsCacheFile dir before later) :=
  inferInstanceAs (Decidable (_ ∨ _))

instance (contents : List Text) : Decidable (CollisionFree contents) :=
  inferInstanceAs (Decidable (∀ a ∈ contents, ∀ b ∈ contents, _ → _))

instance (stored : StoredCache) : Decidable stored.Faithful :=
  inferInstanceAs (Decidable (∀ decoded ∈ _, decoded = stored))

section Tables

variable {α : Type} {t : Table α} {name : Text} {value : α} {p : Text × α}

theorem Table.mem_of_get? (found : t.get? name = some value) : (name, value) ∈ t := by
  simp only [Table.get?, Option.map_eq_some_iff] at found
  obtain ⟨⟨key, other⟩, first, rfl⟩ := found
  have same := List.find?_some first
  simp only [decide_eq_true_eq] at same
  exact same ▸ List.mem_of_find?_eq_some first

theorem Table.mem_insert (member : p ∈ t.insert name value) : p = (name, value) ∨ p ∈ t := by
  induction t with
  | nil => simpa [Table.insert] using member
  | cons first rest ih =>
    obtain ⟨key, other⟩ := first
    simp only [Table.insert] at member
    split at member
    · rcases List.mem_cons.mp member with new | old
      · exact .inl new
      · exact .inr (List.mem_cons_of_mem _ old)
    · split at member
      · rcases List.mem_cons.mp member with new | old
        · exact .inl new
        · exact .inr old
      · rcases List.mem_cons.mp member with head | tail
        · exact .inr (head ▸ List.mem_cons_self)
        · rcases ih tail with new | old
          · exact .inl new
          · exact .inr (List.mem_cons_of_mem _ old)

theorem Table.mem_erase (member : p ∈ t.erase name) : p ∈ t := (List.mem_filter.mp member).1

theorem Table.get?_cons (first : Text × α) (t : Table α) (name : Text) :
    Table.get? (first :: t) name = if first.1 = name then some first.2 else Table.get? t name := by
  unfold Table.get?
  rw [List.find?_cons]
  by_cases same : first.1 = name <;> simp [same]

theorem Table.get?_insert (t : Table α) (name : Text) (value : α) (other : Text) :
    Table.get? (t.insert name value) other = if name = other then some value else t.get? other := by
  induction t with
  | nil => exact Table.get?_cons (name, value) [] other
  | cons first rest ih =>
    obtain ⟨key, old⟩ := first
    unfold Table.insert
    split
    · rename_i same
      rw [Table.get?_cons, Table.get?_cons, same]
      dsimp only
      split <;> rfl
    · rename_i different
      split
      · exact Table.get?_cons (name, value) _ other
      · rw [Table.get?_cons, Table.get?_cons, ih]
        dsimp only
        by_cases here : key = other
        · rw [if_pos here, if_pos here, if_neg (here ▸ different)]
        · rw [if_neg here, if_neg here]

theorem Table.get?_erase (t : Table α) (name other : Text) :
    Table.get? (t.erase name) other = if name = other then none else t.get? other := by
  induction t with
  | nil => simp [Table.erase, Table.get?]
  | cons first rest ih =>
    unfold Table.erase at ih ⊢
    rw [List.filter_cons]
    by_cases same : first.1 = name
    · rw [if_neg (by simpa using same), ih, Table.get?_cons]
      by_cases here : name = other
      · rw [if_pos here, if_pos here]
      · rw [if_neg here, if_neg here, if_neg (same ▸ here)]
    · rw [if_pos (by simpa using same), Table.get?_cons, Table.get?_cons, ih]
      by_cases here : first.1 = other
      · rw [if_pos here, if_pos here, if_neg (fun named => same (here.trans named.symm))]
      · rw [if_neg here, if_neg here]

end Tables

section Honesty

variable {e : Engine} {known more : List Text} {entries : Table CacheEntry} {path : Text}

theorem HonestTable.mono (honest : HonestTable e known entries) (subset : known ⊆ more) :
    HonestTable e more entries := by
  intro p member
  obtain ⟨content, there, digest, checked⟩ := honest p member
  exact ⟨content, subset there, digest, checked⟩

theorem HonestTable.insert {entry : CacheEntry} (honest : HonestTable e known entries)
    (new : entry.Honest e known path) : HonestTable e known (entries.insert path entry) := by
  intro p member
  rcases Table.mem_insert member with rfl | old
  · exact new
  · exact honest p old

theorem HonestTable.erase (honest : HonestTable e known entries) :
    HonestTable e known (entries.erase path) := fun p member => honest p (Table.mem_erase member)

theorem HonestTable.nil : HonestTable e known [] := by
  intro p member
  cases member

end Honesty

section Runs

variable {e : Engine} {t : FileTree} {now : Int} {c : Cache} {path : Text} {known : List Text}

theorem read_of_openFile {content : Text} {modified : Int}
    (opened : t.openFile path = .ok (some (content, modified))) : t.read path = .ok content := by
  unfold FileTree.read
  rw [opened]
  rfl

theorem openFile_of_read {content : Text} (read : t.read path = .ok content) :
    ∃ modified, t.openFile path = .ok (some (content, modified)) := by
  unfold FileTree.read at read
  cases opened : t.openFile path with
  | error f =>
    rw [opened] at read
    cases read
  | ok file =>
    cases file with
    | none =>
      rw [opened] at read
      cases read
    | some file =>
      rw [opened] at read
      cases read
      exact ⟨file.2, rfl⟩

theorem checkFile_of_read {content : Text} (read : t.read path = .ok content) :
    e.checkFile t path = e.check path (sourceLines content) := by
  unfold Engine.checkFile
  rw [read]
  rfl

theorem checkFile_fails {f : Failure} (unread : t.read path = .error f) :
    ∃ g, e.checkFile t path = .error g := by
  unfold Engine.checkFile
  rw [unread]
  exact ⟨_, rfl⟩

theorem current_content {entry : CacheEntry} (current : c.isCurrent t now path entry = true) :
    ∃ content, t.read path = .ok content ∧ Md5.hexDigest content = entry.metadata.hash := by
  simp only [Cache.isCurrent, Bool.and_eq_true] at current
  have matched := current.2
  unfold fileMetadata at matched
  split at matched
  · rename_i m found
    split at found
    · rename_i content modified opened
      cases found
      simp only [decide_eq_true_eq] at matched
      exact ⟨content, read_of_openFile opened, congrArg FileMetadata.hash matched⟩
    · cases found
    · cases found
  · cases matched

theorem current_issues {entry : CacheEntry} (honest : entry.Honest e known path)
    (current : c.isCurrent t now path entry = true)
    (collisionFree : CollisionFree ((t.read path).toOption.toList ++ known)) :
    e.checkFile t path = .ok entry.issues := by
  obtain ⟨content, read, digest⟩ := current_content current
  obtain ⟨other, member, same, checked⟩ := honest
  rw [read] at collisionFree
  have eq : content = other :=
    collisionFree content (by simp [Except.toOption]) other (by simp [member])
      (digest.trans same.symm)
  rw [checkFile_of_read read, eq, checked]

def SameOwner (c c' : Cache) : Prop := c'.dir = c.dir ∧ c'.fingerprint = c.fingerprint

theorem refill_agrees (honest : HonestTable e known c.entries) (t : FileTree) (now : Int)
    (path : Text) :
    (e.refill t now c path).1 = e.checkFile t path ∧ SameOwner c (e.refill t now c path).2 ∧
      HonestTable e ((t.read path).toOption.toList ++ known) (e.refill t now c path).2.entries := by
  have kept : HonestTable e ((t.read path).toOption.toList ++ known) c.entries :=
    honest.mono (List.subset_append_right _ _)
  unfold Engine.refill
  cases checked : e.checkFile t path with
  | error f => exact ⟨rfl, ⟨rfl, rfl⟩, kept⟩
  | ok issues =>
    cases read : t.read path with
    | error f =>
      obtain ⟨g, fails⟩ := checkFile_fails (e := e) read
      rw [fails] at checked
      cases checked
    | ok content =>
      obtain ⟨modified, opened⟩ := openFile_of_read read
      have stored : c.set t now path issues =
          .ok (c.put now path ⟨Md5.hexDigest content, modified⟩ issues) := by
        unfold Cache.set fileMetadata
        rw [opened]
        rfl
      dsimp only
      rw [stored]
      refine ⟨rfl, ⟨rfl, rfl⟩, ?_⟩
      rw [read] at kept
      refine kept.insert ⟨content, by simp [Except.toOption], rfl, ?_⟩
      rw [← checked, checkFile_of_read read]

theorem get_owner (c : Cache) (t : FileTree) (now : Int) (path : Text) :
    SameOwner c (c.get t now path).1 := by
  unfold Cache.get
  split
  · exact ⟨rfl, rfl⟩
  · split <;> exact ⟨rfl, rfl⟩

theorem get_honest (honest : HonestTable e known c.entries) (t : FileTree) (now : Int)
    (path : Text) : HonestTable e known (c.get t now path).1.entries := by
  unfold Cache.get
  split
  · exact honest
  · rename_i entry found
    split
    · exact honest.insert (honest _ (Table.mem_of_get? found))
    · exact honest.erase

theorem get_agrees (honest : HonestTable e known c.entries)
    (collisionFree : CollisionFree ((t.read path).toOption.toList ++ known)) :
    ∀ issues ∈ (c.get t now path).2, e.checkFile t path = .ok issues := by
  intro issues hit
  unfold Cache.get at hit
  split at hit
  · cases hit
  · rename_i entry found
    split at hit
    · rename_i current
      cases hit
      exact current_issues (honest _ (Table.mem_of_get? found)) current collisionFree
    · cases hit

/-- A run with an honest cache gives what a run without a cache gives, and leaves it honest. -/
theorem run_agrees (honest : HonestTable e known c.entries)
    (collisionFree : CollisionFree ((t.read path).toOption.toList ++ known)) :
    (e.run t now (some c) path).1 = (e.run t now none path).1 ∧
      ∀ c' ∈ (e.run t now (some c) path).2, SameOwner c c' ∧
        HonestTable e ((t.read path).toOption.toList ++ known) c'.entries := by
  have wider : known ⊆ (t.read path).toOption.toList ++ known := List.subset_append_right _ _
  unfold Engine.run
  by_cases ignored : e.isIgnoredPath path = true
  · simp only [ignored, if_true]
    refine ⟨trivial, ?_⟩
    rintro c' ⟨⟩
    exact ⟨⟨rfl, rfl⟩, honest.mono wider⟩
  · simp only [ignored, Bool.false_eq_true, if_false]
    have hit := @get_agrees e t now c path known honest collisionFree
    have owner := get_owner c t now path
    have still := get_honest honest t now path
    cases found : c.get t now path with
    | mk c₁ result =>
      rw [found] at hit owner still
      cases result with
      | some issues =>
        refine ⟨(hit issues rfl).symm, ?_⟩
        rintro c' ⟨⟩
        exact ⟨owner, still.mono wider⟩
      | none =>
        obtain ⟨same, refilled, filled⟩ := refill_agrees still t now path
        refine ⟨same, ?_⟩
        rintro c' ⟨⟩
        exact ⟨⟨refilled.1.trans owner.1, refilled.2.trans owner.2⟩, filled⟩

end Runs

section Disk

variable {e : Engine} {dir : Text} {t t' : FileTree} {c : Cache} {known : List Text}

theorem cacheBytes_saved {now : Int} (done : c.save t now = .ok t') :
    ∀ bytes ∈ cacheBytes t' c.dir, bytes = StoredCache.encode ⟨c.fingerprint, c.entries⟩ := by
  intro bytes found
  unfold cacheBytes at found
  rcases Cache.save_openFile done with opened | ⟨f, failed⟩
  · rw [show t'.openFile (Path.join c.dir Cache.fileName) = _ from opened] at found
    exact (Option.some.inj found).symm
  · rw [show t'.openFile (Path.join c.dir Cache.fileName) = _ from failed] at found
    cases found

theorem offered_encoded {stored : StoredCache} (faithful : stored.Faithful) (fingerprint : Text) :
    ∀ p ∈ Cache.offered stored.encode fingerprint,
      stored.fingerprint = fingerprint ∧ p ∈ stored.entries := by
  intro p member
  unfold Cache.offered at member
  cases decoded : StoredCache.decode stored.encode with
  | none =>
    rw [decoded] at member
    cases member
  | some other =>
    rw [decoded, faithful other decoded] at member
    dsimp only at member
    split at member
    · exact ⟨‹_›, member⟩
    · cases member

theorem offered_undecodable {bytes : Text} (damaged : StoredCache.decode bytes = none)
    (fingerprint : Text) : Cache.offered bytes fingerprint = [] := by
  unfold Cache.offered
  rw [damaged]

theorem honest_kept (kept : KeepsCacheFile dir t t')
    (disk : ∀ bytes ∈ cacheBytes t dir, HonestTable e known (Cache.offered bytes e.fingerprint)) :
    ∀ bytes ∈ cacheBytes t' dir, HonestTable e known (Cache.offered bytes e.fingerprint) := by
  intro bytes found
  rcases kept with same | damaged
  · exact disk bytes (same ▸ found)
  · rw [offered_undecodable (damaged bytes found)]
    exact .nil

theorem load_ok {fingerprint : Text} {opened : FileTree × Cache}
    (done : Cache.load t dir fingerprint = .ok opened) :
    opened.2.dir = dir ∧ opened.2.fingerprint = fingerprint ∧
      ∀ p ∈ opened.2.entries, ∃ bytes ∈ cacheBytes opened.1 dir,
        p ∈ Cache.offered bytes fingerprint := by
  unfold Cache.load at done
  cases made : t.makeDirectories dir with
  | error f =>
    rw [made] at done
    cases done
  | ok t₁ =>
    rw [made] at done
    dsimp only [bind, Except.bind, Except.mapError, Cache.file] at done
    split at done
    · rename_i content modified found
      cases done
      refine ⟨rfl, rfl, fun p member => ⟨content, ?_, member⟩⟩
      simp [cacheBytes, found]
    · cases done
      exact ⟨rfl, rfl, fun p member => by cases member⟩
    · cases done
      exact ⟨rfl, rfl, fun p member => by cases member⟩
    · cases done

end Disk

end JavadocLint
