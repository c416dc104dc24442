import Mathlib
import JavadocLint.Proofs.CacheHonesty
import JavadocLint.Proofs.SettingsText

/- What a cache that is opened gives back. Its entries come from the cache file, if that can be read
   and is of the same settings, and hold issues at defined levels only. Look-ups answer by the
   metadata, issues and creation times of the entries and by the age limit, which is not part of the
   cache file. -/
namespace JavadocLint

section Levels

instance : (s : Severity) → Decidable s.IsLevel
  | .error => .isTrue trivial
  | .warning => .isTrue trivial
  | .info => .isTrue trivial
  | .off => .isTrue trivial
  | .other _ => .isFalse id

def AtLevels (issues : List Issue) : Prop := ∀ i ∈ issues, i.severity.IsLevel

def LevelledTable (entries : Table CacheEntry) : Prop := ∀ p ∈ entries, AtLevels p.2.issues

instance (issues : List Issue) : Decidable (AtLevels issues) :=
  inferInstanceAs (Decidable (∀ i ∈ issues, _))

instance (entries : Table CacheEntry) : Decidable (LevelledTable entries) :=
  inferInstanceAs (Decidable (∀ p ∈ entries, _))

theorem parse_isLevel {t : Text} {s : Severity} (read : Severity.parse t = .ok s) : s.IsLevel := by
  simp only [Severity.parse] at read
  split at read
  · cases read
    trivial
  split at read
  · cases read
    trivial
  split at read
  · cases read
    trivial
  split at read
  · cases read
    trivial
  · cases read

theorem severity_isLevel {p : Packed} {s : Severity} (read : Severity.ofPacked? p = some s) :
    s.IsLevel := by
  unfold Severity.ofPacked? at read
  split at read
  · cases read
    trivial
  · simp only [Option.bind_eq_bind, Option.bind_eq_some_iff] at read
    obtain ⟨t, -, parsed⟩ := read
    cases word : Severity.parse t with
    | error f =>
      rw [word] at parsed
      cases parsed
    | ok level =>
      rw [word] at parsed
      cases parsed
      exact parse_isLevel word

theorem forall_of_mapM {α β : Type} {f : α → Option β} {P : β → Prop}
    (each : ∀ a b, f a = some b → P b) {items : List α} {results : List β}
    (done : items.mapM f = some results) : ∀ b ∈ results, P b := by
  induction items generalizing results with
  | nil =>
    cases done
    intro b member
    cases member
  | cons a rest ih =>
    simp only [List.mapM_cons, Option.bind_eq_bind, Option.bind_eq_some_iff] at done
    obtain ⟨first, head, others, tail, whole⟩ := done
    cases whole
    intro b member
    rcases List.mem_cons.mp member with same | later
    · exact same ▸ each a first head
    · exact ih tail b later

theorem issue_isLevel {p : Packed} {i : Issue} (read : Issue.ofPacked? p = some i) :
    i.severity.IsLevel := by
  simp only [Issue.ofPacked?, Option.bind_eq_bind, Option.bind_eq_some_iff] at read
  obtain ⟨_, -, _, -, _, -, _, -, _, -, _, -, _, -, _, -, _, -, level, found, whole⟩ := read
  cases whole
  exact severity_isLevel found

theorem entry_atLevels {p : Packed} {entry : CacheEntry} (read : CacheEntry.ofPacked? p = some entry) :
    AtLevels entry.issues := by
  simp only [CacheEntry.ofPacked?, Option.bind_eq_bind, Option.bind_eq_some_iff] at read
  obtain ⟨_, -, items, -, _, -, issues, found, _, -, _, -, whole⟩ := read
  cases whole
  exact forall_of_mapM (fun _ _ => issue_isLevel) found

theorem LevelledTable.insert {entries : Table CacheEntry} {path : Text} {entry : CacheEntry}
    (levels : LevelledTable entries) (new : AtLevels entry.issues) :
    LevelledTable (entries.insert path entry) := by
  intro p member
  rcases Table.mem_insert member with same | old
  · exact same ▸ new
  · exact levels p old

theorem LevelledTable.nil : LevelledTable [] := by
  intro p member
  cases member

theorem LevelledTable.insertAll {rest : List (Text × CacheEntry)} {table : Table CacheEntry}
    (levels : LevelledTable rest) (filled : LevelledTable table) :
    LevelledTable (rest.foldl (fun t e => Table.insert e.1 e.2 t) table) := by
  induction rest generalizing table with
  | nil => exact filled
  | cons e rest ih =>
    refine ih (fun p member => levels p (List.mem_cons_of_mem _ member)) ?_
    exact LevelledTable.insert filled (levels e List.mem_cons_self)

theorem LevelledTable.ofList {entries : List (Text × CacheEntry)}
    (levels : LevelledTable entries) : LevelledTable (Table.ofList entries) :=
  LevelledTable.insertAll levels .nil

theorem decode_levelled {bytes : Text} {stored : StoredCache}
    (decoded : StoredCache.decode bytes = some stored) : LevelledTable stored.entries := by
  simp only [StoredCache.decode, StoredCache.ofPacked?, Option.bind_eq_bind,
    Option.bind_eq_some_iff] at decoded
  obtain ⟨p, -, _, -, _, -, entries, found, _, -, whole⟩ := decoded
  cases whole
  refine LevelledTable.ofList (forall_of_mapM ?_ found)
  intro field named read
  simp only [Option.bind_eq_some_iff] at read
  obtain ⟨_, -, entry, loaded, whole⟩ := read
  cases whole
  exact entry_atLevels loaded

theorem offered_levelled (content fingerprint : Text) :
    LevelledTable (Cache.offered content fingerprint) := by
  unfold Cache.offered
  split
  · split
    · exact decode_levelled ‹_›
    · exact .nil
  · exact .nil

end Levels

section Answers

/-- What of an entry counts: all but the time of the last look-up. -/
def CacheEntry.lasting (entry : CacheEntry) : FileMetadata × List Issue × Int :=
  (entry.metadata, entry.issues, entry.createdAt)

def SameEntries (a b : Table CacheEntry) : Prop :=
  ∀ path, (a.get? path).map CacheEntry.lasting = (b.get? path).map CacheEntry.lasting

theorem SameEntries.refl (entries : Table CacheEntry) : SameEntries entries entries := by
  intro path
  rfl

theorem SameEntries.trans {a b c : Table CacheEntry} (first : SameEntries a b)
    (second : SameEntries b c) : SameEntries a c := by
  intro path
  exact (first path).trans (second path)

variable {c : Cache} {t : FileTree} {now : Int} {path : Text}

theorem get_answer (c : Cache) (t : FileTree) (now : Int) (path : Text) :
    (c.get t now path).2 =
      ((c.entries.get? path).filter (c.isCurrent t now path)).map CacheEntry.issues := by
  unfold Cache.get
  cases c.entries.get? path with
  | none => rfl
  | some entry =>
    dsimp only
    rw [Option.filter_some]
    split <;> rfl

theorem get_alike {other : Cache} (same : SameEntries other.entries c.entries)
    (ages : ∀ entry ∈ c.entries.get? path, other.isExpired now entry = c.isExpired now entry) :
    (other.get t now path).2 = (c.get t now path).2 := by
  rw [get_answer, get_answer]
  have here := same path
  cases mine : c.entries.get? path with
  | none =>
    rw [mine] at here
    rw [Option.map_eq_none_iff.mp here]
    rfl
  | some entry =>
    rw [mine] at here
    obtain ⟨found, theirs, alike⟩ := Option.map_eq_some_iff.mp here
    have metadata : found.metadata = entry.metadata := congrArg (·.1) alike
    have issues : found.issues = entry.issues := congrArg (·.2.1) alike
    have created : found.createdAt = entry.createdAt := congrArg (·.2.2) alike
    have current : other.isCurrent t now path found = c.isCurrent t now path entry := by
      have aged := ages entry mine
      unfold Cache.isExpired at aged
      unfold Cache.isCurrent Cache.isExpired
      rw [created, aged, metadata]
    rw [theirs, Option.filter_some, Option.filter_some, current]
    split
    · exact congrArg some issues
    · rfl

theorem sameEntries_get (hit : (c.get t now path).1.dirty = false) :
    c.dirty = false ∧ SameEntries c.entries (c.get t now path).1.entries := by
  unfold Cache.get at hit ⊢
  cases found : c.entries.get? path with
  | none =>
    rw [found] at hit
    exact ⟨hit, .refl _⟩
  | some entry =>
    rw [found] at hit
    dsimp only at hit ⊢
    by_cases current : c.isCurrent t now path entry = true
    · rw [if_pos current] at hit ⊢
      refine ⟨hit, fun other => ?_⟩
      dsimp only
      rw [Table.get?_insert]
      by_cases here : path = other
      · rw [if_pos here, ← here, found]
        rfl
      · rw [if_neg here]
    · rw [if_neg current] at hit
      cases hit

theorem get_levelled (levels : LevelledTable c.entries) (t : FileTree) (now : Int) (path : Text) :
    LevelledTable (c.get t now path).1.entries := by
  unfold Cache.get
  split
  · exact levels
  · rename_i entry found
    split
    · exact levels.insert (levels _ (Table.mem_of_get? found))
    · intro p member
      exact levels p (Table.mem_erase member)

end Answers

section Reopening

variable {t : FileTree} {dir fingerprint : Text} {c : Cache}

inductive OpensAs (dir fingerprint : Text) :
    Except Failure (Option (Text × Int)) → Cache → Prop where
  | content (bytes : Text) (modified : Int) :
    OpensAs dir fingerprint (.ok (some (bytes, modified)))
      ⟨dir, fingerprint, Cache.offered bytes fingerprint, false, 0⟩
  | directory : OpensAs dir fingerprint (.ok none) ⟨dir, fingerprint, [], false, 0⟩
  | missing (operation : FileOperation) (path : Text) :
    OpensAs dir fingerprint (.error (.file operation path .notFound)) ⟨dir, fingerprint, [], false, 0⟩

theorem load_opensAs {opened : FileTree × Cache}
    (done : Cache.load t dir fingerprint = .ok opened) :
    OpensAs dir fingerprint (opened.1.openFile (Path.join dir Cache.fileName)) opened.2 := by
  unfold Cache.load at done
  cases made : t.makeDirectories dir with
  | error f =>
    rw [made] at done
    cases done
  | ok t₁ =>
    rw [made] at done
    dsimp only [bind, Except.bind, Except.mapError, Cache.file] at done
    split at done
    · rename_i found
      cases done
      exact found ▸ .content _ _
    · rename_i found
      cases done
      exact found ▸ .directory
    · rename_i found
      cases done
      exact found ▸ .missing _ _
    · cases done

theorem opensAs_load (stands : t.find true dir = .ok .directory)
    (opens : OpensAs dir fingerprint (t.openFile (Path.join dir Cache.fileName)) c) :
    Cache.load t dir fingerprint = .ok (t, c) := by
  have made : t.makeDirectories dir = .ok t := by
    unfold FileTree.makeDirectories FileTree.makeDirectoriesFrom
    rw [stands]
  unfold Cache.load
  rw [made]
  dsimp only [bind, Except.bind, Except.mapError, Cache.file]
  generalize t.openFile (Path.join dir Cache.fileName) = found at opens ⊢
  cases opens <;> rfl

theorem OpensAs.levelled {found : Except Failure (Option (Text × Int))}
    (opens : OpensAs dir fingerprint found c) : LevelledTable c.entries := by
  cases opens with
  | content bytes modified => exact offered_levelled bytes fingerprint
  | directory => exact .nil
  | missing operation path => exact .nil

theorem OpensAs.unlimited {found : Except Failure (Option (Text × Int))}
    (opens : OpensAs dir fingerprint found c) : c.maxAge = 0 := by
  cases opens <;> rfl

end Reopening

end JavadocLint
