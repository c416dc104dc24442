import Mathlib
import JavadocLint.Proofs.InterleavedRuns

/- What the run of a file comes to, and what the cache then tells of that file, while the files stay
   as they are. Both are settled by what the cache tells of the file at the start: steps of runs of
   other files change nothing about it, and steps of runs of the same file lead to the same.

   Times are left out of what a cache tells. Whether an entry is too old may depend on the time of
   the look-up, so the outcome is one for a set of times. -/
namespace JavadocLint

def Cache.told (c : Cache) (path : Text) : Option (FileMetadata × List Issue) :=
  (c.entries.get? path).map fun entry => (entry.metadata, entry.issues)

structure RunOutcome where
  result : Except Failure (List Issue)
  told : Option (FileMetadata × List Issue)

namespace Engine

variable (e : Engine) (t : FileTree)

def checkedOutcome (path : Text) : RunOutcome :=
  match e.checkFile t path with
  | .error f => ⟨.error f, none⟩
  | .ok issues =>
    match fileMetadata t path with
    | .error f => ⟨.error (.within (utf8 "error caching issues")
        (.within (utf8 "failed to get file metadata") f)), none⟩
    | .ok m => ⟨.ok issues, some (m, issues)⟩

def lookupOutcome (c : Cache) (now : Int) (path : Text) : RunOutcome :=
  match c.entries.get? path with
  | none => e.checkedOutcome t path
  | some entry =>
    if c.isCurrent t now path entry then ⟨.ok entry.issues, some (entry.metadata, entry.issues)⟩
    else e.checkedOutcome t path

/-- Whenever the file is looked up, the run has this outcome. -/
def ComesTo (times : Int → Prop) (path : Text) (o : RunOutcome) (c : Cache) : Prop :=
  ∀ now, times now → e.lookupOutcome t c now path = o

end Engine

/-- The caches differ in what they hold of one file only. -/
structure SameElsewhere (path : Text) (c c' : Cache) : Prop where
  limit : c'.maxAge = c.maxAge
  entries : ∀ other ≠ path, c'.entries.get? other = c.entries.get? other

theorem SameElsewhere.refl (path : Text) (c : Cache) : SameElsewhere path c c :=
  ⟨rfl, fun _ _ => rfl⟩

theorem SameElsewhere.trans {path : Text} {c c' c'' : Cache} (first : SameElsewhere path c c')
    (second : SameElsewhere path c' c'') : SameElsewhere path c c'' := by
  constructor
  · exact second.limit.trans first.limit
  · intro other different
    exact (second.entries other different).trans (first.entries other different)

theorem SameElsewhere.told {path other : Text} {c c' : Cache} (same : SameElsewhere path c c')
    (different : other ≠ path) : c'.told other = c.told other := by
  unfold Cache.told
  rw [same.entries other different]

section Lookups

variable {e : Engine} {t : FileTree} {times : Int → Prop} {path : Text} {o : RunOutcome}
  {c c' : Cache} {now : Int}

theorem Engine.ComesTo.elsewhere {other : Text} (comes : e.ComesTo t times path o c)
    (same : SameElsewhere other c c') (different : path ≠ other) : e.ComesTo t times path o c' := by
  intro now within
  rw [← comes now within]
  unfold Engine.lookupOutcome Cache.isCurrent Cache.isExpired
  rw [same.entries path different, same.limit]

theorem lookupOutcome_absent (absent : c.entries.get? path = none) :
    e.lookupOutcome t c now path = e.checkedOutcome t path := by
  unfold Engine.lookupOutcome
  rw [absent]

theorem lookupOutcome_current {entry : CacheEntry} (found : c.entries.get? path = some entry)
    (current : c.isCurrent t now path entry = true) :
    e.lookupOutcome t c now path = ⟨.ok entry.issues, some (entry.metadata, entry.issues)⟩ := by
  unfold Engine.lookupOutcome
  rw [found]
  exact if_pos current

theorem lookupOutcome_stale {entry : CacheEntry} (found : c.entries.get? path = some entry)
    (stale : ¬ c.isCurrent t now path entry = true) :
    e.lookupOutcome t c now path = e.checkedOutcome t path := by
  unfold Engine.lookupOutcome
  rw [found]
  exact if_neg stale

/-- All that a look-up can do: the entry is kept, or it is gone. -/
theorem get_cases (c : Cache) (t : FileTree) (now : Int) (path : Text) :
    (∃ entry, c.entries.get? path = some entry ∧ c.isCurrent t now path entry = true ∧
      c.get t now path = ({ c with entries := c.entries.insert path { entry with lastAccessed := now } },
        some entry.issues)) ∨
    (∃ c', c.get t now path = (c', none) ∧ c'.entries.get? path = none ∧ SameElsewhere path c c' ∧
      ∀ e : Engine, e.lookupOutcome t c now path = e.checkedOutcome t path) := by
  unfold Cache.get
  cases found : c.entries.get? path with
  | none =>
    exact .inr ⟨c, rfl, found, .refl path c, fun e => lookupOutcome_absent found⟩
  | some entry =>
    dsimp only
    by_cases current : c.isCurrent t now path entry = true
    · rw [if_pos current]
      exact .inl ⟨entry, rfl, current, rfl⟩
    · rw [if_neg current]
      refine .inr ⟨_, rfl, ?_, ⟨rfl, ?_⟩, fun e => lookupOutcome_stale found current⟩
      · rw [Table.get?_erase, if_pos rfl]
      · intro other different
        rw [Table.get?_erase, if_neg (Ne.symm different)]

theorem get_elsewhere (c : Cache) (t : FileTree) (now : Int) (path : Text) :
    SameElsewhere path c (c.get t now path).1 := by
  rcases get_cases c t now path with ⟨entry, -, -, hit⟩ | ⟨c', missed, -, elsewhere, -⟩
  · rw [hit]
    refine ⟨rfl, fun other different => ?_⟩
    dsimp only
    rw [Table.get?_insert, if_neg (Ne.symm different)]
  · rw [missed]
    exact elsewhere

theorem put_elsewhere (c : Cache) (now : Int) (path : Text) (m : FileMetadata)
    (issues : List Issue) : SameElsewhere path c (c.put now path m issues) := by
  refine ⟨rfl, fun other different => ?_⟩
  unfold Cache.put
  dsimp only
  rw [Table.get?_insert, if_neg (Ne.symm different)]

theorem Engine.ComesTo.get (comes : e.ComesTo t times path o c) (within : times now) :
    e.ComesTo t times path o (c.get t now path).1 := by
  rcases get_cases c t now path with ⟨entry, found, -, hit⟩ | ⟨c', missed, gone, -, outcome⟩
  · rw [hit]
    intro later member
    have looked : Table.get? (c.entries.insert path { entry with lastAccessed := now }) path =
        some { entry with lastAccessed := now } := by
      rw [Table.get?_insert, if_pos rfl]
    rw [← comes later member]
    unfold Engine.lookupOutcome
    rw [looked, found]
    rfl
  · rw [missed]
    intro later _
    rw [lookupOutcome_absent gone, ← outcome e]
    exact comes now within

theorem get_hit {issues : List Issue} (comes : e.ComesTo t times path o c) (within : times now)
    (hit : (c.get t now path).2 = some issues) :
    o.result = .ok issues ∧ (c.get t now path).1.told path = o.told := by
  rcases get_cases c t now path with ⟨entry, found, current, kept⟩ | ⟨c', missed, -, -, -⟩
  · rw [kept] at hit
    cases hit
    have outcome := (comes now within).symm.trans (lookupOutcome_current found current)
    rw [kept, outcome]
    refine ⟨rfl, ?_⟩
    unfold Cache.told
    dsimp only
    rw [Table.get?_insert, if_pos rfl]
    rfl
  · rw [missed] at hit
    cases hit

theorem get_missed (comes : e.ComesTo t times path o c) (within : times now)
    (missed : (c.get t now path).2 = none) :
    o = e.checkedOutcome t path ∧ (c.get t now path).1.told path = none := by
  rcases get_cases c t now path with ⟨entry, -, -, kept⟩ | ⟨c', dropped, gone, -, outcome⟩
  · rw [kept] at missed
    cases missed
  · rw [dropped]
    refine ⟨(comes now within).symm.trans (outcome e), ?_⟩
    unfold Cache.told
    rw [gone]
    rfl

theorem told_put (c : Cache) (now : Int) (path : Text) (m : FileMetadata) (issues : List Issue) :
    (c.put now path m issues).told path = some (m, issues) := by
  unfold Cache.told Cache.put
  dsimp only
  rw [Table.get?_insert, if_pos rfl]
  rfl

theorem comesTo_put {m : FileMetadata} {issues : List Issue} (c : Cache) (now : Int)
    (checked : o = e.checkedOutcome t path) (stored : o = ⟨.ok issues, some (m, issues)⟩) :
    e.ComesTo t times path o (c.put now path m issues) := by
  intro later _
  have looked : (c.put now path m issues).entries.get? path = some ⟨m, issues, now, now⟩ := by
    unfold Cache.put
    dsimp only
    rw [Table.get?_insert, if_pos rfl]
  by_cases current : (c.put now path m issues).isCurrent t later path ⟨m, issues, now, now⟩ = true
  · rw [lookupOutcome_current looked current, stored]
  · rw [lookupOutcome_stale looked current, checked]

end Lookups

def RunPhase.isMidway : RunPhase → Bool
  | .missed => true
  | .loaded _ => true
  | .checked _ _ => true
  | .measured _ _ _ => true
  | _ => false

def RunPhase.HeadsFor (e : Engine) (t : FileTree) (path : Text) (o : RunOutcome) : RunPhase → Prop
  | .begun => True
  | .missed => o = e.checkedOutcome t path
  | .loaded content => o = e.checkedOutcome t path ∧ t.read path = .ok content
  | .checked _ issues => o = e.checkedOutcome t path ∧ e.checkFile t path = .ok issues
  | .measured _ issues m =>
    o = e.checkedOutcome t path ∧ o = ⟨.ok issues, some (m, issues)⟩
  | .finished result => result = o.result

section Steps

variable {e : Engine} {t : FileTree} {times : Int → Prop} {path : Text} {o : RunOutcome}
  {c : Cache} {now : Int} {phase : RunPhase}

theorem checkedOutcome_failed {f : Failure} (failed : e.checkFile t path = .error f) :
    e.checkedOutcome t path = ⟨.error f, none⟩ := by
  unfold Engine.checkedOutcome
  rw [failed]

theorem checkFile_unread {f : Failure} (unread : t.read path = .error f) :
    e.checkFile t path = .error (.within (utf8 "error reading file") f) := by
  unfold Engine.checkFile
  rw [unread]
  rfl

theorem checkedOutcome_stored {issues : List Issue} {m : FileMetadata}
    (checked : e.checkFile t path = .ok issues) (measured : fileMetadata t path = .ok m) :
    e.checkedOutcome t path = ⟨.ok issues, some (m, issues)⟩ := by
  unfold Engine.checkedOutcome
  rw [checked]
  dsimp only
  rw [measured]

theorem checkedOutcome_unmeasured {issues : List Issue} {f : Failure}
    (checked : e.checkFile t path = .ok issues) (failed : fileMetadata t path = .error f) :
    e.checkedOutcome t path = ⟨.error (.within (utf8 "error caching issues")
      (.within (utf8 "failed to get file metadata") f)), none⟩ := by
  unfold Engine.checkedOutcome
  rw [checked]
  dsimp only
  rw [failed]

theorem runStep_elsewhere (e : Engine) (t : FileTree) (now : Int) (path : Text) (phase : RunPhase)
    (c : Cache) : SameElsewhere path c (e.runStep t now path (phase, c)).2 := by
  have move := runStep_move e t now path phase c
  generalize e.runStep t now path (phase, c) = moved at move ⊢
  cases move with
  | hit => exact get_elsewhere c t now path
  | miss => exact get_elsewhere c t now path
  | store c hashed issues m => exact put_elsewhere c now path m issues
  | _ => exact .refl path c

/-- A step of a run that is not over keeps to the outcome. The cache then tells what the outcome
    says, or nothing while the run is midway. -/
theorem runStep_outcome (wanted : e.isIgnoredPath path = false)
    (unfinished : ∀ result, phase ≠ .finished result) (comes : e.ComesTo t times path o c)
    (heads : phase.HeadsFor e t path o) (within : times now)
    (known : phase.isMidway = true → c.told path = o.told ∨ c.told path = none) :
    e.ComesTo t times path o (e.runStep t now path (phase, c)).2 ∧
      (e.runStep t now path (phase, c)).1.HeadsFor e t path o ∧
      ((e.runStep t now path (phase, c)).2.told path = o.told ∨
        (e.runStep t now path (phase, c)).1.isMidway = true ∧
          (e.runStep t now path (phase, c)).2.told path = none) := by
  -- a run that fails on the way leaves the cache as it is, and it tells nothing of the file then
  have fails : ∀ {f}, phase.isMidway = true → o = ⟨.error f, none⟩ → c.told path = o.told := by
    intro f midway failed
    rcases known midway with same | nothing
    · exact same
    · rw [nothing, failed]
  have stays : ∀ {next : RunPhase}, phase.isMidway = true → next.isMidway = true →
      c.told path = o.told ∨ next.isMidway = true ∧ c.told path = none := by
    intro next midway still
    rcases known midway with same | nothing
    · exact .inl same
    · exact .inr ⟨still, nothing⟩
  cases phase with
  | begun =>
    simp only [Engine.runStep, wanted, Bool.false_eq_true, if_false]
    have kept := comes.get within
    cases found : (c.get t now path).2 with
    | some issues =>
      obtain ⟨result, told⟩ := get_hit comes within found
      have pair : c.get t now path = ((c.get t now path).1, some issues) := by rw [← found]
      rw [pair]
      exact ⟨kept, result.symm, .inl told⟩
    | none =>
      obtain ⟨checked, told⟩ := get_missed comes within found
      have pair : c.get t now path = ((c.get t now path).1, none) := by rw [← found]
      rw [pair]
      exact ⟨kept, checked, .inr ⟨rfl, told⟩⟩
  | missed =>
    simp only [Engine.runStep]
    cases read : t.read path with
    | ok content => exact ⟨comes, ⟨heads, read⟩, stays rfl rfl⟩
    | error f =>
      have outcome := heads.trans (checkedOutcome_failed (checkFile_unread read))
      exact ⟨comes, (congrArg RunOutcome.result outcome).symm, .inl (fails rfl outcome)⟩
  | loaded content =>
    obtain ⟨checked, read⟩ := heads
    simp only [Engine.runStep]
    have file := checkFile_of_read (e := e) read
    cases found : e.check path (sourceLines content) with
    | ok issues => exact ⟨comes, ⟨checked, file.trans found⟩, stays rfl rfl⟩
    | error f =>
      have outcome := checked.trans (checkedOutcome_failed (file.trans found))
      exact ⟨comes, (congrArg RunOutcome.result outcome).symm, .inl (fails rfl outcome)⟩
  | checked content issues =>
    obtain ⟨checked, found⟩ := heads
    simp only [Engine.runStep]
    cases measured : fileMetadata t path with
    | ok m =>
      have outcome := checked.trans (checkedOutcome_stored found measured)
      exact ⟨comes, ⟨checked, outcome⟩, stays rfl rfl⟩
    | error f =>
      have outcome := checked.trans (checkedOutcome_unmeasured found measured)
      exact ⟨comes, (congrArg RunOutcome.result outcome).symm, .inl (fails rfl outcome)⟩
  | measured hashed issues m =>
    obtain ⟨checked, stored⟩ := heads
    refine ⟨comesTo_put c now checked stored, (congrArg RunOutcome.result stored).symm, .inl ?_⟩
    exact (told_put c now path m issues).trans (congrArg RunOutcome.told stored).symm
  | finished result => exact absurd rfl (unfinished result)

end Steps

section Runs

variable {e : Engine} {t : FileTree} {times : Int → Prop} {path : Text} {o : RunOutcome}
  {c : Cache} {now : Int}

theorem refill_elsewhere (e : Engine) (t : FileTree) (now : Int) (c : Cache) (path : Text) :
    SameElsewhere path c (e.refill t now c path).2 := by
  unfold Engine.refill Cache.set
  cases e.checkFile t path with
  | error f => exact .refl path c
  | ok issues =>
    dsimp only
    cases fileMetadata t path with
    | error f => exact .refl path c
    | ok m => exact put_elsewhere c now path m issues

theorem refill_outcome (now : Int) (checked : o = e.checkedOutcome t path)
    (comes : e.ComesTo t times path o c) (nothing : c.told path = none) :
    (e.refill t now c path).1 = o.result ∧ (e.refill t now c path).2.told path = o.told ∧
      e.ComesTo t times path o (e.refill t now c path).2 := by
  unfold Engine.refill
  cases found : e.checkFile t path with
  | error f =>
    have outcome := checked.trans (checkedOutcome_failed found)
    rw [outcome]
    exact ⟨rfl, nothing, outcome ▸ comes⟩
  | ok issues =>
    dsimp only
    unfold Cache.set
    cases measured : fileMetadata t path with
    | error f =>
      have outcome := checked.trans (checkedOutcome_unmeasured found measured)
      rw [outcome]
      exact ⟨rfl, nothing, outcome ▸ comes⟩
    | ok m =>
      have outcome := checked.trans (checkedOutcome_stored found measured)
      refine ⟨(congrArg RunOutcome.result outcome).symm, ?_, comesTo_put c now checked outcome⟩
      exact (told_put c now path m issues).trans (congrArg RunOutcome.told outcome).symm

theorem run_outcome (wanted : e.isIgnoredPath path = false) (comes : e.ComesTo t times path o c)
    (within : times now) :
    ∃ c', e.run t now (some c) path = (o.result, some c') ∧ c'.told path = o.told ∧
      e.ComesTo t times path o c' ∧ SameElsewhere path c c' := by
  have kept := comes.get within
  have elsewhere := get_elsewhere c t now path
  unfold Engine.run
  rw [if_neg (by simp [wanted])]
  dsimp only
  cases found : (c.get t now path).2 with
  | some issues =>
    obtain ⟨result, told⟩ := get_hit comes within found
    have pair : c.get t now path = ((c.get t now path).1, some issues) := by rw [← found]
    rw [pair]
    exact ⟨_, congrArg (·, some _) result.symm, told, kept, elsewhere⟩
  | none =>
    obtain ⟨checked, nothing⟩ := get_missed comes within found
    have pair : c.get t now path = ((c.get t now path).1, none) := by rw [← found]
    rw [pair]
    obtain ⟨result, told, still⟩ := refill_outcome now checked kept nothing
    exact ⟨_, congrArg (·, some _) result, told, still,
      elsewhere.trans (refill_elsewhere e t now _ path)⟩

theorem metadata_of_current {entry : CacheEntry} (current : c.isCurrent t now path entry = true) :
    fileMetadata t path = .ok entry.metadata := by
  unfold Cache.isCurrent at current
  rw [Bool.and_eq_true] at current
  cases measured : fileMetadata t path with
  | error f =>
    rw [measured] at current
    cases current.2
  | ok m =>
    rw [measured] at current
    rw [of_decide_eq_true current.2]

theorem lookupOutcome_truthful {entry : CacheEntry} (found : c.entries.get? path = some entry)
    (truthful : e.checkFile t path = .ok entry.issues) (now : Int) :
    e.lookupOutcome t c now path = e.checkedOutcome t path := by
  by_cases current : c.isCurrent t now path entry = true
  · rw [lookupOutcome_current found current,
      checkedOutcome_stored truthful (metadata_of_current current)]
  · exact lookupOutcome_stale found current

/-- The time of the look-up does not matter where no entry that matches the file passes the age limit
    between two times, or where it tells what a check of the file tells. -/
theorem lookupOutcome_settled {other : Int}
    (settled : ∀ entry ∈ c.entries.get? path, fileMetadata t path = .ok entry.metadata →
      c.isExpired now entry = c.isExpired other entry ∨ e.checkFile t path = .ok entry.issues) :
    e.lookupOutcome t c now path = e.lookupOutcome t c other path := by
  cases found : c.entries.get? path with
  | none => rw [lookupOutcome_absent found, lookupOutcome_absent found]
  | some entry =>
    by_cases matching : fileMetadata t path = .ok entry.metadata
    · rcases settled entry found matching with sameAge | truthful
      · unfold Engine.lookupOutcome Cache.isCurrent
        rw [found]
        dsimp only
        rw [sameAge]
      · rw [lookupOutcome_truthful found truthful, lookupOutcome_truthful found truthful]
    · have dropped : ∀ now, e.lookupOutcome t c now path = e.checkedOutcome t path :=
        fun _ => lookupOutcome_stale found fun current => matching (metadata_of_current current)
      rw [dropped, dropped]

end Runs
end JavadocLint
