import Mathlib
import JavadocLint.Proofs.CacheHonesty
import JavadocLint.Proofs.SourceFindings

/- Runs of the engine that share a cache while files are overwritten. A run looks its file up, reads
   it, checks what it read, takes the digest of the file and stores its entry; anything may happen
   between two of these steps. The digest is taken of the file as it then stands, not of what was
   read, so an entry is honest exactly when both contents have the same issues. That is so wherever
   no file changes between the reading and the digest, and not in general.

   No two contents that turn up are taken to have one digest. Nothing is claimed about changes in
   the middle of a step. -/
namespace JavadocLint

/-- How far a run has come; `hashed` is the content of which the digest was taken. -/
inductive RunPhase where
  | begun
  | missed
  | loaded (content : Text)
  | checked (content : Text) (issues : List Issue)
  | measured (hashed : Text) (issues : List Issue) (m : FileMetadata)
  | finished (result : Except Failure (List Issue))

def RunPhase.awaitsDigest : RunPhase → Bool
  | .loaded _ => true
  | .checked _ _ => true
  | _ => false

def Engine.runStep (e : Engine) (t : FileTree) (now : Int) (path : Text) :
    RunPhase × Cache → RunPhase × Cache
  | (.begun, c) =>
    if e.isIgnoredPath path then (.finished (.ok []), c)
    else match c.get t now path with
      | (c, some issues) => (.finished (.ok issues), c)
      | (c, none) => (.missed, c)
  | (.missed, c) =>
    match t.read path with
    | .ok content => (.loaded content, c)
    | .error f => (.finished (.error (.within (utf8 "error reading file") f)), c)
  | (.loaded content, c) =>
    match e.check path (sourceLines content) with
    | .ok issues => (.checked content issues, c)
    | .error f => (.finished (.error f), c)
  | (.checked _ issues, c) =>
    match fileMetadata t path with
    | .ok m => (.measured ((t.read path).toOption.getD []) issues m, c)
    | .error f => (.finished (.error (.within (utf8 "error caching issues")
        (.within (utf8 "failed to get file metadata") f))), c)
  | (.measured _ issues m, c) => (.finished (.ok issues), c.put now path m issues)
  | (.finished result, c) => (.finished result, c)

/-- Five steps with nothing between them are a run. -/
theorem runStep_run (e : Engine) (t : FileTree) (now : Int) (c : Cache) (path : Text) :
    (e.runStep t now path)^[5] (.begun, c) =
      (.finished (e.run t now (some c) path).1, ((e.run t now (some c) path).2).getD c) := by
  simp only [Function.iterate_succ_apply, Function.iterate_zero_apply]
  unfold Engine.run
  by_cases ignored : e.isIgnoredPath path = true
  · simp [Engine.runStep, ignored]
  · simp only [Engine.runStep, ignored, Bool.false_eq_true, if_false]
    cases c.get t now path with
    | mk c₁ result =>
      cases result with
      | some issues => rfl
      | none =>
        simp only [Engine.refill, Engine.checkFile, Cache.set]
        cases t.read path with
        | error f => rfl
        | ok content =>
          simp only [Except.mapError, bind, Except.bind]
          cases e.check path (sourceLines content) with
          | error f => rfl
          | ok issues => cases fileMetadata t path <;> rfl

theorem fileMetadata_ok {t : FileTree} {path : Text} {m : FileMetadata}
    (measured : fileMetadata t path = .ok m) :
    ∃ content, t.read path = .ok content ∧ m.hash = Md5.hexDigest content := by
  unfold fileMetadata at measured
  split at measured
  · rename_i content modified opened
    cases measured
    exact ⟨content, read_of_openFile opened, rfl⟩
  · cases measured
  · cases measured

theorem fileMetadata_read {t : FileTree} {path content : Text} (read : t.read path = .ok content) :
    ∃ m, fileMetadata t path = .ok m := by
  obtain ⟨modified, opened⟩ := openFile_of_read read
  exact ⟨⟨Md5.hexDigest content, modified⟩, by rw [fileMetadata, opened]⟩

inductive RunMove (e : Engine) (t : FileTree) (now : Int) (path : Text) :
    RunPhase × Cache → RunPhase × Cache → Prop where
  | skip (c : Cache) (ignored : e.isIgnoredPath path = true) :
    RunMove e t now path (.begun, c) (.finished (.ok []), c)
  | hit (c : Cache) (issues : List Issue) (wanted : e.isIgnoredPath path = false)
    (found : (c.get t now path).2 = some issues) :
    RunMove e t now path (.begun, c) (.finished (.ok issues), (c.get t now path).1)
  | miss (c : Cache) (wanted : e.isIgnoredPath path = false) :
    RunMove e t now path (.begun, c) (.missed, (c.get t now path).1)
  | load (c : Cache) (content : Text) (read : t.read path = .ok content) :
    RunMove e t now path (.missed, c) (.loaded content, c)
  | unread (c : Cache) (f : Failure) (failed : t.read path = .error f) :
    RunMove e t now path (.missed, c)
      (.finished (.error (.within (utf8 "error reading file") f)), c)
  | check (c : Cache) (content : Text) (issues : List Issue)
    (found : e.check path (sourceLines content) = .ok issues) :
    RunMove e t now path (.loaded content, c) (.checked content issues, c)
  | reject (c : Cache) (content : Text) (f : Failure)
    (failed : e.check path (sourceLines content) = .error f) :
    RunMove e t now path (.loaded content, c) (.finished (.error f), c)
  | measure (c : Cache) (content hashed : Text) (issues : List Issue) (m : FileMetadata)
    (read : t.read path = .ok hashed) (digest : m.hash = Md5.hexDigest hashed) :
    RunMove e t now path (.checked content issues, c) (.measured hashed issues m, c)
  | unmeasured (c : Cache) (content : Text) (issues : List Issue) (f : Failure)
    (failed : fileMetadata t path = .error f) :
    RunMove e t now path (.checked content issues, c)
      (.finished (.error (.within (utf8 "error caching issues")
        (.within (utf8 "failed to get file metadata") f))), c)
  | store (c : Cache) (hashed : Text) (issues : List Issue) (m : FileMetadata) :
    RunMove e t now path (.measured hashed issues m, c)
      (.finished (.ok issues), c.put now path m issues)
  | rest (c : Cache) (result : Except Failure (List Issue)) :
    RunMove e t now path (.finished result, c) (.finished result, c)

theorem runStep_move (e : Engine) (t : FileTree) (now : Int) (path : Text) (phase : RunPhase)
    (c : Cache) : RunMove e t now path (phase, c) (e.runStep t now path (phase, c)) := by
  cases phase with
  | begun =>
    simp only [Engine.runStep]
    by_cases ignored : e.isIgnoredPath path = true
    · simpa only [ignored, if_true] using RunMove.skip c ignored
    · simp only [ignored, Bool.false_eq_true, if_false]
      have wanted : e.isIgnoredPath path = false := by simpa using ignored
      cases found : (c.get t now path).2 with
      | some issues =>
        have pair : c.get t now path = ((c.get t now path).1, some issues) := by rw [← found]
        rw [pair]
        exact .hit c issues wanted found
      | none =>
        have pair : c.get t now path = ((c.get t now path).1, none) := by rw [← found]
        rw [pair]
        exact .miss c wanted
  | missed =>
    simp only [Engine.runStep]
    split
    · exact .load c _ ‹_›
    · exact .unread c _ ‹_›
  | loaded content =>
    simp only [Engine.runStep]
    split
    · exact .check c content _ ‹_›
    · exact .reject c content _ ‹_›
  | checked content issues =>
    simp only [Engine.runStep]
    split
    · rename_i m measured
      obtain ⟨hashed, read, digest⟩ := fileMetadata_ok measured
      rw [read]
      exact .measure c content hashed issues m read digest
    · exact .unmeasured c content issues _ ‹_›
  | measured hashed issues m => exact .store c hashed issues m
  | finished result => exact .rest c result

inductive RunEvent where
  | overwrite (path content : Text) (modified : Int)
  | start (path : Text)
  | advance (number : Nat) (now : Int)

structure PendingRun where
  path : Text
  phase : RunPhase

/-- The files, the cache that all runs share, and the runs in the order they were started. The
    contents that runs came upon are kept in `seen`. -/
structure SharedState where
  tree : FileTree
  cache : Cache
  runs : List PendingRun := []
  seen : List Text := []

namespace SharedState

variable (e : Engine)

def step (s : SharedState) : RunEvent → SharedState
  | .overwrite path content modified =>
    match s.tree.write path content modified with
    | .ok t => { s with tree := t }
    | .error _ => s
  | .start path => { s with runs := s.runs ++ [⟨path, .begun⟩] }
  | .advance number now =>
    match s.runs[number]? with
    | none => s
    | some r =>
      let moved := e.runStep s.tree now r.path (r.phase, s.cache)
      { s with
        cache := moved.2
        runs := s.runs.set number ⟨r.path, moved.1⟩
        seen := (s.tree.read r.path).toOption.toList ++ s.seen }

def after (s : SharedState) (events : List RunEvent) : SharedState := events.foldl (step e) s

def Honest (s : SharedState) : Prop := HonestTable e s.seen s.cache.entries

end SharedState

def AlwaysHonest (e : Engine) : SharedState → List RunEvent → Prop
  | s, [] => s.Honest e
  | s, event :: rest => s.Honest e ∧ AlwaysHonest e (s.step e event) rest

/-- A run that stores its issues found them in a content like the one it took the digest of. -/
def StoreAgrees (e : Engine) (s : SharedState) : RunEvent → Prop
  | .advance number _ => ∀ r ∈ s.runs[number]?, ∀ hashed issues m,
      r.phase = .measured hashed issues m → e.check r.path (sourceLines hashed) = .ok issues
  | _ => True

def StoresAgree (e : Engine) : SharedState → List RunEvent → Prop
  | _, [] => True
  | s, event :: rest => StoreAgrees e s event ∧ StoresAgree e (s.step e event) rest

/-- No event changes the content of a file between its reading and its digest. -/
def Undisturbed (e : Engine) : SharedState → List RunEvent → Prop
  | _, [] => True
  | s, event :: rest =>
    (∀ r ∈ s.runs, r.phase.awaitsDigest = true →
      ((s.step e event).tree.read r.path).toOption = (s.tree.read r.path).toOption) ∧
      Undisturbed e (s.step e event) rest

instance Undisturbed.decidable (e : Engine) :
    (s : SharedState) → (schedule : List RunEvent) → Decidable (Undisturbed e s schedule)
  | _, [] => .isTrue trivial
  | s, event :: rest =>
    have := Undisturbed.decidable e (s.step e event) rest
    inferInstanceAs (Decidable (_ ∧ _))

def FileStays (e : Engine) (path : Text) : SharedState → List RunEvent → Prop
  | _, [] => True
  | s, event :: rest =>
    (s.step e event).tree.read path = s.tree.read path ∧ FileStays e path (s.step e event) rest

namespace SharedState

variable {e : Engine} {s : SharedState} {event : RunEvent}

theorem after_append (s : SharedState) (first second : List RunEvent) :
    s.after e (first ++ second) = (s.after e first).after e second := List.foldl_append

theorem step_run {number : Nat} {r : PendingRun} (there : (s.step e event).runs[number]? = some r) :
    s.runs[number]? = some r ∨
      (number = s.runs.length ∧ ∃ path, event = .start path ∧ r = ⟨path, .begun⟩) ∨
      ∃ phase now cache, event = .advance number now ∧ s.runs[number]? = some ⟨r.path, phase⟩ ∧
        RunMove e s.tree now r.path (phase, s.cache) (r.phase, cache) := by
  cases event with
  | overwrite path content modified =>
    refine .inl ?_
    simp only [step] at there
    split at there <;> exact there
  | start path =>
    simp only [step] at there
    by_cases old : number < s.runs.length
    · rw [List.getElem?_append_left old] at there
      exact .inl there
    · rw [List.getElem?_append_right (by omega)] at there
      rw [List.getElem?_singleton] at there
      split at there
      · cases there
        exact .inr (.inl ⟨by omega, path, rfl, rfl⟩)
      · cases there
  | advance other now =>
    cases found : s.runs[other]? with
    | none =>
      simp only [step, found] at there
      exact .inl there
    | some q =>
      simp only [step, found] at there ⊢
      by_cases same : other = number
      · subst same
        have inside : other < s.runs.length := (List.getElem?_eq_some_iff.mp found).1
        rw [List.getElem?_set_self inside] at there
        cases there
        have move := runStep_move e s.tree now q.path q.phase s.cache
        exact .inr (.inr ⟨q.phase, now, _, rfl, found, move⟩)
      · rw [List.getElem?_set_ne same] at there
        exact .inl there

theorem step_cache (e : Engine) (s : SharedState) (event : RunEvent) :
    (s.step e event).cache = s.cache ∨
      ∃ number now r phase, event = .advance number now ∧ s.runs[number]? = some r ∧
        RunMove e s.tree now r.path (r.phase, s.cache) (phase, (s.step e event).cache) := by
  cases event with
  | overwrite path content modified =>
    refine .inl ?_
    simp only [step]
    split <;> rfl
  | start path => exact .inl rfl
  | advance number now =>
    cases found : s.runs[number]? with
    | none => exact .inl (by simp only [step, found])
    | some r =>
      have cache : (s.step e (.advance number now)).cache =
          (e.runStep s.tree now r.path (r.phase, s.cache)).2 := by simp only [step, found]
      rw [cache]
      exact .inr ⟨number, now, r, _, rfl, found, runStep_move e s.tree now r.path r.phase s.cache⟩

theorem advance_tree (number : Nat) (now : Int) :
    (s.step e (.advance number now)).tree = s.tree := by
  simp only [step]
  split <;> rfl

theorem advance_seen {number : Nat} {now : Int} {r : PendingRun}
    (there : s.runs[number]? = some r) :
    (s.step e (.advance number now)).seen = (s.tree.read r.path).toOption.toList ++ s.seen := by
  simp only [step, there]

theorem step_seen (e : Engine) (s : SharedState) (event : RunEvent) :
    s.seen ⊆ (s.step e event).seen := by
  cases event with
  | overwrite path content modified =>
    simp only [step]
    split <;> exact List.Subset.refl _
  | start path => exact List.Subset.refl _
  | advance number now =>
    simp only [step]
    split
    · exact List.Subset.refl _
    · exact List.subset_append_right _ _

theorem after_seen (e : Engine) (s : SharedState) (events : List RunEvent) :
    s.seen ⊆ (s.after e events).seen := by
  induction events generalizing s with
  | nil => exact List.Subset.refl _
  | cons event rest ih => exact List.Subset.trans (step_seen e s event) (ih (s.step e event))

theorem collisionFree_now {events : List RunEvent}
    (collisionFree : CollisionFree (s.after e events).seen) : CollisionFree s.seen := by
  intro a inA b inB
  exact collisionFree a (after_seen e s events inA) b (after_seen e s events inB)

def Measures (s : SharedState) : Prop := ∀ r ∈ s.runs, ∀ hashed issues m,
  r.phase = .measured hashed issues m → hashed ∈ s.seen ∧ m.hash = Md5.hexDigest hashed

theorem Measures.step (measures : s.Measures) (event : RunEvent) :
    (s.step e event).Measures := by
  intro r member hashed issues m measured
  obtain ⟨number, there⟩ := List.mem_iff_getElem?.mp member
  rcases step_run there with old | ⟨-, path, -, rfl⟩ | ⟨phase, now, cache, rfl, before, move⟩
  · obtain ⟨known, digest⟩ := measures r (List.mem_of_getElem? old) hashed issues m measured
    exact ⟨step_seen e s event known, digest⟩
  · cases measured
  · rw [measured] at move
    cases move with
    | measure _ content _ _ _ read digest =>
      refine ⟨?_, digest⟩
      rw [advance_seen before, read]
      exact List.mem_append_left _ (by simp [Except.toOption])

end SharedState

section Honesty

variable {e : Engine} {t : FileTree} {now : Int} {path : Text} {phase phase' : RunPhase}
  {c c' : Cache} {known : List Text}

theorem Table.mem_insert_self {α : Type} (t : Table α) (name : Text) (value : α) :
    (name, value) ∈ t.insert name value := by
  induction t with
  | nil => simp [Table.insert]
  | cons first rest ih =>
    simp only [Table.insert]
    split
    · exact List.mem_cons_self
    · split
      · exact List.mem_cons_self
      · exact List.mem_cons_of_mem _ ih

/-- Only a run that stores can spoil the entries, and only with issues of another content. -/
theorem RunMove.honest (move : RunMove e t now path (phase, c) (phase', c'))
    (honest : HonestTable e known c.entries)
    (agrees : ∀ hashed issues m, phase = .measured hashed issues m →
      hashed ∈ known ∧ m.hash = Md5.hexDigest hashed ∧
        e.check path (sourceLines hashed) = .ok issues) :
    HonestTable e known c'.entries := by
  cases move with
  | hit => exact get_honest honest t now path
  | miss => exact get_honest honest t now path
  | store c hashed issues m =>
    obtain ⟨there, digest, found⟩ := agrees hashed issues m rfl
    exact honest.insert ⟨hashed, there, digest.symm, found⟩
  | _ => exact honest

namespace SharedState

variable {s : SharedState} {event : RunEvent}

theorem Honest.step (honest : s.Honest e) (measures : s.Measures)
    (agrees : StoreAgrees e s event) : (s.step e event).Honest e := by
  have wider : HonestTable e (s.step e event).seen s.cache.entries :=
    HonestTable.mono honest (step_seen e s event)
  rcases step_cache e s event with same | ⟨number, now, r, phase, rfl, there, move⟩
  · unfold Honest
    rw [same]
    exact wider
  · refine move.honest wider fun hashed issues m measured => ?_
    obtain ⟨known, digest⟩ :=
      measures r (List.mem_of_getElem? there) hashed issues m measured
    exact ⟨step_seen e s _ known, digest, agrees r there hashed issues m measured⟩

theorem Honest.storeAgrees (honest : (s.step e event).Honest e) (measures : s.Measures)
    (collisionFree : CollisionFree (s.step e event).seen) : StoreAgrees e s event := by
  cases event with
  | overwrite path content modified => trivial
  | start path => trivial
  | advance number now =>
    intro r there hashed issues m measured
    obtain ⟨known, digest⟩ :=
      measures r (List.mem_of_getElem? there) hashed issues m measured
    have stored : (s.step e (.advance number now)).cache = s.cache.put now r.path m issues := by
      simp only [SharedState.step, Option.mem_def.mp there, measured, Engine.runStep]
    have entry : (r.path, ⟨m, issues, now, now⟩) ∈
        (s.step e (.advance number now)).cache.entries := by
      rw [stored]
      exact Table.mem_insert_self _ _ _
    obtain ⟨content, member, same, found⟩ := honest _ entry
    have equal : content = hashed :=
      collisionFree content member hashed (step_seen e s _ known) (same.trans digest)
    exact equal ▸ found

end SharedState

theorem AlwaysHonest.first {s : SharedState} {schedule : List RunEvent}
    (always : AlwaysHonest e s schedule) : s.Honest e := by
  cases schedule with
  | nil => exact always
  | cons event rest => exact always.1

theorem alwaysHonest_iff {s : SharedState} {schedule : List RunEvent} (honest : s.Honest e)
    (measures : s.Measures) (collisionFree : CollisionFree (s.after e schedule).seen) :
    AlwaysHonest e s schedule ↔ StoresAgree e s schedule := by
  induction schedule generalizing s with
  | nil => exact ⟨fun _ => trivial, fun _ => honest⟩
  | cons event rest ih =>
    have next := SharedState.collisionFree_now (s := s.step e event) collisionFree
    constructor
    · rintro ⟨-, later⟩
      have agrees := later.first.storeAgrees measures next
      exact ⟨agrees, (ih later.first (measures.step event) collisionFree).mp later⟩
    · rintro ⟨agrees, later⟩
      have step := honest.step measures agrees
      exact ⟨honest, (ih step (measures.step event) collisionFree).mpr later⟩

end Honesty

section Undisturbed

variable {e : Engine} {s : SharedState} {event : RunEvent}

/-- The file is still as the run read it, and the issues are those of the content at hand. -/
def PendingRun.Steady (e : Engine) (t : FileTree) (r : PendingRun) : Prop :=
  match r.phase with
  | .loaded content => t.read r.path = .ok content
  | .checked content issues =>
    t.read r.path = .ok content ∧ e.check r.path (sourceLines content) = .ok issues
  | .measured hashed issues _ => e.check r.path (sourceLines hashed) = .ok issues
  | _ => True

theorem read_of_toOption {t : FileTree} {path content : Text}
    (found : (t.read path).toOption = some content) : t.read path = .ok content := by
  cases read : t.read path with
  | error f =>
    rw [read] at found
    cases found
  | ok other =>
    rw [read] at found
    exact congrArg Except.ok (Option.some.inj found)

theorem PendingRun.Steady.kept {t t' : FileTree} {r : PendingRun} (steady : r.Steady e t)
    (same : r.phase.awaitsDigest = true →
      (t'.read r.path).toOption = (t.read r.path).toOption) : r.Steady e t' := by
  have still : ∀ content, r.phase.awaitsDigest = true → t.read r.path = .ok content →
      t'.read r.path = .ok content := by
    intro content awaits read
    exact read_of_toOption (by rw [same awaits, read]; rfl)
  obtain ⟨path, phase⟩ := r
  cases phase with
  | loaded content => exact still content rfl steady
  | checked content issues => exact ⟨still content rfl steady.1, steady.2⟩
  | measured hashed issues m => exact steady
  | _ => trivial

theorem RunMove.steady {t : FileTree} {now : Int} {path : Text} {phase phase' : RunPhase}
    {c c' : Cache} (move : RunMove e t now path (phase, c) (phase', c'))
    (steady : PendingRun.Steady e t ⟨path, phase⟩) : PendingRun.Steady e t ⟨path, phase'⟩ := by
  cases move with
  | load _ content read => exact read
  | check _ content issues found => exact ⟨steady, found⟩
  | measure _ content hashed issues m read digest =>
    obtain ⟨before, found⟩ := steady
    have same : content = hashed := Except.ok.inj (before.symm.trans read)
    exact same ▸ found
  | _ => trivial

theorem storesAgree_undisturbed {schedule : List RunEvent}
    (steady : ∀ r ∈ s.runs, r.Steady e s.tree) (undisturbed : Undisturbed e s schedule) :
    StoresAgree e s schedule := by
  induction schedule generalizing s with
  | nil => trivial
  | cons event rest ih =>
    refine ⟨?_, ih ?_ undisturbed.2⟩
    · cases event with
      | overwrite path content modified => trivial
      | start path => trivial
      | advance number now =>
        intro r there hashed issues m measured
        have found := steady r (List.mem_of_getElem? there)
        simpa only [PendingRun.Steady, measured] using found
    · intro r member
      obtain ⟨number, there⟩ := List.mem_iff_getElem?.mp member
      rcases SharedState.step_run there with old | ⟨-, path, -, rfl⟩ |
        ⟨phase, now, cache, rfl, before, move⟩
      · have member := List.mem_of_getElem? old
        exact (steady r member).kept (undisturbed.1 r member)
      · trivial
      · rw [SharedState.advance_tree]
        exact move.steady (steady _ (List.mem_of_getElem? before))

end Undisturbed

section LaterRuns

variable {e : Engine} {t t' : FileTree} {path : Text}

theorem checkFile_congr (e : Engine) (same : t'.read path = t.read path) :
    e.checkFile t' path = e.checkFile t path := by
  unfold Engine.checkFile
  rw [same]

theorem run_without_cache (e : Engine) (t : FileTree) (now : Int) (path : Text) :
    (e.run t now none path).1 =
      if e.isIgnoredPath path then .ok [] else e.checkFile t path := by
  unfold Engine.run
  split <;> rfl

def PendingRun.Fresh (e : Engine) (t : FileTree) (r : PendingRun) : Prop :=
  match r.phase with
  | .begun => True
  | .missed => e.isIgnoredPath r.path = false
  | .loaded content => e.isIgnoredPath r.path = false ∧ t.read r.path = .ok content
  | .checked content issues => e.isIgnoredPath r.path = false ∧ t.read r.path = .ok content ∧
      e.check r.path (sourceLines content) = .ok issues
  | .measured _ issues _ => e.isIgnoredPath r.path = false ∧ e.checkFile t r.path = .ok issues
  | .finished result =>
    result = if e.isIgnoredPath r.path then .ok [] else e.checkFile t r.path

theorem PendingRun.Fresh.kept {r : PendingRun} (fresh : r.Fresh e t)
    (same : t'.read r.path = t.read r.path) : r.Fresh e t' := by
  unfold PendingRun.Fresh at fresh ⊢
  rw [same, checkFile_congr e same]
  exact fresh

theorem RunMove.fresh {now : Int} {phase phase' : RunPhase} {c c' : Cache} {known : List Text}
    (move : RunMove e t now path (phase, c) (phase', c')) (honest : HonestTable e known c.entries)
    (collisionFree : CollisionFree ((t.read path).toOption.toList ++ known))
    (fresh : PendingRun.Fresh e t ⟨path, phase⟩) : PendingRun.Fresh e t ⟨path, phase'⟩ := by
  cases move with
  | skip _ ignored => simp [PendingRun.Fresh, ignored]
  | hit _ issues wanted found =>
    have plain := get_agrees honest collisionFree issues found
    simp [PendingRun.Fresh, wanted, plain]
  | miss _ wanted => exact wanted
  | load _ content read => exact ⟨fresh, read⟩
  | unread _ f failed =>
    have wanted : e.isIgnoredPath path = false := fresh
    simp [PendingRun.Fresh, wanted, Engine.checkFile, failed, Except.mapError, bind, Except.bind]
  | check _ content issues found => exact ⟨fresh.1, fresh.2, found⟩
  | reject _ content f failed =>
    obtain ⟨wanted, read⟩ := fresh
    simp [PendingRun.Fresh, show e.isIgnoredPath path = false from wanted,
      checkFile_of_read (e := e) read, failed]
  | measure _ content hashed issues m read digest =>
    obtain ⟨wanted, before, found⟩ := fresh
    exact ⟨wanted, (checkFile_of_read before).trans found⟩
  | unmeasured _ content issues f failed =>
    obtain ⟨m, measured⟩ := fileMetadata_read fresh.2.1
    rw [measured] at failed
    cases failed
  | store _ hashed issues m =>
    obtain ⟨wanted, found⟩ := fresh
    simp [PendingRun.Fresh, show e.isIgnoredPath path = false from wanted,
      show e.checkFile t path = .ok issues from found]
  | rest _ result => exact fresh

theorem fresh_after {s : SharedState} {schedule : List RunEvent} (first : Nat)
    (honest : s.Honest e) (measures : s.Measures) (agree : StoresAgree e s schedule)
    (stays : FileStays e path s schedule)
    (collisionFree : CollisionFree (s.after e schedule).seen)
    (fresh : ∀ number r, first ≤ number → s.runs[number]? = some r → r.path = path →
      r.Fresh e s.tree) :
    ∀ number r, first ≤ number → (s.after e schedule).runs[number]? = some r → r.path = path →
      r.Fresh e (s.after e schedule).tree := by
  induction schedule generalizing s with
  | nil => exact fresh
  | cons event rest ih =>
    have next := SharedState.collisionFree_now (s := s.step e event) collisionFree
    refine ih (honest.step measures agree.1) (measures.step event) agree.2 stays.2 collisionFree
      ?_
    intro number r later there samePath
    subst samePath
    rcases SharedState.step_run there with old | ⟨-, path, -, rfl⟩ |
      ⟨phase, now, cache, rfl, before, move⟩
    · exact (fresh number r later old rfl).kept stays.1
    · trivial
    · rw [SharedState.advance_tree]
      refine move.fresh honest ?_ (fresh number ⟨r.path, phase⟩ later before rfl)
      rw [SharedState.advance_seen before] at next
      exact next

theorem honest_after {s : SharedState} {first second : List RunEvent} (honest : s.Honest e)
    (measures : s.Measures) (agree : StoresAgree e s (first ++ second)) :
    (s.after e first).Honest e ∧ (s.after e first).Measures ∧
      StoresAgree e (s.after e first) second := by
  induction first generalizing s with
  | nil => exact ⟨honest, measures, agree⟩
  | cons event rest ih =>
    exact ih (honest.step measures agree.1) (measures.step event) agree.2

end LaterRuns

/-- Runs of one engine share a cache with honest entries while files are overwritten at any moment.
    Every entry stays honest exactly when each stored list of issues is that of the content whose
    digest was taken, which is so if no file changes between its reading and its digest. Then a run
    that starts after the last change of its file gives what a run without a cache gives. -/
theorem interleaved_entries {e : Engine} {t : FileTree} {c : Cache} {known : List Text}
    {schedule : List RunEvent} (honest : HonestTable e known c.entries)
    (collisionFree : CollisionFree (SharedState.after e ⟨t, c, [], known⟩ schedule).seen) :
    let s : SharedState := ⟨t, c, [], known⟩
    (AlwaysHonest e s schedule ↔ StoresAgree e s schedule) ∧
      (Undisturbed e s schedule → StoresAgree e s schedule) ∧
      (StoresAgree e s schedule → ∀ before later path, schedule = before ++ later →
        FileStays e path (s.after e before) later →
        ∀ number result, (s.after e before).runs.length ≤ number →
          (s.after e schedule).runs[number]? = some ⟨path, .finished result⟩ →
          ∀ now, result = (e.run (s.after e schedule).tree now none path).1) := by
  intro s
  have measures : s.Measures := fun r member => by cases member
  refine ⟨alwaysHonest_iff honest measures collisionFree, ?_, ?_⟩
  · exact storesAgree_undisturbed fun r member => by cases member
  · rintro agree before later path rfl stays number result started done now
    have start : s.Honest e := honest
    obtain ⟨still, measured, others⟩ := honest_after start measures agree
    rw [SharedState.after_append] at collisionFree done ⊢
    have none : ∀ number r, (s.after e before).runs.length ≤ number →
        (s.after e before).runs[number]? = some r → r.path = path →
          r.Fresh e (s.after e before).tree := by
      intro number r outside there
      rw [List.getElem?_eq_none outside] at there
      cases there
    have fresh := fresh_after _ still measured others stays collisionFree none number _ started
      done rfl
    rw [run_without_cache]
    exact fresh

/-- A file is overwritten before its reading and again after its digest was taken. -/
def quietSchedule : List RunEvent :=
  [.start (utf8 "/A"), .advance 0 1, .overwrite (utf8 "/A") (utf8 "class A ;") 2, .advance 0 3,
    .start (utf8 "/A"), .advance 0 4, .advance 1 5, .advance 0 6,
    .overwrite (utf8 "/A") (utf8 "enum A ;") 7, .advance 0 8, .advance 1 9, .advance 1 10,
    .advance 1 11, .advance 1 12]

def hitSchedule : List RunEvent := [.start (utf8 "/A"), .advance 2 13]

def sharedStart : SharedState :=
  { tree := FileTree.empty.set [utf8 "A"] (.file (utf8 "enum A ;") 0)
    cache := ⟨utf8 "/c", authorEngine.fingerprint, [], false, 0⟩ }

def RunPhase.issues? : RunPhase → Option (List Issue)
  | .finished (.ok issues) => some issues
  | _ => none

theorem interleaved_entries_quiet :
    let final := sharedStart.after authorEngine (quietSchedule ++ hitSchedule)
    Undisturbed authorEngine sharedStart (quietSchedule ++ hitSchedule) ∧
      final.runs.map (fun r => r.phase.issues?.map List.length) = [some 1, some 0, some 0] ∧
      AlwaysHonest authorEngine sharedStart (quietSchedule ++ hitSchedule) ∧
      ∀ result, final.runs[2]? = some ⟨utf8 "/A", .finished result⟩ →
        ∀ now, result = (authorEngine.run final.tree now none (utf8 "/A")).1 := by
  have undisturbed : Undisturbed authorEngine sharedStart (quietSchedule ++ hitSchedule) := by
    decide +kernel
  have all := @interleaved_entries authorEngine sharedStart.tree sharedStart.cache []
    (quietSchedule ++ hitSchedule) .nil (by decide +kernel)
  have agree := all.2.1 undisturbed
  refine ⟨undisturbed, by decide +kernel, all.1.mpr agree, fun result done => ?_⟩
  exact all.2.2 agree quietSchedule hitSchedule (utf8 "/A") rfl ⟨rfl, rfl, trivial⟩ 2 result
    (by decide +kernel) done

section Decidable

instance decidableExceptOk {ε α : Type} [DecidableEq α] (x : Except ε α) (a : α) :
    Decidable (x = .ok a) :=
  match x with
  | .ok b => decidable_of_iff (b = a) ⟨congrArg Except.ok, Except.ok.inj⟩
  | .error _ => .isFalse nofun

instance (e : Engine) (known : List Text) (path : Text) (entry : CacheEntry) :
    Decidable (entry.Honest e known path) :=
  inferInstanceAs (Decidable (∃ content ∈ known, _ ∧ _))

instance (e : Engine) (s : SharedState) : Decidable (s.Honest e) :=
  inferInstanceAs (Decidable (∀ p ∈ _, CacheEntry.Honest _ _ _ _))

end Decidable

/-- A file is overwritten between its reading and its digest. -/
def raceSchedule : List RunEvent :=
  [.start (utf8 "/A"), .advance 0 1, .advance 0 2, .advance 0 3,
    .overwrite (utf8 "/A") (utf8 "class A ;") 4, .advance 0 5, .advance 0 6,
    .start (utf8 "/A"), .advance 1 7]

/-- The entry that such a run leaves behind has the digest of the new content and the issues of the
    old one, and a run that starts later and meets no change gives these. -/
theorem stale_entry_survives :
    let final := sharedStart.after authorEngine raceSchedule
    CollisionFree final.seen ∧ ¬ final.Honest authorEngine ∧
      FileStays authorEngine (utf8 "/A") (sharedStart.after authorEngine (raceSchedule.take 5))
        (raceSchedule.drop 5) ∧
      final.runs.map (fun r => r.phase.issues?) = [some [], some []] ∧
      (authorEngine.run final.tree 8 none (utf8 "/A")).1.toOption.map List.length = some 1 :=
  ⟨by decide +kernel, by decide +kernel, ⟨rfl, rfl, rfl, rfl, trivial⟩, by decide +kernel,
    by decide +kernel⟩

end JavadocLint
