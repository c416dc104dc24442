import Mathlib
import JavadocLint.Engine.Batch
import JavadocLint.Proofs.InterleavedRuns

/- Processing a directory by tasks, one for each file. The tasks share the cache, begin and take their
   steps in any order, and write into slots of their own; what the slots hold is gathered at the end
   in the order of the files.

   Nobody cancels from outside. A limit on the number of tasks that run at a time leaves fewer orders
   and is not modelled. Log entries come in the order in which tasks end. -/
namespace JavadocLint

def RunPhase.rank : RunPhase → Nat
  | .begun => 6
  | .missed => 5
  | .loaded _ => 4
  | .checked _ _ => 3
  | .measured _ _ _ => 2
  | .finished _ => 1

theorem runStep_rank {e : Engine} {t : FileTree} {now : Int} {path : Text} {phase : RunPhase}
    (unfinished : ∀ result, phase ≠ .finished result) (c : Cache) :
    (e.runStep t now path (phase, c)).1.rank < phase.rank := by
  have move := runStep_move e t now path phase c
  generalize e.runStep t now path (phase, c) = moved at move ⊢
  cases move with
  | rest result => exact absurd rfl (unfinished _)
  | _ => simp [RunPhase.rank]

inductive TaskPhase where
  | waiting
  | running (phase : RunPhase)
  | done (result : Except Failure (List Issue))
  /-- The group had failed before the task began. -/
  | dropped

def TaskPhase.rank : TaskPhase → Nat
  | .waiting => 7
  | .running phase => phase.rank
  | .done _ => 0
  | .dropped => 0

def TaskPhase.isOver : TaskPhase → Bool
  | .done _ => true
  | .dropped => true
  | _ => false

structure DirectoryTask where
  file : Text
  phase : TaskPhase := .waiting

/-- The shared cache, the tasks, a slot for the issues and one for the failure of each file, the
    failure that stops the group, and the files in the order in which their processing was begun. -/
structure DirectoryRun where
  cache : Option Cache
  tasks : List DirectoryTask
  issues : List (List Issue)
  failures : List (Option Failure)
  groupFailure : Option Failure := none
  calls : List Text := []
  logs : List LogEntry := []

def Engine.processStep (e : Engine) (t : FileTree) (now : Int) (file : Text) :
    RunPhase × Option Cache → RunPhase × Option Cache
  | (phase, some c) =>
    ((e.runStep t now file (phase, c)).1, some (e.runStep t now file (phase, c)).2)
  | (_, none) => (.finished (e.run t now none file).1, none)

namespace DirectoryRun

variable (e : Engine) (t : FileTree) (fails : Text → Option Failure)

def start (cache : Option Cache) (files : List Text) : DirectoryRun where
  cache := cache
  tasks := files.map fun file => { file }
  issues := files.map fun _ => []
  failures := files.map fun _ => none

def firstPhase (file : Text) : RunPhase :=
  match fails file with
  | some f => .finished (.error f)
  | none => .begun

def begin (s : DirectoryRun) (number : Nat) (file : Text) : DirectoryRun :=
  { s with
    tasks := s.tasks.set number ⟨file, .running (firstPhase fails file)⟩
    calls := s.calls ++ [file] }

def advance (s : DirectoryRun) (number : Nat) (now : Int) (file : Text) (phase : RunPhase) :
    DirectoryRun :=
  let moved := e.processStep t now file (phase, s.cache)
  { s with cache := moved.2, tasks := s.tasks.set number ⟨file, .running moved.1⟩ }

/-- A task returns. The first failure that one returns stops the tasks which have not begun. -/
def returned (s : DirectoryRun) (failure : Option Failure) : DirectoryRun :=
  { s with groupFailure := s.groupFailure.or failure }

def record (s : DirectoryRun) (number : Nat) (r : Batch.FileResult) : DirectoryRun :=
  let s := { s with tasks := s.tasks.set number ⟨r.file, .done r.result⟩ }
  match r.result with
  | .ok issues => { s with issues := s.issues.set number issues }
  | .error _ =>
    { s with failures := s.failures.set number r.failure?, logs := s.logs ++ r.log?.toList }

/-- A task takes its next step. A file that fails is no failure of its task. -/
def turn (s : DirectoryRun) (number : Nat) (now : Int) : DirectoryRun :=
  match s.tasks[number]? with
  | none => s
  | some ⟨file, .waiting⟩ =>
    if s.groupFailure.isSome then
      { s with tasks := s.tasks.set number ⟨file, .dropped⟩ }.returned (some .canceled)
    else s.begin fails number file
  | some ⟨file, .running (.finished result)⟩ => (s.record number ⟨file, result⟩).returned none
  | some ⟨file, .running phase⟩ => s.advance e t number now file phase
  | some ⟨_, .done _⟩ => s
  | some ⟨_, .dropped⟩ => s

def after (s : DirectoryRun) (schedule : List (Nat × Int)) : DirectoryRun :=
  schedule.foldl (fun s next => s.turn e t fails next.1 next.2) s

def isOver (s : DirectoryRun) : Bool := s.tasks.all fun task => task.phase.isOver

def batch (s : DirectoryRun) : Batch :=
  match s.groupFailure with
  | some f => { failure := some f, logs := s.logs }
  | none =>
    let failures := s.failures.filterMap id
    { issues := s.issues.flatten
      failure := if failures.isEmpty then none else some (.all failures)
      logs := s.logs }

end DirectoryRun

namespace DirectoryTask

def result? (task : DirectoryTask) : Option Batch.FileResult :=
  match task.phase with
  | .done result => some ⟨task.file, result⟩
  | _ => none

def issues (task : DirectoryTask) : List Issue :=
  (task.result?.map Batch.FileResult.issues).getD []

def failure? (task : DirectoryTask) : Option Failure :=
  task.result?.bind Batch.FileResult.failure?

def log? (task : DirectoryTask) : Option LogEntry := task.result?.bind Batch.FileResult.log?

def begun? (task : DirectoryTask) : Option Text :=
  match task.phase with
  | .running _ => some task.file
  | .done _ => some task.file
  | _ => none

end DirectoryTask

namespace DirectoryRun

variable {e : Engine} {t : FileTree} {fails : Text → Option Failure} {s : DirectoryRun}
  {number : Nat} {now : Int} {files : List Text}

inductive Turned (e : Engine) (t : FileTree) (fails : Text → Option Failure) (s : DirectoryRun)
    (number : Nat) (now : Int) : DirectoryRun → Prop where
  | idle (ended : ∀ task ∈ s.tasks[number]?, task.phase.rank = 0) : Turned e t fails s number now s
  | begin (file : Text) (there : s.tasks[number]? = some ⟨file, .waiting⟩) :
    Turned e t fails s number now (s.begin fails number file)
  | advance (file : Text) (phase : RunPhase)
    (there : s.tasks[number]? = some ⟨file, .running phase⟩)
    (unfinished : ∀ result, phase ≠ .finished result) :
    Turned e t fails s number now (s.advance e t number now file phase)
  | record (file : Text) (result : Except Failure (List Issue))
    (there : s.tasks[number]? = some ⟨file, .running (.finished result)⟩) :
    Turned e t fails s number now (s.record number ⟨file, result⟩)

theorem turn_turned (e : Engine) (t : FileTree) (fails : Text → Option Failure) (number : Nat)
    (now : Int) (going : s.groupFailure = none) :
    Turned e t fails s number now (s.turn e t fails number now) := by
  unfold turn
  split
  · rename_i absent
    exact .idle (by simp [absent])
  · rename_i file there
    rw [going]
    exact .begin file there
  · rename_i file result there
    unfold returned
    rw [Option.or_none]
    exact .record file result there
  · rename_i file phase unfinished there
    exact .advance file phase there unfinished
  · rename_i file result there
    refine .idle fun task found => ?_
    rw [there] at found
    cases found
    rfl
  · rename_i file there
    refine .idle fun task found => ?_
    rw [there] at found
    cases found
    rfl

theorem record_tasks (s : DirectoryRun) (number : Nat) (r : Batch.FileResult) :
    (s.record number r).tasks = s.tasks.set number ⟨r.file, .done r.result⟩ := by
  unfold record
  cases r.result <;> rfl

theorem record_cache (s : DirectoryRun) (number : Nat) (r : Batch.FileResult) :
    (s.record number r).cache = s.cache := by
  unfold record
  cases r.result <;> rfl

end DirectoryRun

section Slots

variable {α β : Type} {l : List α} {n : Nat} {a : α}

theorem map_set_same (f : α → β) (b : α) (there : l[n]? = some a) (same : f b = f a) :
    (l.set n b).map f = l.map f := by
  induction l generalizing n with
  | nil => rfl
  | cons first rest ih =>
    cases n with
    | zero =>
      cases there
      exact congrArg (· :: rest.map f) same
    | succ n => exact congrArg (f first :: ·) (ih there)

theorem filterMap_set_same (f : α → Option β) (b : α) (there : l[n]? = some a)
    (same : f b = f a) : (l.set n b).filterMap f = l.filterMap f := by
  have values := congrArg (List.filterMap id) (map_set_same f b there same)
  simpa only [List.filterMap_map, Function.id_comp] using values

theorem perm_filterMap_set (f : α → Option β) (b : α) (there : l[n]? = some a)
    (new : f a = none) :
    ((l.set n b).filterMap f).Perm (l.filterMap f ++ (f b).toList) := by
  induction l generalizing n with
  | nil => cases there
  | cons first rest ih =>
    cases n with
    | zero =>
      cases there
      rw [List.set_cons_zero, List.filterMap_cons_none new]
      cases value : f b with
      | none =>
        rw [List.filterMap_cons_none value, Option.toList_none, List.append_nil]
      | some y =>
        rw [List.filterMap_cons_some value]
        exact (List.perm_append_singleton y _).symm
    | succ n =>
      rw [List.set_cons_succ]
      cases value : f first with
      | none =>
        rw [List.filterMap_cons_none value, List.filterMap_cons_none value]
        exact ih there
      | some y =>
        rw [List.filterMap_cons_some value, List.filterMap_cons_some value]
        exact (ih there).cons y

end Slots

namespace DirectoryRun

variable {e : Engine} {t : FileTree} {fails : Text → Option Failure} {s s' : DirectoryRun}
  {number : Nat} {now : Int} {files : List Text}

/-- Slots, calls and logs hold what the tasks have done, and no task stops the others. -/
structure Recorded (files : List Text) (s : DirectoryRun) : Prop where
  going : s.groupFailure = none
  names : s.tasks.map DirectoryTask.file = files
  issues : s.issues = s.tasks.map DirectoryTask.issues
  failures : s.failures = s.tasks.map DirectoryTask.failure?
  calls : s.calls.Perm (s.tasks.filterMap DirectoryTask.begun?)
  logs : s.logs.Perm (s.tasks.filterMap DirectoryTask.log?)

theorem recorded_start (cache : Option Cache) (files : List Text) :
    Recorded files (start cache files) := by
  unfold start
  induction files with
  | nil => exact ⟨rfl, rfl, rfl, rfl, .nil, .nil⟩
  | cons file rest ih =>
    constructor
    · rfl
    · exact congrArg (file :: ·) ih.names
    · exact congrArg ([] :: ·) ih.issues
    · exact congrArg (none :: ·) ih.failures
    · exact ih.calls
    · exact ih.logs

theorem Recorded.continued {old : DirectoryTask} (recorded : s.Recorded files)
    (there : s.tasks[number]? = some old) (new : DirectoryTask) (file : new.file = old.file)
    (before : old.result? = none) (still : new.result? = none) (cache : Option Cache)
    {calls : List Text}
    (begun : calls.Perm ((s.tasks.set number new).filterMap DirectoryTask.begun?)) :
    Recorded files { s with cache, tasks := s.tasks.set number new, calls } := by
  have sameResult : new.result? = old.result? := still.trans before.symm
  have issues : new.issues = old.issues := by rw [DirectoryTask.issues, sameResult]; rfl
  have failure : new.failure? = old.failure? := by rw [DirectoryTask.failure?, sameResult]; rfl
  have log : new.log? = old.log? := by rw [DirectoryTask.log?, sameResult]; rfl
  constructor
  · exact recorded.going
  · exact (map_set_same _ new there file).trans recorded.names
  · exact recorded.issues.trans (map_set_same _ new there issues).symm
  · exact recorded.failures.trans (map_set_same _ new there failure).symm
  · exact begun
  · dsimp only
    rw [filterMap_set_same _ new there log]
    exact recorded.logs

theorem Recorded.ended {file : Text} {result : Except Failure (List Issue)}
    (recorded : s.Recorded files)
    (there : s.tasks[number]? = some ⟨file, .running (.finished result)⟩) :
    Recorded files (s.record number ⟨file, result⟩) := by
  have names := (map_set_same DirectoryTask.file ⟨file, .done result⟩ there rfl).trans recorded.names
  have begun : s.calls.Perm
      ((s.tasks.set number ⟨file, .done result⟩).filterMap DirectoryTask.begun?) := by
    rw [filterMap_set_same _ _ there (by rfl)]
    exact recorded.calls
  cases result with
  | ok issues =>
    have log := filterMap_set_same DirectoryTask.log? ⟨file, .done (.ok issues)⟩ there rfl
    refine ⟨recorded.going, names, ?_, ?_, begun, log ▸ recorded.logs⟩
    · change s.issues.set number issues = List.map _ (s.tasks.set number _)
      rw [recorded.issues, List.map_set]
      rfl
    · exact recorded.failures.trans (map_set_same _ ⟨file, .done (.ok issues)⟩ there rfl).symm
  | error f =>
    have log := perm_filterMap_set DirectoryTask.log? ⟨file, .done (.error f)⟩ there rfl
    refine ⟨recorded.going, names, ?_, ?_, begun, (recorded.logs.append_right _).trans log.symm⟩
    · exact recorded.issues.trans (map_set_same _ ⟨file, .done (.error f)⟩ there rfl).symm
    · change s.failures.set number _ = List.map _ (s.tasks.set number _)
      rw [recorded.failures, List.map_set]
      rfl

theorem Recorded.turned (recorded : s.Recorded files) (turned : Turned e t fails s number now s') :
    s'.Recorded files := by
  cases turned with
  | idle => exact recorded
  | begin file there =>
    have begun := perm_filterMap_set DirectoryTask.begun?
      ⟨file, .running (firstPhase fails file)⟩ there rfl
    exact recorded.continued there ⟨file, .running (firstPhase fails file)⟩ rfl rfl rfl s.cache
      ((recorded.calls.append_right [file]).trans begun.symm)
  | advance file phase there unfinished =>
    refine recorded.continued there
      ⟨file, .running (e.processStep t now file (phase, s.cache)).1⟩ rfl rfl rfl _ ?_
    rw [filterMap_set_same _ _ there (by rfl)]
    exact recorded.calls
  | record file result there => exact recorded.ended there

theorem Recorded.after (recorded : s.Recorded files) (e : Engine) (t : FileTree)
    (fails : Text → Option Failure) (schedule : List (Nat × Int)) :
    (s.after e t fails schedule).Recorded files := by
  induction schedule generalizing s with
  | nil => exact recorded
  | cons next rest ih => exact ih (recorded.turned (turn_turned e t fails next.1 next.2 recorded.going))

theorem processStep_rank {phase : RunPhase} (unfinished : ∀ result, phase ≠ .finished result)
    (file : Text) (cache : Option Cache) :
    (e.processStep t now file (phase, cache)).1.rank < phase.rank := by
  cases cache with
  | some c => exact runStep_rank unfinished c
  | none =>
    cases phase with
    | finished result => exact absurd rfl (unfinished result)
    | _ => simp [Engine.processStep, RunPhase.rank]

theorem turned_rank (turned : Turned e t fails s number now s') {other : Nat} {task : DirectoryTask}
    (there : s.tasks[other]? = some task) :
    ∃ task', s'.tasks[other]? = some task' ∧
      task'.phase.rank ≤ task.phase.rank - if number = other then 1 else 0 := by
  have replaced : ∀ {old new : DirectoryTask}, s.tasks[number]? = some old →
      new.phase.rank < old.phase.rank → ∃ task', (s.tasks.set number new)[other]? = some task' ∧
        task'.phase.rank ≤ task.phase.rank - if number = other then 1 else 0 := by
    intro old new found less
    by_cases same : number = other
    · subst same
      rw [found] at there
      cases there
      refine ⟨new, List.getElem?_set_self (List.getElem?_eq_some_iff.mp found).1, ?_⟩
      rw [if_pos rfl]
      omega
    · refine ⟨task, ?_, ?_⟩
      · rw [List.getElem?_set_ne same]
        exact there
      · rw [if_neg same]
        omega
  cases turned with
  | idle ended =>
    refine ⟨task, there, ?_⟩
    by_cases same : number = other
    · have zero := ended task (same ▸ there)
      omega
    · rw [if_neg same]
      omega
  | begin file found =>
    refine replaced found ?_
    unfold firstPhase
    split <;> simp [TaskPhase.rank, RunPhase.rank]
  | advance file phase found unfinished =>
    exact replaced found (processStep_rank unfinished file s.cache)
  | record file result found =>
    rw [record_tasks]
    exact replaced found (by simp [TaskPhase.rank, RunPhase.rank])

theorem after_rank (recorded : s.Recorded files) {other : Nat} {task : DirectoryTask}
    (there : s.tasks[other]? = some task) (schedule : List (Nat × Int)) :
    ∃ task', (s.after e t fails schedule).tasks[other]? = some task' ∧
      task'.phase.rank ≤ task.phase.rank - schedule.countP (·.1 = other) := by
  induction schedule generalizing s task with
  | nil => exact ⟨task, there, by simp⟩
  | cons next rest ih =>
    have turned := turn_turned e t fails next.1 next.2 recorded.going
    obtain ⟨task', there', less⟩ := turned_rank turned there
    obtain ⟨last, found, fewer⟩ := ih (recorded.turned turned) there'
    refine ⟨last, found, ?_⟩
    rw [List.countP_cons]
    simp only [decide_eq_true_eq] at *
    omega

theorem rank_eq_zero {phase : TaskPhase} (zero : phase.rank = 0) : phase.isOver = true := by
  cases phase with
  | waiting => cases zero
  | running phase => cases phase <;> cases zero
  | done result => rfl
  | dropped => rfl

/-- Every task ends that has seven turns. -/
theorem over_of_turns (cache : Option Cache) {schedule : List (Nat × Int)}
    (enough : ∀ number < files.length, 7 ≤ schedule.countP (·.1 = number)) :
    ((start cache files).after e t fails schedule).isOver = true := by
  have recorded := recorded_start cache files
  have last := recorded.after e t fails schedule
  unfold isOver
  rw [List.all_eq_true]
  intro task member
  obtain ⟨number, there⟩ := List.mem_iff_getElem?.mp member
  have inside : number < files.length := by
    have bound := (List.getElem?_eq_some_iff.mp there).1
    rw [← last.names, List.length_map]
    exact bound
  obtain ⟨file, named⟩ : ∃ file, files[number]? = some file :=
    ⟨_, List.getElem?_eq_getElem inside⟩
  have first : (start cache files).tasks[number]? = some ⟨file, .waiting⟩ := by
    unfold start
    rw [List.getElem?_map, named]
    rfl
  obtain ⟨found, same, fewer⟩ := after_rank recorded first schedule
  rw [there] at same
  cases same
  have turns := enough number inside
  have zero : task.phase.rank = 0 := by
    change task.phase.rank ≤ 7 - _ at fewer
    omega
  exact rank_eq_zero zero

end DirectoryRun
end JavadocLint
