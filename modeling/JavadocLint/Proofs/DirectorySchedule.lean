import Mathlib
import JavadocLint.Proofs.DirectoryTasks
import JavadocLint.Proofs.RunOutcome

/- The tasks of a directory do what processing its files one after the other does, in whatever order
   they take their steps. Each file comes to one outcome, so neither the slots nor the cache depend on
   who was first. The files stay as they are meanwhile. -/
namespace JavadocLint

def toldBy (cache : Option Cache) (path : Text) : Option (FileMetadata × List Issue) :=
  cache.bind fun c => c.told path

/-- The processing of a file at its time; of some files it may fail before they are looked at. -/
def Engine.processor (e : Engine) (t : FileTree) (clock : Text → Int)
    (fails : Text → Option Failure) : Processor (Option Cache) := fun cache file =>
  match fails file with
  | some f => (.error f, cache)
  | none => e.run t (clock file) cache file

/-- What the processing of a file comes to where it is not looked up in a cache: the cache is left
    as it is. -/
structure Outcomes (e : Engine) (t : FileTree) (fails : Text → Option Failure)
    (first : Option Cache) (o : Text → RunOutcome) : Prop where
  failing : ∀ file f, fails file = some f → o file = ⟨.error f, toldBy first file⟩
  ignored : ∀ file, fails file = none → e.isIgnoredPath file = true →
    o file = ⟨.ok [], toldBy first file⟩
  uncached : first = none → ∀ file, fails file = none → e.isIgnoredPath file = false →
    o file = ⟨e.checkFile t file, none⟩

/-- Every file that is still to be looked up comes to its outcome with this cache. -/
structure Steady (e : Engine) (t : FileTree) (fails : Text → Option Failure)
    (times : Text → Int → Prop) (files : List Text) (o : Text → RunOutcome)
    (first cache : Option Cache) : Prop where
  isSome : cache.isSome = first.isSome
  comes : ∀ c ∈ cache, ∀ file ∈ files, fails file = none → e.isIgnoredPath file = false →
    e.ComesTo t (times file) file (o file) c

section Processing

variable {e : Engine} {t : FileTree} {fails : Text → Option Failure} {times : Text → Int → Prop}
  {first cache : Option Cache} {files : List Text} {o : Text → RunOutcome} {clock : Text → Int}

theorem Steady.first_none (steady : Steady e t fails times files o first none) : first = none := by
  cases first with
  | none => rfl
  | some c => cases steady.isSome

theorem Steady.replaced {c c' : Cache} {file : Text}
    (steady : Steady e t fails times files o first (some c)) (elsewhere : SameElsewhere file c c')
    (comes : e.ComesTo t (times file) file (o file) c') :
    Steady e t fails times files o first (some c') := by
  refine ⟨steady.isSome, ?_⟩
  intro c'' isNew other there fine wanted
  cases isNew
  by_cases same : other = file
  · subst same
    exact comes
  · exact (steady.comes c rfl other there fine wanted).elsewhere elsewhere same

theorem processor_outcome (outcomes : Outcomes e t fails first o)
    (steady : Steady e t fails times files o first cache) {file : Text} (member : file ∈ files)
    (within : times file (clock file))
    (told : toldBy cache file = (o file).told ∨ toldBy cache file = toldBy first file) :
    ∃ cache', e.processor t clock fails cache file = ((o file).result, cache') ∧
      Steady e t fails times files o first cache' ∧ toldBy cache' file = (o file).told ∧
      ∀ other ≠ file, toldBy cache' other = toldBy cache other := by
  unfold Engine.processor
  cases failing : fails file with
  | some f =>
    have outcome := outcomes.failing file f failing
    refine ⟨cache, ?_, steady, ?_, fun _ _ => rfl⟩
    · rw [outcome]
    · rcases told with same | same
      · exact same
      · rw [same, outcome]
  | none =>
    dsimp only
    cases ignored : e.isIgnoredPath file with
    | true =>
      have outcome := outcomes.ignored file failing ignored
      refine ⟨cache, ?_, steady, ?_, fun _ _ => rfl⟩
      · unfold Engine.run
        rw [if_pos ignored, outcome]
      · rcases told with same | same
        · exact same
        · rw [same, outcome]
    | false =>
      cases cache with
      | none =>
        have outcome := outcomes.uncached steady.first_none file failing ignored
        refine ⟨none, ?_, steady, ?_, fun _ _ => rfl⟩
        · unfold Engine.run
          rw [if_neg (by simp [ignored]), outcome]
        · rw [outcome]
          rfl
      | some c =>
        have comes := steady.comes c rfl file member failing ignored
        obtain ⟨c', ran, tells, still, elsewhere⟩ := run_outcome ignored comes within
        exact ⟨some c', ran, steady.replaced elsewhere still, tells, fun other different =>
          elsewhere.told different⟩

theorem processAll_outcome (outcomes : Outcomes e t fails first o) {rest : List Text}
    (steady : Steady e t fails times files o first cache) (subset : rest ⊆ files)
    (within : ∀ file ∈ files, times file (clock file))
    (told : ∀ file, toldBy cache file = (o file).told ∨ toldBy cache file = toldBy first file) :
    (Batch.processAll (e.processor t clock fails) cache rest).1 =
        rest.map (fun file => ⟨file, (o file).result⟩) ∧
      ∀ file, toldBy (Batch.processAll (e.processor t clock fails) cache rest).2 file =
        if file ∈ rest then (o file).told else toldBy cache file := by
  induction rest generalizing cache with
  | nil => exact ⟨rfl, fun file => rfl⟩
  | cons next rest ih =>
    have member := subset List.mem_cons_self
    obtain ⟨cache', processed, still, tells, elsewhere⟩ :=
      processor_outcome outcomes steady member (within next member) (told next)
    have later := ih still (fun file there => subset (List.mem_cons_of_mem _ there)) (by
      intro file
      by_cases same : file = next
      · subst same
        exact .inl tells
      · rw [elsewhere file same]
        exact told file)
    unfold Batch.processAll
    rw [processed]
    dsimp only
    constructor
    · rw [later.1, List.map_cons]
    · intro file
      rw [later.2 file]
      by_cases inRest : file ∈ rest
      · rw [if_pos inRest, if_pos (List.mem_cons_of_mem _ inRest)]
      · rw [if_neg inRest]
        by_cases same : file = next
        · subst same
          rw [if_pos List.mem_cons_self, tells]
        · rw [if_neg (by simp [same, inRest]), elsewhere file same]

theorem processStep_outcome (outcomes : Outcomes e t fails first o)
    (steady : Steady e t fails times files o first cache) {file : Text} {phase : RunPhase} {now : Int}
    (member : file ∈ files) (fine : fails file = none) (within : times file now)
    (unfinished : ∀ result, phase ≠ .finished result) (heads : phase.HeadsFor e t file (o file))
    (midway : phase.isMidway = true → e.isIgnoredPath file = false)
    (known : phase.isMidway = true →
      toldBy cache file = (o file).told ∨ toldBy cache file = none)
    (passed : e.isIgnoredPath file = true → toldBy cache file = (o file).told) :
    Steady e t fails times files o first (e.processStep t now file (phase, cache)).2 ∧
      (e.processStep t now file (phase, cache)).1.HeadsFor e t file (o file) ∧
      ((e.processStep t now file (phase, cache)).1.isMidway = true →
        e.isIgnoredPath file = false) ∧
      (toldBy (e.processStep t now file (phase, cache)).2 file = (o file).told ∨
        (e.processStep t now file (phase, cache)).1.isMidway = true ∧
          toldBy (e.processStep t now file (phase, cache)).2 file = none) ∧
      ∀ other ≠ file,
        toldBy (e.processStep t now file (phase, cache)).2 other = toldBy cache other := by
  cases cache with
  | none =>
    have outcome : o file = ⟨(e.run t now none file).1, none⟩ := by
      rw [run_without_cache]
      cases ignored : e.isIgnoredPath file with
      | true =>
        rw [outcomes.ignored file fine ignored, steady.first_none]
        rfl
      | false => exact outcomes.uncached steady.first_none file fine ignored
    refine ⟨steady, (congrArg RunOutcome.result outcome).symm, ?_, .inl ?_, fun _ _ => rfl⟩
    · intro impossible
      cases impossible
    · rw [outcome]
      rfl
  | some c =>
    have elsewhere := runStep_elsewhere e t now file phase c
    cases ignored : e.isIgnoredPath file with
    | true =>
      -- the task has only begun, and ends at once
      cases phase with
      | begun =>
        have skips : e.runStep t now file (.begun, c) = (.finished (.ok []), c) := if_pos ignored
        unfold Engine.processStep
        dsimp only
        rw [skips]
        refine ⟨steady, ?_, ?_, .inl (passed ignored), fun _ _ => rfl⟩
        · exact (congrArg RunOutcome.result (outcomes.ignored file fine ignored)).symm
        · intro impossible
          cases impossible
      | finished result => exact absurd rfl (unfinished result)
      | _ =>
        rw [midway rfl] at ignored
        cases ignored
    | false =>
      obtain ⟨still, ahead, tells⟩ := runStep_outcome ignored unfinished
        (steady.comes c rfl file member fine ignored) heads within known
      exact ⟨steady.replaced elsewhere still, ahead, fun _ => rfl, tells, fun other different =>
        elsewhere.told different⟩

end Processing

namespace DirectoryTask

def isMidway (task : DirectoryTask) : Bool :=
  match task.phase with
  | .running phase => phase.isMidway
  | _ => false

def isFresh (task : DirectoryTask) : Bool :=
  match task.phase with
  | .waiting => true
  | .running .begun => true
  | _ => false

theorem isFresh_midway {phase : RunPhase} (file : Text) (midway : phase.isMidway = true) :
    DirectoryTask.isFresh ⟨file, .running phase⟩ = false := by
  cases phase with
  | begun => cases midway
  | finished result => cases midway
  | _ => rfl

def Sound (e : Engine) (t : FileTree) (fails : Text → Option Failure) (o : Text → RunOutcome)
    (task : DirectoryTask) : Prop :=
  match task.phase with
  | .waiting => True
  | .running phase => phase.HeadsFor e t task.file (o task.file) ∧
      ((∀ result, phase ≠ .finished result) → fails task.file = none) ∧
      (phase.isMidway = true → e.isIgnoredPath task.file = false)
  | .done result => result = (o task.file).result
  | .dropped => False

end DirectoryTask

namespace DirectoryRun

/-- The cache tells of a file what its outcome says; or nothing, while a task is midway; or what it
    told at first, while no task has looked. -/
def TellsRight (o : Text → RunOutcome) (first : Option Cache) (s : DirectoryRun) (path : Text) :
    Prop :=
  toldBy s.cache path = (o path).told ∨
    (toldBy s.cache path = none ∧ ∃ task ∈ s.tasks, task.file = path ∧ task.isMidway = true) ∨
    (toldBy s.cache path = toldBy first path ∧
      ∀ task ∈ s.tasks, task.file = path → task.isFresh = true)

structure Orderly (e : Engine) (t : FileTree) (fails : Text → Option Failure)
    (times : Text → Int → Prop) (files : List Text) (o : Text → RunOutcome) (first : Option Cache)
    (s : DirectoryRun) : Prop where
  steady : Steady e t fails times files o first s.cache
  sound : ∀ task ∈ s.tasks, task.Sound e t fails o
  tells : ∀ path, s.TellsRight o first path
  elsewhere : ∀ path, path ∉ files → toldBy s.cache path = toldBy first path

variable {e : Engine} {t : FileTree} {fails : Text → Option Failure} {times : Text → Int → Prop}
  {files : List Text} {o : Text → RunOutcome} {first : Option Cache} {s s' : DirectoryRun}
  {number : Nat} {now : Int} {path : Text} {old new : DirectoryTask}

theorem mem_set_of_ne {α : Type} {l : List α} {n : Nat} {a b x : α} (there : l[n]? = some a)
    (member : x ∈ l) (different : x ≠ a) : x ∈ l.set n b := by
  obtain ⟨k, found⟩ := List.mem_iff_getElem?.mp member
  have apart : n ≠ k := by
    intro same
    rw [← same, there] at found
    exact different (Option.some.inj found).symm
  rw [List.mem_iff_getElem?]
  exact ⟨k, by rw [List.getElem?_set_ne apart, found]⟩

theorem TellsRight.replaced (tells : s.TellsRight o first path)
    (there : s.tasks[number]? = some old) (tasks : s'.tasks = s.tasks.set number new)
    (file : new.file = old.file) (same : toldBy s'.cache path = toldBy s.cache path)
    (keeps : old.file = path →
      (old.isMidway = true → new.isMidway = true) ∧ (old.isFresh = true → new.isFresh = true)) :
    s'.TellsRight o first path := by
  unfold TellsRight
  rw [same, tasks]
  rcases tells with right | ⟨nothing, task, member, named, midway⟩ | ⟨untouched, fresh⟩
  · exact .inl right
  · refine .inr (.inl ⟨nothing, ?_⟩)
    by_cases isOld : task = old
    · subst isOld
      have inside := (List.getElem?_eq_some_iff.mp there).1
      exact ⟨new, List.mem_set inside new, file.trans named, (keeps named).1 midway⟩
    · exact ⟨task, mem_set_of_ne there member isOld, named, midway⟩
  · refine .inr (.inr ⟨untouched, ?_⟩)
    intro task member named
    rcases List.mem_or_eq_of_mem_set member with before | isNew
    · exact fresh task before named
    · subst isNew
      have oldNamed : old.file = path := file.symm.trans named
      exact (keeps oldNamed).2 (fresh old (List.mem_of_getElem? there) oldNamed)

theorem Orderly.passedOver (orderly : s.Orderly e t fails times files o first)
    (outcomes : Outcomes e t fails first o)
    (passed : (∃ f, fails path = some f) ∨ fails path = none ∧ e.isIgnoredPath path = true) :
    toldBy s.cache path = (o path).told := by
  have told : (o path).told = toldBy first path := by
    rcases passed with ⟨f, failing⟩ | ⟨fine, ignored⟩
    · rw [outcomes.failing path f failing]
    · rw [outcomes.ignored path fine ignored]
  rcases orderly.tells path with right | ⟨-, task, member, named, midway⟩ | ⟨untouched, -⟩
  · exact right
  · -- a task that is midway has looked the file up
    exfalso
    have sound := orderly.sound task member
    obtain ⟨file, phase⟩ := task
    subst named
    cases phase with
    | running phase =>
      obtain ⟨-, fine, wanted⟩ := sound
      have unfinished : ∀ result, phase ≠ .finished result := by
        intro result isFinished
        subst isFinished
        cases midway
      rcases passed with ⟨f, failing⟩ | ⟨-, ignored⟩
      · cases (fine unfinished).symm.trans failing
      · cases (wanted midway).symm.trans ignored
    | _ => cases midway
  · exact untouched.trans told.symm

theorem orderly_start (steady : Steady e t fails times files o first first) :
    Orderly e t fails times files o first (start first files) := by
  have waiting : ∀ task ∈ (start first files).tasks, task.phase = .waiting := by
    intro task member
    obtain ⟨file, -, isTask⟩ := List.mem_map.mp member
    rw [← isTask]
  constructor
  · exact steady
  · intro task member
    unfold DirectoryTask.Sound
    rw [waiting task member]
    trivial
  · intro path
    refine .inr (.inr ⟨rfl, ?_⟩)
    intro task member _
    unfold DirectoryTask.isFresh
    rw [waiting task member]
  · intro path _
    rfl

theorem Orderly.sound_set (orderly : s.Orderly e t fails times files o first)
    (sound : new.Sound e t fails o) :
    ∀ task ∈ s.tasks.set number new, task.Sound e t fails o := by
  intro task member
  rcases List.mem_or_eq_of_mem_set member with before | isNew
  · exact orderly.sound task before
  · exact isNew ▸ sound

theorem Orderly.begins {file : Text} (orderly : s.Orderly e t fails times files o first)
    (outcomes : Outcomes e t fails first o)
    (there : s.tasks[number]? = some ⟨file, .waiting⟩) :
    Orderly e t fails times files o first (s.begin fails number file) := by
  constructor
  · exact orderly.steady
  · refine orderly.sound_set ?_
    unfold firstPhase
    cases failing : fails file with
    | some f =>
      refine ⟨?_, ?_, ?_⟩
      · exact (congrArg RunOutcome.result (outcomes.failing file f failing)).symm
      · intro unfinished
        exact absurd rfl (unfinished (.error f))
      · intro impossible
        cases impossible
    | none =>
      refine ⟨trivial, fun _ => failing, ?_⟩
      intro impossible
      cases impossible
  · intro path
    cases failing : fails file with
    | some f =>
      by_cases here : file = path
      · exact .inl (orderly.passedOver outcomes (.inl ⟨f, here ▸ failing⟩))
      · exact (orderly.tells path).replaced there rfl rfl rfl fun named => absurd named here
    | none =>
      refine (orderly.tells path).replaced there rfl rfl rfl fun _ => ⟨?_, ?_⟩
      · intro impossible
        cases impossible
      · intro _
        unfold firstPhase
        rw [failing]
        rfl
  · exact orderly.elsewhere

theorem Orderly.ends {file : Text} {result : Except Failure (List Issue)}
    (orderly : s.Orderly e t fails times files o first)
    (there : s.tasks[number]? = some ⟨file, .running (.finished result)⟩) :
    Orderly e t fails times files o first (s.record number ⟨file, result⟩) := by
  have sound := orderly.sound _ (List.mem_of_getElem? there)
  have tasks := record_tasks s number ⟨file, result⟩
  have cache := record_cache s number ⟨file, result⟩
  constructor
  · rw [cache]
    exact orderly.steady
  · have done : DirectoryTask.Sound e t fails o ⟨file, .done result⟩ := sound.1
    rw [tasks]
    exact orderly.sound_set done
  · intro path
    refine (orderly.tells path).replaced there tasks rfl (by rw [cache]) fun _ => ⟨?_, ?_⟩
    · intro impossible
      cases impossible
    · intro impossible
      cases impossible
  · rw [cache]
    exact orderly.elsewhere

theorem Orderly.advances {file : Text} {phase : RunPhase}
    (orderly : s.Orderly e t fails times files o first) (outcomes : Outcomes e t fails first o)
    (recorded : s.Recorded files) (within : ∀ file ∈ files, times file now)
    (there : s.tasks[number]? = some ⟨file, .running phase⟩)
    (unfinished : ∀ result, phase ≠ .finished result) :
    Orderly e t fails times files o first (s.advance e t number now file phase) := by
  have isTask := List.mem_of_getElem? there
  have member : file ∈ files := by
    rw [← recorded.names]
    exact List.mem_map.mpr ⟨_, isTask, rfl⟩
  obtain ⟨heads, fine, midway⟩ := orderly.sound _ isTask
  have known : phase.isMidway = true →
      toldBy s.cache file = (o file).told ∨ toldBy s.cache file = none := by
    intro inside
    rcases orderly.tells file with right | ⟨nothing, -⟩ | ⟨-, fresh⟩
    · exact .inl right
    · exact .inr nothing
    · have isFresh := fresh _ isTask rfl
      rw [DirectoryTask.isFresh_midway file inside] at isFresh
      cases isFresh
  obtain ⟨steady, ahead, wanted, told, elsewhere⟩ := processStep_outcome outcomes orderly.steady member
    (fine unfinished) (within file member) unfinished heads midway known
    fun ignored => orderly.passedOver outcomes (.inr ⟨fine unfinished, ignored⟩)
  constructor
  · exact steady
  · have sound : DirectoryTask.Sound e t fails o
        ⟨file, .running (e.processStep t now file (phase, s.cache)).1⟩ :=
      ⟨ahead, fun _ => fine unfinished, wanted⟩
    exact orderly.sound_set sound
  · intro path
    by_cases here : file = path
    · subst here
      rcases told with right | ⟨inside, nothing⟩
      · exact .inl right
      · refine .inr (.inl ⟨nothing, ⟨file, .running _⟩, ?_, rfl, inside⟩)
        exact List.mem_set (List.getElem?_eq_some_iff.mp there).1 _
    · exact (orderly.tells path).replaced there rfl rfl (elsewhere path (Ne.symm here)) fun named =>
        absurd named here
  · intro path outside
    have different : path ≠ file := fun same => outside (same ▸ member)
    exact (elsewhere path different).trans (orderly.elsewhere path outside)

theorem Orderly.turned (orderly : s.Orderly e t fails times files o first)
    (outcomes : Outcomes e t fails first o) (recorded : s.Recorded files)
    (within : ∀ file ∈ files, times file now) (turned : Turned e t fails s number now s') :
    s'.Orderly e t fails times files o first := by
  cases turned with
  | idle => exact orderly
  | begin file there => exact orderly.begins outcomes there
  | advance file phase there unfinished =>
    exact orderly.advances outcomes recorded within there unfinished
  | record file result there => exact orderly.ends there

theorem Orderly.after {schedule : List (Nat × Int)}
    (orderly : s.Orderly e t fails times files o first) (outcomes : Outcomes e t fails first o)
    (recorded : s.Recorded files)
    (within : ∀ next ∈ schedule, ∀ file ∈ files, times file next.2) :
    (s.after e t fails schedule).Orderly e t fails times files o first := by
  induction schedule generalizing s with
  | nil => exact orderly
  | cons next rest ih =>
    have turned := turn_turned e t fails next.1 next.2 recorded.going
    refine ih ?_ (recorded.turned turned) ?_
    · exact orderly.turned outcomes recorded (within next List.mem_cons_self) turned
    · intro later member
      exact within later (List.mem_cons_of_mem _ member)

theorem Orderly.tasks_over (orderly : s.Orderly e t fails times files o first)
    (recorded : s.Recorded files) (ended : s.isOver = true) :
    s.tasks = files.map fun file => ⟨file, .done (o file).result⟩ := by
  have each : ∀ task ∈ s.tasks, task = ⟨task.file, .done (o task.file).result⟩ := by
    intro task member
    have isOver := List.all_eq_true.mp ended task member
    have sound := orderly.sound task member
    obtain ⟨file, phase⟩ := task
    cases phase with
    | done result => exact congrArg (fun r => DirectoryTask.mk file (.done r)) sound
    | dropped => exact sound.elim
    | _ => cases isOver
  rw [← recorded.names, List.map_map]
  conv_lhs => rw [← List.map_id s.tasks]
  exact List.map_congr_left each

theorem Orderly.told_over (orderly : s.Orderly e t fails times files o first)
    (recorded : s.Recorded files) (ended : s.isOver = true) (path : Text) :
    toldBy s.cache path = if path ∈ files then (o path).told else toldBy first path := by
  by_cases member : path ∈ files
  · rw [if_pos member]
    have tasks := orderly.tasks_over recorded ended
    rcases orderly.tells path with right | ⟨-, task, isTask, -, midway⟩ | ⟨-, fresh⟩
    · exact right
    · rw [tasks] at isTask
      obtain ⟨file, -, isDone⟩ := List.mem_map.mp isTask
      subst isDone
      cases midway
    · have isFresh := fresh ⟨path, .done (o path).result⟩ (by
        rw [tasks]
        exact List.mem_map.mpr ⟨path, member, rfl⟩) rfl
      cases isFresh
  · rw [if_neg member]
    exact orderly.elsewhere path member

theorem Orderly.gathered (orderly : s.Orderly e t fails times files o first)
    (recorded : s.Recorded files) (ended : s.isOver = true) :
    let inOrder := Batch.ofResults (files.map fun file => ⟨file, (o file).result⟩)
    s.batch.issues = inOrder.issues ∧ s.batch.failure = inOrder.failure ∧
      s.batch.logs.Perm inOrder.logs ∧ s.calls.Perm files := by
  intro inOrder
  have tasks := orderly.tasks_over recorded ended
  have issues : s.issues = files.map fun file =>
      Batch.FileResult.issues ⟨file, (o file).result⟩ := by
    rw [recorded.issues, tasks, List.map_map]
    rfl
  have failures : s.failures.filterMap id =
      (files.map fun file => ⟨file, (o file).result⟩).filterMap Batch.FileResult.failure? := by
    rw [recorded.failures, tasks, List.map_map, List.filterMap_map, List.filterMap_map]
    rfl
  have logged : s.tasks.filterMap DirectoryTask.log? = inOrder.logs := by
    change _ = List.filterMap _ (files.map _)
    rw [tasks, List.filterMap_map, List.filterMap_map]
    rfl
  have begun : s.tasks.filterMap DirectoryTask.begun? = files := by
    rw [tasks, List.filterMap_map]
    exact List.filterMap_some
  unfold batch
  rw [recorded.going]
  refine ⟨?_, ?_, ?_, ?_⟩
  · dsimp only
    rw [issues, ← List.flatMap_def]
    exact (List.flatMap_map _ _ files).symm
  · dsimp only
    rw [failures]
    rfl
  · exact logged ▸ recorded.logs
  · exact begun ▸ recorded.calls

end DirectoryRun

theorem ok_of_toOption {ε α : Type} {x : Except ε α} {a : α} (found : x.toOption = some a) :
    x = .ok a := by
  cases x with
  | error f => cases found
  | ok b => exact congrArg Except.ok (Option.some.inj found)

section Alone

variable {e : Engine} {t : FileTree} {clock : Text → Int} {fails : Text → Option Failure}
  {cache : Option Cache} {files : List Text}

def Engine.aloneOutcome (e : Engine) (t : FileTree) (clock : Text → Int)
    (fails : Text → Option Failure) (cache : Option Cache) (file : Text) : RunOutcome :=
  ⟨(e.processor t clock fails cache file).1, toldBy (e.processor t clock fails cache file).2 file⟩

theorem outcomes_alone (e : Engine) (t : FileTree) (clock : Text → Int)
    (fails : Text → Option Failure) (cache : Option Cache) :
    Outcomes e t fails cache (e.aloneOutcome t clock fails cache) := by
  unfold Engine.aloneOutcome Engine.processor
  constructor
  · intro file f failing
    rw [failing]
  · intro file fine ignored
    rw [fine]
    unfold Engine.run
    dsimp only
    rw [if_pos ignored]
  · intro without file fine wanted
    rw [fine, without]
    unfold Engine.run
    dsimp only
    rw [if_neg (by simp [wanted])]
    rfl

theorem steady_alone {times : Text → Int → Prop}
    (settled : ∀ c ∈ cache, ∀ file ∈ files, fails file = none → e.isIgnoredPath file = false →
      ∀ entry ∈ c.entries.get? file, fileMetadata t file = .ok entry.metadata →
        ∀ now, times file now → c.isExpired now entry = c.isExpired (clock file) entry ∨
          e.checkFile t file = .ok entry.issues) :
    Steady e t fails times files (e.aloneOutcome t clock fails cache) cache cache := by
  refine ⟨rfl, ?_⟩
  intro c isCache file member fine wanted now within
  cases isCache
  have same : e.lookupOutcome t c now file = e.lookupOutcome t c (clock file) file :=
    lookupOutcome_settled fun entry found matching =>
      settled c rfl file member fine wanted entry found matching now within
  have comes : e.ComesTo t (· = clock file) file (e.lookupOutcome t c (clock file) file) c := by
    intro later isClock
    rw [isClock]
  obtain ⟨c', ran, told, -, -⟩ := run_outcome wanted comes rfl
  rw [same]
  unfold Engine.aloneOutcome Engine.processor
  rw [fine]
  dsimp only
  rw [ran]
  exact congrArg (RunOutcome.mk _) told.symm

end Alone

theorem ofPath_directory {σ : Type} {t : FileTree} {path : Text} {files : List Text}
    (isDirectory : t.stat path = .ok .directory) (collected : collectFiles t path = .ok files)
    (process : Processor σ) (s : σ) :
    Batch.ofPath t false process s path =
      (Batch.ofResults (Batch.processAll process s files).1, (Batch.processAll process s files).2) := by
  unfold Batch.ofPath
  rw [isDirectory]
  dsimp only
  rw [collected]
  cases files <;> rfl

/-- The order in which tasks begin, take their steps and end does not matter. No entry that a look-up
    would return may pass the age limit meanwhile, unless it tells what a check of its file tells.
    Times are those of the turns and, for files in their order, those of the clock. -/
theorem schedule_irrelevant {e : Engine} {t : FileTree} {path : Text} {files : List Text}
    {cache : Option Cache} {schedule : List (Nat × Int)} (clock : Text → Int)
    (fails : Text → Option Failure) (isDirectory : t.stat path = .ok .directory)
    (collected : collectFiles t path = .ok files)
    (settled : ∀ c ∈ cache, ∀ file ∈ files, fails file = none → e.isIgnoredPath file = false →
      ∀ entry ∈ c.entries.get? file, fileMetadata t file = .ok entry.metadata →
        ∀ next ∈ schedule, c.isExpired next.2 entry = c.isExpired (clock file) entry ∨
          e.checkFile t file = .ok entry.issues) :
    let process := e.processor t clock fails
    let each := Batch.ofResults (files.map fun file => ⟨file, (process cache file).1⟩)
    let inOrder := Batch.ofPath t false process cache path
    let s := (DirectoryRun.start cache files).after e t fails schedule
    inOrder.1 = each ∧
    ((∀ number < files.length, 7 ≤ schedule.countP (·.1 = number)) → s.isOver = true) ∧
    (s.isOver = true → s.batch.issues = each.issues ∧ s.batch.failure = each.failure ∧
      s.batch.logs.Perm each.logs ∧ s.calls.Perm files ∧
      ∀ file, toldBy s.cache file = toldBy inOrder.2 file) := by
  intro process each inOrder s
  let times : Text → Int → Prop := fun file now => now = clock file ∨ ∃ next ∈ schedule, next.2 = now
  have outcomes := outcomes_alone e t clock fails cache
  have steady : Steady e t fails times files (e.aloneOutcome t clock fails cache) cache cache := by
    refine steady_alone fun c isCache file member fine wanted entry found matching now within => ?_
    rcases within with isClock | ⟨next, turn, isTurn⟩
    · exact .inl (by rw [isClock])
    · exact isTurn ▸ settled c isCache file member fine wanted entry found matching next turn
  have recorded := (DirectoryRun.recorded_start cache files).after e t fails schedule
  have orderly := (DirectoryRun.orderly_start steady).after outcomes
    (DirectoryRun.recorded_start cache files)
    fun next turn file _ => .inr ⟨next, turn, rfl⟩
  obtain ⟨results, told⟩ := processAll_outcome outcomes steady (List.Subset.refl files)
    (fun _ _ => .inl rfl) fun _ => .inr rfl
  have batch : inOrder = (each, (Batch.processAll process cache files).2) := by
    change Batch.ofPath t false process cache path = _
    rw [ofPath_directory isDirectory collected, results]
    rfl
  refine ⟨by rw [batch], fun enough => DirectoryRun.over_of_turns cache enough, fun ended => ?_⟩
  obtain ⟨issues, failure, logs, calls⟩ := orderly.gathered recorded ended
  refine ⟨issues, failure, logs, calls, fun file => ?_⟩
  rw [batch, orderly.told_over recorded ended file]
  exact (told file).symm

/-- A file with an issue and a stale entry, a link that leads nowhere, a file with an entry that
    tells its issues, and one whose processing fails. All entries become too old meanwhile. -/
def mixedDirectory : FileTree :=
  ((((FileTree.empty.set [utf8 "d"] .directory).set [utf8 "d", utf8 "A.java"]
    (.file (utf8 "class A ;") 1)).set [utf8 "d", utf8 "B.java"] (.link (utf8 "/none"))).set
    [utf8 "d", utf8 "C.java"] (.file (utf8 "enum C ;") 1)).set [utf8 "d", utf8 "D.java"]
    (.file (utf8 "class D ;") 1)

def mixedFiles : List Text :=
  [utf8 "/d/A.java", utf8 "/d/B.java", utf8 "/d/C.java", utf8 "/d/D.java"]

def mixedCache : Cache where
  dir := utf8 "/c"
  fingerprint := authorEngine.fingerprint
  entries := [(utf8 "/d/A.java", ⟨⟨utf8 "stale", 1⟩, [], 0, 0⟩),
    (utf8 "/d/C.java", ⟨⟨Md5.hexDigest (utf8 "enum C ;"), 1⟩, [], 0, 0⟩),
    (utf8 "/d/D.java", ⟨⟨Md5.hexDigest (utf8 "class D ;"), 1⟩, [], 0, 0⟩)]
  maxAge := 4

def mixedFailures (file : Text) : Option Failure :=
  if file = utf8 "/d/D.java" then some (.plain (utf8 "no")) else none

def mixedSchedule : List (Nat × Int) :=
  (List.range 7).flatMap fun k => [(3, 4 * k), (2, 4 * k + 1), (1, 4 * k + 2), (0, 4 * k + 3)]

def mixedRun : DirectoryRun :=
  (DirectoryRun.start (some mixedCache) mixedFiles).after authorEngine mixedDirectory mixedFailures
    mixedSchedule

theorem schedule_irrelevant_mixed :
    mixedRun.calls = mixedFiles.reverse ∧
      mixedRun.batch.issues.map Issue.file = [utf8 "/d/A.java"] ∧
      mixedRun.failures.map Option.isSome = [false, true, false, true] ∧
      let process := authorEngine.processor mixedDirectory (fun _ => 50) mixedFailures
      let inOrder := Batch.ofPath mixedDirectory false process (some mixedCache) (utf8 "/d")
      mixedRun.batch.issues = inOrder.1.issues ∧ mixedRun.batch.failure = inOrder.1.failure ∧
        ∀ file, toldBy mixedRun.cache file = toldBy inOrder.2 file := by
  have collected : collectFiles mixedDirectory (utf8 "/d") = .ok mixedFiles :=
    ok_of_toOption (by decide +kernel)
  have settled : ∀ c ∈ some mixedCache, ∀ file ∈ mixedFiles, mixedFailures file = none →
      ∀ entry ∈ c.entries.get? file,
        (fileMetadata mixedDirectory file).toOption = some entry.metadata →
          (authorEngine.checkFile mixedDirectory file).toOption = some entry.issues := by
    decide +kernel
  obtain ⟨same, ends, outcome⟩ := schedule_irrelevant (fun _ => 50) mixedFailures
    (ok_of_toOption (by decide +kernel)) collected
    fun c isCache file member fine _ entry found matching next (_ : next ∈ mixedSchedule) =>
      .inr (ok_of_toOption (settled c isCache file member fine entry found (by rw [matching]; rfl)))
  obtain ⟨issues, failure, -, -, told⟩ := outcome (ends (by decide +kernel))
  refine ⟨by decide +kernel, by decide +kernel, by decide +kernel, ?_, ?_, told⟩
  · rw [same]
    exact issues
  · rw [same]
    exact failure

end JavadocLint
