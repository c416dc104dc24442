import Mathlib
import JavadocLint.Command.Run
import JavadocLint.Proofs.NameOrder

/- A running watcher between two expiries of its timer. What is pending is exactly what was reported
   since the timer went off last, and the timer is set exactly while something is pending; so the
   next expiry checks each of these files once. Whether a created path is a directory is looked up
   when its event is taken: every signal comes with the files of that moment, which may change from
   one to the next. How long the timer runs plays no part. -/
namespace JavadocLint

namespace Watcher

structure Moment where
  files : FileTree
  signal : Signal

namespace Moment

def isExpiry (m : Moment) : Bool :=
  match m.signal with
  | .expired => true
  | _ => false

/-- An event says that a Java file was written or created; the creation of a directory does not
    count. -/
def Reports (m : Moment) (name : Text) : Prop :=
  ∃ e, m.signal = .event e ∧ e.path = name ∧ Path.isJava name = true ∧
    (.write ∈ e.changes ∨ .create ∈ e.changes) ∧
    ¬ (.create ∈ e.changes ∧ m.files.isDirectory name = true)

end Moment

def Admits (w : Watcher) : Signal → Prop
  | .expired => w.armed = true
  | _ => True

def idle (w : Watcher) : Watcher := { w with pending := [], armed := false }

inductive Runs (w : Watcher) : List Moment → Watcher → Prop where
  | start : Runs w [] w.idle
  | take {past : List Moment} {now : Watcher} (m : Moment) :
      Runs w past now → now.Admits m.signal → Runs w (past ++ [m]) (now.step m.files m.signal).1

def sinceExpiry (past : List Moment) : List Moment := past.rtakeWhile fun m => !m.isExpiry

section Reactions

variable {w w' : Watcher} {t : FileTree} {e : FileEvent} {past : List Moment} {name : Text}

theorem add_kept {dir : Text} (added : w.add t dir = .ok w') :
    w'.pending = w.pending ∧ w'.armed = w.armed := by
  unfold add at added
  split at added
  · cases added
  · split at added
    · cases added
    · cases added
      exact ⟨rfl, rfl⟩

theorem handle_kept (w : Watcher) (t : FileTree) (e : FileEvent) :
    (w.handle t e).1.pending = w.pending ∧ (w.handle t e).1.armed = w.armed := by
  unfold handle
  split
  · split
    · rename_i added
      exact add_kept added
    · exact ⟨rfl, rfl⟩
  · split <;> exact ⟨rfl, rfl⟩

theorem handle_name : (w.handle t e).2.1 = some name ↔ Moment.Reports ⟨t, .event e⟩ name := by
  have reports : Moment.Reports ⟨t, .event e⟩ name ↔ e.path = name ∧ Path.isJava name = true ∧
      (.write ∈ e.changes ∨ .create ∈ e.changes) ∧
      ¬ (.create ∈ e.changes ∧ t.isDirectory name = true) := by
    simp [Moment.Reports]
  rw [reports, handle]
  by_cases directory : (e.has .create && t.isDirectory e.path) = true
  · rw [if_pos directory]
    simp only [FileEvent.has, Bool.and_eq_true, List.contains_iff_mem] at directory
    constructor
    · intro found
      cases added : w.add t e.path <;> simp [added] at found
    · rintro ⟨rfl, -, -, other⟩
      exact absurd directory other
  · rw [if_neg directory]
    simp only [FileEvent.has, Bool.and_eq_true, List.contains_iff_mem] at directory
    by_cases java : ((e.has .write || e.has .create) && Path.isJava e.path) = true
    · rw [if_pos java]
      simp only [FileEvent.has, Bool.and_eq_true, Bool.or_eq_true, List.contains_iff_mem] at java
      constructor
      · intro found
        cases found
        exact ⟨rfl, java.2, java.1, directory⟩
      · rintro ⟨rfl, -⟩
        rfl
    · rw [if_neg java]
      simp only [FileEvent.has, Bool.and_eq_true, Bool.or_eq_true, List.contains_iff_mem] at java
      constructor
      · intro found
        cases found
      · rintro ⟨rfl, isJava, changed, -⟩
        exact absurd ⟨changed, isJava⟩ java

inductive Reacted (w : Watcher) (m : Moment) : Prop where
  | collected (name : Text) (reports : ∀ other, m.Reports other ↔ other = name)
      (going : m.isExpiry = false)
      (pending : (w.step m.files m.signal).1.pending = insertName name w.pending)
      (armed : (w.step m.files m.signal).1.armed = true)
  | flushed (expiry : m.isExpiry = true) (silent : ∀ name, ¬ m.Reports name)
      (done : w.step m.files m.signal = (w.idle, { files := w.pending }))
  | passed (going : m.isExpiry = false) (silent : ∀ name, ¬ m.Reports name)
      (pending : (w.step m.files m.signal).1.pending = w.pending)
      (armed : (w.step m.files m.signal).1.armed = w.armed)

theorem step_reacted {m : Moment} (admits : w.Admits m.signal) : w.Reacted m := by
  obtain ⟨t, signal⟩ := m
  cases signal with
  | event e =>
    obtain ⟨pending, armed⟩ := handle_kept w t e
    have names : ∀ name, (w.handle t e).2.1 = some name ↔ Moment.Reports ⟨t, .event e⟩ name :=
      fun name => handle_name
    rcases handled : w.handle t e with ⟨w', found, logs⟩
    rw [handled] at pending armed names
    cases found with
    | some name =>
      refine .collected name ?_ rfl ?_ ?_
      · intro other
        rw [← names, Option.some.injEq, eq_comm]
      · simp only [step, handled]
        rw [pending]
      · simp only [step, handled]
    | none =>
      refine .passed rfl ?_ ?_ ?_
      · intro name reports
        cases (names name).mpr reports
      · simp only [step, handled]
        exact pending
      · simp only [step, handled]
        exact armed
  | expired =>
    refine .flushed rfl ?_ ?_
    · rintro name ⟨e, impossible, -⟩
      cases impossible
    · have set : w.armed = true := admits
      simp only [step, set, if_true, idle]
  | fault f =>
    refine .passed rfl ?_ rfl rfl
    rintro name ⟨e, impossible, -⟩
    cases impossible

/-- What is pending after these moments is what they reported since the last expiry. -/
structure Collects (past : List Moment) (w : Watcher) : Prop where
  timer : w.armed = true ↔ w.pending ≠ []
  ordered : Increasing w.pending
  reported : ∀ name, name ∈ w.pending ↔ ∃ m ∈ sinceExpiry past, m.Reports name

theorem collects_idle (w : Watcher) (past : List Moment) (none : sinceExpiry past = []) :
    w.idle.Collects past where
  timer := by simp [idle]
  ordered := List.Pairwise.nil
  reported := by simp [idle, none]

theorem Collects.step {m : Moment} (collects : w.Collects past) (admits : w.Admits m.signal) :
    (w.step m.files m.signal).1.Collects (past ++ [m]) := by
  cases step_reacted admits with
  | collected name reports going pending armed =>
    have since : sinceExpiry (past ++ [m]) = sinceExpiry past ++ [m] :=
      List.rtakeWhile_concat_pos _ _ _ (by simp [going])
    constructor
    · have member : name ∈ insertName name w.pending :=
        (mem_insertName name name w.pending).mpr (.inl rfl)
      rw [armed, pending]
      exact iff_of_true rfl (List.ne_nil_of_mem member)
    · rw [pending]
      exact increasing_insertName name collects.ordered
    · intro other
      rw [pending, mem_insertName, collects.reported, since]
      simp only [List.mem_append, List.mem_singleton, or_and_right, exists_or, exists_eq_left,
        reports]
      exact or_comm
  | flushed expiry silent done =>
    rw [done]
    refine collects_idle w _ ?_
    exact List.rtakeWhile_concat_neg _ _ _ (by simp [expiry])
  | passed going silent pending armed =>
    have since : sinceExpiry (past ++ [m]) = sinceExpiry past ++ [m] :=
      List.rtakeWhile_concat_pos _ _ _ (by simp [going])
    constructor
    · rw [armed, pending]
      exact collects.timer
    · rw [pending]
      exact collects.ordered
    · intro name
      rw [pending, collects.reported, since]
      simp [or_and_right, exists_or, silent]

theorem Runs.collects (run : w.Runs past w') : w'.Collects past := by
  induction run with
  | start => exact collects_idle w [] rfl
  | take m _ admits ih => exact ih.step admits

end Reactions
end Watcher

def Watch.outcome (engine : Engine) (term : Terminal) (t : FileTree) (file : Text) :
    Text × List LogEntry :=
  match engine.recheck t file with
  | .ok r => printed term t r
  | .error entry => ([], [entry])

theorem react_expired {w : Watcher} (engine : Engine) (term : Terminal) (t : FileTree)
    (armed : w.armed = true) :
    (⟨engine, w⟩ : Watch).react term t [.expired] =
      (⟨engine, w.idle⟩, (w.pending.map (Watch.outcome engine term t)).flatMap Prod.fst,
        (w.pending.map (Watch.outcome engine term t)).flatMap Prod.snd) := by
  simp only [Watch.react, Watcher.run, Watcher.step, armed, if_true, Watcher.idle,
    List.append_nil, List.nil_append]
  rfl

def busyFiles : FileTree := FileTree.empty.set [utf8 "d.java"] .directory

def busyEvent (path : String) (change : FileChange) : Watcher.Moment :=
  ⟨busyFiles, .event ⟨utf8 path, [change]⟩⟩

/-- A directory with the name of a Java file is created, one file is written before the timer goes
    off, and two others, one of them twice, after it. -/
def busyMoments : List Watcher.Moment :=
  [busyEvent "d.java" .create, busyEvent "A.java" .write, ⟨busyFiles, .expired⟩,
    busyEvent "C.java" .create, busyEvent "notes" .write, ⟨busyFiles, .fault .canceled⟩,
    busyEvent "B.java" .write, busyEvent "C.java" .write]

end JavadocLint
