import Mathlib
import JavadocLint.Proofs.PendingChanges
import JavadocLint.Proofs.WatchedPaths

/- A watcher beside someone who makes directories and writes files. A change in a directory that is
   watched at that moment is reported by an event, which waits in a queue until the watcher takes it;
   elsewhere nothing is reported. Changes, events and expiries come in any order. Three invariants
   follow such a run: every path that waits is known, every directory below a watched one is watched
   or about to be, and every reported change of a Java file is checked or about to be. Here they are
   stated, and a change is shown to keep them. -/
namespace JavadocLint

inductive TreeEdit where
  | makeDirectory
  | createFile (content : Text) (modified : Int)
  | writeFile (content : Text) (modified : Int)

inductive FileMark where
  | changed (place : Place) (reported : Bool)
  | checked (path : Text)

namespace TreeEdit

def node : TreeEdit → FileNode
  | makeDirectory => .directory
  | createFile content modified => .file content modified
  | writeFile content modified => .file content modified

def change : TreeEdit → FileChange
  | makeDirectory => .create
  | createFile _ _ => .create
  | writeFile _ _ => .write

def Applies (old : Option FileNode) : TreeEdit → Prop
  | makeDirectory => old = none
  | createFile _ _ => old = none
  | writeFile _ _ => ∃ content modified, old = some (.file content modified)

def marks (place : Place) (reported : Bool) : TreeEdit → List FileMark
  | makeDirectory => []
  | createFile _ _ => [.changed place reported]
  | writeFile _ _ => [.changed place reported]

end TreeEdit

/-- Whether the last change of a file was reported. A history begins with what happened last. -/
def lastChange? (place : Place) : List FileMark → Option Bool
  | [] => none
  | .changed other reported :: older =>
    if other = place then some reported else lastChange? place older
  | .checked _ :: older => lastChange? place older

/-- A file was checked, under some path that leads to it, since it was last changed. -/
def Rechecked (t : FileTree) (place : Place) : List FileMark → Prop
  | [] => False
  | .changed other _ :: older => other ≠ place ∧ Rechecked t place older
  | .checked path :: older => t.Leads path place ∨ Rechecked t place older

section History

variable {t t' : FileTree} {place : Place} {path : Text} {history : List FileMark} {paths : List Text}

theorem lastChange?_checked (place : Place) (paths : List Text) (history : List FileMark) :
    lastChange? place (paths.map .checked ++ history) = lastChange? place history := by
  induction paths with
  | nil => rfl
  | cons path rest ih => exact ih

theorem Rechecked.grown (grown : t.Grown t') (rechecked : Rechecked t place history) :
    Rechecked t' place history := by
  induction history with
  | nil => exact rechecked
  | cons mark older ih =>
    cases mark with
    | changed other reported => exact ⟨rechecked.1, ih rechecked.2⟩
    | checked path => exact rechecked.imp (fun leads => leads.grown grown) ih

theorem Rechecked.exists_checked (rechecked : Rechecked t place history) :
    ∃ path, .checked path ∈ history ∧ t.Leads path place := by
  induction history with
  | nil => exact rechecked.elim
  | cons mark older ih =>
    have older' (rechecked : Rechecked t place older) :
        ∃ path, .checked path ∈ mark :: older ∧ t.Leads path place := by
      obtain ⟨path, member, leads⟩ := ih rechecked
      exact ⟨path, List.mem_cons_of_mem mark member, leads⟩
    cases mark with
    | changed other reported => exact older' rechecked.2
    | checked path =>
      rcases rechecked with leads | before
      · exact ⟨path, List.mem_cons_self, leads⟩
      · exact older' before

theorem rechecked_append (before : Rechecked t place history) :
    Rechecked t place (paths.map .checked ++ history) := by
  induction paths with
  | nil => exact before
  | cons path rest ih => exact .inr ih

theorem rechecked_of_mem (member : path ∈ paths) (leads : t.Leads path place) :
    Rechecked t place (paths.map .checked ++ history) := by
  induction paths with
  | nil => cases member
  | cons other rest ih =>
    rcases List.mem_cons.mp member with rfl | later
    · exact .inl leads
    · exact .inr (ih later)

end History

structure WatchedTree where
  files : FileTree
  watcher : Watcher
  queue : List FileEvent
  history : List FileMark

namespace WatchedTree

variable {s s' : WatchedTree} {dir base place : Place} {name path root : Text} {e : FileEvent}

def IsWatched (s : WatchedTree) (dir : Place) : Prop :=
  ∃ p ∈ s.watcher.watched, s.files.Leads p dir

/-- The last change of a file was made in a directory that was watched. -/
def Reported (s : WatchedTree) (place : Place) : Prop := lastChange? place s.history = some true

inductive Queues (s : WatchedTree) (dir : Place) (name : Text) (change : FileChange) :
    Bool → List FileEvent → Prop where
  | reported (p : Text) (watched : p ∈ s.watcher.watched) (leads : s.files.Leads p dir) :
      Queues s dir name change true [⟨p ++ Path.slash :: name, [change]⟩]
  | missed (unwatched : ¬ s.IsWatched dir) : Queues s dir name change false []

def edited (s : WatchedTree) (edit : TreeEdit) (place : Place) (reported : Bool)
    (events : List FileEvent) : WatchedTree where
  files := s.files.set place edit.node
  watcher := s.watcher
  queue := s.queue ++ events
  history := edit.marks place reported ++ s.history

def taken (s : WatchedTree) (e : FileEvent) (rest : List FileEvent) : WatchedTree :=
  { s with watcher := (s.watcher.step s.files (.event e)).1, queue := rest }

def flushed (s : WatchedTree) : WatchedTree :=
  let (watcher, reaction) := s.watcher.step s.files .expired
  { s with watcher, history := reaction.files.reverse.map .checked ++ s.history }

inductive Step (s : WatchedTree) : WatchedTree → Prop where
  | change (edit : TreeEdit) (dir : Place) (name : Text) (reported : Bool)
      (events : List FileEvent) (standing : s.files.get? dir = some .directory)
      (file : FileName name) (applies : edit.Applies (s.files.get? (dir ++ [name])))
      (queues : s.Queues dir name edit.change reported events) :
      Step s (s.edited edit (dir ++ [name]) reported events)
  | take (e : FileEvent) (rest : List FileEvent) (first : s.queue = e :: rest) :
      Step s (s.taken e rest)
  | expire (armed : s.watcher.armed = true) : Step s s.flushed

structure Started (roots : List Text) (root : Text) (base : Place) (s : WatchedTree) : Prop where
  proper : s.files.Proper
  listed : root ∈ roots
  located : s.files.locate ⟨false, false⟩ root = .ok base
  leads : s.files.Leads (Path.clean root) base
  standing : s.files.get? base = some .directory
  added : roots.foldlM (fun w dir => w.add s.files dir) ({} : Watcher) = .ok s.watcher
  queue : s.queue = []
  history : s.history = []

section Entries

variable {t t' : FileTree}

/-- The path by which the watcher knows an entry: below a cleaned path to its directory. -/
structure KnownAs (t : FileTree) (path : Text) (dir : Place) (name : Text) : Prop where
  named : ∃ p, path = Path.clean p ++ Path.slash :: name ∧ t.Leads (Path.clean p) dir
  standing : t.get? dir = some .directory
  there : ∃ node, t.get? (dir ++ [name]) = some node ∧ ∀ target, node ≠ .link target

theorem KnownAs.grown (known : KnownAs t path dir name) (grown : t.Grown t') :
    KnownAs t' path dir name := by
  obtain ⟨⟨p, named, leads⟩, standing, node, there, noLink⟩ := known
  refine ⟨⟨p, named, leads.grown grown⟩, grown.directory standing, ?_⟩
  rcases grown.kept _ node there with same | ⟨-, content, modified, new⟩
  · exact ⟨node, same, noLink⟩
  · exact ⟨_, new, by simp⟩

theorem KnownAs.locate (known : KnownAs t path dir name) (proper : t.Proper) (follow : Bool) :
    t.locate ⟨follow, false⟩ path = .ok (dir ++ [name]) := by
  obtain ⟨⟨p, rfl, leads⟩, standing, node, there, noLink⟩ := known
  exact FileTree.locate_below proper standing (by simp) there noLink leads follow

theorem KnownAs.leads (known : KnownAs t path dir name) (proper : t.Proper) :
    t.Leads path (dir ++ [name]) := known.locate proper true

theorem KnownAs.clean (known : KnownAs t path dir name) (proper : t.Proper) :
    t.Leads (Path.clean path) (dir ++ [name]) := by
  obtain ⟨⟨p, rfl, leads⟩, standing, node, there, noLink⟩ := known
  refine FileTree.Leads.clean_below proper standing (by simp) there noLink ?_ (Path.clean_ne_nil p)
  rw [Path.clean_clean]
  exact leads

theorem KnownAs.isJava (known : KnownAs t path dir name) (proper : t.Proper) :
    Path.isJava path = Path.isJava name := by
  obtain ⟨⟨p, rfl, -⟩, -, node, there, -⟩ := known
  exact Path.isJava_append _ (proper.names _ node there name (by simp)).plain

theorem KnownAs.isDirectory (known : KnownAs t path dir name) (proper : t.Proper) :
    t.isDirectory path = true ↔ t.get? (dir ++ [name]) = some .directory := by
  obtain ⟨node, there, -⟩ := known.there
  rw [FileTree.isDirectory, FileTree.find_of_locate (known.leads proper) there, there]
  cases node <;> simp

theorem KnownAs.unique {other : Place} {last : Text} (one : KnownAs t path dir name)
    (two : KnownAs t path other last) (proper : t.Proper) : dir = other ∧ name = last := by
  have same := (one.leads proper).unique (two.leads proper)
  exact List.append_singleton_inj.mp same

end Entries

section Edits

variable {t : FileTree} {edit : TreeEdit} {reported : Bool}

def IsFile (t : FileTree) (place : Place) : Prop :=
  ∃ content modified, t.get? place = some (.file content modified)

theorem IsFile.not_directory (file : IsFile t place) : t.get? place ≠ some .directory := by
  obtain ⟨content, modified, there⟩ := file
  rw [there]
  simp

theorem IsFile.grown {t' : FileTree} (file : IsFile t place) (grown : t.Grown t') :
    IsFile t' place := by
  obtain ⟨content, modified, there⟩ := file
  rcases grown.kept place _ there with same | ⟨-, content', modified', new⟩
  · exact ⟨content, modified, same⟩
  · exact ⟨content', modified', new⟩

theorem node_file (writes : edit.node ≠ .directory) :
    ∃ content modified, edit.node = .file content modified := by
  cases edit with
  | makeDirectory => exact absurd rfl writes
  | createFile content modified => exact ⟨content, modified, rfl⟩
  | writeFile content modified => exact ⟨content, modified, rfl⟩

theorem applies_loose (applies : edit.Applies (t.get? place)) :
    t.get? place ≠ some .directory := by
  intro standing
  rw [standing] at applies
  cases edit with
  | makeDirectory => cases applies
  | createFile content modified => cases applies
  | writeFile content modified =>
    obtain ⟨_, _, impossible⟩ := applies
    cases impossible

theorem applies_grown (applies : edit.Applies (t.get? place)) (present : place ≠ []) :
    t.Grown (t.set place edit.node) := by
  refine ⟨rfl, ?_⟩
  intro other node there
  by_cases same : other = place
  · subst same
    right
    cases edit with
    | makeDirectory => exact absurd (there.symm.trans applies) (by simp)
    | createFile content modified => exact absurd (there.symm.trans applies) (by simp)
    | writeFile content modified =>
      obtain ⟨old, before, file⟩ := applies
      exact ⟨⟨old, before, Option.some.inj (there.symm.trans file)⟩, content, modified,
        FileTree.get?_set_self t _ present⟩
  · left
    rw [FileTree.get?_set_ne t _ same]
    exact there

theorem lastChange?_marks (edit : TreeEdit) (place other : Place) (reported : Bool)
    (history : List FileMark) :
    lastChange? place (edit.marks other reported ++ history) =
      if edit.node ≠ .directory ∧ other = place then some reported
      else lastChange? place history := by
  cases edit <;> simp [TreeEdit.marks, TreeEdit.node, lastChange?]

theorem rechecked_marks {history : List FileMark} {other : Place}
    (apart : ¬ (edit.node ≠ .directory ∧ other = place)) (before : Rechecked t place history) :
    Rechecked t place (edit.marks other reported ++ history) := by
  cases edit with
  | makeDirectory => exact before
  | createFile content modified => exact ⟨fun same => apart ⟨by simp [TreeEdit.node], same⟩, before⟩
  | writeFile content modified => exact ⟨fun same => apart ⟨by simp [TreeEdit.node], same⟩, before⟩

theorem checked_mem_marks {history : List FileMark}
    (member : .checked path ∈ edit.marks place reported ++ history) : .checked path ∈ history := by
  cases edit <;> simpa [TreeEdit.marks] using member

end Edits

def Concerns (s : WatchedTree) (path : Text) : Prop :=
  ∃ dir name, KnownAs s.files path dir name ∧ s.Reported (dir ++ [name])

inductive Announces (s : WatchedTree) (e : FileEvent) : Prop where
  | directory (dir : Place) (name : Text) (known : KnownAs s.files e.path dir name)
      (standing : s.files.get? (dir ++ [name]) = some .directory) (created : .create ∈ e.changes)
  | file (dir : Place) (name : Text) (known : KnownAs s.files e.path dir name)
      (reported : s.Reported (dir ++ [name]))
      (changed : .write ∈ e.changes ∨ .create ∈ e.changes)

/-- Every path that waits or was checked is known, and once a change of a file was reported its
    directory stays watched. -/
structure Sound (s : WatchedTree) : Prop where
  proper : s.files.Proper
  running : s.watcher.closed = false
  cleaned : ∀ p ∈ s.watcher.watched, ∃ q, p = Path.clean q
  lasting : ∀ dir name, s.Reported (dir ++ [name]) →
    s.IsWatched dir ∧ IsFile s.files (dir ++ [name])
  queued : ∀ e ∈ s.queue, s.Announces e
  collected : ∀ path ∈ s.watcher.pending, s.Concerns path
  checked : ∀ path, .checked path ∈ s.history → s.Concerns path

def Awaited (s : WatchedTree) (dir : Place) : Prop :=
  ∃ e ∈ s.queue, ∃ above name, KnownAs s.files e.path above name ∧ above ++ [name] <+: dir

structure Covered (base : Place) (s : WatchedTree) : Prop where
  standing : s.files.get? base = some .directory
  below : ∀ dir, base <+: dir → s.files.get? dir = some .directory → s.IsWatched dir ∨ s.Awaited dir

/-- A reported change waits in the queue or for the timer, or the file was checked since. -/
def Owed (s : WatchedTree) : Prop :=
  ∀ dir name, Path.isJava name = true → s.Reported (dir ++ [name]) →
    (∃ e ∈ s.queue, KnownAs s.files e.path dir name) ∨
      (∃ path ∈ s.watcher.pending, KnownAs s.files path dir name) ∨
      Rechecked s.files (dir ++ [name]) s.history

structure Advances (s s' : WatchedTree) : Prop where
  grown : s.files.Grown s'.files
  watched : s.watcher.watched ⊆ s'.watcher.watched
  reported : ∀ dir name, s.Reported (dir ++ [name]) → s'.Reported (dir ++ [name])

namespace Advances

theorem isWatched (advances : s.Advances s') (watched : s.IsWatched dir) : s'.IsWatched dir := by
  obtain ⟨p, member, leads⟩ := watched
  exact ⟨p, advances.watched member, leads.grown advances.grown⟩

theorem concerns (advances : s.Advances s') (concerns : s.Concerns path) : s'.Concerns path := by
  obtain ⟨dir, name, known, reported⟩ := concerns
  exact ⟨dir, name, known.grown advances.grown, advances.reported dir name reported⟩

theorem announces (advances : s.Advances s') (announces : s.Announces e) : s'.Announces e := by
  cases announces with
  | directory dir name known standing created =>
    exact .directory dir name (known.grown advances.grown) (advances.grown.directory standing)
      created
  | file dir name known reported changed =>
    exact .file dir name (known.grown advances.grown) (advances.reported dir name reported) changed

theorem lasting (advances : s.Advances s') (sound : s.Sound)
    (reported : s.Reported (dir ++ [name])) :
    s'.IsWatched dir ∧ IsFile s'.files (dir ++ [name]) := by
  obtain ⟨watched, file⟩ := sound.lasting dir name reported
  exact ⟨advances.isWatched watched, file.grown advances.grown⟩

end Advances

section Change

variable {edit : TreeEdit} {reported : Bool} {events : List FileEvent}

theorem KnownAs.edited {p : Text} (sound : s.Sound)
    (standing : s.files.get? dir = some .directory)
    (applies : edit.Applies (s.files.get? (dir ++ [name]))) (watched : p ∈ s.watcher.watched)
    (leads : s.files.Leads p dir) :
    KnownAs (s.files.set (dir ++ [name]) edit.node) (p ++ Path.slash :: name) dir name := by
  have grown := applies_grown applies (by simp)
  obtain ⟨q, rfl⟩ := sound.cleaned p watched
  refine ⟨⟨q, rfl, leads.grown grown⟩, grown.directory standing, edit.node, ?_, ?_⟩
  · exact FileTree.get?_set_self s.files _ (by simp)
  · cases edit <;> simp [TreeEdit.node]

variable (sound : s.Sound) (standing : s.files.get? dir = some .directory)
  (applies : edit.Applies (s.files.get? (dir ++ [name])))
  (queues : s.Queues dir name edit.change reported events)

include sound applies queues

theorem advances_edited : s.Advances (s.edited edit (dir ++ [name]) reported events) := by
  refine ⟨applies_grown applies (by simp), fun _ member => member, ?_⟩
  intro d n before
  rw [Reported, edited, lastChange?_marks]
  split
  · -- the directory of a file that was reported is still watched, so this change is reported too
    rename_i touched
    obtain ⟨rfl, rfl⟩ := List.append_singleton_inj.mp touched.2
    cases queues with
    | reported p watched leads => rfl
    | missed unwatched => exact absurd (sound.lasting dir name before).1 unwatched
  · exact before

include standing

theorem sound_edited (file : FileName name) :
    (s.edited edit (dir ++ [name]) reported events).Sound := by
  have advances := advances_edited sound applies queues
  constructor
  · exact sound.proper.set standing file (applies_loose applies) edit.node
  · exact sound.running
  · exact sound.cleaned
  · intro d n after
    rw [Reported, edited, lastChange?_marks] at after
    split at after
    · rename_i touched
      obtain ⟨rfl, rfl⟩ := List.append_singleton_inj.mp touched.2
      cases queues with
      | reported p watched leads =>
        obtain ⟨content, modified, node⟩ := node_file touched.1
        refine ⟨advances.isWatched ⟨p, watched, leads⟩, content, modified, ?_⟩
        rw [← node]
        exact FileTree.get?_set_self s.files _ (by simp)
      | missed unwatched => cases after
    · exact advances.lasting sound after
  · intro e member
    rcases List.mem_append.mp member with old | new
    · exact advances.announces (sound.queued e old)
    · cases queues with
      | missed unwatched => cases new
      | reported p watched leads =>
        obtain rfl := List.mem_singleton.mp new
        have known := KnownAs.edited sound standing applies watched leads
        by_cases makes : edit.node = .directory
        · refine .directory dir name known ?_ ?_
          · rw [edited, makes]
            exact FileTree.get?_set_self s.files _ (by simp)
          · cases edit <;> simp_all [TreeEdit.change, TreeEdit.node]
        · refine .file dir name known ?_ ?_
          · rw [Reported, edited, lastChange?_marks, if_pos ⟨makes, rfl⟩]
          · cases edit <;> simp [TreeEdit.change]
  · intro path pending
    exact advances.concerns (sound.collected path pending)
  · intro path member
    exact advances.concerns (sound.checked path (checked_mem_marks member))

theorem covered_edited (covered : s.Covered base) :
    (s.edited edit (dir ++ [name]) reported events).Covered base := by
  have advances := advances_edited sound applies queues
  have still : ∀ d, s.Awaited d → (s.edited edit (dir ++ [name]) reported events).Awaited d := by
    rintro d ⟨e, member, above, last, known, inside⟩
    exact ⟨e, List.mem_append_left events member, above, last, known.grown advances.grown, inside⟩
  refine ⟨advances.grown.directory covered.standing, ?_⟩
  intro d below there
  by_cases new : d = dir ++ [name]
  · -- a new directory is announced itself, or waits for one above it
    subst new
    have above : base <+: dir := by
      rcases List.prefix_concat_iff.mp below with same | above
      · exact absurd (same ▸ covered.standing) (applies_loose applies)
      · exact above
    right
    rcases covered.below dir above standing with watched | e
    · cases queues with
      | reported p member leads =>
        exact ⟨_, List.mem_append_right s.queue List.mem_cons_self, dir, name,
          KnownAs.edited sound standing applies member leads, List.prefix_rfl⟩
      | missed unwatched => exact absurd watched unwatched
    · obtain ⟨e, member, top, last, known, inside⟩ := still dir e
      exact ⟨e, member, top, last, known, inside.trans (List.prefix_append dir [name])⟩
  · rw [edited, FileTree.get?_set_ne s.files _ new] at there
    exact (covered.below d below there).imp advances.isWatched (still d)

theorem owed_edited (owed : s.Owed) :
    (s.edited edit (dir ++ [name]) reported events).Owed := by
  have advances := advances_edited sound applies queues
  intro d n java after
  rw [Reported, edited, lastChange?_marks] at after
  split at after
  · rename_i touched
    obtain ⟨rfl, rfl⟩ := List.append_singleton_inj.mp touched.2
    cases queues with
    | reported p watched leads =>
      exact .inl ⟨_, List.mem_append_right s.queue List.mem_cons_self,
        KnownAs.edited sound standing applies watched leads⟩
    | missed unwatched => cases after
  · rename_i apart
    rcases owed d n java after with ⟨e, member, known⟩ | ⟨path, member, known⟩ | before
    · exact .inl ⟨e, List.mem_append_left events member, known.grown advances.grown⟩
    · exact .inr (.inl ⟨path, member, known.grown advances.grown⟩)
    · exact .inr (.inr (rechecked_marks apart (before.grown advances.grown)))

end Change

end WatchedTree
end JavadocLint
