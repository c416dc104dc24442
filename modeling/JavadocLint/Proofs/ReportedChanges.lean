import JavadocLint.Proofs.WatchedTree

/- Which changes a watcher gets to check. Once the queue is empty every directory below a watched one
   is watched too, and once nothing is pending either, a Java file has been checked since its last
   change exactly when that change was reported. A file that is put into a new directory before the
   watcher has taken the event of the directory is not reported, and nothing makes up for it: when
   the directory is walked only the directories in it are looked at. -/
namespace JavadocLint
namespace WatchedTree

variable {s s' : WatchedTree} {dir base place : Place} {name path root : Text} {e : FileEvent}

section Take

variable {rest : List FileEvent}

inductive Handled (s : WatchedTree) (e : FileEvent) (w : Watcher) : Prop where
  | directory (dir : Place) (name : Text) (known : KnownAs s.files e.path dir name)
      (standing : s.files.get? (dir ++ [name]) = some .directory)
      (more : s.watcher.WatchesMore w)
      (covers : ∀ names, s.files.get? (dir ++ [name] ++ names) = some .directory →
        ∃ p ∈ w.watched, s.files.Leads p (dir ++ [name] ++ names))
  | file (dir : Place) (name : Text) (known : KnownAs s.files e.path dir name)
      (reported : s.Reported (dir ++ [name])) (closed : w.closed = s.watcher.closed)
      (watched : w.watched = s.watcher.watched)
      (pending : ∀ path, path ∈ w.pending ↔
        path ∈ s.watcher.pending ∨ path = e.path ∧ Path.isJava name = true)

theorem Sound.handled (sound : s.Sound) (announces : s.Announces e) :
    s.Handled e (s.watcher.step s.files (.event e)).1 := by
  have proper := sound.proper
  cases announces with
  | directory dir name known standing created =>
    have located := known.locate proper false
    obtain ⟨w, added, covers⟩ := Watcher.add_covers proper sound.running located
      (known.leads proper).path_ne_nil (known.clean proper) standing
    have taken : (s.watcher.step s.files (.event e)).1 = w := by
      have makes : (e.has .create && s.files.isDirectory e.path) = true := by
        rw [(known.isDirectory proper).mpr standing, FileEvent.has, Bool.and_true]
        exact List.contains_iff_mem.mpr created
      simp only [Watcher.step, Watcher.handle, makes, if_true, added]
    obtain ⟨_, _, _, more⟩ := Watcher.add_ok added
    rw [taken]
    exact .directory dir name known standing more covers
  | file dir name known reported changed =>
    have plain : s.files.isDirectory e.path = false := by
      rw [Bool.eq_false_iff]
      intro directory
      exact (sound.lasting dir name reported).2.not_directory
        ((known.isDirectory proper).mp directory)
    have changes : (e.has .write || e.has .create) = true := by
      rw [Bool.or_eq_true]
      exact changed.imp List.contains_iff_mem.mpr List.contains_iff_mem.mpr
    have taken : (s.watcher.step s.files (.event e)).1 = if Path.isJava name = true then
        { s.watcher with pending := insertName e.path s.watcher.pending, armed := true }
        else s.watcher := by
      simp only [Watcher.step, Watcher.handle, plain, changes, known.isJava proper, Bool.and_false,
        Bool.true_and, Bool.false_eq_true, if_false]
      by_cases java : Path.isJava name = true
      · simp only [java, if_true]
      · simp only [java, Bool.false_eq_true, if_false]
    rw [taken]
    refine .file dir name known reported ?_ ?_ ?_
    · split <;> rfl
    · split <;> rfl
    · intro path
      split
      · rename_i java
        rw [mem_insertName, and_iff_left java]
        exact or_comm
      · rename_i other
        simp [other]

variable (sound : s.Sound) (first : s.queue = e :: rest)

include sound first

theorem handled_first : s.Handled e (s.taken e rest).watcher :=
  sound.handled (sound.queued e (first ▸ List.mem_cons_self))

theorem advances_taken : s.Advances (s.taken e rest) := by
  refine ⟨FileTree.Grown.refl s.files, ?_, fun _ _ reported => reported⟩
  cases handled_first sound first with
  | directory dir name known standing more covers => exact more.watched
  | file dir name known reported closed watched pending => exact watched ▸ fun _ member => member

theorem sound_taken : (s.taken e rest).Sound := by
  have advances := advances_taken sound first
  have queued : ∀ e' ∈ rest, (s.taken e rest).Announces e' := by
    intro e' member
    exact advances.announces (sound.queued e' (first ▸ List.mem_cons_of_mem e member))
  have lasting : ∀ dir name, (s.taken e rest).Reported (dir ++ [name]) →
      (s.taken e rest).IsWatched dir ∧ IsFile s.files (dir ++ [name]) :=
    fun dir name reported => advances.lasting sound reported
  have checked : ∀ path, .checked path ∈ s.history → (s.taken e rest).Concerns path :=
    fun path member => advances.concerns (sound.checked path member)
  cases handled_first sound first with
  | directory dir name known standing more covers =>
    refine ⟨sound.proper, more.closed.trans sound.running, ?_, lasting, queued, ?_, checked⟩
    · intro p member
      rcases more.cleaned p member with old | cleaned
      · exact sound.cleaned p old
      · exact cleaned
    · intro path member
      rw [more.pending] at member
      exact advances.concerns (sound.collected path member)
  | file dir name known reported closed watched pending =>
    refine ⟨sound.proper, closed.trans sound.running, ?_, lasting, queued, ?_, checked⟩
    · rw [watched]
      exact sound.cleaned
    · intro path member
      rcases (pending path).mp member with old | ⟨rfl, -⟩
      · exact advances.concerns (sound.collected path old)
      · exact advances.concerns ⟨dir, name, known, reported⟩

theorem covered_taken (covered : s.Covered base) : (s.taken e rest).Covered base := by
  have advances := advances_taken sound first
  refine ⟨covered.standing, ?_⟩
  intro d below there
  rcases covered.below d below there with watched | ⟨e', member, above, last, known', inside⟩
  · exact .inl (advances.isWatched watched)
  rw [first] at member
  rcases List.mem_cons.mp member with rfl | later
  · obtain ⟨names, rfl⟩ := inside
    left
    cases handled_first sound first with
    | directory dir name known standing more covers =>
      obtain ⟨rfl, rfl⟩ := known.unique known' sound.proper
      exact covers names there
    | file dir name known reported closed watched pending =>
      -- a directory stands at the place of the event or below it, so no file does
      obtain ⟨rfl, rfl⟩ := known.unique known' sound.proper
      have plain := (sound.lasting dir name reported).2.not_directory
      by_cases last : names = []
      · subst last
        rw [List.append_nil] at there
        exact absurd there plain
      · exact absurd (sound.proper.above last there) plain
  · exact .inr ⟨e', later, above, last, known', inside⟩

theorem owed_taken (owed : s.Owed) : (s.taken e rest).Owed := by
  intro d n java reported'
  have kept : ∀ path ∈ s.watcher.pending, path ∈ (s.taken e rest).watcher.pending := by
    intro path member
    cases handled_first sound first with
    | directory dir name known standing more covers => exact more.pending ▸ member
    | file dir name known reported closed watched pending => exact (pending path).mpr (.inl member)
  rcases owed d n java reported' with ⟨e', member, known'⟩ | ⟨path, member, known'⟩ | before
  · rw [first] at member
    rcases List.mem_cons.mp member with rfl | later
    · cases handled_first sound first with
      | directory dir name known standing more covers =>
        obtain ⟨rfl, rfl⟩ := known.unique known' sound.proper
        exact absurd standing (sound.lasting dir name reported').2.not_directory
      | file dir name known reported closed watched pending =>
        obtain ⟨rfl, rfl⟩ := known.unique known' sound.proper
        exact .inr (.inl ⟨e'.path, (pending _).mpr (.inr ⟨rfl, java⟩), known⟩)
    · exact .inl ⟨e', later, known'⟩
  · exact .inr (.inl ⟨path, kept path member, known'⟩)
  · exact .inr (.inr before)

end Take

section Expire

variable (armed : s.watcher.armed = true)

include armed

theorem flushed_eq : s.flushed =
    { s with
      watcher := s.watcher.idle
      history := s.watcher.pending.reverse.map .checked ++ s.history } := by
  simp only [flushed, Watcher.step, armed, if_true, Watcher.idle]

theorem reported_flushed : s.flushed.Reported place ↔ s.Reported place := by
  rw [flushed_eq armed, Reported, lastChange?_checked, Reported]

theorem advances_flushed : s.Advances s.flushed := by
  constructor
  · rw [flushed_eq armed]
    exact FileTree.Grown.refl s.files
  · rw [flushed_eq armed]
    exact fun _ member => member
  · intro dir name
    exact (reported_flushed armed).mpr

theorem sound_flushed (sound : s.Sound) : s.flushed.Sound := by
  have advances := advances_flushed armed
  have reported : ∀ place, s.flushed.Reported place ↔ s.Reported place :=
    fun place => reported_flushed armed
  rw [flushed_eq armed] at advances reported ⊢
  constructor
  · exact sound.proper
  · exact sound.running
  · exact sound.cleaned
  · intro dir name after
    exact advances.lasting sound ((reported _).mp after)
  · intro e member
    exact advances.announces (sound.queued e member)
  · intro path member
    cases member
  · intro path member
    refine advances.concerns ?_
    rcases List.mem_append.mp member with new | old
    · obtain ⟨other, pending, same⟩ := List.mem_map.mp new
      cases same
      exact sound.collected path (List.mem_reverse.mp pending)
    · exact sound.checked path old

theorem covered_flushed (covered : s.Covered base) : s.flushed.Covered base := by
  rw [flushed_eq armed]
  exact ⟨covered.standing, covered.below⟩

theorem owed_flushed (sound : s.Sound) (owed : s.Owed) : s.flushed.Owed := by
  intro dir name java reported
  rw [reported_flushed armed] at reported
  rw [flushed_eq armed]
  rcases owed dir name java reported with waiting | ⟨path, member, known⟩ | before
  · exact .inl waiting
  · refine .inr (.inr (rechecked_of_mem (List.mem_reverse.mpr member) ?_))
    exact known.leads sound.proper
  · exact .inr (.inr (rechecked_append before))

end Expire

section Runs

structure Tracked (base : Place) (s : WatchedTree) : Prop where
  sound : s.Sound
  covered : s.Covered base
  owed : s.Owed

theorem Tracked.step (tracked : s.Tracked base) (step : s.Step s') : s'.Tracked base := by
  obtain ⟨sound, covered, owed⟩ := tracked
  cases step with
  | change edit dir name reported events standing file applies queues =>
    exact ⟨sound_edited sound standing applies queues file,
      covered_edited sound standing applies queues covered,
      owed_edited sound standing applies queues owed⟩
  | take e rest first =>
    exact ⟨sound_taken sound first, covered_taken sound first covered, owed_taken sound first owed⟩
  | expire armed =>
    exact ⟨sound_flushed armed sound, covered_flushed armed covered, owed_flushed armed sound owed⟩

theorem added_all {t : FileTree} {roots : List Text} {w w' : Watcher}
    (added : roots.foldlM (fun w dir => w.add t dir) w = .ok w') : w.WatchesMore w' := by
  induction roots generalizing w with
  | nil =>
    cases added
    exact Watcher.WatchesMore.refl _
  | cons dir rest ih =>
    rw [List.foldlM_cons] at added
    cases now : w.add t dir with
    | error f =>
      rw [now] at added
      cases added
    | ok next =>
      rw [now] at added
      obtain ⟨_, _, _, more⟩ := Watcher.add_ok now
      exact more.trans (ih added)

theorem added_covers {t : FileTree} {roots : List Text} {w w' : Watcher} (proper : t.Proper)
    (running : w.closed = false) (listed : root ∈ roots)
    (located : t.locate ⟨false, false⟩ root = .ok base) (leads : t.Leads (Path.clean root) base)
    (standing : t.get? base = some .directory)
    (added : roots.foldlM (fun w dir => w.add t dir) w = .ok w') (names : List Text)
    (there : t.get? (base ++ names) = some .directory) :
    ∃ p ∈ w'.watched, t.Leads p (base ++ names) := by
  have present : root ≠ [] := by
    rintro rfl
    cases located
  induction roots generalizing w with
  | nil => cases listed
  | cons dir rest ih =>
    rw [List.foldlM_cons] at added
    cases now : w.add t dir with
    | error f =>
      rw [now] at added
      cases added
    | ok next =>
      rw [now] at added
      rcases List.mem_cons.mp listed with rfl | later
      · obtain ⟨w₁, same, covers⟩ :=
          Watcher.add_covers proper running located present leads standing
        cases same.symm.trans now
        obtain ⟨p, member, leadsThere⟩ := covers names there
        exact ⟨p, (added_all added).watched member, leadsThere⟩
      · obtain ⟨_, _, _, more⟩ := Watcher.add_ok now
        exact ih (more.closed.trans running) later added

theorem Started.tracked {roots : List Text} (started : s.Started roots root base) :
    s.Tracked base := by
  have more := added_all started.added
  have unreported : ∀ place, ¬ s.Reported place := by
    intro place reported
    rw [Reported, started.history] at reported
    cases reported
  refine ⟨⟨started.proper, more.closed, ?_, ?_, ?_, ?_, ?_⟩, ⟨started.standing, ?_⟩, ?_⟩
  · intro p member
    rcases more.cleaned p member with old | cleaned
    · cases old
    · exact cleaned
  · intro dir name reported
    exact absurd reported (unreported _)
  · intro e member
    rw [started.queue] at member
    cases member
  · intro path member
    rw [more.pending] at member
    cases member
  · intro path member
    rw [started.history] at member
    cases member
  · rintro dir ⟨names, rfl⟩ there
    exact .inl (added_covers started.proper rfl started.listed started.located started.leads
      started.standing started.added names there)
  · intro dir name java reported
    exact absurd reported (unreported _)

theorem Tracked.run (tracked : s.Tracked base) (steps : Relation.ReflTransGen Step s s') :
    s'.Tracked base := by
  induction steps with
  | refl => exact tracked
  | tail _ step ih => exact ih.step step

end Runs

/-- Once no event is left to take, every directory below a watched one is watched. When nothing is
    pending either, the Java files that were checked since their last change are exactly those that
    were changed, the last time, in a directory that was then watched. -/
theorem reported_changes_checked {roots : List Text} (started : s.Started roots root base)
    (steps : Relation.ReflTransGen Step s s') (empty : s'.queue = []) :
    (∀ dir, base <+: dir → s'.files.get? dir = some .directory → s'.IsWatched dir) ∧
      (s'.watcher.pending = [] → ∀ dir name, Path.isJava name = true →
        (Rechecked s'.files (dir ++ [name]) s'.history ↔
          lastChange? (dir ++ [name]) s'.history = some true)) := by
  have tracked := started.tracked.run steps
  constructor
  · intro dir below there
    rcases tracked.covered.below dir below there with watched | ⟨e, waiting, -⟩
    · exact watched
    · rw [empty] at waiting
      cases waiting
  · intro none dir name java
    constructor
    · intro rechecked
      obtain ⟨path, member, leads⟩ := rechecked.exists_checked
      obtain ⟨d, n, known, reported⟩ := tracked.sound.checked path member
      rw [leads.unique (known.leads tracked.sound.proper)]
      exact reported
    · intro reported
      rcases tracked.owed dir name java reported with ⟨e, waiting, -⟩ | ⟨path, waiting, -⟩ | done
      · rw [empty] at waiting
        cases waiting
      · rw [none] at waiting
        cases waiting
      · exact done

def src : Text := utf8 "src"
def pkg : Text := utf8 "pkg"
def java : Text := utf8 "A.java"

def emptySources : WatchedTree where
  files := FileTree.empty.set [src] .directory
  watcher := { watched := [src] }
  queue := []
  history := []

theorem fileNames : FileName src ∧ FileName pkg ∧ FileName java := by
  refine ⟨⟨⟨?_, ?_, ?_⟩, ?_⟩, ⟨⟨?_, ?_, ?_⟩, ?_⟩, ⟨⟨?_, ?_, ?_⟩, ?_⟩⟩ <;> decide +kernel

theorem emptySources_started : emptySources.Started [src] src [src] where
  proper := FileTree.Proper.empty.set (FileTree.get?_top _) fileNames.1 (by decide +kernel) _
  listed := List.mem_cons_self
  located := rfl
  leads := rfl
  standing := by decide +kernel
  added := rfl
  queue := rfl
  history := rfl

def packageEvent : FileEvent := ⟨src ++ Path.slash :: pkg, [.create]⟩

def packageMade : WatchedTree :=
  emptySources.edited .makeDirectory ([src] ++ [pkg]) true [packageEvent]

theorem packageMade_step : emptySources.Step packageMade :=
  .change .makeDirectory [src] pkg true _ (by decide +kernel) fileNames.2.1 rfl
    (.reported src List.mem_cons_self rfl)

def javaEvent : FileEvent := ⟨src ++ Path.slash :: pkg ++ Path.slash :: java, [.create]⟩

theorem reported_changes_checked_package :
    emptySources.Started [src] src [src] ∧
      ∃ s, Relation.ReflTransGen Step emptySources s ∧ s.queue = [] ∧ s.watcher.pending = [] ∧
        s.IsWatched [src, pkg] ∧ Rechecked s.files [src, pkg, java] s.history := by
  have known := Relation.ReflTransGen.single packageMade_step |>.tail
    (.take packageEvent [] rfl)
  have created := known.tail (.change (.createFile [] 0) [src, pkg] java true [javaEvent]
    (by decide +kernel) fileNames.2.2 rfl
    (.reported (src ++ Path.slash :: pkg) (by decide +kernel) rfl))
  have checked := (created.tail (.take javaEvent [] rfl)).tail (.expire rfl)
  obtain ⟨watched, rechecked⟩ := reported_changes_checked emptySources_started checked rfl
  refine ⟨emptySources_started, _, checked, rfl, rfl, watched [src, pkg] ⟨[pkg], rfl⟩ (by decide +kernel), ?_⟩
  exact (rechecked rfl [src, pkg] java (by decide +kernel)).mpr (by decide +kernel)

/-- A Java file is put into a new directory before the event of the directory is taken. -/
theorem early_file_unchecked :
    emptySources.Started [src] src [src] ∧
      ∃ s, Relation.ReflTransGen Step emptySources s ∧ s.queue = [] ∧ s.watcher.pending = [] ∧
        lastChange? [src, pkg, java] s.history = some false ∧
        ¬ Rechecked s.files [src, pkg, java] s.history := by
  have unwatched : ¬ packageMade.IsWatched [src, pkg] := by
    rintro ⟨p, member, leads⟩
    obtain rfl := List.mem_singleton.mp member
    have elsewhere : packageMade.files.Leads src [src] := rfl
    cases elsewhere.unique leads
  have created := Relation.ReflTransGen.single packageMade_step |>.tail
    (.change (.createFile [] 0) [src, pkg] java false [] (by decide +kernel) fileNames.2.2
      rfl (.missed unwatched))
  refine ⟨emptySources_started, _, created.tail (.take packageEvent [] rfl), rfl, rfl,
    by decide +kernel, ?_⟩
  exact fun rechecked => rechecked.1 rfl

end WatchedTree
end JavadocLint
