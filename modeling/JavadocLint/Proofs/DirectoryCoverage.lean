import Mathlib
import JavadocLint.Proofs.DirectorySchedule
import JavadocLint.Proofs.DirectoryWalk
import JavadocLint.Proofs.PathSpelling

/- Which files a run on a directory checks. When the path itself names the directory, the processor
   runs on every Java file that real directories lead to from there, once and in the order of a walk;
   when the path names a link to it, nothing behind the link is checked. -/
namespace JavadocLint

namespace FileTree

variable {t : FileTree} {dir place : Place} {node : FileNode} {name path : Text}
  {names fewer : List Text}

section NoFollow

theorem advance_noFollow {here : Place} {reached : Reached}
    (led : t.advance ⟨true, false⟩ here names = .ok reached) :
    t.advance ⟨false, false⟩ here names = .ok reached ∨
      ∃ last target, t.advance ⟨false, false⟩ here names = .ok (.place last) ∧
        t.get? last = some (.link target) := by
  induction names generalizing here with
  | nil => exact .inl led
  | cons name rest ih =>
    rcases t.advance_cases here name with
      ⟨next, onward⟩ | ⟨content, modified, there, stops⟩ | ⟨target, there, stops⟩ | fails
    · rw [onward] at led ⊢
      exact ih led
    · rw [stops] at led ⊢
      exact .inl led
    · rw [stops] at led ⊢
      by_cases last : rest = []
      · subst last
        exact .inr ⟨here ++ [name], target, rfl, there⟩
      · have more : rest.isEmpty = false := by simp [last]
        simp only [more, Bool.false_and, Bool.false_eq_true, if_false] at led ⊢
        exact .inl led
    · rw [fails] at led
      cases led

theorem locateFrom_noFollow {links : Nat} {here : Place}
    (located : t.locateFrom ⟨true, false⟩ links here names = .ok place) :
    t.locateFrom ⟨false, false⟩ links here names = .ok place ∨
      ∃ last target, t.locateFrom ⟨false, false⟩ links here names = .ok last ∧
        t.get? last = some (.link target) := by
  induction links, here, names using locateFrom.induct t ⟨true, false⟩ with
  | case1 links here names reason failed =>
    rw [locateFrom_eq, failed] at located
    cases located
  | case2 links here names p reached =>
    rw [locateFrom_eq, reached] at located
    rw [locateFrom_eq]
    rcases advance_noFollow reached with same | ⟨last, target, stopped, there⟩
    · rw [same]
      exact .inl located
    · rw [stopped]
      exact .inr ⟨last, target, rfl, there⟩
  | case3 here names d target rest reached =>
    rw [locateFrom_eq, reached] at located
    cases located
  | case4 here names d target rest reached links start ih =>
    rw [locateFrom_eq, reached] at located
    rw [locateFrom_eq]
    rcases advance_noFollow reached with same | ⟨last, target, stopped, there⟩
    · rw [same]
      exact ih located
    · rw [stopped]
      exact .inr ⟨last, target, rfl, there⟩

theorem find_of_stat (found : t.stat path = .ok node) : t.find true path = .ok node := by
  unfold stat at found
  cases looked : t.find true path with
  | error reason =>
    rw [looked] at found
    cases found
  | ok other =>
    rw [looked] at found
    cases found
    rfl

theorem standing_of_stat (found : t.stat path = .ok node) (leads : t.Leads path dir) :
    t.get? dir = some node := by
  obtain ⟨place, located, there⟩ := find_ok (find_of_stat found)
  rwa [leads.unique located]

theorem linkStat_of_stat (found : t.stat path = .ok node) (leads : t.Leads path dir) :
    t.linkStat path = .ok node ∨ ∃ target, t.linkStat path = .ok (.link target) := by
  have there := standing_of_stat found leads
  have present := leads.path_ne_nil
  have located := leads
  rw [Leads, locate_eq _ present] at located
  rcases locateFrom_noFollow located with same | ⟨last, target, stopped, isLink⟩
  · rw [← locate_eq _ present] at same
    exact .inl (by rw [linkStat, find_of_locate same there]; rfl)
  · rw [← locate_eq _ present] at stopped
    exact .inr ⟨target, by rw [linkStat, find_of_locate stopped isLink]; rfl⟩

end NoFollow

section Straight

inductive Thinned : List Text → List Text → Prop where
  | nil : Thinned [] []
  | drop {name : Text} {names fewer : List Text} : (name.isEmpty || name = utf8 ".") = true →
      Thinned names fewer → Thinned (name :: names) fewer
  | keep {name : Text} {names fewer : List Text} : Thinned names fewer →
      Thinned (name :: names) (name :: fewer)

theorem Thinned.behind (front : List Text) (thinned : Thinned names fewer) :
    Thinned (front ++ names) (front ++ fewer) := by
  induction front with
  | nil => exact thinned
  | cons name front ih => exact .keep ih

theorem thinned_filter (names : List Text) :
    Thinned names (names.filter fun name => !(name.isEmpty || name = utf8 ".")) := by
  induction names with
  | nil => exact .nil
  | cons name rest ih =>
    by_cases skipped : (name.isEmpty || name = utf8 ".") = true
    · rw [List.filter_cons_of_neg (by simp [skipped])]
      exact .drop skipped ih
    · rw [List.filter_cons_of_pos (by simp [skipped])]
      exact .keep ih

inductive Reached.Thins (t : FileTree) : Reached → Reached → Prop where
  | place {dir : Place} : t.get? dir = some .directory → Thins t (.place dir) (.place dir)
  | link {dir : Place} {target : Text} {rest less : List Text} : Thinned rest less →
      Thins t (.link dir target rest) (.link dir target less)

theorem advance_thinned {here : Place} {reached : Reached} (thinned : Thinned names fewer)
    (led : t.advance ⟨true, false⟩ here names = .ok reached)
    (firm : ∀ dir, reached = .place dir → t.get? dir = some .directory) :
    ∃ other, t.advance ⟨true, false⟩ here fewer = .ok other ∧ reached.Thins t other := by
  induction thinned generalizing here with
  | nil =>
    cases led
    exact ⟨_, rfl, .place (firm here rfl)⟩
  | drop skipped _ ih =>
    rw [advance_skip _ _ _ _ _ skipped] at led
    exact ih led
  | @keep name rest less thinned ih =>
    rcases t.advance_cases here name with
      ⟨next, onward⟩ | ⟨content, modified, there, stops⟩ | ⟨target, there, stops⟩ | fails
    · rw [onward] at led ⊢
      exact ih led
    · rw [stops] at led
      split at led
      · -- without the names behind it a file could be reached, but the end is a directory
        cases led
        rw [firm _ rfl] at there
        cases there
      · cases led
    · rw [stops] at led ⊢
      simp only [Bool.not_true, Bool.and_false, Bool.false_eq_true, if_false] at led ⊢
      cases led
      exact ⟨_, rfl, .link thinned⟩
    · rw [fails] at led
      cases led

theorem locateFrom_thinned {links : Nat} {here : Place} (thinned : Thinned names fewer)
    (located : t.locateFrom ⟨true, false⟩ links here names = .ok dir)
    (standing : t.get? dir = some .directory) :
    t.locateFrom ⟨true, false⟩ links here fewer = .ok dir := by
  induction links, here, names using locateFrom.induct t ⟨true, false⟩ generalizing fewer with
  | case1 links here names reason failed =>
    rw [locateFrom_eq, failed] at located
    cases located
  | case2 links here names p reached =>
    rw [locateFrom_eq, reached] at located
    cases located
    obtain ⟨other, led, thins⟩ :=
      advance_thinned thinned reached (by rintro _ ⟨⟩; exact standing)
    cases thins
    rw [locateFrom_eq, led]
    rfl
  | case3 here names d target rest reached =>
    rw [locateFrom_eq, reached] at located
    cases located
  | case4 here names d target rest reached links start =>
    rename_i ih
    rw [locateFrom_eq, reached] at located
    obtain ⟨other, led, thins⟩ := advance_thinned thinned reached (by rintro _ ⟨⟩)
    cases thins with
    | link less =>
      -- the target is followed as it is written; only the names left behind it are fewer
      rw [locateFrom_eq, led]
      exact ih (less.behind _) located

theorem Leads.clean_straight (leads : t.Leads path dir) (standing : t.get? dir = some .directory)
    (straight : utf8 ".." ∉ Path.elements path) : t.Leads (Path.clean path) dir := by
  have fewer : Thinned (Text.splitOn Path.slash path) (Path.cleanElements path) := by
    rw [Path.cleanElements_straight straight, Path.elements, List.filter_filter]
    convert thinned_filter (Text.splitOn Path.slash path) using 3
    simp [Bool.and_comm]
  have present := leads.path_ne_nil
  rw [Leads, locate_eq _ present] at leads
  rw [Leads, locate_clean]
  exact locateFrom_thinned fewer leads standing

end Straight

theorem proper_of_nodes (files : ∀ n ∈ t.nodes, ∀ name ∈ n.1, FileName name)
    (parents : ∀ n ∈ t.nodes, t.get? n.1.dropLast = some .directory) : t.Proper := by
  constructor
  · intro place node there name member
    exact files _ (mem_nodes (List.ne_nil_of_mem member) there) name member
  · intro dir name node there
    have parent := parents _ (mem_nodes (by simp) there)
    rwa [List.dropLast_concat] at parent

section JavaFiles

def javaFiles (t : FileTree) (dir : Place) : List (List Text) :=
  (t.below dir).filterMap fun met =>
    if met.2 ≠ .directory && met.1.getLast?.any Path.isJava then some met.1 else none

theorem mem_javaFiles : names ∈ t.javaFiles dir ↔
    ∃ node, t.Within dir names node ∧ node ≠ .directory ∧
      ∃ last ∈ names.getLast?, Path.isJava last = true := by
  rw [javaFiles, List.mem_filterMap]
  constructor
  · rintro ⟨⟨met, node⟩, member, kept⟩
    dsimp only at kept
    split at kept
    · rename_i both
      cases kept
      rw [Bool.and_eq_true, decide_eq_true_iff, Option.any_eq_true] at both
      exact ⟨node, mem_below_iff.mp member, both⟩
    · cases kept
  · rintro ⟨node, within, other, java⟩
    refine ⟨(names, node), mem_below_iff.mpr within, if_pos ?_⟩
    rw [Bool.and_eq_true, decide_eq_true_iff, Option.any_eq_true]
    exact ⟨other, java⟩

theorem javaFiles_increasing (t : FileTree) (dir : Place) :
    (t.javaFiles dir).Pairwise (· < ·) := by
  refine (t.below_increasing dir).filterMap _ ?_
  rintro a b less a' keptA b' keptB
  split at keptA <;> split at keptB <;> cases keptA <;> cases keptB
  exact less

theorem isJava_pathBelow (present : path ≠ []) (front : List Text) (last : Text)
    (files : ∀ name ∈ front ++ [last], FileName name) :
    Path.isJava (pathBelow path (front ++ [last])) = Path.isJava last := by
  have file := files last List.mem_concat_self
  have some : pathBelow path front ≠ [] := by
    rw [pathBelow_eq present]
    exact Path.clean_ne_nil _
  rw [← pathBelow_append present files, pathBelow_eq some]
  exact Path.isJava_of_endsIn (Path.endsIn_clean _ file.toOrdinaryName file.plain)

variable (proper : t.Proper) (standing : t.get? dir = some .directory)
  (leads : t.Leads (Path.clean path) dir) (present : path ≠ [])

include proper standing leads present

theorem collectFiles_directory (itself : t.linkStat path = .ok .directory)
    (direct : t.Leads path dir) :
    collectFiles t path = .ok ((t.javaFiles dir).map (pathBelow path)) := by
  unfold collectFiles
  rw [visit_directory proper standing leads present itself direct]
  refine congrArg Except.ok ?_
  rw [List.filterMap_cons_none (by simp), List.filterMap_map, javaFiles, List.map_filterMap]
  refine List.filterMap_congr ?_
  rintro ⟨names, node⟩ member
  have within := mem_below_iff.mp member
  obtain ⟨front, last, rfl⟩ :=
    (List.eq_nil_or_concat' names).resolve_left within.names_ne_nil
  have files := proper.names _ _ within.there
  have java := isJava_pathBelow present front last fun name inside =>
    files name (List.mem_append_right dir inside)
  simp only [Function.comp_apply, java, List.getLast?_concat, Option.any_some]
  split <;> rfl

theorem locate_javaFile (member : names ∈ t.javaFiles dir) :
    t.locate ⟨false, false⟩ (pathBelow path names) = .ok (dir ++ names) := by
  obtain ⟨node, within, -⟩ := mem_javaFiles.mp member
  rw [pathBelow_eq present]
  exact locate_clean_below proper standing within.names_ne_nil within.there (by simp) leads present

end JavaFiles

end FileTree

section Runs

variable {σ : Type} {t : FileTree} {path : Text} {files : List Text}

def recorded (process : Processor σ) : Processor (σ × List Text) := fun s file =>
  ((process s.1 file).1, (process s.1 file).2, s.2 ++ [file])

/-- A run on a path calls the processor on these files, in their order, and on no others. -/
def RunsOn (t : FileTree) (process : Processor σ) (s : σ) (path : Text) (files : List Text) : Prop :=
  Batch.ofPath t false (recorded process) (s, []) path =
    ((Batch.ofPath t false process s path).1, (Batch.ofPath t false process s path).2, files)

theorem processAll_recorded (process : Processor σ) (s : σ) (before files : List Text) :
    Batch.processAll (recorded process) (s, before) files =
      ((Batch.processAll process s files).1, (Batch.processAll process s files).2,
        before ++ files) := by
  induction files generalizing s before with
  | nil => rw [List.append_nil]; rfl
  | cons file rest ih =>
    have tail := ih (process s file).2 (before ++ [file])
    rw [List.append_assoc] at tail
    simp only [Batch.processAll, recorded] at tail ⊢
    rw [tail]
    rfl

theorem runsOn_collected (isDirectory : t.stat path = .ok .directory)
    (collected : collectFiles t path = .ok files) (process : Processor σ) (s : σ) :
    RunsOn t process s path files := by
  rw [RunsOn, ofPath_directory isDirectory collected, ofPath_directory isDirectory collected,
    processAll_recorded]
  rfl

theorem collectFiles_link {target : Text} (isLink : t.linkStat path = .ok (.link target)) :
    collectFiles t path = .ok (if Path.isJava path then [path] else []) := by
  have visited : t.visit path = .ok [(path, .link target)] := by
    unfold FileTree.visit
    rw [isLink]
    rfl
  unfold collectFiles
  rw [visited]
  cases java : Path.isJava path <;> simp [bind, Except.bind, pure, Except.pure, java]

/-- A run on a directory checks each Java file that real directories lead to from there, once, in
    the order of the names on the way, and under a path that names the file itself. That is so when
    the path itself names the directory, and its cleaned form as well. What else the path can name is
    a link, and then all that is checked is the link, if it is named like a Java file. -/
theorem directory_covered {dir : Place} (proper : t.Proper)
    (isDirectory : t.stat path = .ok .directory) (leads : t.Leads path dir)
    (process : Processor σ) (s : σ) :
    (t.linkStat path = .ok .directory ∨ ∃ target, t.linkStat path = .ok (.link target)) ∧
      (t.linkStat path = .ok .directory →
        (utf8 ".." ∉ Path.elements path ∨ t.Leads (Path.clean path) dir) →
        ∃ found : List (List Text), found.Pairwise (· < ·) ∧
          (∀ names, names ∈ found ↔ ∃ node, t.Within dir names node ∧ node ≠ .directory ∧
            ∃ last ∈ names.getLast?, Path.isJava last = true) ∧
          (∀ names ∈ found, t.locate ⟨false, false⟩ (FileTree.pathBelow path names) =
            .ok (dir ++ names)) ∧
          RunsOn t process s path (found.map (FileTree.pathBelow path))) ∧
      ∀ target, t.linkStat path = .ok (.link target) →
        RunsOn t process s path (if Path.isJava path then [path] else []) := by
  have standing := FileTree.standing_of_stat isDirectory leads
  have present := leads.path_ne_nil
  refine ⟨FileTree.linkStat_of_stat isDirectory leads, ?_, ?_⟩
  · intro itself direct
    have cleaned : t.Leads (Path.clean path) dir := by
      rcases direct with straight | cleaned
      · exact leads.clean_straight standing straight
      · exact cleaned
    have collected :=
      FileTree.collectFiles_directory proper standing cleaned present itself leads
    refine ⟨t.javaFiles dir, t.javaFiles_increasing dir, fun names => FileTree.mem_javaFiles, ?_,
      runsOn_collected isDirectory collected process s⟩
    intro names member
    exact FileTree.locate_javaFile proper standing cleaned present member
  · intro target isLink
    exact runsOn_collected isDirectory (collectFiles_link isLink) process s

end Runs

/-- A directory named like a Java file, a link so named that leads nowhere, and a link to a
    directory. -/
def coveredTree : FileTree :=
  ((((((FileTree.empty.set [utf8 "src"] .directory).set [utf8 "src", utf8 "a"] .directory).set
    [utf8 "src", utf8 "a", utf8 "B.java"] (.file (utf8 "class B ;") 1)).set
    [utf8 "src", utf8 "a.java"] (.link (utf8 "none"))).set
    [utf8 "src", utf8 "C.java"] .directory).set
    [utf8 "src", utf8 "C.java", utf8 "D.java"] (.file (utf8 "class D ;") 1)).set
    [utf8 "src", utf8 "b"] (.link (utf8 "a"))

def counting : Processor Nat := fun calls _ => (.ok [], calls + 1)

theorem directory_covered_nested :
    coveredTree.Proper ∧ coveredTree.stat (utf8 "./src//") = .ok .directory ∧
      coveredTree.Leads (utf8 "./src//") [utf8 "src"] ∧
      coveredTree.linkStat (utf8 "./src//") = .ok .directory ∧
      ∃ found : List (List Text), found.Pairwise (· < ·) ∧
        RunsOn coveredTree counting 0 (utf8 "./src//")
          (found.map (FileTree.pathBelow (utf8 "./src//"))) ∧
        found.map (FileTree.pathBelow (utf8 "./src//")) =
          [utf8 "src/C.java/D.java", utf8 "src/a/B.java", utf8 "src/a.java"] := by
  have proper : coveredTree.Proper := FileTree.proper_of_nodes (by decide +kernel) (by decide +kernel)
  have isDirectory : coveredTree.stat (utf8 "./src//") = .ok .directory := rfl
  have leads : coveredTree.Leads (utf8 "./src//") [utf8 "src"] := rfl
  have itself : coveredTree.linkStat (utf8 "./src//") = .ok .directory := rfl
  have collected : collectFiles coveredTree (utf8 "./src//") =
      .ok [utf8 "src/C.java/D.java", utf8 "src/a/B.java", utf8 "src/a.java"] := rfl
  obtain ⟨-, covered, -⟩ := directory_covered proper isDirectory leads counting 0
  obtain ⟨found, increasing, -, -, runs⟩ := covered itself (.inl (by decide +kernel))
  have listed := runsOn_collected isDirectory collected counting 0
  refine ⟨proper, isDirectory, leads, itself, found, increasing, runs, ?_⟩
  exact congrArg (fun run => run.2.2) (runs.symm.trans listed)

/-- One link to a directory with a Java file, and one to a directory below it. -/
def linkedTree : FileTree :=
  ((((FileTree.empty.set [utf8 "src"] .directory).set
    [utf8 "src", utf8 "A.java"] (.file (utf8 "class A ;") 1)).set
    [utf8 "src", utf8 "deep"] .directory).set
    [utf8 "code"] (.link (utf8 "src"))).set
    [utf8 "down"] (.link (utf8 "src/deep"))

/-- The first link leads to a Java file that a run on the link passes over. From the second the way up
    leads to the same file, and a run fails there, as it looks for the entries in the wrong place. -/
theorem linked_directory_unchecked :
    linkedTree.Proper ∧
      linkedTree.Within [utf8 "src"] [utf8 "A.java"] (.file (utf8 "class A ;") 1) ∧
      linkedTree.stat (utf8 "code") = .ok .directory ∧
      linkedTree.Leads (utf8 "code") [utf8 "src"] ∧
      Batch.ofPath linkedTree false counting 0 (utf8 "code") = ({}, 0) ∧
      linkedTree.linkStat (utf8 "down/..") = .ok .directory ∧
      linkedTree.Leads (utf8 "down/..") [utf8 "src"] ∧
      (Batch.ofPath linkedTree false counting 0 (utf8 "down/..")).1.failure.isSome = true ∧
      (Batch.ofPath linkedTree false counting 0 (utf8 "down/..")).2 = 0 :=
  ⟨FileTree.proper_of_nodes (by decide +kernel) (by decide +kernel), .entry rfl, rfl, rfl, rfl, rfl,
    rfl, rfl, rfl⟩

end JavadocLint
