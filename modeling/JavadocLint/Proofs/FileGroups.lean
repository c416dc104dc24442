import Mathlib
import JavadocLint.Proofs.NameOrder
import JavadocLint.Proofs.RenderedIssue
import JavadocLint.Report.Grouped

/- Issues of many files as text. The names of the files are taken in order, each once, and under
   each name stand its issues as they came; so every issue is printed in one place. A file that
   cannot be read costs its issues the lines and nothing else. -/
namespace JavadocLint

section Names

variable {names : List Text}

theorem sorted_names (names : List Text) :
    (sorted Text.le names).Perm names ∧
      (sorted Text.le names).Pairwise fun a b => Text.le a b = true := by
  rw [sorted_eq_mergeSort Text.le Text.le_of_le_of_le Text.le_or_le]
  exact ⟨List.mergeSort_perm _ _,
    List.pairwise_mergeSort Text.le_of_le_of_le Text.le_or_le names⟩

theorem increasing_eraseDups (ordered : names.Pairwise fun a b => Text.le a b = true) :
    Increasing names.eraseDups := by
  induction size : names.length using Nat.strongRecOn generalizing names with
  | ind n ih =>
    cases names with
    | nil => exact List.Pairwise.nil
    | cons first rest =>
      obtain ⟨smallest, tail⟩ := List.pairwise_cons.mp ordered
      have shorter : (rest.filter fun b => !b == first).length < n := by
        rw [← size, List.length_cons]
        exact Nat.lt_succ_of_le (List.length_filter_le _ _)
      rw [List.eraseDups_cons]
      refine List.pairwise_cons.mpr ⟨?_, ih _ shorter (tail.filter _) rfl⟩
      intro other member
      obtain ⟨among, differs⟩ := List.mem_filter.mp (List.mem_eraseDups.mp member)
      refine Text.lt_of_le_of_ne (smallest other among) ?_
      rintro rfl
      simp at differs

theorem reportedFiles_increasing (issues : List Issue) : Increasing (reportedFiles issues) :=
  increasing_eraseDups (sorted_names _).2

theorem mem_reportedFiles {issues : List Issue} {name : Text} :
    name ∈ reportedFiles issues ↔ ∃ i ∈ issues, i.file = name := by
  rw [reportedFiles, List.mem_eraseDups, mem_sorted, List.mem_map]

theorem Increasing.sorted {collected : List Text} (increasing : Increasing names)
    (same : collected.Perm names) : sorted Text.le collected = names := by
  obtain ⟨perm, ordered⟩ := sorted_names collected
  have less : names.Pairwise fun a b => Text.le a b = true := by
    refine increasing.imp ?_
    intro a b before
    rw [Text.lt_iff] at before
    rw [Text.le_iff]
    exact List.le_of_lt before
  refine (perm.trans same).eq_of_pairwise ?_ ordered less
  intro a b _ _ first second
  rw [Text.le_iff] at first second
  exact List.le_antisymm first second

end Names

section Groups

variable {names : List Text}

theorem groups_perm (distinct : names.Nodup) (issues : List Issue) :
    (names.flatMap fun name => issuesIn name issues).Perm
      (issues.filter fun i => i.file ∈ names) := by
  induction names with
  | nil => simp
  | cons name rest ih =>
    obtain ⟨new, others⟩ := List.nodup_cons.mp distinct
    have here : (issues.filter fun i => i.file ∈ name :: rest).filter (fun i => i.file = name) =
        issuesIn name issues := by
      rw [List.filter_filter, issuesIn]
      refine List.filter_congr fun i _ => ?_
      by_cases same : i.file = name <;> simp [same]
    have later : (issues.filter fun i => i.file ∈ name :: rest).filter
        (fun i => !decide (i.file = name)) = issues.filter fun i => i.file ∈ rest := by
      rw [List.filter_filter]
      refine List.filter_congr fun i _ => ?_
      by_cases same : i.file = name
      · simp [same, new]
      · simp [same]
    have split := List.filter_append_perm (fun i : Issue => decide (i.file = name))
      (issues.filter fun i => i.file ∈ name :: rest)
    rw [here, later] at split
    rw [List.flatMap_cons]
    exact ((ih others).append_left _).trans split

theorem reportedFiles_perm (issues : List Issue) :
    ((reportedFiles issues).flatMap fun name => issuesIn name issues).Perm issues := by
  have all : (issues.filter fun i => i.file ∈ reportedFiles issues) = issues := by
    refine List.filter_eq_self.mpr fun i member => decide_eq_true ?_
    exact mem_reportedFiles.mpr ⟨i, member, rfl⟩
  have groups := groups_perm (reportedFiles_increasing issues).nodup issues
  rwa [all] at groups

end Groups

section Texts

variable {term : Terminal} {t : FileTree} {i : Issue}

/-- What is printed of an issue: over the lines of its file, or without any if the file cannot be
    read. -/
def FileTree.shown (t : FileTree) (term : Terminal) (i : Issue) : Text :=
  match t.read i.file with
  | .ok content => i.render term (sourceLines content)
  | .error _ => i.opening term.colors ++ i.closing term.colors

theorem Issue.render_noLines (i : Issue) (term : Terminal) :
    i.render term [] = i.opening term.colors ++ i.closing term.colors := by
  have outside : i.hasLines [] = false := by
    rw [Bool.eq_false_iff, ne_eq, hasLines_iff, List.length_nil]
    omega
  exact render_eq (layout_hidden outside)

theorem shown_eq (t : FileTree) (i : Issue) :
    t.shown term i = i.render term (shownSource t i.file).1 := by
  cases read : t.read i.file with
  | ok content => simp only [FileTree.shown, shownSource, read]
  | error f => simp only [FileTree.shown, shownSource, read, i.render_noLines]

theorem fileReport_shown (t : FileTree) (name : Text) (issues : List Issue) :
    (fileReport term t name (issuesIn name issues)).1 =
      (issuesIn name issues).flatMap (t.shown term) := by
  refine List.flatMap_congr fun i member => ?_
  have file : i.file = name := of_decide_eq_true (List.mem_filter.mp member).2
  rw [shown_eq, file]
  rfl

theorem textReport_shown (term : Terminal) (t : FileTree) (issues : List Issue) :
    (textReport term t issues).1 =
      (reportedFiles issues).flatMap fun name =>
        (issuesIn name issues).flatMap (t.shown term) := by
  rw [textReport, List.flatMap_map]
  exact List.flatMap_congr fun name _ => fileReport_shown t name issues

theorem shown_layout {content : Text} (read : t.read i.file = .ok content) :
    i.layout term (sourceLines content) = .ok (t.shown term i) := by
  obtain ⟨text, done, -⟩ := @Issue.layout_rendersAs i term (sourceLines content)
  rw [shown_eq, shownSource, read, done, Issue.render_eq done]

end Texts

/-- The text of a report goes through the names of the files in increasing order, each once, and
    under each name through its issues in the order in which they came: over the lines of the file,
    where no rendering fails, or without lines. All issues are printed as often as they were found,
    printing leaves the files as they are, and the order in which the names were collected does
    not matter. All this holds on every terminal, with colours and without. -/
theorem issues_printed_once (term : Terminal) (t : FileTree) (now : Int) (issues : List Issue) :
    ∃ names, Increasing names ∧ (∀ name, name ∈ names ↔ ∃ i ∈ issues, i.file = name) ∧
      (printIssues term t now .text issues).text =
        (names.flatMap fun name =>
          (issues.filter fun i => i.file = name).flatMap fun i => t.shown term i) ∧
      (names.flatMap fun name => issues.filter fun i => i.file = name).Perm issues ∧
      (∀ (i : Issue) content, t.read i.file = .ok content →
        i.layout term (sourceLines content) = .ok (t.shown term i)) ∧
      (printIssues term t now .text issues).files = .ok t ∧
      ∀ collected : List Text, collected.Perm names → sorted Text.le collected = names :=
  ⟨reportedFiles issues, reportedFiles_increasing issues, fun _ => mem_reportedFiles,
    textReport_shown term t issues, reportedFiles_perm issues, fun _ _ => shown_layout, rfl,
    fun _ => (reportedFiles_increasing issues).sorted⟩

def loneFile : FileTree := FileTree.empty.set [utf8 "B.java"] (.file (utf8 "class B ;\n") 0)

def issueOf (file : String) (line : Int) : Issue :=
  ⟨utf8 "javadoc-tags", [], utf8 file, utf8 "message", [], [], ⟨utf8 file, line, 1⟩,
    ⟨utf8 file, line, 5⟩, .error⟩

theorem issues_printed_once_interleaved :
    let issues := [issueOf "B.java" 1, issueOf "A.java" 1, issueOf "B.java" 7]
    loneFile.read (utf8 "B.java") = .ok (utf8 "class B ;\n") ∧
      (loneFile.read (utf8 "A.java")).toOption = none ∧
      (printIssues ⟨.narrow, true⟩ loneFile 0 .text issues).text =
        loneFile.shown ⟨.narrow, true⟩ (issueOf "A.java" 1) ++
          (loneFile.shown ⟨.narrow, true⟩ (issueOf "B.java" 1) ++
            loneFile.shown ⟨.narrow, true⟩ (issueOf "B.java" 7)) := by
  intro issues
  obtain ⟨names, increasing, members, text, -, -, -, order⟩ :=
    issues_printed_once ⟨.narrow, true⟩ loneFile 0 issues
  have collected : [utf8 "B.java", utf8 "A.java"].Perm names := by
    refine (List.perm_ext_iff_of_nodup (by decide) increasing.nodup).mpr fun name => ?_
    simp only [members, issues, issueOf, List.mem_cons, List.not_mem_nil, or_false,
      exists_eq_or_imp, exists_eq_left]
    tauto
  have both : [utf8 "A.java", utf8 "B.java"] = names := order _ collected
  refine ⟨rfl, by decide, ?_⟩
  rw [text, ← both]
  simp [issues, issueOf, show utf8 "A.java" ≠ utf8 "B.java" by decide,
    show utf8 "B.java" ≠ utf8 "A.java" by decide]

end JavadocLint
