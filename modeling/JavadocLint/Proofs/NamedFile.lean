import Mathlib
import JavadocLint.Proofs.CacheHonesty
import JavadocLint.Proofs.SourceFindings
import JavadocLint.Proofs.SuppressionReach

/- The name of a file in what is told of it. Suppressions are looked up under the name of the file and
   issues carry it in three places, but nothing else depends on it: a file is checked as its content
   is, and its name is put into the issues. -/
namespace JavadocLint

def Position.inFile (file : Text) (p : Position) : Position := { p with file }

def Issue.inFile (file : Text) (i : Issue) : Issue :=
  { i with file, start := i.start.inFile file, stop := i.stop.inFile file }

section Names

variable (file other : Text) (lines : List Text)

theorem tagIssue_inFile (severity : Severity) (d : Declaration) (diag : Diagnostic) :
    tagIssue file lines severity d diag = (tagIssue other lines severity d diag).inFile file := rfl

theorem isSuppressed_inFile (line : Int) (rule : Text) :
    isSuppressed (suppressions file lines) line rule =
      isSuppressed (suppressions other lines) line rule := by
  rw [Bool.eq_iff_iff, isSuppressed_iff, isSuppressed_iff]

theorem isSuppressedIn_inFile (pos : Position) (rule : Text) :
    isSuppressedIn file (suppressions file lines) (pos.inFile file) rule =
      isSuppressedIn other (suppressions other lines) (pos.inFile other) rule := by
  simp only [isSuppressedIn, Position.inFile, isSuppressed_inFile file other]

theorem openIssues_inFile (rules : TagRules) (severity : Severity) :
    openIssues file lines rules severity =
      (openIssues other lines rules severity).map (Issue.inFile file) := by
  have same : openFindings file lines rules = openFindings other lines rules := by
    simp only [openFindings, isSuppressed_inFile file other]
  rw [openIssues, same, openIssues, List.map_map]
  exact List.map_congr_left fun f _ =>
    tagIssue_inFile file other lines severity f.1 f.2

theorem check_inFile (e : Engine) :
    ∃ issues, e.check other lines = .ok issues ∧
      e.check file lines = .ok (issues.map (Issue.inFile file)) := by
  cases ignored : e.isIgnoredRule tagRuleName with
  | true => exact ⟨[], by simp [Engine.check, ignored], by simp [Engine.check, ignored]⟩
  | false =>
    refine ⟨_, check_openIssues e other lines ignored, ?_⟩
    rw [check_openIssues e file lines ignored, openIssues_inFile file other]
    refine congrArg Except.ok (Eq.symm (List.map_mergeSort ?_))
    exact fun _ _ _ _ => rfl

end Names

variable {e : Engine} {t : FileTree} {name content : Text}

/-- A file that is read and not ignored has the issues of its content, in their order and with its
    name in them; and which lines of a file are suppressed does not depend on its name. -/
theorem file_checked_as_content (now : Int) (readable : t.read name = .ok content)
    (wanted : e.isIgnoredPath name = false) :
    (∃ issues, e.runSource content = .ok issues ∧
      e.run t now none name = (.ok (issues.map (Issue.inFile name)), none)) ∧
    ∀ (file other : Text) (lines : List Text) (pos : Position) (rule : Text),
      isSuppressedIn file (suppressions file lines) (pos.inFile file) rule =
        isSuppressedIn other (suppressions other lines) (pos.inFile other) rule := by
  refine ⟨?_, isSuppressedIn_inFile⟩
  obtain ⟨issues, source, checked⟩ := check_inFile name [] (sourceLines content) e
  refine ⟨issues, source, ?_⟩
  rw [Engine.run, wanted, if_neg (by simp), checkFile_of_read readable, checked]

def selectiveEngine : Engine := authorEngine.ignorePath (utf8 "gen/**")

def sharedCommentFile : FileTree :=
  (FileTree.empty.set [utf8 "src"] .directory).set [utf8 "src", utf8 "A.java"]
    (.file sharedCommentSource 0)

theorem file_checked_as_content_shared_comment :
    sharedCommentFile.read (utf8 "src//A.java") = .ok sharedCommentSource ∧
      selectiveEngine.isIgnoredPath (utf8 "src//A.java") = false ∧
      ∃ issues, selectiveEngine.runSource sharedCommentSource = .ok issues ∧
        issues.map (fun i => (i.start.line, i.start.file)) = [(2, []), (3, []), (3, [])] ∧
        selectiveEngine.run sharedCommentFile 0 none (utf8 "src//A.java") =
          (.ok (issues.map (Issue.inFile (utf8 "src//A.java"))), none) := by
  have read : sharedCommentFile.read (utf8 "src//A.java") = .ok sharedCommentSource := rfl
  have wanted : selectiveEngine.isIgnoredPath (utf8 "src//A.java") = false := by decide +kernel
  obtain ⟨⟨issues, source, ran⟩, -⟩ := file_checked_as_content 0 read wanted
  have lines : (selectiveEngine.runSource sharedCommentSource).toOption.map
      (List.map fun i => (i.start.line, i.start.file)) = some [(2, []), (3, []), (3, [])] := by
    decide +kernel
  rw [source] at lines
  exact ⟨read, wanted, issues, source, Option.some.inj lines, ran⟩

end JavadocLint
