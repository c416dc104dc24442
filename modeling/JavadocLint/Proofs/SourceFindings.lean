import Mathlib
import JavadocLint.Engine.Basic
import JavadocLint.Proofs.DeclarationLines
import JavadocLint.Proofs.StableSort

/- What the check of a source reports. Each top-level declaration is paired with the diagnostics of
   its comment; the pairs on lines that no comment suppresses become issues, one each, in a stable
   order by line. No source makes the check fail. -/
namespace JavadocLint

abbrev Finding := Declaration × Diagnostic

def findings (lines : List Text) (rules : TagRules) : List Finding :=
  (topLevelDeclarations lines).flatMap fun d => (checkComment lines d.line rules).map (d, ·)

def openFindings (file : Text) (lines : List Text) (rules : TagRules) : List Finding :=
  (findings lines rules).filter fun f =>
    !isSuppressed (suppressions file lines) f.2.line tagRuleName

def openIssues (file : Text) (lines : List Text) (rules : TagRules) (severity : Severity) :
    List Issue :=
  (openFindings file lines rules).map fun f => tagIssue file lines severity f.1 f.2

def Issue.line (i : Issue) : Int := i.start.line

theorem topLevel_within (lines : List Text) (d : Declaration)
    (member : d ∈ topLevelDeclarations lines) : 1 ≤ d.line ∧ d.line ≤ lines.length :=
  (declarations_lie_within lines d (List.mem_filter.mp member).1).1

theorem tagIssues_ok (file : Text) (lines : List Text) (decls : List Declaration)
    (rules : TagRules) (severity : Severity) (top : ∀ d ∈ decls, d.isTopLevel = true)
    (within : ∀ d ∈ decls, 1 ≤ d.line ∧ d.line ≤ lines.length) :
    tagIssues file lines decls rules severity =
      .ok (decls.flatMap fun d =>
        (checkComment lines d.line rules).map (tagIssue file lines severity d)) := by
  induction decls with
  | nil => rfl
  | cons d rest ih =>
    have tail := ih (fun e member => top e (by simp [member]))
      (fun e member => within e (by simp [member]))
    have outer : d.isTopLevel = true := top d (by simp)
    have bounds := within d (by simp)
    have inside : (decide (d.line < 1) || decide ((lines.length : Int) < d.line)) = false := by
      simp only [Bool.or_eq_false_iff, decide_eq_false_iff_not]
      omega
    simp only [tagIssues, outer, inside, tail, List.flatMap_cons]
    rfl

theorem tagIssues_topLevel (file : Text) (lines : List Text) (rules : TagRules)
    (severity : Severity) :
    tagIssues file lines (topLevelDeclarations lines) rules severity =
      .ok ((findings lines rules).map fun f => tagIssue file lines severity f.1 f.2) := by
  have top : ∀ d ∈ topLevelDeclarations lines, d.isTopLevel = true :=
    fun d member => (List.mem_filter.mp member).2
  rw [tagIssues_ok file lines _ rules severity top (topLevel_within lines)]
  simp [findings, List.map_flatMap, Function.comp_def]

/-- The issues of a file lie in that file, so that its suppressions are those looked up for them. -/
theorem filter_tagIssue (file : Text) (lines : List Text) (severity : Severity)
    (scopes : List Suppression) (fs : List Finding) :
    (fs.map fun f => tagIssue file lines severity f.1 f.2).filter
        (fun i => !isSuppressedIn file scopes i.start i.rule) =
      (fs.filter fun f => !isSuppressed scopes f.2.line tagRuleName).map
        fun f => tagIssue file lines severity f.1 f.2 := by
  have here : ∀ f : Finding, isSuppressedIn file scopes (tagIssue file lines severity f.1 f.2).start
      tagRuleName = isSuppressed scopes f.2.line tagRuleName := by
    intro f
    simp [isSuppressedIn, tagIssue]
  rw [List.filter_map]
  congr 1
  exact List.filter_congr fun f _ => congrArg not (here f)

theorem lt_irrefl (t : Text) : Text.lt t t = false := by
  induction t with
  | nil => rfl
  | cons b rest ih => simp [Text.lt, ih]

theorem issueLe_one_rule (rule : Text) (a b : Issue) (ruleA : a.rule = rule)
    (ruleB : b.rule = rule) : Engine.issueLe a b = keyLe Issue.line a b := by
  by_cases same : a.start.line = b.start.line
  · simp [Engine.issueLe, keyLe, Issue.line, same, ruleA, ruleB, Text.le, lt_irrefl]
  · simp only [Engine.issueLe, keyLe, Issue.line, same, if_false]
    exact decide_eq_decide.mpr Iff.rfl

theorem sorted_openIssues (file : Text) (lines : List Text) (rules : TagRules)
    (severity : Severity) :
    sorted Engine.issueLe (openIssues file lines rules severity) =
      (openIssues file lines rules severity).mergeSort (keyLe Issue.line) := by
  have rule : ∀ i ∈ openIssues file lines rules severity, i.rule = tagRuleName := by
    intro i member
    obtain ⟨f, _, rfl⟩ := List.mem_map.mp member
    rfl
  rw [← sorted_eq_mergeSort _ (keyLe_trans Issue.line) (keyLe_total Issue.line)]
  exact sorted_congr _ _ _ fun a ha b hb => issueLe_one_rule _ a b (rule a ha) (rule b hb)

theorem check_openIssues (e : Engine) (file : Text) (lines : List Text)
    (enabled : e.isIgnoredRule tagRuleName = false) :
    e.check file lines =
      .ok ((openIssues file lines e.tags e.severity).mergeSort (keyLe Issue.line)) := by
  rw [← sorted_openIssues]
  simp only [Engine.check, enabled, tagIssues_topLevel, filter_tagIssue]
  rfl

def reportedIssues (file : Text) (lines : List Text) (rules : TagRules) (severity : Severity) :
    List Issue :=
  (openIssues file lines rules severity).mergeSort (keyLe Issue.line)

/-- A check of a source always succeeds and reports the open findings, each once, stably sorted by
    line; whatever the lines, the rule itself cannot meet a declaration outside them. -/
theorem runSource_findings (e : Engine) (content : Text)
    (enabled : e.isIgnoredRule tagRuleName = false) :
    e.runSource content = .ok (reportedIssues [] (sourceLines content) e.tags e.severity) ∧
      StablySorted (fun i => i.start.line) (openIssues [] (sourceLines content) e.tags e.severity)
        (reportedIssues [] (sourceLines content) e.tags e.severity) ∧
      (∀ d ∈ topLevelDeclarations (sourceLines content),
        1 ≤ d.line ∧ d.line ≤ (sourceLines content).length) ∧
      ∀ file lines, ∃ issues,
        tagIssues file lines (topLevelDeclarations lines) e.tags e.severity = .ok issues := by
  refine ⟨check_openIssues e [] _ enabled, mergeSort_stablySorted Issue.line _,
    topLevel_within _, ?_⟩
  intro file lines
  exact ⟨_, tagIssues_topLevel file lines e.tags e.severity⟩

/-- Two declarations share one comment, one above it has none, and one is suppressed. -/
def sharedCommentSource : Text :=
  utf8 "class Y ; //nolint:javadoc-tags\nclass Z ;\n/**\n * text\n */\nclass A ;\ninterface B ;\n"

def authorEngine : Engine := { root := [], tags := ⟨[⟨utf8 "author", utf8 "x", .empty⟩]⟩ }

theorem runSource_findings_shared_comment :
    authorEngine.isIgnoredRule tagRuleName = false ∧
      (openIssues [] (sourceLines sharedCommentSource) authorEngine.tags .error).map
        (fun i => i.start.line) = [2, 3, 3] ∧
      authorEngine.runSource sharedCommentSource =
        .ok (reportedIssues [] (sourceLines sharedCommentSource) authorEngine.tags .error) :=
  ⟨by decide, by decide +kernel,
    (runSource_findings authorEngine sharedCommentSource (by decide)).1⟩

end JavadocLint
