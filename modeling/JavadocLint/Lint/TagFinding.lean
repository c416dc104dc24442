import JavadocLint.Java.Scan
import JavadocLint.Javadoc.Check
import JavadocLint.Lint.Issue

/- The rule `javadoc-tags`: diagnostics of the comments above top-level classes and interfaces, as
   issues. -/
namespace JavadocLint

def tagRuleName : Text := utf8 "javadoc-tags"

def textColumns (line : Text) : Int × Int :=
  let first : Int := line.length - line.trimStart.length + 1
  (first, max first line.trimEnd.length)

def Problem.suggestion : Problem → Text
  | .malformedTag tag => tagStart tag ++ utf8 "..."
  | .missingTag tag => tagStart tag ++ utf8 "..."
  | _ => []

def Problem.note (d : Declaration) : Problem → Text
  | .commentNotFound =>
    d.kind.keyword ++ utf8 " " ++ d.name ++ utf8 " needs a /** ... */ comment directly above it"
  | .malformedTag tag | .missingTag tag =>
    utf8 "add the @" ++ tag ++ utf8 " tag to the comment of " ++ d.kind.keyword ++ utf8 " "
      ++ d.name
  | .patternMismatch _ pattern => utf8 "the text must match " ++ pattern

def lineAt (lines : List Text) (line : Int) : Text :=
  if 1 ≤ line then lines.getD (line - 1).toNat [] else []

def tagIssue (file : Text) (lines : List Text) (severity : Severity) (d : Declaration)
    (diag : Diagnostic) : Issue :=
  let cols := textColumns (lineAt lines diag.line)
  { rule := tagRuleName
    category := utf8 "style"
    file
    message := diag.problem.message
    suggestion := diag.problem.suggestion
    note := diag.problem.note d
    start := ⟨file, diag.line, cols.1⟩
    stop := ⟨file, diag.line, cols.2⟩
    severity }

/-- The issues of all top-level declarations among `decls`. A declaration that lies outside the file
    is a fault. -/
def tagIssues (file : Text) (lines : List Text) (decls : List Declaration) (rules : TagRules)
    (severity : Severity) : Except Failure (List Issue) :=
  match decls with
  | [] => .ok []
  | d :: rest =>
    if !d.isTopLevel then tagIssues file lines rest rules severity
    else if d.line < 1 || lines.length < d.line then
      .error (.plain (utf8 "declaration " ++ d.name ++ utf8 " at line " ++ Text.ofInt d.line
        ++ utf8 " is outside the file"))
    else do
      let others ← tagIssues file lines rest rules severity
      return (checkComment lines d.line rules).map (tagIssue file lines severity d) ++ others

end JavadocLint
