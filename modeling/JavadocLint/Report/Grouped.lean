import JavadocLint.Files.Tree
import JavadocLint.Lint.Source
import JavadocLint.Log
import JavadocLint.Report.Json
import JavadocLint.Report.Rendering

/- Issues of many files: grouped by file and printed as text or as JSON. -/
namespace JavadocLint

def reportedFiles (issues : List Issue) : List Text :=
  (sorted Text.le (issues.map Issue.file)).eraseDups

def issuesIn (file : Text) (issues : List Issue) : List Issue :=
  issues.filter fun i => i.file = file

def shownSource (t : FileTree) (file : Text) : List Text × List LogEntry :=
  match t.read file with
  | .ok content => (sourceLines content, [])
  | .error f =>
    ([], [⟨.warning, utf8 "Error reading source file",
      [(utf8 "file", .text file), (utf8 "error", .failure f)]⟩])

def fileReport (term : Terminal) (t : FileTree) (file : Text) (issues : List Issue) :
    Text × List LogEntry :=
  let (lines, logs) := shownSource t file
  (renderIssues term lines issues, logs)

def textReport (term : Terminal) (t : FileTree) (issues : List Issue) : Text × List LogEntry :=
  let reports := (reportedFiles issues).map fun file =>
    fileReport term t file (issuesIn file issues)
  (reports.flatMap Prod.fst, reports.flatMap Prod.snd)

def jsonReport (issues : List Issue) : Text :=
  Json.object ((reportedFiles issues).map fun file =>
    (file, Json.array ((issuesIn file issues).map Json.ofIssue)))

inductive ReportTarget where
  | text
  | json
  | jsonFile (path : Text)
  deriving DecidableEq, Repr

structure Printed where
  text : Text
  logs : List LogEntry := []
  files : Except Failure FileTree

def printIssues (term : Terminal) (t : FileTree) (now : Int) (target : ReportTarget)
    (issues : List Issue) : Printed :=
  match target with
  | .text =>
    let (text, logs) := textReport term t issues
    { text, logs, files := .ok t }
  | .json => { text := jsonReport issues ++ utf8 "\n", files := .ok t }
  | .jsonFile path =>
    { text := []
      files := (t.write path (jsonReport issues) now).mapError
        (.within (utf8 "error writing JSON output file")) }

end JavadocLint
