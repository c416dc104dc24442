import JavadocLint.Cache.Basic
import JavadocLint.Glob
import JavadocLint.Lint.Source
import JavadocLint.Lint.Suppression
import JavadocLint.Lint.TagFinding

/- The engine: settings, and the check of one file or source by them. -/
namespace JavadocLint

def allRuleNames : List Text := [tagRuleName]

/-- Paths are relative to `root` when patterns of ignored paths are matched against them. -/
structure Engine where
  root : Text
  tags : TagRules
  severity : Severity := .error
  ignoredRules : List Text := []
  ignoredPaths : List Glob := []
  deriving Repr

namespace Engine

def ignoreRule (e : Engine) (rule : Text) : Engine :=
  { e with ignoredRules := rule :: e.ignoredRules }

def isIgnoredRule (e : Engine) (rule : Text) : Bool := e.ignoredRules.contains rule

/-- One rule set to a level; a rule that is off is ignored, and an unknown one has no effect. -/
def configure (e : Engine) (rule : Text) (severity : Severity) : Engine :=
  if rule ∉ allRuleNames then e
  else { (if severity = .off then e.ignoreRule rule else e) with severity }

def make (root : Text) (rules : Table Severity) (tags : TagRules) : Engine :=
  rules.foldl (fun e r => e.configure r.1 r.2) { root, tags }

/-- Everything that the issues of a file depend on besides its content. -/
def settings (e : Engine) : Text :=
  (allRuleNames.flatMap fun name =>
    utf8 "rule " ++ name ++ utf8 " " ++ e.severity.name ++ utf8 " "
      ++ utf8 (if e.isIgnoredRule name then "true" else "false") ++ utf8 "\n")
    ++ e.tags.patterns.flatMap fun (name, pattern) =>
      utf8 "tag " ++ name ++ utf8 " " ++ pattern ++ utf8 "\n"

def fingerprint (e : Engine) : Text := Md5.hexDigest e.settings

def ignorePath (e : Engine) (pattern : Text) : Engine :=
  if pattern.isEmpty then e
  else { e with ignoredPaths := e.ignoredPaths ++ [Glob.parse (Path.clean pattern)] }

def candidates (e : Engine) (path : Text) : List Text :=
  [Path.clean path, Path.base path]
    ++ (if e.root.isEmpty then [] else (Path.relative? e.root path).toList)

def isIgnoredPath (e : Engine) (path : Text) : Bool :=
  e.ignoredPaths.any fun g => (e.candidates path).any g.accepts

def issueLe (a b : Issue) : Bool :=
  if a.start.line = b.start.line then Text.le a.rule b.rule else a.start.line ≤ b.start.line

def check (e : Engine) (file : Text) (lines : List Text) : Except Failure (List Issue) :=
  if e.isIgnoredRule tagRuleName then .ok []
  else
    match tagIssues file lines (topLevelDeclarations lines) e.tags e.severity with
    | .error f => .error (.within (utf8 "rule " ++ tagRuleName) f)
    | .ok issues =>
      let scopes := suppressions file lines
      .ok (sorted issueLe (issues.filter fun i => !isSuppressedIn file scopes i.start i.rule))

def runSource (e : Engine) (content : Text) : Except Failure (List Issue) :=
  e.check [] (sourceLines content)

def checkFile (e : Engine) (t : FileTree) (path : Text) : Except Failure (List Issue) := do
  let content ← (t.read path).mapError (.within (utf8 "error reading file"))
  e.check path (sourceLines content)

def refill (e : Engine) (t : FileTree) (now : Int) (cache : Cache) (path : Text) :
    Except Failure (List Issue) × Cache :=
  match e.checkFile t path with
  | .error f => (.error f, cache)
  | .ok issues =>
    match cache.set t now path issues with
    | .error f => (.error (.within (utf8 "error caching issues") f), cache)
    | .ok cache => (.ok issues, cache)

def run (e : Engine) (t : FileTree) (now : Int) (cache : Option Cache) (path : Text) :
    Except Failure (List Issue) × Option Cache :=
  if e.isIgnoredPath path then (.ok [], cache)
  else match cache with
    | none => (e.checkFile t path, none)
    | some c =>
      match c.get t now path with
      | (c, some issues) => (.ok issues, some c)
      | (c, none) =>
        let (result, c) := e.refill t now c path
        (result, some c)

end Engine
end JavadocLint
