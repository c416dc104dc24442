import JavadocLint.Command.Line
import JavadocLint.Config.File
import JavadocLint.Engine.Batch
import JavadocLint.Report.Grouped
import JavadocLint.Watch

/- What the commands do. Files go in and come out as a tree; what is printed, the log and the exit
   code are part of the outcome. -/
namespace JavadocLint

structure Watch where
  engine : Engine
  watcher : Watcher
  deriving Repr

structure Outcome where
  exit : Nat := 0
  output : Text := []
  logs : List LogEntry := []
  files : FileTree
  watch : Option Watch := none

/-- The world a run finds: the files, the time, how much of it has passed before the first file is
    checked, and where it prints. -/
structure Setting where
  files : FileTree
  now : Int
  elapsed : Int
  terminal : Terminal

namespace Outcome

def failed (t : FileTree) (message : String) (fields : List (Text × LogValue)) (f : Failure) :
    Outcome :=
  { exit := 1, files := t
    logs := [⟨.error, utf8 message, fields ++ [(utf8 "error", .failure f)]⟩] }

end Outcome

namespace Command

def engineOf (s : Setting) (o : Options) : Except Outcome Engine :=
  (Config.loadEngine s.files (utf8 ".") o.config).mapError
    (Outcome.failed s.files "Failed to initialize lint engine" [])

def withIgnored (e : Engine) (o : Options) : Engine :=
  let e := o.ignoredRules.listItems.foldl Engine.ignoreRule e
  o.ignoredPaths.listItems.foldl Engine.ignorePath e

def cacheOf (s : Setting) (o : Options) (e : Engine) : Except Outcome (FileTree × Option Cache) :=
  if o.cacheDir.isEmpty then .ok (s.files, none)
  else match Cache.load s.files o.cacheDir e.fingerprint with
    | .ok (t, c) => .ok (t, some c)
    | .error f =>
      .error (Outcome.failed s.files "Failed to open cache" [(utf8 "dir", .text o.cacheDir)] f)

/-- Writes the cache back. A failure to do so is only logged. -/
def flushed (t : FileTree) (now : Int) : Option Cache → FileTree × List LogEntry
  | none => (t, [])
  | some c =>
    match c.flush t now with
    | .ok (t, _) => (t, [])
    | .error f => (t, [⟨.warning, utf8 "Error writing cache", [(utf8 "error", .failure f)]⟩])

def reportTarget (o : Options) : ReportTarget :=
  if !o.json then .text else if o.output.isEmpty then .json else .jsonFile o.output

def report (term : Terminal) (t : FileTree) (now : Int) (o : Options) (logs : List LogEntry)
    (issues : List Issue) : Outcome :=
  let printed := printIssues term t now (reportTarget o) issues
  let logs := logs ++ printed.logs
  match printed.files with
  | .error f =>
    { exit := 1, output := printed.text, files := t
      logs := logs ++ [⟨.error, utf8 "Error printing issues", [(utf8 "error", .failure f)]⟩] }
  | .ok t =>
    { exit := if issues.isEmpty then 0 else 1, output := printed.text, logs, files := t }

/-- Checks paths. When the time is over, directories are no longer checked. -/
def runLint (s : Setting) (o : Options) (paths : List Text) : Except Outcome Outcome := do
  if paths.isEmpty then
    return { exit := 1, output := utf8 "error: Please provide file or directory paths\n"
             files := s.files }
  let e := withIgnored (← engineOf s o) o
  let (t, cache) ← cacheOf s o e
  let isLate := o.timeout ≤ s.elapsed
  let (batch, cache) := Batch.ofPaths t isLate (e.run t s.now) cache paths
  let (t, flushLogs) := flushed t s.now cache
  let logs := batch.logs ++ flushLogs
  match batch.failure with
  | some f =>
    let entry : LogEntry :=
      ⟨.error, utf8 "Error processing files", [(utf8 "error", .failure f)]⟩
    return { exit := 1, files := t, logs := logs ++ [entry] }
  | none => return report s.terminal t s.now o logs batch.issues

def runInit (s : Setting) (o : Options) : Outcome :=
  let path := if o.config.isEmpty then Config.defaultPath else o.config
  match Config.standard.save s.files s.now path with
  | .ok t =>
    { output := utf8 "Configuration file created/updated: " ++ o.config ++ utf8 "\n", files := t }
  | .error f => { Outcome.failed s.files "Error initializing config file" [] f with exit := 0 }

def runTags (s : Setting) (o : Options) : Except Outcome Outcome := do
  return { output := renderTags (← engineOf s o).tags, files := s.files }

def runWatch (s : Setting) (o : Options) (dirs : List Text) : Except Outcome Outcome := do
  let dirs := if dirs.isEmpty then [utf8 "."] else dirs
  let engine ← engineOf s o
  let watcher ← dirs.foldlM (fun w dir => (w.add s.files dir).mapError
    (Outcome.failed s.files "Failed to watch directory" [(utf8 "dir", .text dir)])) {}
  return {
    output := utf8 "Watching " ++ Text.ofNat dirs.length
      ++ utf8 " director(ies) for changes. Press Ctrl+C to stop.\n"
    files := s.files
    watch := some ⟨engine, watcher⟩ }

def helpTopic (args : List Text) : Command := (args.head?.bind named?).getD .root

def finish : Except Outcome Outcome → Outcome
  | .ok o => o
  | .error o => o

def perform (s : Setting) (c : Call) : Outcome :=
  if c.options.help then { output := c.command.helpPage, files := s.files }
  else match c.command with
    | .root =>
      if c.args.isEmpty then { output := Command.root.helpPage, files := s.files }
      else finish (runLint s c.options c.args)
    | .lint => finish (runLint s c.options c.args)
    | .init => runInit s c.options
    | .tags => finish (runTags s c.options)
    | .watch => finish (runWatch s c.options c.args)
    | .help => { output := (helpTopic c.args).helpPage, files := s.files }
    | .completion => { output := Command.completion.helpPage, files := s.files }

def run (s : Setting) (args : List Text) : Outcome :=
  match call? args with
  | some c => perform s c
  | none => { exit := 1, files := s.files }

end Command

namespace Watch

def printed (term : Terminal) (t : FileTree) (r : WatchReport) : Text × List LogEntry :=
  if r.issues.isEmpty then (r.file ++ utf8 ": ok\n", []) else fileReport term t r.file r.issues

def namesIn (t : FileTree) (dir : Text) : List Text :=
  match t.locate ⟨true, false⟩ dir with
  | .error _ => []
  | .ok place => (t.below place).filterMap fun (names, _) =>
    match names with
    | [name] => some name
    | _ => none

def change? (before after : FileTree) (path : Text) : Option FileEvent :=
  match before.find false path, after.find false path with
  | .ok a, .ok b => if a = b then none else some ⟨path, [.write]⟩
  | .error _, .ok _ => some ⟨path, [.create]⟩
  | .ok _, .error _ => some ⟨path, [.remove]⟩
  | .error _, .error _ => none

def events (w : Watcher) (before after : FileTree) : List FileEvent :=
  w.watched.flatMap fun dir =>
    let names := (namesIn before dir ++ namesIn after dir).foldl (fun s n => insertName n s) []
    names.filterMap fun name => change? before after (dir ++ [Path.slash] ++ name)

def react (w : Watch) (term : Terminal) (t : FileTree) (signals : List Watcher.Signal) :
    Watch × Text × List LogEntry :=
  let (watcher, reaction) := w.watcher.run t signals
  let results := reaction.files.map fun file =>
    match w.engine.recheck t file with
    | .ok r => printed term t r
    | .error entry => ([], [entry])
  ({ w with watcher }, results.flatMap Prod.fst, reaction.logs ++ results.flatMap Prod.snd)

end Watch
end JavadocLint
