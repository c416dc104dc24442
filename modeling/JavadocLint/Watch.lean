import JavadocLint.Engine.Basic
import JavadocLint.Log

/- Watching directories. Changed Java files are collected until no change arrives for a while; a
   timer that every change sets anew tells when that is, and then each of them is checked once. -/
namespace JavadocLint

inductive FileChange where
  | create
  | write
  | remove
  | rename
  | permission
  deriving DecidableEq, Repr

structure FileEvent where
  path : Text
  changes : List FileChange
  deriving DecidableEq, Repr

def FileEvent.has (e : FileEvent) (c : FileChange) : Bool := e.changes.contains c

/-- Both `watched` and `pending` are in bytewise order, each name once. -/
structure Watcher where
  watched : List Text := []
  pending : List Text := []
  armed : Bool := false
  closed : Bool := false
  deriving DecidableEq, Repr

namespace Watcher

def directories (t : FileTree) (dir : Text) : Except Failure (List Text) := do
  let visited ← t.walk dir
  return visited.filterMap fun (path, node) =>
    if node = .directory then some (Path.clean path) else none

def add (w : Watcher) (t : FileTree) (dir : Text) : Except Failure Watcher :=
  match directories t dir with
  | .error f => .error (.within (utf8 "error adding directory to watcher") f)
  | .ok dirs =>
    if w.closed && !dirs.isEmpty then
      .error (.within (utf8 "error adding directory to watcher")
        (.plain (utf8 "fsnotify: watcher already closed")))
    else .ok { w with watched := dirs.foldl (fun names d => insertName d names) w.watched }

def close (w : Watcher) : Watcher := { w with watched := [], closed := true }

/-- Takes an event: a new directory is watched, and a Java file that was created or written is to
    be checked. -/
def handle (w : Watcher) (t : FileTree) (e : FileEvent) :
    Watcher × Option Text × List LogEntry :=
  if e.has .create && t.isDirectory e.path then
    match w.add t e.path with
    | .ok w => (w, none, [])
    | .error f => (w, none, [.failed "Error watching new directory" "dir" e.path f])
  else if (e.has .write || e.has .create) && Path.isJava e.path then (w, some e.path, [])
  else (w, none, [])

inductive Signal where
  | event (e : FileEvent)
  | expired
  | fault (f : Failure)
  deriving Repr

/-- What a reaction gives besides the new state: files to check, in this order, and log entries. -/
structure Reaction where
  files : List Text := []
  logs : List LogEntry := []
  deriving Repr

/-- One reaction. The timer goes off only when it is armed. -/
def step (w : Watcher) (t : FileTree) : Signal → Watcher × Reaction
  | .event e =>
    match w.handle t e with
    | (w, some name, logs) =>
      ({ w with pending := insertName name w.pending, armed := true }, { logs })
    | (w, none, logs) => (w, { logs })
  | .expired =>
    if w.armed then ({ w with pending := [], armed := false }, { files := w.pending })
    else (w, {})
  | .fault f => (w, { logs := [⟨.error, utf8 "Watcher error", [(utf8 "error", .failure f)]⟩] })

def run (w : Watcher) (t : FileTree) : List Signal → Watcher × Reaction
  | [] => (w, {})
  | s :: rest =>
    let (w, first) := w.step t s
    let (w, others) := w.run t rest
    (w, ⟨first.files ++ others.files, first.logs ++ others.logs⟩)

end Watcher

structure WatchReport where
  file : Text
  issues : List Issue
  deriving DecidableEq, Repr

def WatchReport.logs (r : WatchReport) : List LogEntry :=
  if r.issues.isEmpty then [⟨.info, utf8 "No issues found", [(utf8 "file", .text r.file)]⟩]
  else
    ⟨.info, utf8 "Found issues",
      [(utf8 "file", .text r.file), (utf8 "count", .number r.issues.length)]⟩
      :: r.issues.map fun i =>
        ⟨.info, i.message, [(utf8 "rule", .text i.rule), (utf8 "line", .number i.start.line)]⟩

def Engine.recheck (e : Engine) (t : FileTree) (file : Text) : Except LogEntry WatchReport :=
  match (e.run t 0 none file).1 with
  | .ok issues => .ok ⟨file, issues⟩
  | .error f => .error (.failed "Error processing file" "file" file f)

end JavadocLint
