import JavadocLint.Command.Run
import JavadocLint.Report.LogLine
import Std.Time.DateTime.Timestamp

/- The program. It takes a picture of the files that a call is about, runs the call on the picture,
   and puts what has changed in it back on the disk. -/
namespace JavadocLint.Disk

def nameOf (t : Text) : String := (String.fromUTF8? ⟨t.toArray⟩).getD ""

def pathOf (place : Place) : String := "/" ++ "/".intercalate (place.map nameOf)

def placeOf (path : String) : Place := Path.elements (utf8 path)

def entryOf (place : Place) : IO.FS.DirEntry :=
  ⟨pathOf place.dropLast, nameOf (place.getLast?.getD [])⟩

def node? (wanted : Bool) (place : Place) : IO (Option FileNode) := do
  try
    let path := (entryOf place).path
    let m ← path.symlinkMetadata
    match m.type with
    | .dir => return some .directory
    | .symlink => return some (.link (utf8 (← IO.FS.realPath path).toString))
    | .file =>
      let content ← if wanted then IO.FS.readBinFile path else pure ByteArray.empty
      return some (.file content.data.toList (m.modified.sec * 1000000000 + m.modified.nsec.toNat))
    | .other => return none
  catch _ => return none

partial def loadBelow (t : FileTree) (dir : Place) : IO FileTree := do
  let entries ← try (entryOf dir).path.readDir catch _ => pure #[]
  entries.foldlM (fun t e => do
    let name := utf8 e.fileName
    let place := dir ++ [name]
    match ← node? (Path.isJava name) place with
    | none => return t
    | some .directory => loadBelow (t.set place .directory) place
    | some (.link target) =>
      let t := t.set place (.link target)
      let real := placeOf (nameOf target)
      return match ← node? (Path.isJava name) real with
        | some node => t.set real node
        | none => t
    | some node => return t.set place node) t

partial def load (whole : Bool) (t : FileTree) (here : Place) : List Text → IO FileTree
  | [] => if whole then loadBelow t here else return t
  | name :: rest => do
    if name.isEmpty || name = utf8 "." then load whole t here rest
    else if name = utf8 ".." then load whole t here.dropLast rest
    else
      let place := here ++ [name]
      match ← node? rest.isEmpty place with
      | none => return t
      | some .directory => load whole (t.set place .directory) place rest
      | some (.link target) =>
        load whole (t.set place (.link target)) [] (Text.splitOn Path.slash target ++ rest)
      | some node => return t.set place node

def loadPath (whole : Bool) (t : FileTree) (path : Text) : IO FileTree :=
  if path.isEmpty then return t
  else load whole t (if Path.isRooted path then [] else t.current) (Text.splitOn Path.slash path)

def picture (c : Command.Call) : IO FileTree := do
  let t := FileTree.ofCurrent (placeOf (← IO.currentDir).toString)
  let t ← c.files.foldlM (loadPath false) t
  c.paths.foldlM (loadPath true) t

/-- Makes the disk look like a picture that was changed. A file is written beside its place and then
    moved there. -/
def restore (before after : FileTree) : IO Unit := do
  for (place, node) in sorted (fun a b => FileTree.placeLe a.1 b.1) after.nodes do
    if before.get? place ≠ some node then
      match node with
      | .directory => IO.FS.createDirAll (pathOf place)
      | .file content _ =>
        let beside := pathOf place ++ ".new"
        IO.FS.writeBinFile beside ⟨content.toArray⟩
        IO.FS.rename beside (pathOf place)
      | .link _ => pure ()
  for (place, _) in before.nodes do
    if (after.get? place).isNone then IO.FS.removeFile (pathOf place)

def print (stream : IO.FS.Stream) (t : Text) : IO Unit := do
  stream.write ⟨t.toArray⟩
  stream.flush

def printLogs (verbose : Bool) (logs : List LogEntry) : IO Unit := do
  print (← IO.getStderr) ((logs.filter (·.isShown verbose)).flatMap LogEntry.line)

/-- Looks at the watched files again and again. A look that finds no change is the pause after which
    files are checked. -/
partial def watch (term : Terminal) (c : Command.Call) (w : Watch) (before : FileTree) :
    IO Unit := do
  IO.sleep 100
  let after ← picture c
  let events := Watch.events w.watcher before after
  let signals := if events.isEmpty then [.expired] else events.map Watcher.Signal.event
  let (w, output, logs) := w.react term after signals
  print (← IO.getStdout) output
  printLogs c.options.verbose logs
  watch term c w after

/-- Colours are for a terminal that can show them and whose user has not declined them. -/
def terminal : IO Terminal := do
  let declined := (← IO.getEnv "NO_COLOR").any (· ≠ "")
  let isDumb := (← IO.getEnv "TERM") = some "dumb"
  return ⟨.narrow, !declined && !isDumb && (← (← IO.getStdout).isTty)⟩

def wallClock : IO Int := return (← Std.Time.Timestamp.now).toNanosecondsSinceUnixEpoch.val

def perform (c : Command.Call) : IO UInt32 := do
  let started ← IO.monoNanosNow
  let files ← picture c
  let elapsed := (← IO.monoNanosNow) - started
  let term ← terminal
  let outcome := Command.perform ⟨files, ← wallClock, elapsed, term⟩ c
  restore files outcome.files
  printLogs c.options.verbose outcome.logs
  print (← IO.getStdout) outcome.output
  match outcome.watch with
  | some w => watch term c w outcome.files
  | none => pure ()
  return outcome.exit.toUInt32

end JavadocLint.Disk

def main (args : List String) : IO UInt32 := do
  match JavadocLint.Command.call? (args.map JavadocLint.utf8) with
  | some c => JavadocLint.Disk.perform c
  | none =>
    IO.eprintln "Error: a flag is unknown or has a wrong value"
    IO.eprintln "Run 'jdlint --help' for usage."
    return 1
