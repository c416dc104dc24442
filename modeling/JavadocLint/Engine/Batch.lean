import JavadocLint.Engine.Basic
import JavadocLint.Log

/- Checking many files or sources, one after the other. -/
namespace JavadocLint

structure Batch where
  issues : List Issue := []
  failure : Option Failure := none
  logs : List LogEntry := []
  deriving Repr

abbrev Processor (σ : Type) := σ → Text → Except Failure (List Issue) × σ

def collectFiles (t : FileTree) (path : Text) : Except Failure (List Text) := do
  let visited ← t.visit path
  return visited.filterMap fun (file, node) =>
    if node ≠ .directory && Path.isJava file then some file else none

namespace Batch

variable {σ : Type}

structure FileResult where
  file : Text
  result : Except Failure (List Issue)

def FileResult.issues (r : FileResult) : List Issue := r.result.toOption.getD []

def FileResult.failure? (r : FileResult) : Option Failure :=
  match r.result with
  | .ok _ => none
  | .error f => some (.within r.file f)

def FileResult.log? (r : FileResult) : Option LogEntry :=
  match r.result with
  | .ok _ => none
  | .error f => some (.failed "Error processing file" "file" r.file f)

def processAll (process : Processor σ) : σ → List Text → List FileResult × σ
  | s, [] => ([], s)
  | s, file :: rest =>
    let (result, s) := process s file
    let (results, s) := processAll process s rest
    (⟨file, result⟩ :: results, s)

def ofResults (results : List FileResult) : Batch :=
  let failures := results.filterMap FileResult.failure?
  { issues := results.flatMap FileResult.issues
    failure := if failures.isEmpty then none else some (.all failures)
    logs := results.filterMap FileResult.log? }

/-- Processes a Java file, or every Java file in a directory; other files are left alone. -/
def ofPath (t : FileTree) (canceled : Bool) (process : Processor σ) (s : σ) (path : Text) :
    Batch × σ :=
  match t.stat path with
  | .error f => ({ failure := some (.within (utf8 "error accessing " ++ path) f) }, s)
  | .ok .directory =>
    match collectFiles t path with
    | .error f => ({ failure := some (.within (utf8 "error walking " ++ path) f) }, s)
    | .ok [] => ({}, s)
    | .ok files =>
      if canceled then ({ failure := some .canceled }, s)
      else
        let (results, s) := processAll process s files
        (ofResults results, s)
  | .ok _ =>
    if Path.isJava path then
      match process s path with
      | (.ok issues, s) => ({ issues }, s)
      | (.error f, s) => ({ failure := some f }, s)
    else ({}, s)

def ofPaths (t : FileTree) (canceled : Bool) (process : Processor σ) (s : σ) :
    List Text → Batch × σ
  | [] => ({}, s)
  | path :: rest =>
    let (first, s) := ofPath t canceled process s path
    match first.failure with
    | some f =>
      ({ failure := some f
         logs := first.logs ++ [.failed "Error processing path" "path" path f] }, s)
    | none =>
      let (others, s) := ofPaths t canceled process s rest
      match others.failure with
      | some f => ({ failure := some f, logs := first.logs ++ others.logs }, s)
      | none =>
        ({ issues := first.issues ++ others.issues, logs := first.logs ++ others.logs }, s)

def ofSources (canceled : Bool) (process : Text → Except Failure (List Issue)) (index : Nat) :
    List Text → Batch
  | [] => {}
  | source :: rest =>
    if canceled then { failure := some .canceled }
    else match process source with
      | .error f =>
        { failure := some f
          logs := [⟨.error, utf8 "Error processing source",
            [(utf8 "source", .number index), (utf8 "error", .failure f)]⟩] }
      | .ok issues =>
        let others := ofSources canceled process (index + 1) rest
        if others.failure.isSome then others else { others with issues := issues ++ others.issues }

end Batch
end JavadocLint
