import JavadocLint.Cache.Packed
import JavadocLint.Lint.Issue
import JavadocLint.Table

/- What a cache keeps of a checked file, and its form in the cache file. Records are maps from the
   names of their fields; severities are kept by name, so an issue whose severity has none cannot be
   read back. -/
namespace JavadocLint

structure FileMetadata where
  hash : Text
  modified : Int
  deriving DecidableEq, Repr

structure CacheEntry where
  metadata : FileMetadata
  issues : List Issue
  createdAt : Int
  lastAccessed : Int
  deriving DecidableEq, Repr

structure StoredCache where
  fingerprint : Text
  entries : Table CacheEntry
  deriving DecidableEq, Repr

namespace Packed

def record (fields : List (String × Packed)) : Packed :=
  .map (fields.map fun (name, value) => (.text (utf8 name), value))

/-- The fields of a record; nothing stands for a record without any. -/
def fields? : Packed → Option (List (Packed × Packed))
  | .nil => some []
  | .map fields => some fields
  | _ => none

def isName (name : Text) : Packed → Bool
  | .text t => t = name
  | .binary t => t = name
  | _ => false

def field (fields : List (Packed × Packed)) (name : String) : Packed :=
  ((fields.reverse.find? fun f => isName (utf8 name) f.1).map Prod.snd).getD .nil

def text? : Packed → Option Text
  | .nil => some []
  | .text t => some t
  | .binary t => some t
  | _ => none

def int? : Packed → Option Int
  | .nil => some 0
  | .int i => some i
  | _ => none

def firstDay : Int := -62135596800000000000

def time? : Packed → Option Int
  | .nil => some firstDay
  | .time n => some n
  | _ => none

def items? : Packed → Option (List Packed)
  | .nil => some []
  | .array items => some items
  | _ => none

end Packed

namespace Severity

def toPacked (s : Severity) : Packed := .binary s.word

def ofPacked? : Packed → Option Severity
  | .nil => some .error
  | p => do (parse (← p.text?)).toOption

end Severity

namespace Position

def toPacked (p : Position) : Packed :=
  .record [("Filename", .text p.file), ("Offset", .int 0), ("Line", .int p.line),
    ("Column", .int p.col)]

def ofPacked? (p : Packed) : Option Position := do
  let fields ← p.fields?
  return ⟨← (Packed.field fields "Filename").text?, ← (Packed.field fields "Line").int?,
    ← (Packed.field fields "Column").int?⟩

end Position

namespace Issue

def toPacked (i : Issue) : Packed :=
  .record [("Rule", .text i.rule), ("Category", .text i.category), ("Filename", .text i.file),
    ("Message", .text i.message), ("Suggestion", .text i.suggestion), ("Note", .text i.note),
    ("Start", i.start.toPacked), ("End", i.stop.toPacked), ("Severity", i.severity.toPacked)]

def ofPacked? (p : Packed) : Option Issue := do
  let fields ← p.fields?
  return {
    rule := ← (Packed.field fields "Rule").text?
    category := ← (Packed.field fields "Category").text?
    file := ← (Packed.field fields "Filename").text?
    message := ← (Packed.field fields "Message").text?
    suggestion := ← (Packed.field fields "Suggestion").text?
    note := ← (Packed.field fields "Note").text?
    start := ← Position.ofPacked? (Packed.field fields "Start")
    stop := ← Position.ofPacked? (Packed.field fields "End")
    severity := ← Severity.ofPacked? (Packed.field fields "Severity") }

end Issue

namespace FileMetadata

def toPacked (m : FileMetadata) : Packed :=
  .record [("Hash", .text m.hash), ("LastModified", .time m.modified)]

def ofPacked? (p : Packed) : Option FileMetadata := do
  let fields ← p.fields?
  return ⟨← (Packed.field fields "Hash").text?, ← (Packed.field fields "LastModified").time?⟩

end FileMetadata

namespace CacheEntry

def toPacked (e : CacheEntry) : Packed :=
  .record [("Metadata", e.metadata.toPacked), ("Issues", .array (e.issues.map Issue.toPacked)),
    ("CreatedAt", .time e.createdAt), ("LastAccessed", .time e.lastAccessed)]

def ofPacked? (p : Packed) : Option CacheEntry := do
  let fields ← p.fields?
  let issues ← (Packed.field fields "Issues").items?
  return ⟨← FileMetadata.ofPacked? (Packed.field fields "Metadata"),
    ← issues.mapM Issue.ofPacked?, ← (Packed.field fields "CreatedAt").time?,
    ← (Packed.field fields "LastAccessed").time?⟩

end CacheEntry

namespace StoredCache

def toPacked (s : StoredCache) : Packed :=
  .record [("Fingerprint", .text s.fingerprint),
    ("Entries", .map (s.entries.map fun (name, e) => (.text name, e.toPacked)))]

def ofPacked? (p : Packed) : Option StoredCache := do
  let fields ← p.fields?
  let entries ← (Packed.field fields "Entries").fields?
  let entries ← entries.mapM fun (name, e) => do return (← name.text?, ← CacheEntry.ofPacked? e)
  return ⟨← (Packed.field fields "Fingerprint").text?, Table.ofList entries⟩

def encode (s : StoredCache) : Text := s.toPacked.encode

def decode (t : Text) : Option StoredCache := (Packed.decode t).bind ofPacked?

end StoredCache
end JavadocLint
