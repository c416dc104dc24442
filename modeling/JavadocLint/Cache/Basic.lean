import JavadocLint.Cache.Entry
import JavadocLint.Digest.Md5
import JavadocLint.Files.Tree

/- A cache of the issues of checked files, backed by one file in a directory of its own. An entry
   holds while the content and modification time of its file stay the same, it is not too old, and
   the settings of the engine that made it, as a fingerprint, are those of the reader. -/
namespace JavadocLint

/-- The cache is `dirty` when memory and file may differ. An age limit that is not positive is
    none. -/
structure Cache where
  dir : Text
  fingerprint : Text
  entries : Table CacheEntry := []
  dirty : Bool := false
  maxAge : Int := 0
  deriving DecidableEq, Repr

def fileMetadata (t : FileTree) (path : Text) : Except Failure FileMetadata :=
  match t.openFile path with
  | .ok (some (content, modified)) => .ok ⟨Md5.hexDigest content, modified⟩
  | .ok none => .error (.within (utf8 "failed to calculate hash") (.file .read path .isDirectory))
  | .error e => .error (.within (utf8 "failed to open file") e)

namespace Cache

def fileName : Text := utf8 "jdlint_cache.mp"

def file (c : Cache) : Text := Path.join c.dir fileName

def offered (content fingerprint : Text) : Table CacheEntry :=
  match StoredCache.decode content with
  | some stored => if stored.fingerprint = fingerprint then stored.entries else []
  | none => []

def load (t : FileTree) (dir fingerprint : Text) : Except Failure (FileTree × Cache) := do
  let t ← (t.makeDirectories dir).mapError (.within (utf8 "failed to create cache directory"))
  let c : Cache := ⟨dir, fingerprint, [], false, 0⟩
  match t.openFile c.file with
  | .ok (some (content, _)) => return (t, { c with entries := offered content fingerprint })
  | .ok none => return (t, c)
  | .error (.file _ _ .notFound) => return (t, c)
  | .error e =>
    .error (.within (utf8 "failed to load cache") (.within (utf8 "failed to open cache file") e))

def freeName (t : FileTree) (dir : Text) : Nat → Nat → Text
  | fuel, n =>
    let slash := if dir.getLast? = some Path.slash then [] else [Path.slash]
    let name := dir ++ slash ++ utf8 "tmp-" ++ Text.ofNat n
    match fuel, t.linkStat name with
    | fuel + 1, .ok _ => freeName t dir fuel (n + 1)
    | _, _ => name

/-- Writes the cache file: a new file is written beside it and moved over it, so that no reader
    sees half of one. -/
def save (c : Cache) (t : FileTree) (now : Int) : Except Failure FileTree := do
  let name := freeName t c.dir t.nodes.length 1
  let written ← (t.write name (StoredCache.encode ⟨c.fingerprint, c.entries⟩) now).mapError
    (.within (utf8 "failed to create cache file"))
  written.rename name c.file

def isExpired (c : Cache) (now : Int) (e : CacheEntry) : Bool :=
  0 < c.maxAge && c.maxAge < now - e.createdAt

def isCurrent (c : Cache) (t : FileTree) (now : Int) (path : Text) (e : CacheEntry) : Bool :=
  !c.isExpired now e &&
    match fileMetadata t path with
    | .ok m => m = e.metadata
    | .error _ => false

def get (c : Cache) (t : FileTree) (now : Int) (path : Text) : Cache × Option (List Issue) :=
  match c.entries.get? path with
  | none => (c, none)
  | some e =>
    if c.isCurrent t now path e then
      ({ c with entries := c.entries.insert path { e with lastAccessed := now } }, some e.issues)
    else ({ c with entries := c.entries.erase path, dirty := true }, none)

def put (c : Cache) (now : Int) (path : Text) (m : FileMetadata) (issues : List Issue) : Cache :=
  { c with entries := c.entries.insert path ⟨m, issues, now, now⟩, dirty := true }

def set (c : Cache) (t : FileTree) (now : Int) (path : Text) (issues : List Issue) :
    Except Failure Cache := do
  let m ← (fileMetadata t path).mapError (.within (utf8 "failed to get file metadata"))
  return c.put now path m issues

/-- Writes the cache file if anything changed; a failed write is tried again by the next flush. -/
def flush (c : Cache) (t : FileTree) (now : Int) : Except Failure (FileTree × Cache) :=
  if c.dirty then do return (← c.save t now, { c with dirty := false })
  else .ok (t, c)

def invalidateAll (c : Cache) (t : FileTree) (now : Int) : FileTree × Cache :=
  let cleared := { c with entries := [] }
  match cleared.save t now with
  | .ok t => (t, { cleared with dirty := false })
  | .error _ => (t, { cleared with dirty := true })

def isOnDisk (c : Cache) (t : FileTree) : Bool :=
  match t.find true c.file with
  | .ok (.file _ _) => true
  | _ => false

end Cache
end JavadocLint
