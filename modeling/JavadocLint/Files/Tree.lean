import JavadocLint.Failure
import JavadocLint.Files.Path
import JavadocLint.Sorting

/- A tree of files, directories and symbolic links as a value. Every node stands at a place, the
   names from the top of the tree down to it; paths are looked up name by name, from the top or from
   the current directory, and links are followed on the way. -/
namespace JavadocLint

/-- A modification time counts nanoseconds. -/
inductive FileNode where
  | file (content : Text) (modified : Int)
  | directory
  | link (target : Text)
  deriving DecidableEq, Repr

abbrev Place := List Text

/-- The nodes below the top, each place once, and the current directory. -/
structure FileTree where
  nodes : List (Place × FileNode)
  distinct : nodes.Pairwise fun a b => a.1 ≠ b.1
  current : Place := []
  deriving Repr

namespace FileTree

def empty : FileTree := ⟨[], .nil, []⟩

def get? (t : FileTree) (place : Place) : Option FileNode :=
  if place.isEmpty then some .directory
  else (t.nodes.find? fun n => n.1 = place).map Prod.snd

def filter (t : FileTree) (keep : Place → Bool) : FileTree :=
  ⟨t.nodes.filter fun n => keep n.1, t.distinct.filter _, t.current⟩

def set (t : FileTree) (place : Place) (node : FileNode) : FileTree :=
  ⟨(place, node) :: (t.filter (· ≠ place)).nodes,
    .cons (fun _ member => Ne.symm (of_decide_eq_true (List.mem_filter.mp member).2))
      (t.filter _).distinct,
    t.current⟩

def ofCurrent (current : Place) : FileTree :=
  let above := (List.range current.length).map fun n => current.take (n + 1)
  { above.foldl (fun t place => t.set place .directory) empty with current }

def erase (t : FileTree) (place : Place) : FileTree := t.filter fun p => !place.isPrefixOf p

/-- How far a path leads: to a place, or to a link that has to be followed with names left. -/
inductive Reached where
  | place (p : Place)
  | link (directory : Place) (target : Text) (rest : List Text)
  deriving DecidableEq, Repr

/-- What a look-up does at the last name: whether it follows a link there, and whether it accepts a
    place where nothing stands yet. -/
structure Ending where
  follow : Bool
  create : Bool
  deriving DecidableEq, Repr

def advance (t : FileTree) (ending : Ending) (here : Place) :
    List Text → Except FileReason Reached
  | [] => .ok (.place here)
  | name :: rest =>
    if name.isEmpty || name = utf8 "." then t.advance ending here rest
    else if name = utf8 ".." then t.advance ending here.dropLast rest
    else match t.get? (here ++ [name]) with
      | some .directory => t.advance ending (here ++ [name]) rest
      | some (.file _ _) =>
        if rest.isEmpty then .ok (.place (here ++ [name])) else .error .notDirectory
      | some (.link target) =>
        if rest.isEmpty && !ending.follow then .ok (.place (here ++ [name]))
        else .ok (.link here target rest)
      | none =>
        if ending.create && rest.isEmpty then .ok (.place (here ++ [name]))
        else if ending.create && rest.all List.isEmpty then .error .isDirectory
        else .error .notFound

def maxLinks : Nat := 40

def locateFrom (t : FileTree) (ending : Ending) : Nat → Place → List Text → Except FileReason Place
  | links, here, names =>
    match t.advance ending here names with
    | .error reason => .error reason
    | .ok (.place p) => .ok p
    | .ok (.link directory target rest) =>
      match links with
      | 0 => .error .tooManyLinks
      | links + 1 =>
        let start := if Path.isRooted target then [] else directory
        t.locateFrom ending links start (Text.splitOn Path.slash target ++ rest)

def locate (t : FileTree) (ending : Ending) (path : Text) : Except FileReason Place :=
  if path.isEmpty then .error .notFound
  else
    let start := if Path.isRooted path then [] else t.current
    t.locateFrom ending maxLinks start (Text.splitOn Path.slash path)

def find (t : FileTree) (follow : Bool) (path : Text) : Except FileReason FileNode := do
  match t.get? (← t.locate ⟨follow, false⟩ path) with
  | some node => return node
  | none => .error .notFound

def stat (t : FileTree) (path : Text) : Except Failure FileNode :=
  (t.find true path).mapError (.file .stat path)

def linkStat (t : FileTree) (path : Text) : Except Failure FileNode :=
  (t.find false path).mapError (.file .linkStat path)

def isDirectory (t : FileTree) (path : Text) : Bool :=
  match t.find true path with
  | .ok .directory => true
  | _ => false

def openFile (t : FileTree) (path : Text) : Except Failure (Option (Text × Int)) :=
  match t.find true path with
  | .ok (.file content modified) => .ok (some (content, modified))
  | .ok _ => .ok none
  | .error reason => .error (.file .open path reason)

/-- A directory can be opened but not read. -/
def read (t : FileTree) (path : Text) : Except Failure Text := do
  match ← t.openFile path with
  | some (content, _) => return content
  | none => .error (.file .read path .isDirectory)

def write (t : FileTree) (path content : Text) (modified : Int) : Except Failure FileTree :=
  match t.locate ⟨true, true⟩ path with
  | .error reason => .error (.file .open path reason)
  | .ok place =>
    if t.get? place = some .directory then .error (.file .open path .isDirectory)
    else .ok (t.set place (.file content modified))

def putNew (t : FileTree) (path : Text) (node : FileNode) : Except FileReason FileTree := do
  let place ← t.locate ⟨false, true⟩ path
  if (t.get? place).isSome then .error .alreadyExists else return t.set place node

def dropSlashes (path : Text) : Text := (path.reverse.dropWhile (· = Path.slash)).reverse

def parent? (path : Text) : Option Text :=
  let dir := ((dropSlashes path).reverse.dropWhile (· ≠ Path.slash)).reverse
  if 1 < dir.length then some dir.dropLast else none

def makeDirectoriesFrom : Nat → FileTree → Text → Except Failure FileTree
  | 0, _, path => .error (.file .makeDirectory path .notFound)
  | fuel + 1, t, path =>
    match t.find true path with
    | .ok .directory => .ok t
    | .ok _ => .error (.file .makeDirectory path .notDirectory)
    | .error _ => do
      let t ← match parent? path with
        | some dir => makeDirectoriesFrom fuel t dir
        | none => .ok t
      match t.putNew (dropSlashes path) .directory with
      | .ok made => return made
      | .error reason =>
        match t.find false path with
        | .ok .directory => return t
        | _ => .error (.file .makeDirectory path reason)

def makeDirectories (t : FileTree) (path : Text) : Except Failure FileTree :=
  makeDirectoriesFrom (path.length + 1) t path

def remove (t : FileTree) (path : Text) : FileTree :=
  match t.locate ⟨false, false⟩ path with
  | .ok place => if place.isPrefixOf t.current then t else t.erase place
  | .error _ => t

/-- Moves a file over what stands at `target`, unless that is a directory. -/
def rename (t : FileTree) (source target : Text) : Except Failure FileTree :=
  match t.locate ⟨false, false⟩ source, t.locate ⟨false, true⟩ target with
  | .ok source', .ok target' =>
    match t.get? source', t.get? target' with
    | _, some .directory => .error (.rename source target .alreadyExists)
    | some node, _ => .ok ((t.erase source').set target' node)
    | none, _ => .error (.rename source target .notFound)
  | .error reason, _ => .error (.rename source target reason)
  | _, .error reason => .error (.rename source target reason)

/-- The order of a walk: a directory before what it holds, names bytewise. -/
def placeLe : Place → Place → Bool
  | [], _ => true
  | _ :: _, [] => false
  | a :: s, b :: t => if a = b then placeLe s t else Text.lt a b

def reaches (t : FileTree) (dir : Place) : List Text → Bool
  | [] => false
  | [_] => true
  | name :: rest => t.get? (dir ++ [name]) = some .directory && t.reaches (dir ++ [name]) rest

def below (t : FileTree) (dir : Place) : List (List Text × FileNode) :=
  let inside := t.nodes.filterMap fun (place, node) =>
    if dir.isPrefixOf place && t.reaches dir (place.drop dir.length) then
      some (place.drop dir.length, node)
    else none
  sorted (fun a b => placeLe a.1 b.1) inside

/-- A path and everything below it when it is a directory. A link is visited and not followed. -/
def walk (t : FileTree) (path : Text) : Except Failure (List (Text × FileNode)) := do
  match ← t.linkStat path with
  | .directory =>
    match t.locate ⟨false, false⟩ path with
    | .error reason => .error (.file .linkStat path reason)
    | .ok dir =>
      return (path, .directory) :: (t.below dir).map fun (names, node) =>
        (Path.join path (Text.join [Path.slash] names), node)
  | node => return [(path, node)]

def entries (t : FileTree) (dir : Place) : List (Text × FileNode) :=
  (t.below dir).filterMap fun entry =>
    match entry.1 with
    | [name] => some (name, entry.2)
    | _ => none

def openDirectory (t : FileTree) (path : Text) : Except Failure Place :=
  match t.locate ⟨true, false⟩ path with
  | .error reason => .error (.file .open path reason)
  | .ok place =>
    if t.get? place = some .directory then .ok place
    else .error (.file .open path .notDirectory)

def pathBelow (path : Text) (names : List Text) : Text :=
  Path.join path (Text.join [Path.slash] names)

def visitEntry (t : FileTree) (path : Text) (node : FileNode) :
    Except Failure (List (Text × FileNode)) :=
  match node with
  | .directory => do
    let dir ← t.openDirectory path
    return (path, .directory) :: (t.below dir).map fun entry => (pathBelow path entry.1, entry.2)
  | node => return [(path, node)]

/-- A walk that takes the entries of a directory as they were listed and opens each directory by the
    path under which it was met. As such a path is cleaned, it may lead elsewhere when the first path
    goes up behind a link; below that, names only lead down. -/
def visit (t : FileTree) (path : Text) : Except Failure (List (Text × FileNode)) := do
  match ← t.linkStat path with
  | .directory =>
    let dir ← t.openDirectory path
    let visited ← (t.entries dir).mapM fun entry =>
      t.visitEntry (Path.join path entry.1) entry.2
    return (path, .directory) :: visited.flatten
  | node => return [(path, node)]

end FileTree
end JavadocLint
