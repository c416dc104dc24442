import JavadocLint.Text.Basic

/- Slash-separated paths, worked on as text: no file is looked at. -/
namespace JavadocLint.Path

def slash : UInt8 := byte '/'

def isRooted (p : Text) : Bool := p.head? = some slash

def elements (p : Text) : List Text := (Text.splitOn slash p).filter fun e => !e.isEmpty

/-- One more element at the end of a path that is kept with its last element first. Going up from
    the root stays there, and going up from nowhere is kept. -/
def pushElement (rooted : Bool) (stack : List Text) (e : Text) : List Text :=
  if e = utf8 "." then stack
  else if e = utf8 ".." then
    match stack with
    | [] => if rooted then [] else [e]
    | top :: rest => if top = utf8 ".." then e :: stack else rest
  else e :: stack

def cleanElements (p : Text) : List Text :=
  ((elements p).foldl (pushElement (isRooted p)) []).reverse

def clean (p : Text) : Text :=
  if isRooted p then slash :: Text.join [slash] (cleanElements p)
  else if (cleanElements p).isEmpty then utf8 "."
  else Text.join [slash] (cleanElements p)

def base (p : Text) : Text :=
  if p.isEmpty then utf8 "."
  else ((elements p).getLast?).getD [slash]

def extension (p : Text) : Text :=
  let name := (p.reverse.takeWhile (· ≠ slash)).reverse
  if name.contains (byte '.') then
    byte '.' :: (name.reverse.takeWhile (· ≠ byte '.')).reverse
  else []

def join (dir name : Text) : Text :=
  if dir.isEmpty then (if name.isEmpty then [] else clean name)
  else clean (dir ++ slash :: name)

def dropCommon : List Text → List Text → List Text × List Text
  | a :: s, b :: t => if a = b then dropCommon s t else (a :: s, b :: t)
  | s, t => (s, t)

/-- The way from `root` to `target`, when both are rooted or neither is and no unknown directory has
    to be left on the way. -/
def relative? (root target : Text) : Option Text :=
  if clean root = clean target then some (utf8 ".")
  else if isRooted root != isRooted target then none
  else
    let (up, down) := dropCommon (cleanElements root) (cleanElements target)
    if up.head? = some (utf8 "..") then none
    else some (Text.join [slash] (up.map (fun _ => utf8 "..") ++ down))

def isJava (p : Text) : Bool := extension p = utf8 ".java"

def isToml (p : Text) : Bool := (extension p).map Text.lowerByte = utf8 ".toml"

end JavadocLint.Path
