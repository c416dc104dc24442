import JavadocLint.Yaml.Node
import JavadocLint.Yaml.Resolve
import JavadocLint.Yaml.Token

/- The first document of a YAML stream. Nothing is said of what is wrong with one that cannot be
   read. -/
namespace JavadocLint.Yaml

/-- Tokens to come, whether they are all there are, the handles of tags with what they stand for,
    the anchors so far and how many there were. -/
structure ParseState where
  tokens : List Token
  whole : Bool
  handles : List (List Nat × List Nat) := []
  anchors : List (Text × Nat) := []
  count : Nat := 0

abbrev Parse := StateT ParseState Option

namespace Parse

def lookahead : Nat := 2

/-- The current token. A stream that breaks off soon after it is malformed already here. -/
def peek : Parse Token := do
  let s ← get
  if !s.whole && s.tokens.length ≤ lookahead then failure
  match s.tokens with
  | t :: _ => return t
  | [] => failure

def drop : Parse Unit := modify fun s => { s with tokens := s.tokens.tail }

def next : Parse Token := do
  drop
  peek

def define (name : Text) : Parse Nat := do
  let s ← get
  set { s with anchors := (name, s.count) :: s.anchors, count := s.count + 1 }
  return s.count

def standardStart : List Nat := (utf8 "tag:yaml.org,2002:").runes

def shortTag (tag : List Nat) : Text :=
  if standardStart.isPrefixOf tag then utf8 "!!" ++ Text.ofRunes (tag.drop standardStart.length)
  else Text.ofRunes tag

/-- The tag that a handle and a suffix stand for; an exclamation mark alone is no tag. -/
def fullTag (handle suffix : List Nat) : Parse (Option Text) := do
  if handle.isEmpty then return if suffix == [rune '!'] then none else some (shortTag suffix)
  match (← get).handles.find? fun h => h.1 == handle with
  | some (_, start) => return some (shortTag (start ++ suffix))
  | none => failure

structure Properties where
  line : Nat
  anchor : Option Nat := none
  tag : Option Text := none
  given : Bool := false

def properties : Parse Properties := do
  let first ← peek
  let empty : Properties := { line := first.line }
  match first.kind with
  | .anchor name =>
    let name := Text.ofRunes name
    match (← next).kind with
    | .tag handle suffix =>
      drop
      let tag ← fullTag handle suffix
      return { empty with anchor := some (← define name), tag, given := true }
    | _ => return { empty with anchor := some (← define name), given := true }
  | .tag handle suffix =>
    match (← next).kind with
    | .anchor name =>
      drop
      let tag ← fullTag handle suffix
      return { empty with anchor := some (← define (Text.ofRunes name)), tag, given := true }
    | _ => return { empty with tag := ← fullTag handle suffix, given := true }
  | _ => return empty

def absent (line : Nat) : Node := .scalar (line + 1) none nullTag []

def scalarTag (p : Properties) (text : Text) (plain : Bool) : Text :=
  p.tag.getD (if !plain then strTag else implicitTag text)

def endsEntry : TokenKind → Bool
  | .key | .value | .blockEnd => true
  | _ => false

mutual
/-- A node. Only where `block` holds it may be a block collection, and only where `indentless`
    holds a sequence whose entries are not indented. -/
def node : Nat → Bool → Bool → Parse Node
  | 0, _, _ => failure
  | fuel + 1, block, indentless => do
    let first ← peek
    match first.kind with
    | .alias name =>
      drop
      let name := Text.ofRunes name
      match (← get).anchors.find? fun a => a.1 = name with
      | some (_, number) => return .alias (first.line + 1) name number
      | none => failure
    | _ =>
      let p ← properties
      let line := p.line + 1
      let token ← peek
      match token.kind with
      | .scalar text plain =>
        drop
        let text := Text.ofRunes text
        return .scalar line p.anchor (scalarTag p text plain) text
      | .flowSequenceStart =>
        drop
        return .sequence line p.anchor (p.tag.getD seqTag) (← flowItems fuel true)
      | .flowMappingStart =>
        drop
        return .mapping line p.anchor (p.tag.getD mapTag) (← flowEntries fuel true)
      | .blockEntry =>
        if indentless then
          return .sequence line p.anchor (p.tag.getD seqTag) (← indentlessItems fuel)
        else if p.given then return .scalar line p.anchor (scalarTag p [] true) []
        else failure
      | .blockSequenceStart =>
        if block then
          drop
          return .sequence line p.anchor (p.tag.getD seqTag) (← blockItems fuel)
        else if p.given then return .scalar line p.anchor (scalarTag p [] true) []
        else failure
      | .blockMappingStart =>
        if block then
          drop
          return .mapping line p.anchor (p.tag.getD mapTag) (← blockEntries fuel)
        else if p.given then return .scalar line p.anchor (scalarTag p [] true) []
        else failure
      | _ =>
        if p.given then return .scalar line p.anchor (scalarTag p [] true) [] else failure

def blockItems : Nat → Parse (List Node)
  | 0 => failure
  | fuel + 1 => do
    match (← peek).kind with
    | .blockEntry =>
      let token ← next
      let item ← match token.kind with
        | .blockEntry | .blockEnd => pure (absent token.line)
        | _ => node fuel true false
      return item :: (← blockItems fuel)
    | .blockEnd =>
      drop
      return []
    | _ => failure

def indentlessItems : Nat → Parse (List Node)
  | 0 => failure
  | fuel + 1 => do
    match (← peek).kind with
    | .blockEntry =>
      let token ← next
      let item ← match token.kind with
        | .blockEntry | .key | .value | .blockEnd => pure (absent token.line)
        | _ => node fuel true false
      return item :: (← indentlessItems fuel)
    | _ => return []

def blockEntries : Nat → Parse (List (Node × Node))
  | 0 => failure
  | fuel + 1 => do
    match (← peek).kind with
    | .blockEnd =>
      drop
      return []
    | .key =>
      let token ← next
      let key ← if endsEntry token.kind then pure (absent token.line) else node fuel true true
      let value ← blockValue fuel
      return (key, value) :: (← blockEntries fuel)
    | .value =>
      let line := (← peek).line
      let value ← blockValue fuel
      return (absent line, value) :: (← blockEntries fuel)
    | _ => failure

def blockValue : Nat → Parse Node
  | 0 => failure
  | fuel + 1 => do
    let token ← peek
    if token.kind ≠ .value then return absent token.line
    let token ← next
    if endsEntry token.kind then return absent token.line else node fuel true true

/-- The items of a flow sequence; a pair with a colon is a mapping of its own. -/
def flowItems : Nat → Bool → Parse (List Node)
  | 0, _ => failure
  | fuel + 1, first => do
    let token ← peek
    if token.kind = .flowSequenceEnd then
      drop
      return []
    if !first && token.kind ≠ .flowEntry then failure
    let token ← if first then pure token else next
    match token.kind with
    | .flowSequenceEnd =>
      drop
      return []
    | .key =>
      let inner ← next
      let key ← match inner.kind with
        | .value | .flowEntry | .flowSequenceEnd =>
          drop
          pure (absent inner.line)
        | _ => node fuel false false
      let value ← flowValue fuel .flowSequenceEnd
      let item := .mapping (token.line + 1) none mapTag [(key, value)]
      return item :: (← flowItems fuel false)
    | _ =>
      let item ← node fuel false false
      return item :: (← flowItems fuel false)

def flowEntries : Nat → Bool → Parse (List (Node × Node))
  | 0, _ => failure
  | fuel + 1, first => do
    let token ← peek
    if token.kind = .flowMappingEnd then
      drop
      return []
    if !first && token.kind ≠ .flowEntry then failure
    let token ← if first then pure token else next
    match token.kind with
    | .flowMappingEnd =>
      drop
      return []
    | .key =>
      let inner ← next
      let key ← match inner.kind with
        | .value | .flowEntry | .flowMappingEnd => pure (absent inner.line)
        | _ => node fuel false false
      let value ← flowValue fuel .flowMappingEnd
      return (key, value) :: (← flowEntries fuel false)
    | _ =>
      let key ← node fuel false false
      let line := (← peek).line
      return (key, absent line) :: (← flowEntries fuel false)

def flowValue : Nat → TokenKind → Parse Node
  | 0, _ => failure
  | fuel + 1, closing => do
    let token ← peek
    if token.kind ≠ .value then return absent token.line
    let token ← next
    if token.kind = .flowEntry || token.kind = closing then return absent token.line
    else node fuel false false
end

/-- The directives before a document. At most one tells the version, which must be 1.1, and no
    handle is given twice. -/
def directives : Nat → Bool → Parse Unit
  | 0, _ => failure
  | fuel + 1, versioned => do
    match (← peek).kind with
    | .versionDirective major minor =>
      if versioned || major ≠ 1 || minor ≠ 1 then failure
      drop
      directives fuel true
    | .tagDirective handle start =>
      if (← get).handles.any fun h => h.1 == handle then failure
      modify fun s => { s with handles := (handle, start) :: s.handles }
      drop
      directives fuel versioned
    | _ => return

def standardHandles : List (List Nat × List Nat) :=
  [([rune '!'], [rune '!']), ([rune '!', rune '!'], standardStart)]

def document : Parse (Option Node) := do
  let fuel := 4 * (← get).tokens.length + 8
  let withStandard : Parse Unit :=
    modify fun s => { s with handles := s.handles ++ standardHandles }
  match (← peek).kind with
  | .streamEnd => return none
  | .versionDirective _ _ | .tagDirective _ _ | .documentStart =>
    directives fuel false
    withStandard
    if (← peek).kind ≠ .documentStart then failure
    let token ← next
    match token.kind with
    | .versionDirective _ _ | .tagDirective _ _ | .documentStart | .documentEnd | .streamEnd =>
      return some (absent token.line)
    | _ =>
      let root ← node fuel true false
      let _ ← peek
      return some root
  | _ =>
    withStandard
    let root ← node fuel true false
    let _ ← peek
    return some root

end Parse

inductive Stream where
  | empty
  | document (root : Node)
  deriving Repr

def parse (content : Text) : Option Stream :=
  let body := (Text.dropStart? [0xEF, 0xBB, 0xBF] content).getD content
  if !body.isValid || !body.runes.all isAllowed then none
  else
    let (ts, whole) := tokens body.runes
    match (Parse.document.run { tokens := ts, whole }) with
    | some (some root, _) => some (.document root)
    | some (none, _) => some .empty
    | none => none

end JavadocLint.Yaml
