import JavadocLint.Config.Basic
import JavadocLint.Text.Base64
import JavadocLint.Yaml.Parse

/- Configurations read from YAML. Values of the wrong type are noted and skipped, so that all of
   them are reported; anything else that is wrong ends the reading at once. -/
namespace JavadocLint.Yaml

abbrev Decode := StateT (List Text) (Except Failure)

namespace Decode

def note (line : Nat) (words : Text) : Decode Unit :=
  modify fun problems => problems ++ [utf8 "line " ++ Text.ofNat line ++ utf8 ": " ++ words]

def malformed {α : Type} : Decode α := throw .yamlMalformed

def excerpt (value : Text) : Text :=
  utf8 " \x60" ++ (if value.length ≤ 10 then value else value.take 7 ++ utf8 "...") ++ utf8 "\x60"

def mismatch (n : Node) (type : String) : Decode Unit :=
  note n.line (utf8 "cannot unmarshal " ++ n.tag
    ++ (if n.tag = seqTag || n.tag = mapTag then [] else excerpt n.value)
    ++ utf8 " into " ++ utf8 type)

def target (root : Node) : Node → Decode Node
  | .alias _ _ number =>
    match root.find? number with
    | some n => pure n
    | none => malformed
  | n => pure n

def scalarText (tag value : Text) : Decode (Option Text) :=
  if !agrees tag value then malformed
  else if tag = nullTag then pure none
  else if tag = binaryTag then
    match Base64.decode? value with
    | some t => pure (some t)
    | none => malformed
  else pure (some value)

def noteDuplicates : List (Node × Node) → Decode Unit
  | [] => pure ()
  | (key, _) :: rest => do
    (rest.filter fun e => key.sameKind e.1 && key.value = e.1.value).forM fun e =>
      note e.1.line (utf8 "mapping key " ++ e.1.value.quoted ++ utf8 " already defined at line "
        ++ Text.ofNat key.line)
    noteDuplicates rest

def hasUniqueKeys (entries : List (Node × Node)) : Decode Bool := do
  let before := (← get).length
  noteDuplicates entries
  return (← get).length = before

/-- A text. Null is none, and a collection is a problem. -/
def text (root n : Node) : Decode (Option Text) := do
  let n ← target root n
  match n with
  | .scalar _ _ tag value => scalarText tag value
  | .mapping _ _ _ entries =>
    if ← hasUniqueKeys entries then mismatch n "string"
    return none
  | _ =>
    mismatch n "string"
    return none

def isMerge : Node → Bool
  | .scalar _ _ tag value => value = utf8 "<<" && tag = mergeTag
  | _ => false

def textKeys (root : Node) (entries : List (Node × Node)) : Decode (List Text) := do
  let keys ← entries.mapM fun e => do
    match ← target root e.1 with
    | .scalar _ _ tag value =>
      if tag = strTag || tag = binaryTag || tag = mergeTag then scalarText tag value
      else return none
    | _ => return none
  return keys.filterMap id

def merged (root n : Node) : Decode (List (Node × Node)) := do
  match ← target root n with
  | .mapping _ _ _ entries => return entries
  | _ => malformed

def mergeSources : Node → List Node
  | .sequence _ _ _ items => items
  | n => [n]

/-- What is done with an entry: it is told whether it comes from a merge, and gets the key's line,
    its text and the value. -/
abbrev Step (σ : Type) := Bool → Nat → Text → Node → σ → Decode σ

/-- The entries of one mapping. With a list of names taken, these are skipped and others are
    added. -/
def ownEntries {σ : Type} (root : Node) (step : Step σ) :
    List (Node × Node) → Option (List Text) → σ → Decode (Option (List Text) × σ)
  | [], taken, s => pure (taken, s)
  | (key, value) :: rest, taken, s => do
    if isMerge key then ownEntries root step rest taken s
    else
      match ← text root key with
      | none => ownEntries root step rest taken s
      | some name =>
        match taken with
        | none =>
          let s ← step false key.line name value s
          ownEntries root step rest none s
        | some names =>
          if name ∈ names then ownEntries root step rest taken s
          else
            let s ← step true key.line name value s
            ownEntries root step rest (some (name :: names)) s

mutual
def fold {σ : Type} (root : Node) (step : Step σ) :
    Nat → List (Node × Node) → Option (List Text) → σ → Decode (Option (List Text) × σ)
  | 0, _, _, _ => malformed
  | fuel + 1, entries, taken, s => do
    let (taken, s) ← ownEntries root step entries taken s
    match (entries.filter fun e => isMerge e.1).getLast? with
    | none => return (taken, s)
    | some (_, source) =>
      let names ← match taken with
        | some names => pure names
        | none => textKeys root entries
      let (names, s) ← mergeAll root step fuel (mergeSources source) names s
      return (taken.map fun _ => names, s)

def mergeAll {σ : Type} (root : Node) (step : Step σ) :
    Nat → List Node → List Text → σ → Decode (List Text × σ)
  | 0, _, _, _ => malformed
  | _ + 1, [], names, s => return (names, s)
  | fuel + 1, source :: rest, names, s => do
    let entries ← merged root source
    if ← hasUniqueKeys entries then
      let (taken, s) ← fold root step fuel entries (some names) s
      mergeAll root step fuel rest (taken.getD names) s
    else mergeAll root step fuel rest names s
end

/-- A mapping read entry by entry; `none` when there is none to read. `absent` is the answer for
    null. -/
def mapping {σ : Type} (root : Node) (fuel : Nat) (type : String) (step : Step σ) (start : σ)
    (absent : Option σ) (n : Node) : Decode (Option σ) := do
  let n ← target root n
  match n with
  | .scalar _ _ tag value =>
    if (← scalarText tag value).isNone then return absent
    mismatch n type
    return none
  | .mapping _ _ _ entries =>
    if ← hasUniqueKeys entries then return some (← fold root step fuel entries none start).2
    else return none
  | _ =>
    mismatch n type
    return none

/-- A step for a record: a field may be set only once, and other names are skipped. -/
def field {σ : Type} (type : String) (names : List Text) (step : Text → Node → σ → Decode σ) :
    Step (List Text × σ) :=
  fun _ line name value (done, s) => do
    if !names.contains name then return (done, s)
    else if done.contains name then
      note line (utf8 "field " ++ name ++ utf8 " already set in type " ++ utf8 type)
      return (done, s)
    else return (name :: done, ← step name value s)

/-- A table of values of one type. A null value is the given one, and never takes the place of
    another in a merge. -/
def table {α : Type} (root : Node) (fuel : Nat) (type : String) (read : Node → Decode (Option α))
    (zero : α) (n : Node) : Decode (Option (Option (Table α))) :=
  let step : Step (Option (Table α)) := fun isMerged _ name value t => do
    let t := t.getD []
    match ← read value with
    | some v => return some (t.insert name v)
    | none =>
      let isNull := (← target root value).tag = nullTag
      if isNull && (!isMerged || (t.get? name).isNone) then return some (t.insert name zero)
      else return some t
  mapping root fuel type step (some []) (some none) n

def severity (root n : Node) (current : Severity) : Decode Severity := do
  match ← text root n with
  | none => return current
  | some t =>
    match Severity.parse t with
    | .ok s => return s
    | .error f => throw f

def rule (root : Node) (fuel : Nat) (n : Node) : Decode (Option Severity) := do
  let type := "types.ConfigRule"
  let step := field type [utf8 "severity"] fun _ value s => severity root value s
  return (← mapping root fuel type step ([], .error) none n).map Prod.snd

def part (root : Node) (fuel : Nat) (name : Text) (value : Node) (c : Config) : Decode Config := do
  if name = utf8 "name" then return { c with name := (← text root value).getD c.name }
  else if name = utf8 "rules" then
    let rules ← table root fuel "map[string]types.ConfigRule" (rule root fuel) .error value
    return { c with rules := rules.getD c.rules }
  else
    let tags ← table root fuel "map[string]string" (text root) [] value
    return { c with tags := (tags.map fun t => t.getD []).getD c.tags }

def config (root : Node) (fuel : Nat) : Decode Config := do
  let type := "lint.Config"
  let names := [utf8 "name", utf8 "rules", utf8 "tags"]
  let found ← mapping root fuel type (field type names (part root fuel)) ([], {}) none root
  return (found.map Prod.snd).getD {}

end Decode
end JavadocLint.Yaml

namespace JavadocLint.Config

def ofYaml (content : Text) : Except Failure Config :=
  match Yaml.parse content with
  | none => .error .yamlMalformed
  | some .empty => .ok {}
  | some (.document root) => do
    let (c, problems) ← (Yaml.Decode.config root (content.length + 8)).run []
    if problems.isEmpty then return c else throw (.yamlTypes problems)

end JavadocLint.Config
