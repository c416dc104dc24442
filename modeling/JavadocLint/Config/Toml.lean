import JavadocLint.Config.Basic
import JavadocLint.Toml.Value
import JavadocLint.Toml.Write
import JavadocLint.Unicode.Fold

/- Configurations read from TOML. Names of fields are compared without regard to case. -/
namespace JavadocLint.Toml

def typeName : Value → Text
  | .text _ => utf8 "string"
  | .integer _ => utf8 "int64"
  | .decimal _ => utf8 "float64"
  | .bool _ => utf8 "bool"
  | .time _ => utf8 "time.Time"
  | .array => utf8 "[]interface \x7b\x7d"
  | .table _ => utf8 "map[string]interface \x7b\x7d"
  | .tables _ => utf8 "[]map[string]interface \x7b\x7d"

def failureAt (d : Document) (place : Place) (words : Text) : Failure :=
  let line := match d.origin? place with
    | some o => utf8 "line " ++ Text.ofNat o.line ++ utf8 " "
    | none => []
  .plain (utf8 "toml: " ++ line ++ utf8 "(last key " ++ (dottedKey place).quoted ++ utf8 "): "
    ++ words)

def mismatch (d : Document) (place : Place) (v : Value) (wanted : String) : Failure :=
  failureAt d place (utf8 "incompatible types: TOML value has type " ++ typeName v
    ++ utf8 "; destination has type " ++ utf8 wanted)

def text (d : Document) (place : Place) : Value → Except Failure Text
  | .text t => .ok t
  | v => .error (mismatch d place v "string")

def simpleText (d : Document) (place : Place) : Value → Except Failure Text
  | .text t => .ok t
  | .integer n => .ok (Text.ofInt n)
  | .decimal x => .ok x.text
  | .bool b => .ok (utf8 (if b then "true" else "false"))
  | .time t => .ok t
  | v => .error (mismatch d place v "primitive (string-like)")

def isField (field : String) (name : Text) : Bool :=
  name.runes.map Unicode.fold = (utf8 field).runes.map Unicode.fold

def rule (d : Document) (place : Place) : Value → Except Failure Severity
  | .table entries =>
    entries.foldlM (fun s (name, v) =>
      if isField "severity" name then do Severity.parse (← simpleText d (place ++ [name]) v)
      else .ok s) .error
  | v =>
    .error (failureAt d place (utf8 "type mismatch for types.ConfigRule: expected table but found "
      ++ typeName v))

def table {α : Type} (read : Place → Value → Except Failure α) (place : Place) :
    Value → Except Failure (Option (Table α))
  | .table entries => do
    let found ← entries.mapM fun (name, v) => do return (name, ← read (place ++ [name]) v)
    return some (Table.ofList found)
  | _ => .ok none

def part (d : Document) (c : Config) (name : Text) (v : Value) : Except Failure Config := do
  if isField "name" name then return { c with name := ← text d [name] v }
  else if isField "rules" name then
    let rules ← table (rule d) [name] v
    return { c with rules := rules.or c.rules }
  else if isField "tags" name then
    let tags ← table (text d) [name] v
    return { c with tags := tags.getD c.tags }
  else return c

end JavadocLint.Toml

namespace JavadocLint.Config

def ofToml (content : Text) : Except Failure Config :=
  match Toml.parse content with
  | none => .error .tomlMalformed
  | some d => d.root.foldlM (fun c (name, v) => Toml.part d c name v) {}

end JavadocLint.Config
