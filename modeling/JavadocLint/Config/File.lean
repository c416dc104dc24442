import JavadocLint.Config.Toml
import JavadocLint.Config.Yaml
import JavadocLint.Yaml.Write

/- Configuration files. The name of a file tells whether it is TOML; otherwise it is YAML. -/
namespace JavadocLint.Config

def toYaml (c : Config) : Text :=
  let rules := (NaturalOrder.sort (c.rules.getD [])).flatMap fun (name, severity) =>
    Yaml.mappingEntry 4 name (Yaml.scalarEntry 8 (utf8 "severity") severity.word)
  let tags := (NaturalOrder.sort c.tags).flatMap fun (name, pattern) =>
    Yaml.scalarEntry 4 name pattern
  Yaml.scalarEntry 0 (utf8 "name") c.name ++ Yaml.mappingEntry 0 (utf8 "rules") rules
    ++ if c.tags.isEmpty then [] else Yaml.mappingEntry 0 (utf8 "tags") tags

def toToml (c : Config) : Text :=
  let rule (name : Text) (severity : Severity) : Text :=
    Toml.tableHeader [utf8 "rules", name]
      ++ Toml.textEntry [utf8 "rules", name, utf8 "severity"] severity.word
  let rules := match c.rules with
    | none => []
    | some rules =>
      Toml.tableHeader [utf8 "rules"] ++ rules.flatMap fun (name, severity) => rule name severity
  let tags :=
    if c.tags.isEmpty then []
    else Toml.tableHeader [utf8 "tags"]
      ++ c.tags.flatMap fun (name, pattern) => Toml.textEntry [utf8 "tags", name] pattern
  Toml.textEntry [utf8 "name"] c.name ++ rules ++ tags

def save (c : Config) (t : FileTree) (now : Int) (path : Text) : Except Failure FileTree :=
  t.write path (if Path.isToml path then c.toToml else c.toYaml) now

def unreadable (path : Text) : Failure :=
  let cause := .file .read path .isDirectory
  if Path.isToml path then .within (path ++ utf8 ": failed to parse TOML") cause
  else .within (utf8 "error parsing " ++ path) .yamlMalformed

def load (t : FileTree) (path : Text) : Except Failure Config :=
  let path := if path.isEmpty then defaultPath else path
  match t.openFile path with
  | .error (.file _ _ .notFound) => .ok standard
  | .error f => .error f
  | .ok none => .error (unreadable path)
  | .ok (some (content, _)) =>
    if Path.isToml path then
      (ofToml content).mapError (.within (path ++ utf8 ": failed to parse TOML"))
    else (ofYaml content).mapError (.within (utf8 "error parsing " ++ path))

def loadEngine (t : FileTree) (root path : Text) : Except Failure Engine := do
  (← load t path).engine root

end JavadocLint.Config
