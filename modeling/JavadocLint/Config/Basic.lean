import JavadocLint.Engine.Basic
import JavadocLint.Table

/- What a configuration says: a name, the levels of rules, and the tags with their patterns. -/
namespace JavadocLint

structure Config where
  name : Text := []
  /-- Absent when nothing is said about rules. -/
  rules : Option (Table Severity) := none
  tags : Table Text := []
  deriving DecidableEq, Repr

namespace Config

def defaultPath : Text := utf8 ".jdlint.yaml"

def standard : Config where
  name := utf8 "jdlint"
  rules := some (Table.ofList (allRuleNames.map fun n => (n, .error)))
  tags := Table.ofList TagRules.defaultPatterns

def tagRules (c : Config) : Except Failure TagRules :=
  if c.tags.isEmpty then .ok TagRules.standard
  else (TagRules.ofPatterns c.tags).mapError (.within (utf8 "invalid tags configuration"))

def engine (c : Config) (root : Text) : Except Failure Engine := do
  let tags ← c.tagRules
  return Engine.make root (c.rules.getD []) tags

end Config
end JavadocLint
