import JavadocLint.Failure
import JavadocLint.Regex.Parse
import JavadocLint.Sorting
import JavadocLint.Text.Quoted

/- Tag rules: which tags a comment must have, and the pattern that the whole text of each must
   match. -/
namespace JavadocLint

structure TagRule where
  name : Text
  pattern : Text
  regex : Regex
  deriving DecidableEq, Repr

namespace TagRule

def anchored (pattern : Text) : Text := utf8 "^(?:" ++ pattern ++ utf8 ")$"

def make (name pattern : Text) : Except Failure TagRule :=
  if name.isEmpty then .error (.plain (utf8 "empty tag name"))
  else match Regex.parse (anchored pattern) with
    | .ok regex => .ok ⟨name, pattern, regex⟩
    | .error e => .error (.within (utf8 "invalid pattern for tag " ++ name.quoted) (.pattern e))

def accepts (r : TagRule) (text : Text) : Bool := r.regex.search text.runes.toArray

end TagRule

/-- Rules in increasing order of their names. -/
structure TagRules where
  rules : List TagRule
  deriving DecidableEq, Repr

namespace TagRules

/-- Compiles a table of patterns; the first rule in name order that cannot be made is reported. -/
def ofPatterns (patterns : List (Text × Text)) : Except Failure TagRules := do
  let rules ← (sorted (fun a b => Text.le a.1 b.1) patterns).mapM fun p => TagRule.make p.1 p.2
  return ⟨rules⟩

def authorPattern : Text :=
  utf8 "^([A-Z](\\.|[a-z]+) )\x7b2,\x7d\\([A-Za-z0-9._%+-]+@" ++
    utf8 "[A-Za-z0-9.-]+\\.[A-Za-z]\x7b2,4\x7d\\)$"

def versionPattern : Text := utf8 "^\\$Id.*\\$$"

def defaultPatterns : List (Text × Text) :=
  [(utf8 "author", authorPattern), (utf8 "version", versionPattern)]

def standard : TagRules :=
  match ofPatterns defaultPatterns with
  | .ok rules => rules
  | .error _ => ⟨[]⟩

def ofOptional : Option (List (Text × Text)) → Except Failure TagRules
  | none => .ok standard
  | some patterns => ofPatterns patterns

def patterns (t : TagRules) : List (Text × Text) := t.rules.map fun r => (r.name, r.pattern)

/-- The least index below `hi` from `lo` on whose rule name is not below `name`, by halving. -/
def searchName (rules : Array TagRule) (name : Text) : Nat → Nat → Nat → Nat
  | 0, lo, _ => lo
  | fuel + 1, lo, hi =>
    if lo < hi then
      let mid := (lo + hi) / 2
      if (rules[mid]?.map fun r => Text.lt r.name name).getD false then
        searchName rules name fuel (mid + 1) hi
      else searchName rules name fuel lo mid
    else lo

def lookup? (t : TagRules) (name : Text) : Option TagRule :=
  let rules := t.rules.toArray
  (rules[searchName rules name rules.size 0 rules.size]?).filter fun r => r.name = name

end TagRules
end JavadocLint
