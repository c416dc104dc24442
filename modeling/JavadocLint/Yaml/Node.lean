import JavadocLint.Text.Basic

/- YAML documents as trees. An anchored node has a number of its own, by which aliases name it; the
   number of an alias may be that of a node around it. -/
namespace JavadocLint.Yaml

inductive Node where
  | scalar (line : Nat) (anchor : Option Nat) (tag value : Text)
  | sequence (line : Nat) (anchor : Option Nat) (tag : Text) (items : List Node)
  | mapping (line : Nat) (anchor : Option Nat) (tag : Text) (entries : List (Node × Node))
  | alias (line : Nat) (name : Text) (target : Nat)
  deriving Repr

namespace Node

def line : Node → Nat
  | .scalar line _ _ _ => line
  | .sequence line _ _ _ => line
  | .mapping line _ _ _ => line
  | .alias line _ _ => line

def value : Node → Text
  | .scalar _ _ _ value => value
  | .alias _ name _ => name
  | _ => []

def tag : Node → Text
  | .scalar _ _ tag _ => tag
  | .sequence _ _ tag _ => tag
  | .mapping _ _ tag _ => tag
  | .alias _ _ _ => []

def sameKind : Node → Node → Bool
  | .scalar _ _ _ _, .scalar _ _ _ _ => true
  | .sequence _ _ _ _, .sequence _ _ _ _ => true
  | .mapping _ _ _ _, .mapping _ _ _ _ => true
  | .alias _ _ _, .alias _ _ _ => true
  | _, _ => false

mutual
def find? (number : Nat) : Node → Option Node
  | .scalar line anchor tag value =>
    if anchor = some number then some (.scalar line anchor tag value) else none
  | .sequence line anchor tag items =>
    if anchor = some number then some (.sequence line anchor tag items)
    else findItem? number items
  | .mapping line anchor tag entries =>
    if anchor = some number then some (.mapping line anchor tag entries)
    else findPair? number entries
  | .alias _ _ _ => none

def findItem? (number : Nat) : List Node → Option Node
  | [] => none
  | n :: rest => (find? number n).or (findItem? number rest)

def findPair? (number : Nat) : List (Node × Node) → Option Node
  | [] => none
  | (key, value) :: rest =>
    ((find? number key).or (find? number value)).or (findPair? number rest)
end

end Node
end JavadocLint.Yaml
