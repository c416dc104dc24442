import JavadocLint.Text.Basic

/- Tables from names to values, kept in bytewise order of the names. -/
namespace JavadocLint

abbrev Table (α : Type) := List (Text × α)

namespace Table

variable {α : Type}

def get? (t : Table α) (name : Text) : Option α := (t.find? fun e => e.1 = name).map Prod.snd

def insert (name : Text) (value : α) : Table α → Table α
  | [] => [(name, value)]
  | (n, v) :: rest =>
    if name = n then (name, value) :: rest
    else if Text.lt name n then (name, value) :: (n, v) :: rest
    else (n, v) :: insert name value rest

def erase (t : Table α) (name : Text) : Table α := t.filter fun e => e.1 ≠ name

/-- Of several values for a name the last counts. -/
def ofList (entries : List (Text × α)) : Table α :=
  entries.foldl (fun t e => insert e.1 e.2 t) []

end Table
end JavadocLint
