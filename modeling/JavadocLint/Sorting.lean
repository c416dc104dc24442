/- Sorting by insertion. Equal elements keep their order. -/
namespace JavadocLint

def insertSorted {α : Type} (le : α → α → Bool) (a : α) : List α → List α
  | [] => [a]
  | b :: rest => if le a b then a :: b :: rest else b :: insertSorted le a rest

def sorted {α : Type} (le : α → α → Bool) (xs : List α) : List α := xs.foldr (insertSorted le) []

end JavadocLint
