import JavadocLint.Text.Basic

/- Message templates. A doubled single quote stands for one quote, and a number in braces for the
   argument with that number; any other text in braces stays as it is. -/
namespace JavadocLint

/-- The argument number written between braces: decimal digits, perhaps with a sign. -/
def placeholder? (inside : Text) : Option Nat :=
  let digits (t : Text) : Option Nat :=
    if !t.isEmpty && t.all Text.isDigit then some (t.foldl (fun n b => n * 10 + (b.toNat - 48)) 0)
    else none
  match inside with
  | [] => none
  | b :: t =>
    if b = byte '+' then digits t
    else if b = byte '-' then (digits t).filter (· = 0)
    else digits inside

def substitute (args : List Text) (inside : Text) : Text :=
  match (placeholder? inside).bind fun n => args[n]? with
  | some arg => arg
  | none => byte '\x7b' :: inside ++ [byte '\x7d']

/-- The first `skip` bytes still belong to what was written last. -/
def renderFrom (args : List Text) : Nat → Text → Text
  | _, [] => []
  | skip + 1, _ :: t => renderFrom args skip t
  | 0, b :: t =>
    if b = byte '\'' && t.head? = some (byte '\'') then b :: renderFrom args 1 t
    else if b = byte '\x7b' then
      match Text.cut? [byte '\x7d'] t with
      | none => b :: t
      | some (inside, _) => substitute args inside ++ renderFrom args (inside.length + 1) t
    else b :: renderFrom args 0 t

def renderTemplate (template : Text) (args : List Text) : Text := renderFrom args 0 template

end JavadocLint
