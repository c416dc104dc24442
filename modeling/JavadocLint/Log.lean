import JavadocLint.Failure

/- Log entries: what happened besides the result of an operation. -/
namespace JavadocLint

inductive LogLevel where
  | info
  | warning
  | error
  deriving DecidableEq, Repr

inductive LogValue where
  | text (t : Text)
  | number (i : Int)
  | failure (f : Failure)
  deriving Repr

structure LogEntry where
  level : LogLevel
  message : Text
  fields : List (Text × LogValue)
  deriving Repr

def LogEntry.failed (message : String) (what : String) (name : Text) (f : Failure) : LogEntry :=
  ⟨.error, utf8 message, [(utf8 what, .text name), (utf8 "error", .failure f)]⟩

end JavadocLint
