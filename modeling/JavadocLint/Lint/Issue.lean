import JavadocLint.Lint.Severity

/- What a check reports. Lines and columns are 1-indexed; columns count bytes. -/
namespace JavadocLint

structure Position where
  file : Text
  line : Int
  col : Int
  deriving DecidableEq, Repr

structure Issue where
  rule : Text
  category : Text
  file : Text
  message : Text
  suggestion : Text
  note : Text
  start : Position
  stop : Position
  severity : Severity
  deriving DecidableEq, Repr

end JavadocLint
