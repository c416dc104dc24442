import JavadocLint.Text.Chunk

/- Why a pattern is not a regular expression. -/
namespace JavadocLint

inductive PatternFault where
  | badRange
  | badEscape
  | badNamedGroup
  | badGroupSyntax
  | nestedRepeat
  | badRepeatCount
  | invalidUtf8
  | unclosedSet
  | unclosedGroup
  | nothingToRepeat
  | trailingBackslash
  | unexpectedClose
  | tooDeep
  | tooLarge
  deriving DecidableEq, Repr

structure PatternError where
  fault : PatternFault
  fragment : Text
  deriving DecidableEq, Repr

def PatternFault.message : PatternFault → Text
  | .badRange => utf8 "invalid character class range"
  | .badEscape => utf8 "invalid escape sequence"
  | .badNamedGroup => utf8 "invalid named capture"
  | .badGroupSyntax => utf8 "invalid or unsupported Perl syntax"
  | .nestedRepeat => utf8 "invalid nested repetition operator"
  | .badRepeatCount => utf8 "invalid repeat count"
  | .invalidUtf8 => utf8 "invalid UTF-8"
  | .unclosedSet => utf8 "missing closing ]"
  | .unclosedGroup => utf8 "missing closing )"
  | .nothingToRepeat => utf8 "missing argument to repetition operator"
  | .trailingBackslash => utf8 "trailing backslash at end of expression"
  | .unexpectedClose => utf8 "unexpected )"
  | .tooDeep => utf8 "expression nests too deeply"
  | .tooLarge => utf8 "expression too large"

def PatternError.message (e : PatternError) : Text :=
  utf8 "error parsing regexp: " ++ e.fault.message ++ utf8 ": `" ++ e.fragment ++ utf8 "`"

end JavadocLint
