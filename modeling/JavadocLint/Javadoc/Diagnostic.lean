import JavadocLint.Javadoc.Template

/- What can be wrong with the documentation comment of a declaration. -/
namespace JavadocLint

def tagStart (tag : Text) : Text := utf8 " * @" ++ tag ++ utf8 " "

inductive Problem where
  | commentNotFound
  | malformedTag (tag : Text)
  | missingTag (tag : Text)
  | patternMismatch (text pattern : Text)
  deriving DecidableEq, Repr

namespace Problem

def kind : Problem → Text
  | .commentNotFound => utf8 "comment-not-found"
  | .malformedTag _ => utf8 "malformed-tag"
  | .missingTag _ => utf8 "missing-tag"
  | .patternMismatch _ _ => utf8 "pattern-mismatch"

def template : Problem → Text
  | .commentNotFound => utf8 "Problem finding class/interface comment"
  | .malformedTag _ => utf8 "Line with ''@\x7b0\x7d'' does not start with a ''\x7b1\x7d''"
  | .missingTag _ => utf8 "Missing ''@\x7b0\x7d'' tag in class/interface comment"
  | .patternMismatch _ _ => utf8 "Tag text ''\x7b0\x7d'' does not match the pattern ''\x7b1\x7d''"

def args : Problem → List Text
  | .commentNotFound => []
  | .malformedTag tag => [tag, tagStart tag]
  | .missingTag tag => [tag]
  | .patternMismatch text pattern => [text, pattern]

def message (p : Problem) : Text := renderTemplate p.template p.args

def kindName (n : Int) : Text :=
  if n = 0 then kind .commentNotFound
  else if n = 1 then kind (.malformedTag [])
  else if n = 2 then kind (.missingTag [])
  else if n = 3 then kind (.patternMismatch [] [])
  else utf8 "unknown"

end Problem

/-- A problem and the 1-indexed line where it is reported. -/
structure Diagnostic where
  line : Int
  problem : Problem
  deriving DecidableEq, Repr

def Diagnostic.text (d : Diagnostic) : Text :=
  Text.ofInt d.line ++ utf8 ": " ++ d.problem.message

end JavadocLint
