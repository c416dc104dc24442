import JavadocLint.Text.Basic

/- Type declarations of a Java source file, as far as a checker of their comments needs them. -/
namespace JavadocLint

inductive DeclarationKind where
  | classType
  | interfaceType
  | enumType
  | recordType
  | annotationType
  deriving DecidableEq, Repr

def DeclarationKind.keyword : DeclarationKind → Text
  | .classType => utf8 "class"
  | .interfaceType => utf8 "interface"
  | .enumType => utf8 "enum"
  | .recordType => utf8 "record"
  | .annotationType => utf8 "@interface"

/-- The field `line` is the 1-indexed line of the first modifier or annotation, or of the keyword
    when there is none; `keywordLine` is the line of the keyword. -/
structure Declaration where
  kind : DeclarationKind
  name : Text
  line : Int
  keywordLine : Int
  nested : Bool
  deriving DecidableEq, Repr

/-- Only classes and interfaces outside any other declaration need a tagged comment. -/
def Declaration.isTopLevel (d : Declaration) : Bool :=
  !d.nested && (d.kind = .classType || d.kind = .interfaceType)

end JavadocLint
