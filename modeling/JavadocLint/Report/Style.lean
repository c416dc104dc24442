import JavadocLint.Text.Width

/- Where a report is shown: the widths of characters there, and its colours. -/
namespace JavadocLint

structure Terminal where
  widths : WidthTable
  colors : Bool

def Terminal.plain : Terminal := ⟨.narrow, false⟩

inductive Style where
  | error
  | warning
  | info
  | rule
  | file
  | line
  | message
  | suggestion
  deriving DecidableEq, Repr

def Style.codes : Style → Text
  | .error => utf8 "31;1"
  | .warning => utf8 "93;1"
  | .info => utf8 "96;1"
  | .rule => utf8 "33;1"
  | .file => utf8 "36;1"
  | .line => utf8 "94;1"
  | .message => utf8 "31;1"
  | .suggestion => utf8 "32;1"

def Style.paint (s : Style) (colors : Bool) (t : Text) : Text :=
  if colors then utf8 "\x1b[" ++ s.codes ++ utf8 "m" ++ t ++ utf8 "\x1b[0;22m" else t

end JavadocLint
