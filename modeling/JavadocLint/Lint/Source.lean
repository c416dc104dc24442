import JavadocLint.Text.Basic

/- The lines of a source file. Line feeds separate lines, and one carriage return that ends a line
   is dropped, so both kinds of line ending give the same lines. -/
namespace JavadocLint

def dropReturn (line : Text) : Text := (Text.dropEnd? [byte '\r'] line).getD line

def sourceLines (content : Text) : List Text := (Text.splitOn (byte '\n') content).map dropReturn

end JavadocLint
