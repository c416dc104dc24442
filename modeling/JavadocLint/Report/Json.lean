import JavadocLint.Lint.Issue
import JavadocLint.Text.Chunk

/- Issues as JSON. Characters that could end a script or a line of one are escaped, and a byte
   outside any character is written as U+FFFD. -/
namespace JavadocLint.Json

def escape (r : Nat) : Text := utf8 "\\u" ++ Text.hex 4 r

def character (c : Chunk) : Text :=
  if (sequence? c.bytes).isNone then escape replacement
  else if c.rune = 0x22 || c.rune = 0x5C then byte '\\' :: c.bytes
  else if c.rune = 10 then utf8 "\\n"
  else if c.rune = 13 then utf8 "\\r"
  else if c.rune = 9 then utf8 "\\t"
  else if c.rune = 8 then utf8 "\\b"
  else if c.rune = 12 then utf8 "\\f"
  else if c.rune < 0x20 || c.rune = 0x3C || c.rune = 0x3E || c.rune = 0x26
      || c.rune = 0x2028 || c.rune = 0x2029 then escape c.rune
  else c.bytes

def string (t : Text) : Text := utf8 "\"" ++ t.chunks.flatMap character ++ utf8 "\""

def object (fields : List (Text × Text)) : Text :=
  [byte '\x7b'] ++ Text.join (utf8 ",") (fields.map fun (name, value) =>
    string name ++ utf8 ":" ++ value) ++ [byte '\x7d']

def array (items : List Text) : Text := utf8 "[" ++ Text.join (utf8 ",") items ++ utf8 "]"

def record (fields : List (String × Text)) : Text :=
  object (fields.map fun (name, value) => (utf8 name, value))

def ofSeverity (s : Severity) : Text := string s.name

def ofPosition (p : Position) : Text :=
  record [("Filename", string p.file), ("Offset", utf8 "0"), ("Line", Text.ofInt p.line),
    ("Column", Text.ofInt p.col)]

def ofIssue (i : Issue) : Text :=
  record [("Rule", string i.rule), ("Category", string i.category), ("Filename", string i.file),
    ("Message", string i.message), ("Suggestion", string i.suggestion), ("Note", string i.note),
    ("Start", ofPosition i.start), ("End", ofPosition i.stop),
    ("Severity", ofSeverity i.severity)]

end JavadocLint.Json
