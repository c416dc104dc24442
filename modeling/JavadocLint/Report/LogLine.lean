import JavadocLint.Log
import JavadocLint.Report.Json

/- Log entries as lines for the screen. -/
namespace JavadocLint

def LogLevel.name : LogLevel → Text
  | .info => utf8 "info"
  | .warning => utf8 "warn"
  | .error => utf8 "error"

def LogValue.json : LogValue → Text
  | .text t => Json.string t
  | .number i => Text.ofInt i
  | .failure f => Json.string f.message

def LogEntry.line (e : LogEntry) : Text :=
  e.level.name ++ utf8 "\t" ++ e.message ++ utf8 "\t"
    ++ Json.object (e.fields.map fun f => (f.1, f.2.json)) ++ utf8 "\n"

def LogEntry.isShown (verbose : Bool) (e : LogEntry) : Bool := verbose || e.level ≠ .info

end JavadocLint
