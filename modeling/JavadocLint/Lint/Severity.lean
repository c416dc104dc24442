import JavadocLint.Failure
import JavadocLint.Text.Blank
import JavadocLint.Text.Quoted

/- The level at which issues are reported. -/
namespace JavadocLint

inductive Severity where
  | error
  | warning
  | info
  | off
  /-- A number that names no level. -/
  | other (code : Int)
  deriving DecidableEq, Repr

namespace Severity

def ofCode (n : Int) : Severity :=
  if n = 0 then .error else if n = 1 then .warning else if n = 2 then .info
  else if n = 3 then .off else .other n

def code : Severity → Int
  | .error => 0
  | .warning => 1
  | .info => 2
  | .off => 3
  | .other n => n

def name : Severity → Text
  | .error => utf8 "ERROR"
  | .warning => utf8 "WARNING"
  | .info => utf8 "INFO"
  | .off => utf8 "OFF"
  | .other _ => utf8 "UNKNOWN"

def word : Severity → Text
  | .error => utf8 "error"
  | .warning => utf8 "warning"
  | .info => utf8 "info"
  | .off => utf8 "off"
  | .other _ => utf8 "unknown"

def lowerRune (r : Nat) : Nat :=
  if 65 ≤ r && r ≤ 90 then r + 32
  else if r = 0x130 then 105
  else if r = 0x212A then 107
  else r

def parse (t : Text) : Except Failure Severity :=
  let w := t.trim.runes.map lowerRune
  if w = (utf8 "error").runes then .ok .error
  else if w = (utf8 "warning").runes || w = (utf8 "warn").runes then .ok .warning
  else if w = (utf8 "info").runes then .ok .info
  else if w = (utf8 "off").runes then .ok .off
  else .error (.plain (utf8 "unknown severity " ++ t.quoted))

end Severity
end JavadocLint
