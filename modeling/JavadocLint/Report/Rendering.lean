import JavadocLint.Failure
import JavadocLint.Lint.Issue
import JavadocLint.Report.Layout
import JavadocLint.Report.Style

/- Issues as text: a header, the lines concerned with an underline, the message, and below it the
   suggestion and the note. Positions are taken as they come, so each repetition and each access to
   the lines is checked where it is made. -/
namespace JavadocLint

/-- A byte written `count` times; a count below zero is a fault. -/
def Text.repeated (count : Int) (b : UInt8) : Except Failure Text :=
  if count < 0 then .error (.plain (utf8 "negative count")) else .ok (Text.replicate count.toNat b)

def numberedLine (lines : List Text) (n : Int) : Except Failure Text :=
  if n < 1 then .error (.outside (n - 1) lines.length)
  else match lines[(n - 1).toNat]? with
    | some line => .ok line
    | none => .error (.outside (n - 1) lines.length)

/-- The lines from `start` to `stop`: 1-indexed, both ends included. -/
def linesBetween (lines : List Text) (start stop : Int) : Except Failure (List Text) :=
  if start < 1 || stop < start - 1 then .error (.outside (start - 1) lines.length)
  else if lines.length < stop then .error (.outside stop lines.length)
  else .ok ((lines.drop (start - 1).toNat).take (stop - start + 1).toNat)

/-- Where an underline begins, counted from 0, and how long it is. -/
structure Underline where
  column : Int
  length : Int
  deriving DecidableEq, Repr

namespace Issue

def lastLine (i : Issue) : Int := max i.start.line i.stop.line

def hasLines (i : Issue) (lines : List Text) : Bool :=
  0 < i.start.line && i.lastLine ≤ lines.length

def numberWidth (i : Issue) : Nat := (Text.ofInt i.lastLine).length

def header (i : Issue) (colors : Bool) (margin : Text) : Text :=
  let level := match i.severity with
    | .warning => Style.warning.paint colors (utf8 "warning: ")
    | .info => Style.info.paint colors (utf8 "info: ")
    | _ => Style.error.paint colors (utf8 "error: ")
  let name := if i.file.isEmpty then utf8 "<source>" else i.file
  level ++ Style.rule.paint colors i.rule ++ utf8 "\n"
    ++ Style.line.paint colors (margin ++ utf8 "--> ")
    ++ Style.file.paint colors
        (name ++ utf8 ":" ++ Text.ofInt i.start.line ++ utf8 ":" ++ Text.ofInt i.start.col)
    ++ utf8 "\n"

def indentShared (i : Issue) (lines : List Text) : Except Failure Text :=
  if i.hasLines lines then do return commonIndent (← linesBetween lines i.start.line i.lastLine)
  else .ok []

def alignedNumber (width : Nat) (n : Int) : Text :=
  Text.replicate (width - (Text.ofInt n).length) (byte ' ') ++ Text.ofInt n

def dropIndent (common line : Text) : Text := (Text.dropStart? common line).getD line

def snippetRow (term : Terminal) (width : Nat) (common line : Text) (n : Int) : Text :=
  Style.line.paint term.colors (alignedNumber width n ++ utf8 " | ")
    ++ expandTabs term.widths (dropIndent common line) ++ utf8 "\n"

def snippet (i : Issue) (term : Terminal) (lines : List Text) (padding common : Text) :
    Except Failure Text :=
  if i.hasLines lines then do
    let rows ← (List.range (i.lastLine - i.start.line + 1).toNat).mapM fun (k : Nat) => do
      let line ← numberedLine lines (i.start.line + k)
      return snippetRow term i.numberWidth common line (i.start.line + k)
    return Style.line.paint term.colors (padding ++ utf8 "|") ++ utf8 "\n" ++ rows.flatten
  else .ok []

/-- The columns of the issue as they appear without the indent. -/
def underline (i : Issue) (w : WidthTable) (lines : List Text) (common : Text) :
    Except Failure Underline := do
  let first ← numberedLine lines i.start.line
  let last ← numberedLine lines i.lastLine
  let indent : Int := visualColumn w common (common.length + 1)
  let start := max 0 (visualColumn w first i.start.col - indent)
  let stop := visualColumn w last i.stop.col - indent
  return ⟨start, max 1 (stop - start + 1)⟩

def underlineText (i : Issue) (term : Terminal) (lines : List Text) (padding common : Text) :
    Except Failure Text :=
  if i.hasLines lines then do
    let u ← i.underline term.widths lines common
    let blanks ← Text.repeated u.column (byte ' ')
    let tildes ← Text.repeated u.length (byte '~')
    return Style.line.paint term.colors (padding ++ utf8 "| ") ++ blanks
      ++ Style.message.paint term.colors tildes ++ utf8 "\n"
  else .ok []

def messageLine (i : Issue) (colors : Bool) (padding : Text) : Text :=
  Style.line.paint colors (padding ++ utf8 "= ") ++ Style.message.paint colors i.message
    ++ utf8 "\n"

def suggestionText (i : Issue) (colors : Bool) (padding : Text) : Text :=
  if i.suggestion.isEmpty then []
  else Style.suggestion.paint colors (utf8 "Suggestion:") ++ utf8 "\n" ++ padding ++ utf8 "| "
    ++ i.suggestion ++ utf8 "\n"

def noteText (i : Issue) (colors : Bool) : Text :=
  if i.note.isEmpty then []
  else Style.suggestion.paint colors (utf8 "Note: ") ++ i.note ++ utf8 "\n"

def layout (i : Issue) (term : Terminal) (lines : List Text) : Except Failure Text := do
  let margin ← Text.repeated i.numberWidth (byte ' ')
  let padding ← Text.repeated (i.numberWidth + 1) (byte ' ')
  let common ← i.indentShared lines
  let rows ← i.snippet term lines padding common
  let underline ← i.underlineText term lines padding common
  return i.header term.colors margin ++ rows ++ underline ++ i.messageLine term.colors padding
    ++ i.suggestionText term.colors padding ++ i.noteText term.colors ++ utf8 "\n"

/-- The text of an issue; a fault is told in its place. -/
def render (i : Issue) (term : Terminal) (lines : List Text) : Text :=
  match i.layout term lines with
  | .ok text => text
  | .error f => utf8 "Error formatting issue: " ++ f.message

end Issue

def renderIssues (term : Terminal) (lines : List Text) (issues : List Issue) : Text :=
  issues.flatMap fun i => i.render term lines

end JavadocLint
