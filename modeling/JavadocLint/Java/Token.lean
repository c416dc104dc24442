import JavadocLint.Text.Basic

/- Tokens of Java source and the machine that recognises them. The machine reads one symbol at a
   time, so a token is known when the symbol after it is read; comments and white space leave no
   token behind. -/
namespace JavadocLint

inductive Symbol where
  | byte (b : UInt8)
  | lineEnd
  deriving DecidableEq, Repr

namespace Symbol

def isByte (s : Symbol) (c : Char) : Bool := s = .byte (JavadocLint.byte c)

def isFeed (s : Symbol) : Bool := s = .lineEnd || s.isByte '\n'

end Symbol

def lineSymbols (line : Text) : List Symbol := line.map Symbol.byte ++ [.lineEnd]

def symbols (lines : List Text) : List Symbol := lines.flatMap lineSymbols

def isWordStart (b : UInt8) : Bool :=
  b = byte '_' || b = byte '$' || Text.isLower b || Text.isUpper b || 0x80 ≤ b

def isWordPart (b : UInt8) : Bool := isWordStart b || Text.isDigit b

/-- A literal is known by its opening quote. -/
inductive Token where
  | word (w : Text)
  | literal (quote : UInt8)
  | punct (b : UInt8)
  deriving DecidableEq, Repr

inductive LexMode where
  | code
  | word (w : Text)
  | slash
  | lineComment
  | blockComment
  | blockStar
  /-- One or two double quotes were read: a string, or the opening of a text block. -/
  | openQuote
  | openQuotes
  | quoted (quote : UInt8)
  | quotedEscape (quote : UInt8)
  | textBlock
  | textEscape
  | textQuote
  | textQuotes
  deriving DecidableEq, Repr

namespace LexMode

def stepCode : Symbol → LexMode × List Token
  | .lineEnd => (.code, [])
  | .byte b =>
    if b = byte '\n' || b = byte ' ' || b = byte '\t' || b = byte '\r' || b = 0x0C then (.code, [])
    else if b = byte '/' then (.slash, [])
    else if b = byte '"' then (.openQuote, [.literal b])
    else if b = byte '\'' then (.quoted b, [.literal b])
    else if isWordStart b then (.word [b], [])
    else (.code, [.punct b])

/-- One symbol inside a string or character literal; it never goes past the end of its line. -/
def stepQuoted (quote : UInt8) (s : Symbol) : LexMode :=
  if s.isByte '\\' then .quotedEscape quote
  else if s = .byte quote || s.isFeed then .code
  else .quoted quote

def stepText (s : Symbol) : LexMode :=
  if s.isByte '\\' then .textEscape else if s.isByte '"' then .textQuote else .textBlock

def step (m : LexMode) (s : Symbol) : LexMode × List Token :=
  match m with
  | .code => stepCode s
  | .word w =>
    match s with
    | .byte b =>
      if isWordPart b then (.word (w ++ [b]), [])
      else ((stepCode s).1, .word w :: (stepCode s).2)
    | .lineEnd => (.code, [.word w])
  | .slash =>
    if s.isByte '/' then (.lineComment, [])
    else if s.isByte '*' then (.blockComment, [])
    else ((stepCode s).1, .punct (byte '/') :: (stepCode s).2)
  | .lineComment => (if s = .lineEnd then .code else .lineComment, [])
  | .blockComment => (if s.isByte '*' then .blockStar else .blockComment, [])
  | .blockStar =>
    (if s.isByte '/' then .code else if s.isByte '*' then .blockStar else .blockComment, [])
  | .openQuote => if s.isByte '"' then (.openQuotes, []) else (stepQuoted (byte '"') s, [])
  | .openQuotes => if s.isByte '"' then (.textBlock, []) else stepCode s
  | .quoted q => (stepQuoted q s, [])
  | .quotedEscape q => (if s.isFeed then .code else .quoted q, [])
  | .textBlock => (stepText s, [])
  | .textEscape => (.textBlock, [])
  | .textQuote => if s.isByte '"' then (.textQuotes, []) else (stepText s, [])
  | .textQuotes => if s.isByte '"' then (.code, []) else (stepText s, [])

end LexMode
end JavadocLint
