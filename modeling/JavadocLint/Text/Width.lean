import JavadocLint.Text.Chunk
import JavadocLint.Unicode.Wide

/- How many columns a character takes. Terminals do not agree on it, except that a blank is one
   column; all that is laid out in columns takes their table of widths. -/
namespace JavadocLint

structure WidthTable where
  columns : Nat → Nat
  blank : columns 0x20 = 1

def invisibleRanges : List Nat :=
  [0x070F, 0x070F, 1, 0x180B, 0x180E, 1, 0x200B, 0x200F, 1, 0x2028, 0x202E, 1, 0x206A, 0x206F, 1,
   0xD800, 0xDFFF, 1, 0xFEFF, 0xFEFF, 1, 0xFFF9, 0xFFFB, 1, 0xFFFE, 0xFFFF, 1]

def combiningRanges : List Nat :=
  [0x0300, 0x036F, 1, 0x0483, 0x0487, 1, 0x07EB, 0x07F3, 1, 0x0C00, 0x0C00, 1, 0x0C04, 0x0C04, 1,
   0x0CF3, 0x0CF3, 1, 0x0D00, 0x0D01, 1, 0x135D, 0x135F, 1, 0x1A7F, 0x1A7F, 1, 0x1AB0, 0x1ACE, 1,
   0x1B6B, 0x1B73, 1, 0x1DC0, 0x1DFF, 1, 0x20D0, 0x20F0, 1, 0x2CEF, 0x2CF1, 1, 0x2DE0, 0x2DFF, 1,
   0x3099, 0x309A, 1, 0xA66F, 0xA672, 1, 0xA674, 0xA67D, 1, 0xA69E, 0xA69F, 1, 0xA6F0, 0xA6F1, 1,
   0xA8E0, 0xA8F1, 1, 0xFE20, 0xFE2F, 1, 0x101FD, 0x101FD, 1, 0x10376, 0x1037A, 1,
   0x10EAB, 0x10EAC, 1, 0x10F46, 0x10F50, 1, 0x10F82, 0x10F85, 1, 0x11300, 0x11301, 1,
   0x1133B, 0x1133C, 1, 0x11366, 0x1136C, 1, 0x11370, 0x11374, 1, 0x16AF0, 0x16AF4, 1,
   0x1CF00, 0x1CF2D, 1, 0x1CF30, 0x1CF46, 1, 0x1D165, 0x1D169, 1, 0x1D16D, 0x1D172, 1,
   0x1D17B, 0x1D182, 1, 0x1D185, 0x1D18B, 1, 0x1D1AA, 0x1D1AD, 1, 0x1D242, 0x1D244, 1,
   0x1E000, 0x1E006, 1, 0x1E008, 0x1E018, 1, 0x1E01B, 0x1E021, 1, 0x1E023, 0x1E024, 1,
   0x1E026, 0x1E02A, 1, 0x1E08F, 0x1E08F, 1, 0x1E8D0, 0x1E8D6, 1]

/-- Brackets that count as narrow although their neighbours are wide in some fonts. -/
def narrowRanges : List Nat := [0x27E6, 0x27ED, 1, 0x2985, 0x2986, 1]

def runeWidth (r : Nat) : Nat :=
  if r < 0x20 || (0x7F ≤ r && r ≤ 0x9F) || r = 0xAD then 0
  else if r < 0x300 then 1
  else if Unicode.inRanges r narrowRanges then 1
  else if Unicode.inRanges r invisibleRanges || Unicode.inRanges r combiningRanges then 0
  else if Unicode.inRanges r Unicode.wideRanges then 2
  else 1

/-- Characters whose width is ambiguous are narrow. -/
def WidthTable.narrow : WidthTable := ⟨runeWidth, by decide⟩

def Text.width (w : WidthTable) (t : Text) : Nat := t.runes.foldl (fun n r => n + w.columns r) 0

end JavadocLint
