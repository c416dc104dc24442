import JavadocLint.Text.Basic

/- Characters as a view of bytes. A text is cut into chunks: a well-formed UTF-8 sequence is one
   chunk, and a byte that begins none is a chunk of its own that reads as U+FFFD. -/
namespace JavadocLint

structure Chunk where
  rune : Nat
  bytes : Text
  deriving DecidableEq, Repr

/-- The code point that stands for a byte outside any well-formed sequence. -/
def replacement : Nat := 0xFFFD

def isContinuation (b : UInt8) : Bool := 0x80 ≤ b && b ≤ 0xBF

/-- The least and greatest second byte after a given lead byte; this excludes overlong forms,
    surrogates and code points past U+10FFFF. -/
def secondRange (lead : UInt8) : UInt8 × UInt8 :=
  if lead = 0xE0 then (0xA0, 0xBF)
  else if lead = 0xED then (0x80, 0x9F)
  else if lead = 0xF0 then (0x90, 0xBF)
  else if lead = 0xF4 then (0x80, 0x8F)
  else (0x80, 0xBF)

def isSecond (lead b : UInt8) : Bool := (secondRange lead).1 ≤ b && b ≤ (secondRange lead).2

def sequence? : Text → Option (Nat × Nat)
  | [] => none
  | a :: t =>
    if a < 0x80 then some (1, a.toNat)
    else if 0xC2 ≤ a && a ≤ 0xDF then
      match t with
      | b :: _ => if isSecond a b then some (2, (a.toNat - 0xC0) * 64 + (b.toNat - 0x80)) else none
      | _ => none
    else if 0xE0 ≤ a && a ≤ 0xEF then
      match t with
      | b :: c :: _ =>
        if isSecond a b && isContinuation c then
          some (3, ((a.toNat - 0xE0) * 64 + (b.toNat - 0x80)) * 64 + (c.toNat - 0x80))
        else none
      | _ => none
    else if 0xF0 ≤ a && a ≤ 0xF4 then
      match t with
      | b :: c :: d :: _ =>
        if isSecond a b && isContinuation c && isContinuation d then
          some (4, (((a.toNat - 0xF0) * 64 + (b.toNat - 0x80)) * 64 + (c.toNat - 0x80)) * 64
            + (d.toNat - 0x80))
        else none
      | _ => none
    else none

def headChunk (b : UInt8) (t : Text) : Chunk :=
  match sequence? (b :: t) with
  | some (width, rune) => ⟨rune, (b :: t).take width⟩
  | none => ⟨replacement, [b]⟩

/-- The first `skip` bytes still belong to the chunk read last. -/
def chunksFrom : Nat → Text → List Chunk
  | _, [] => []
  | 0, b :: t => headChunk b t :: chunksFrom ((headChunk b t).bytes.length - 1) t
  | skip + 1, _ :: t => chunksFrom skip t

namespace Text

def chunks (t : Text) : List Chunk := chunksFrom 0 t

def runes (t : Text) : List Nat := t.chunks.map Chunk.rune

def ofChunks (cs : List Chunk) : Text := cs.flatMap Chunk.bytes

def isValid (t : Text) : Bool := t.chunks.all fun c => (sequence? c.bytes).isSome

/-- The UTF-8 form of a code point; one that has none is written as U+FFFD. -/
def ofRune (r : Nat) : Text :=
  let b (n : Nat) : UInt8 := n.toUInt8
  if r < 0x80 then [b r]
  else if r < 0x800 then [b (0xC0 + r / 64), b (0x80 + r % 64)]
  else if r > 0x10FFFF || (0xD800 ≤ r && r ≤ 0xDFFF) then [0xEF, 0xBF, 0xBD]
  else if r < 0x10000 then [b (0xE0 + r / 4096), b (0x80 + r / 64 % 64), b (0x80 + r % 64)]
  else [b (0xF0 + r / 262144), b (0x80 + r / 4096 % 64), b (0x80 + r / 64 % 64), b (0x80 + r % 64)]

def ofRunes (rs : List Nat) : Text := rs.flatMap ofRune

end Text
end JavadocLint
