import JavadocLint.Text.Basic

/- MessagePack, the binary format of cache files: values, their bytes, and reading them back. -/
namespace JavadocLint

/-- A time counts nanoseconds. -/
inductive Packed where
  | nil
  | bool (b : Bool)
  | int (i : Int)
  | text (t : Text)
  | binary (t : Text)
  | array (items : List Packed)
  | map (fields : List (Packed × Packed))
  | time (nanoseconds : Int)
  /-- Numbers with a fraction, and application types. -/
  | other (tag : UInt8) (data : Text)
  deriving Repr

namespace Packed

def bigEndian : Nat → Nat → Text
  | 0, _ => []
  | n + 1, x => bigEndian n (x / 256) ++ [(x % 256).toUInt8]

def ofBigEndian (t : Text) : Nat := t.foldl (fun n b => n * 256 + b.toNat) 0

def twosComplement (n : Nat) (i : Int) : Text := bigEndian n (i % Nat.pow 256 n).toNat

def ofTwosComplement (t : Text) : Int :=
  let n := ofBigEndian t
  if 2 * n < Nat.pow 256 t.length then n else (n : Int) - Nat.pow 256 t.length

def encodeInt (i : Int) : Text :=
  if 0 ≤ i then
    if i < 0x80 then bigEndian 1 i.toNat
    else if i < 0x100 then 0xcc :: bigEndian 1 i.toNat
    else if i < 0x10000 then 0xcd :: bigEndian 2 i.toNat
    else if i < 0x100000000 then 0xce :: bigEndian 4 i.toNat
    else 0xcf :: bigEndian 8 i.toNat
  else if -0x20 ≤ i then twosComplement 1 i
  else if -0x80 ≤ i then 0xd0 :: twosComplement 1 i
  else if -0x8000 ≤ i then 0xd1 :: twosComplement 2 i
  else if -0x80000000 ≤ i then 0xd2 :: twosComplement 4 i
  else 0xd3 :: twosComplement 8 i

/-- A length below `short` stands in the tag itself; longer ones follow the tag in two or four
    bytes. -/
def encodeLength (short : Nat) (tag tag16 : UInt8) (n : Nat) : Text :=
  if n < short then [tag + n.toUInt8]
  else if n < 0x10000 then tag16 :: bigEndian 2 n
  else (tag16 + 1) :: bigEndian 4 n

def encodeText (t : Text) : Text :=
  (if t.length < 32 then [0xa0 + t.length.toUInt8]
    else if t.length < 0x100 then 0xd9 :: bigEndian 1 t.length
    else if t.length < 0x10000 then 0xda :: bigEndian 2 t.length
    else 0xdb :: bigEndian 4 t.length) ++ t

def encodeBinary (t : Text) : Text :=
  (if t.length < 0x100 then 0xc4 :: bigEndian 1 t.length
    else if t.length < 0x10000 then 0xc5 :: bigEndian 2 t.length
    else 0xc6 :: bigEndian 4 t.length) ++ t

def encodeTime (nanoseconds : Int) : Text :=
  let seconds := Int.fdiv nanoseconds 1000000000
  let fraction := (Int.fmod nanoseconds 1000000000).toNat
  if 0 ≤ seconds && seconds < 0x400000000 then
    if fraction = 0 && seconds < 0x100000000 then 0xd6 :: 0xff :: bigEndian 4 seconds.toNat
    else 0xd7 :: 0xff :: bigEndian 8 (fraction * 0x400000000 + seconds.toNat)
  else 0xc7 :: 12 :: 0xff :: (bigEndian 4 fraction ++ twosComplement 8 seconds)

mutual
def encode : Packed → Text
  | .nil => [0xc0]
  | .bool b => [if b then 0xc3 else 0xc2]
  | .int i => encodeInt i
  | .text t => encodeText t
  | .binary t => encodeBinary t
  | .array items => encodeLength 16 0x90 0xdc items.length ++ encodeItems items
  | .map fields => encodeLength 16 0x80 0xde fields.length ++ encodeFields fields
  | .time nanoseconds => encodeTime nanoseconds
  | .other tag data => tag :: data

def encodeItems : List Packed → Text
  | [] => []
  | p :: rest => p.encode ++ encodeItems rest

def encodeFields : List (Packed × Packed) → Text
  | [] => []
  | (key, value) :: rest => key.encode ++ value.encode ++ encodeFields rest
end

def takeBytes? (n : Nat) (t : Text) : Option (Text × Text) :=
  if n ≤ t.length then some (t.take n, t.drop n) else none

def takeNat? (n : Nat) (t : Text) : Option (Nat × Text) :=
  (takeBytes? n t).map fun (bytes, rest) => (ofBigEndian bytes, rest)

def ofSeconds (seconds : Int) (fraction : Nat) : Packed := .time (seconds * 1000000000 + fraction)

def ofApplication (tag : UInt8) (data : Text) : Packed :=
  if tag = 0xff && data.length = 4 then ofSeconds (ofBigEndian data) 0
  else if tag = 0xff && data.length = 8 then
    ofSeconds (ofBigEndian data % 0x400000000 : Nat) (ofBigEndian data / 0x400000000)
  else if tag = 0xff && data.length = 12 then
    ofSeconds (ofTwosComplement (data.drop 4)) (ofBigEndian (data.take 4))
  else .other tag data

def application? (n : Nat) (t : Text) : Option (Packed × Text) :=
  match t with
  | [] => none
  | tag :: rest => (takeBytes? n rest).map fun (data, rest) => (ofApplication tag data, rest)

inductive Content where
  | value (p : Packed)
  | items (count : Nat)
  | fields (count : Nat)

def counted? (n : Nat) (t : Text) (make : Text → Packed) : Option (Content × Text) := do
  let (length, rest) ← takeNat? n t
  let (data, rest) ← takeBytes? length rest
  return (.value (make data), rest)

def unsigned? (n : Nat) (t : Text) : Option (Content × Text) :=
  (takeNat? n t).map fun (x, rest) => (.value (.int x), rest)

def signed? (n : Nat) (t : Text) : Option (Content × Text) :=
  (takeBytes? n t).map fun (bytes, rest) => (.value (.int (ofTwosComplement bytes)), rest)

def content? (tag : UInt8) (t : Text) : Option (Content × Text) :=
  let value (p : Packed) : Option (Content × Text) := some (.value p, t)
  let applied (n : Nat) (t : Text) : Option (Content × Text) :=
    (application? n t).map fun (p, rest) => (.value p, rest)
  if tag < 0x80 then value (.int tag.toNat)
  else if tag < 0x90 then some (.fields (tag.toNat - 0x80), t)
  else if tag < 0xa0 then some (.items (tag.toNat - 0x90), t)
  else if tag < 0xc0 then
    (takeBytes? (tag.toNat - 0xa0) t).map fun (data, rest) => (.value (.text data), rest)
  else if tag = 0xc0 then value .nil
  else if tag = 0xc1 then none
  else if tag = 0xc2 then value (.bool false)
  else if tag = 0xc3 then value (.bool true)
  else if tag = 0xc4 then counted? 1 t .binary
  else if tag = 0xc5 then counted? 2 t .binary
  else if tag = 0xc6 then counted? 4 t .binary
  else if tag < 0xca then do
    let (n, rest) ← takeNat? (Nat.pow 2 (tag.toNat - 0xc7)) t
    applied n rest
  else if tag < 0xcc then
    (takeBytes? (if tag = 0xca then 4 else 8) t).map fun (data, rest) =>
      (.value (.other tag data), rest)
  else if tag < 0xd0 then unsigned? (Nat.pow 2 (tag.toNat - 0xcc)) t
  else if tag < 0xd4 then signed? (Nat.pow 2 (tag.toNat - 0xd0)) t
  else if tag < 0xd9 then applied (Nat.pow 2 (tag.toNat - 0xd4)) t
  else if tag = 0xd9 then counted? 1 t .text
  else if tag = 0xda then counted? 2 t .text
  else if tag = 0xdb then counted? 4 t .text
  else if tag < 0xde then
    (takeNat? (2 * (tag.toNat - 0xdb)) t).map fun (n, rest) => (.items n, rest)
  else if tag < 0xe0 then
    (takeNat? (2 * (tag.toNat - 0xdd)) t).map fun (n, rest) => (.fields n, rest)
  else value (.int ((tag.toNat : Int) - 0x100))

def pairs : List Packed → List (Packed × Packed)
  | key :: value :: rest => (key, value) :: pairs rest
  | _ => []

mutual
def decodeValue : Nat → Text → Option (Packed × Text)
  | 0, _ => none
  | _ + 1, [] => none
  | fuel + 1, tag :: t => do
    match ← content? tag t with
    | (.value p, rest) => return (p, rest)
    | (.items n, rest) =>
      let (items, rest) ← decodeValues fuel n rest
      return (.array items, rest)
    | (.fields n, rest) =>
      let (items, rest) ← decodeValues fuel (2 * n) rest
      return (.map (pairs items), rest)

def decodeValues : Nat → Nat → Text → Option (List Packed × Text)
  | _, 0, t => some ([], t)
  | 0, _ + 1, _ => none
  | fuel + 1, n + 1, t => do
    let (p, rest) ← decodeValue fuel t
    let (items, rest) ← decodeValues fuel n rest
    return (p :: items, rest)
end

/-- The first value of a byte string. Every value takes a byte, so its length bounds the depth. -/
def decode (t : Text) : Option Packed := (decodeValue (2 * t.length + 2) t).map Prod.fst

end Packed
end JavadocLint
