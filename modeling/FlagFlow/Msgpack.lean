import FlagFlow.Text.Bytes

/-!
# MessagePack

A binary format in which every value starts with a head: a byte for its kind, and a number or a
length after it if that does not fit into the byte.

* `Head`: what a value starts with.
* `Head.bytes`: the shortest form of a head; `head?` reads every form.
* `writeText`, `writeInt`, `writeList`: writing values.
* `readText?`, `readInt?`, `readList?`: reading them, where no value at all stands for the empty
  one.
* `skip?`: reading past a value of any kind.
* `RecordField`, `writeRecord`, `readRecord?`: records, written and read by the same fields.
-/

namespace FlagFlow.Msgpack

/-- A byte text that is being read or has been written. -/
abbrev Bytes := List UInt8

/-- What a value starts with: the value itself, or the size in bytes or the length of what
follows. -/
inductive Head where
  | nil
  | bool (b : Bool)
  | int (n : Int)
  | float (size : Nat)
  | text (size : Nat)
  | binary (size : Nat)
  | array (length : Nat)
  | map (length : Nat)
  | extension (size : Nat)
  deriving DecidableEq, Repr

/-! ## Numbers -/

/-- The last `width` bytes of a number, the highest first. -/
def bigEndian : (width n : Nat) → Bytes
  | 0, _ => []
  | width + 1, n => bigEndian width (n / 256) ++ [UInt8.ofNat n]

/-- The number that bytes make, the highest first. -/
def ofBigEndian (bs : Bytes) : Nat := bs.foldl (fun n b => 256 * n + b.toNat) 0

def readNat? (width : Nat) (bs : Bytes) : Option (Nat × Bytes) :=
  if width ≤ bs.length then some (ofBigEndian (bs.take width), bs.drop width) else none

/-- The integer that `width` bytes make when the highest bit is the sign. -/
def signedValue (width n : Nat) : Int := Int.bmod n (Nat.pow 256 width)

/-! ## Heads -/

/-- A kind byte with a length in the fewest of 1, 2 or 4 bytes; a short length is part of the
byte. -/
def sized (short : Nat) (base one two four n : Nat) : Bytes :=
  if n < short then [UInt8.ofNat (base + n)]
  else if n < 256 ∧ one ≠ 0 then UInt8.ofNat one :: bigEndian 1 n
  else if n < 65536 then UInt8.ofNat two :: bigEndian 2 n
  else UInt8.ofNat four :: bigEndian 4 n

/-- The shortest form of an integer. -/
def intBytes (n : Int) : Bytes :=
  if 0 ≤ n then
    let m := n.toNat
    if m < 128 then [UInt8.ofNat m]
    else if m < 0x100 then 0xcc :: bigEndian 1 m
    else if m < 0x10000 then 0xcd :: bigEndian 2 m
    else if m < 0x100000000 then 0xce :: bigEndian 4 m
    else 0xcf :: bigEndian 8 m
  else
    let word (width : Nat) : Nat := (n + Nat.pow 256 width).toNat
    if -32 ≤ n then bigEndian 1 (word 1)
    else if -0x80 ≤ n then 0xd0 :: bigEndian 1 (word 1)
    else if -0x8000 ≤ n then 0xd1 :: bigEndian 2 (word 2)
    else if -0x80000000 ≤ n then 0xd2 :: bigEndian 4 (word 4)
    else 0xd3 :: bigEndian 8 (word 8)

/-- The shortest form of a head. -/
def Head.bytes : Head → Bytes
  | nil => [0xc0]
  | bool b => [if b then 0xc3 else 0xc2]
  | int n => intBytes n
  | float size => [if size = 4 then 0xca else 0xcb]
  | text size => sized 32 0xa0 0xd9 0xda 0xdb size
  | binary size => sized 0 0 0xc4 0xc5 0xc6 size
  | array length => sized 16 0x90 0 0xdc 0xdd length
  | map length => sized 16 0x80 0 0xde 0xdf length
  | extension size => sized 0 0 0xc7 0xc8 0xc9 size

/-- Reads a head. -/
def head? : Bytes → Option (Head × Bytes)
  | [] => none
  | b :: bs =>
    let k := b.toNat
    let sized (width : Nat) (make : Nat → Head) : Option (Head × Bytes) :=
      (readNat? width bs).map fun (n, rest) => (make n, rest)
    let signed (width : Nat) : Option (Head × Bytes) := sized width fun n => .int (signedValue width n)
    if k < 0x80 then some (.int k, bs)
    else if k < 0x90 then some (.map (k - 0x80), bs)
    else if k < 0xa0 then some (.array (k - 0x90), bs)
    else if k < 0xc0 then some (.text (k - 0xa0), bs)
    else if 0xe0 ≤ k then some (.int (signedValue 1 k), bs)
    else match k with
      | 0xc0 => some (.nil, bs)
      | 0xc2 => some (.bool false, bs)
      | 0xc3 => some (.bool true, bs)
      | 0xc4 => sized 1 .binary
      | 0xc5 => sized 2 .binary
      | 0xc6 => sized 4 .binary
      | 0xc7 => sized 1 .extension
      | 0xc8 => sized 2 .extension
      | 0xc9 => sized 4 .extension
      | 0xca => some (.float 4, bs)
      | 0xcb => some (.float 8, bs)
      | 0xcc => sized 1 fun n => .int n
      | 0xcd => sized 2 fun n => .int n
      | 0xce => sized 4 fun n => .int n
      | 0xcf => sized 8 fun n => .int (signedValue 8 n)
      | 0xd0 => signed 1
      | 0xd1 => signed 2
      | 0xd2 => signed 4
      | 0xd3 => signed 8
      | 0xd4 => some (.extension 1, bs)
      | 0xd5 => some (.extension 2, bs)
      | 0xd6 => some (.extension 4, bs)
      | 0xd7 => some (.extension 8, bs)
      | 0xd8 => some (.extension 16, bs)
      | 0xd9 => sized 1 .text
      | 0xda => sized 2 .text
      | 0xdb => sized 4 .text
      | 0xdc => sized 2 .array
      | 0xdd => sized 4 .array
      | 0xde => sized 2 .map
      | 0xdf => sized 4 .map
      | _ => none

/-! ## Writing -/

def writeText (text : Bytes) : Bytes := (Head.text text.length).bytes ++ text

def writeInt (n : Int) : Bytes := (Head.int n).bytes

def writeList (items : List Bytes) : Bytes := (Head.array items.length).bytes ++ items.flatten

/-! ## Reading -/

def skipBytes? (n : Nat) (bs : Bytes) : Option Bytes := if n ≤ bs.length then some (bs.drop n) else none

def skipMany? (one : Bytes → Option Bytes) : Nat → Bytes → Option Bytes
  | 0, bs => some bs
  | n + 1, bs => (one bs).bind (skipMany? one n)

/-- Reads past a value that is nested less than `fuel` deep. -/
def skipWithin? : (fuel : Nat) → Bytes → Option Bytes
  | 0, _ => none
  | fuel + 1, bs =>
    (head? bs).bind fun (h, rest) =>
      match h with
      | .nil | .bool _ | .int _ => some rest
      | .float n | .text n | .binary n => skipBytes? n rest
      | .extension n => skipBytes? (n + 1) rest
      | .array n => skipMany? (skipWithin? fuel) n rest
      | .map n => skipMany? (skipWithin? fuel) (2 * n) rest

/-- Reads past a value. Values cannot be nested deeper than there are bytes. -/
def skip? (bs : Bytes) : Option Bytes := skipWithin? (bs.length + 1) bs

/-- Reads the bytes of a text, in any form. -/
def readText? (bs : Bytes) : Option (Bytes × Bytes) :=
  (head? bs).bind fun (h, rest) =>
    match h with
    | .nil => some ([], rest)
    | .text n | .binary n => if n ≤ rest.length then some (rest.take n, rest.drop n) else none
    | _ => none

def readInt? (bs : Bytes) : Option (Int × Bytes) :=
  (head? bs).bind fun (h, rest) =>
    match h with
    | .nil => some (0, rest)
    | .int n => some (n, rest)
    | _ => none

/-- Reads `n` elements; `old` are the values before, from which elements are updated. -/
def readMany? {α : Type} (item : α → Bytes → Option (α × Bytes)) (empty : α) :
    Nat → List α → Bytes → Option (List α × Bytes)
  | 0, _, bs => some ([], bs)
  | n + 1, old, bs =>
    (item (old.headD empty) bs).bind fun (x, bs) =>
      (readMany? item empty n old.tail bs).map fun (xs, bs) => (x :: xs, bs)

/-- A list that is being read, which may be missing. When it is read again its elements are updated,
and the `spare` ones that a shorter list leaves over come back in a longer one. -/
structure Draft (α : Type) where
  list : Option (List α) := none
  spare : List α := []

/-- Reads a list, which may be missing. -/
def readList? {α : Type} (item : α → Bytes → Option (α × Bytes)) (empty : α) (old : Draft α)
    (bs : Bytes) : Option (Draft α × Bytes) :=
  (head? bs).bind fun (h, rest) =>
    match h with
    | .nil => some ({}, rest)
    | .array n =>
      let known := old.list.getD [] ++ old.spare
      (readMany? item empty n known rest).map fun (xs, bs) => (⟨some xs, known.drop n⟩, bs)
    | _ => none

/-! ## Records -/

/-- A field of records: its name, the bytes of its value in a record of type `S`, if it is not left
out, and how it is read into a record of type `D`. -/
structure RecordField (S D : Type) where
  key : String
  write : S → Option Bytes
  update : D → Bytes → Option (D × Bytes)

section

variable {S D : Type}

/-- The fields of a record, each after its name, without those that are left out. -/
def writeFields (fields : List (RecordField S D)) (s : S) : List Bytes :=
  fields.filterMap fun f => (f.write s).map fun v => writeText (Text.utf8 f.key) ++ v

def writeRecord (fields : List (RecordField S D)) (s : S) : Bytes :=
  (Head.map (writeFields fields s).length).bytes ++ (writeFields fields s).flatten

/-- Reads a field of a record; fields with other names are skipped. -/
def readField? (fields : List (RecordField S D)) (x : D) (bs : Bytes) : Option (D × Bytes) :=
  (readText? bs).bind fun (key, bs) =>
    match fields.find? fun f => Text.utf8 f.key = key with
    | some f => f.update x bs
    | none => (skip? bs).map fun bs => (x, bs)

def readFields? (fields : List (RecordField S D)) : Nat → D → Bytes → Option (D × Bytes)
  | 0, x, bs => some (x, bs)
  | n + 1, x, bs => (readField? fields x bs).bind fun (x, bs) => readFields? fields n x bs

/-- Reads the fields of a record in their order. -/
def readInOrder? : List (RecordField S D) → D → Bytes → Option (D × Bytes)
  | [], x, bs => some (x, bs)
  | f :: fs, x, bs => (f.update x bs).bind fun (x, bs) => readInOrder? fs x bs

/-- Reads a record by the names of its fields, or as a list of all its fields; a field that is
repeated counts the last time. -/
def readRecord? (fields : List (RecordField S D)) (empty old : D) (bs : Bytes) : Option (D × Bytes) :=
  (head? bs).bind fun (h, rest) =>
    match h with
    | .nil => some (empty, rest)
    | .map n => readFields? fields n old rest
    | .array n =>
      if n = 0 then some (empty, rest)
      else if n = fields.length then readInOrder? fields old rest
      else none
    | _ => none

end

end FlagFlow.Msgpack
