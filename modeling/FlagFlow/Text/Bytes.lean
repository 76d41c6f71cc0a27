/-!
# Text as bytes

Text is given as bytes, which need not be valid UTF-8: a text that is cut after a number of bytes
may end inside a character. A byte text is read as a list of pieces, each a character or a byte that
belongs to no character.

* `Piece`: a character or a stray byte.
* `pieces`: reads bytes, the longest valid prefix first; a byte that starts no valid encoding is
  stray, and reading goes on after it.
* `Piece.bytes`: the bytes of a piece.
* `utf8`: the bytes of a character string; `ofUtf8`: the string of bytes.
-/

namespace FlagFlow.Text

/-- A unit of a byte text: a character in its encoding, or a byte that belongs to no character. -/
inductive Piece where
  | char (c : Char)
  | stray (b : UInt8)
  deriving DecidableEq, Repr

/-- Whether `b` can continue the encoding of a character. -/
def isTail (b : UInt8) : Bool := 0x80 ≤ b && b ≤ 0xBF

/-- Whether `a b` starts an encoding of three bytes: no shorter encoding exists, and the code point
is no surrogate. -/
def startsThree (a b : UInt8) : Bool :=
  (a == 0xE0 && 0xA0 ≤ b && b ≤ 0xBF) || (a == 0xED && 0x80 ≤ b && b ≤ 0x9F) ||
    (0xE1 ≤ a && a ≤ 0xEF && a != 0xED && isTail b)

/-- Whether `a b` starts an encoding of four bytes: no shorter encoding exists, and the code point
is at most U+10FFFF. -/
def startsFour (a b : UInt8) : Bool :=
  (a == 0xF0 && 0x90 ≤ b && b ≤ 0xBF) || (a == 0xF4 && 0x80 ≤ b && b ≤ 0x8F) ||
    (0xF1 ≤ a && a ≤ 0xF3 && isTail b)

/-- The six payload bits of a continuation byte. -/
def payload (b : UInt8) : Nat := b.toNat - 0x80

/-- The character at the start of `a :: rest`, with the number of bytes of `rest` that it takes. -/
def leading? (a : UInt8) (rest : List UInt8) : Option (Char × Nat) :=
  if a < 0x80 then some (Char.ofNat a.toNat, 0)
  else match rest with
    | [] => none
    | b :: rest =>
      if 0xC2 ≤ a && a ≤ 0xDF && isTail b then
        some (Char.ofNat ((a.toNat - 0xC0) * 64 + payload b), 1)
      else match rest with
        | [] => none
        | c :: rest =>
          if startsThree a b && isTail c then
            some (Char.ofNat ((a.toNat - 0xE0) * 4096 + payload b * 64 + payload c), 2)
          else match rest with
            | [] => none
            | d :: _ =>
              if startsFour a b && isTail c && isTail d then
                some (Char.ofNat ((a.toNat - 0xF0) * 262144 + payload b * 4096 + payload c * 64 +
                  payload d), 3)
              else none

/-- Reads a byte text, where `skip` bytes still belong to the character before. -/
def piecesFrom : Nat → List UInt8 → List Piece
  | _, [] => []
  | skip + 1, _ :: rest => piecesFrom skip rest
  | 0, a :: rest =>
    match leading? a rest with
    | some (c, n) => .char c :: piecesFrom n rest
    | none => .stray a :: piecesFrom 0 rest

def pieces (bs : List UInt8) : List Piece := piecesFrom 0 bs

def utf8 (s : String) : List UInt8 := s.toList.flatMap String.utf8EncodeChar

def Piece.bytes : Piece → List UInt8
  | .char c => String.utf8EncodeChar c
  | .stray b => [b]

/-- The piece as a character; a stray byte becomes the replacement character U+FFFD. -/
def Piece.toChar : Piece → Char
  | .char c => c
  | .stray _ => '�'

/-- The string of a byte text, where stray bytes are replaced. -/
def ofUtf8 (bs : List UInt8) : String := String.ofList ((pieces bs).map Piece.toChar)

end FlagFlow.Text
