import FlagFlow.Text.Bytes
import FlagFlow.Text.Printable

/-!
# Quoted text

Text between double quotes in which every character that does not print is written as an escape
sequence, so that it is harmless on a terminal and inside another format, and can be read back.

* `escapePiece`: a piece of a text between the quotes.
* `quoteBytes`, `quote`: the text with its quotes.
* `escapeBytes`, `escape`: the same without its first and last byte.
* `unescape?`, `unquote?`: reading, for every escape sequence of the format.
-/

namespace FlagFlow.Text

/-- The digit for a number below 16. -/
def hexDigit (n : Nat) : Char := "0123456789abcdef".toList.getD n '0'

/-- The last `width` hexadecimal digits of `n`. -/
def hexDigits : (width n : Nat) → List Char
  | 0, _ => []
  | width + 1, n => hexDigits width (n / 16) ++ [hexDigit (n % 16)]

/-- The letter that follows the backslash for a control character that has one. -/
def controlLetter? (c : Char) : Option Char :=
  match c.toNat with
  | 0x07 => some 'a'
  | 0x08 => some 'b'
  | 0x0c => some 'f'
  | 0x0a => some 'n'
  | 0x0d => some 'r'
  | 0x09 => some 't'
  | 0x0b => some 'v'
  | _ => none

/-- A character as it stands between double quotes. -/
def escapeChar (c : Char) : List Char :=
  if c = '"' || c = '\\' then ['\\', c]
  else if isPrintable c then [c]
  else match controlLetter? c with
    | some l => ['\\', l]
    | none =>
      if c.toNat < 0x80 then '\\' :: 'x' :: hexDigits 2 c.toNat
      else if c.toNat < 0x10000 then '\\' :: 'u' :: hexDigits 4 c.toNat
      else '\\' :: 'U' :: hexDigits 8 c.toNat

/-- A piece of a byte text as it stands between double quotes. -/
def escapePiece : Piece → List Char
  | .char c => escapeChar c
  | .stray b => '\\' :: 'x' :: hexDigits 2 b.toNat

def quoteBytes (bs : List UInt8) : String :=
  "\"" ++ String.ofList ((pieces bs).flatMap escapePiece) ++ "\""

def quote (s : String) : String := "\"" ++ String.ofList (s.toList.flatMap escapeChar) ++ "\""

/-- A text without its first and last byte, if it has as many. -/
def withoutEnds (s : String) : String :=
  let bs := utf8 s
  if 2 ≤ bs.length then ofUtf8 bs.tail.dropLast else s

/-- A byte text in double quotes, without the quotes. -/
def escapeBytes (bs : List UInt8) : String := withoutEnds (quoteBytes bs)

/-- A string in double quotes, without the quotes. -/
def escape (s : String) : String := withoutEnds (quote s)

/-! ## Reading -/

/-- The value of a digit in base 16. -/
def hexValue? (c : Char) : Option Nat :=
  if '0' ≤ c && c ≤ '9' then some (c.toNat - '0'.toNat)
  else if 'a' ≤ c && c ≤ 'f' then some (c.toNat - 'a'.toNat + 10)
  else if 'A' ≤ c && c ≤ 'F' then some (c.toNat - 'A'.toNat + 10)
  else none

/-- The value of a digit in base 8. -/
def octalValue? (c : Char) : Option Nat :=
  if '0' ≤ c && c ≤ '7' then some (c.toNat - '0'.toNat) else none

/-- The number written by digits, the first one the highest; `none` if one of them is no digit. -/
def number? (base : Nat) (digit? : Char → Option Nat) (cs : List Char) : Option Nat :=
  cs.foldl (fun n c => n.bind fun n => (digit? c).map (base * n + ·)) (some 0)

/-- The encoding of a code point; surrogates and numbers beyond U+10FFFF have none. -/
def encodePoint? (n : Nat) : Option (List UInt8) :=
  if n < 0xD800 || (0xDFFF < n && n ≤ 0x10FFFF) then some (String.utf8EncodeChar (Char.ofNat n))
  else none

/-- The bytes of an escape sequence, given the character after the backslash and what follows it,
with the number of following characters that belong to the sequence. -/
def escapeValue? (c : Char) (rest : List Char) : Option (List UInt8 × Nat) :=
  let digits (base width : Nat) (digit? : Char → Option Nat) : Option Nat :=
    if width ≤ rest.length then number? base digit? (rest.take width) else none
  match c with
  | 'a' => some ([0x07], 0)
  | 'b' => some ([0x08], 0)
  | 'f' => some ([0x0c], 0)
  | 'n' => some ([0x0a], 0)
  | 'r' => some ([0x0d], 0)
  | 't' => some ([0x09], 0)
  | 'v' => some ([0x0b], 0)
  | '\\' => some ([0x5c], 0)
  | '"' => some ([0x22], 0)
  | 'x' => (digits 16 2 hexValue?).map fun n => ([UInt8.ofNat n], 2)
  | 'u' => ((digits 16 4 hexValue?).bind encodePoint?).map (·, 4)
  | 'U' => ((digits 16 8 hexValue?).bind encodePoint?).map (·, 8)
  | c => do
    let first ← octalValue? c
    let n ← digits 8 2 octalValue?
    let value := 64 * first + n
    if value ≤ 255 then some ([UInt8.ofNat value], 2) else none

/-- Reads the text between two double quotes, where `skip` characters still belong to the escape
sequence before. A bare quote or newline cannot stand there. -/
def unescapeFrom? : Nat → List Char → Option (List UInt8)
  | _, [] => some []
  | skip + 1, _ :: rest => unescapeFrom? skip rest
  | 0, '\\' :: c :: rest => do
    let (bytes, n) ← escapeValue? c rest
    return bytes ++ (← unescapeFrom? n rest)
  | 0, c :: rest =>
    if c = '"' || c = '\\' || c = '\n' then none
    else (unescapeFrom? 0 rest).map (String.utf8EncodeChar c ++ ·)

/-- Reads the text between two double quotes. -/
def unescape? (cs : List Char) : Option (List UInt8) := unescapeFrom? 0 cs

/-- Reads a text with its double quotes. -/
def unquote? (s : String) : Option (List UInt8) :=
  match s.toList with
  | '"' :: rest => if rest.getLast? = some '"' then unescape? rest.dropLast else none
  | _ => none

end FlagFlow.Text
