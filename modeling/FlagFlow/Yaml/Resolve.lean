import FlagFlow.Decimal
import FlagFlow.Text.Bytes
import FlagFlow.Text.Quoted
import FlagFlow.Word

/-!
# What a scalar means

A scalar that is not quoted is null, a truth value, a number or a point in time if it looks like
one, and text otherwise. A tag asks for one of these.

* `Meaning`: what a scalar means.
* `resolve`: the meaning of a plain scalar.
* `meaning?`: the meaning of a scalar with a tag or quotes.
* `isOldBool`, `isBase60`: spellings that earlier versions of the format read as something else.
-/

namespace FlagFlow.Yaml

open Text

/-- What a scalar means; `encoded` is text in base 64. -/
inductive Meaning where
  | null
  | bool (b : Bool)
  | int (n : Int)
  | float (x : Binary)
  | infinite (negative : Bool)
  | nan
  | time
  | text
  | encoded (s : String)
  deriving DecidableEq

/-- The scalars that mean something as a whole. -/
def words : List (List String × Meaning) :=
  [(["", "~", "null", "Null", "NULL"], .null),
   (["true", "True", "TRUE"], .bool true),
   (["false", "False", "FALSE"], .bool false),
   ([".nan", ".NaN", ".NAN"], .nan),
   ([".inf", ".Inf", ".INF", "+.inf", "+.Inf", "+.INF"], .infinite false),
   (["-.inf", "-.Inf", "-.INF"], .infinite true)]

/-- A sign at the start, with what follows it. -/
def signed (cs : List Char) : Bool × List Char :=
  match cs with
  | '-' :: rest => (true, rest)
  | '+' :: rest => (false, rest)
  | rest => (false, rest)

/-- The number written by digits of a base up to 16, at least one of them. -/
def inBase? (base : Nat) (cs : List Char) : Option Nat :=
  if cs.isEmpty then none
  else number? base (fun c => (hexValue? c).bind fun v => if v < base then some v else none) cs

/-- An integer without a sign. A base is given by `0x`, `0o`, `0b`, or by a zero in front for octal
numbers. -/
def natural? (cs : List Char) : Option Nat :=
  match cs with
  | '0' :: c :: d :: rest =>
    if c = 'x' || c = 'X' then inBase? 16 (d :: rest)
    else if c = 'o' || c = 'O' then inBase? 8 (d :: rest)
    else if c = 'b' || c = 'B' then inBase? 2 (d :: rest)
    else inBase? 8 (c :: d :: rest)
  | ['0'] => some 0
  | '0' :: rest => inBase? 8 rest
  | cs => inBase? 10 cs

/-- An integer that fits into 64 bits, with a sign, or without a sign and a sign bit. `read` reads
its digits. -/
def wordOf? (read : List Char → Option Nat) (cs : List Char) : Option Int := do
  let (negative, rest) := signed cs
  let n ← read rest
  if negative then if n ≤ wordLimit then some (-(n : Int)) else none
  else if n < wordLimit || (cs = rest && n < unsignedLimit) then some n
  else none

/-- An integer. A sign stands before the base, except that a number in base 2 or 8 that starts with
its base may have one behind it. -/
def integer? (cs : List Char) : Option Int :=
  (wordOf? natural? cs).or <|
    match cs with
    | '0' :: 'b' :: rest => wordOf? (inBase? 2) rest
    | '0' :: 'o' :: rest => wordOf? (inBase? 8) rest
    | _ => none

/-- A decimal number: digits with an optional point, and an optional exponent. -/
def decimal? (cs : List Char) : Option Decimal := do
  let (negative, cs) := signed cs
  let whole := cs.takeWhile Char.isDigit
  let (fraction, cs) := match cs.dropWhile Char.isDigit with
    | '.' :: rest => (rest.takeWhile Char.isDigit, rest.dropWhile Char.isDigit)
    | rest => ([], rest)
  if whole.isEmpty && fraction.isEmpty then none
  let digits ← inBase? 10 (whole ++ fraction)
  let exponent ← match cs with
    | [] => some 0
    | c :: rest =>
      if c = 'e' || c = 'E' then
        let (down, ds) := signed rest
        (inBase? 10 ds).map fun n => if down then -(n : Int) else n
      else none
  return ⟨negative, digits, exponent - fraction.length⟩

/-- A floating-point number, if it is not too great. -/
def float? (cs : List Char) : Option Meaning := (decimal? cs).bind Decimal.nearest? |>.map .float

/-- Whether every underscore stands between digits, given whether a digit stands before. -/
def separatesDigits : Bool → List Char → Bool
  | _, [] => true
  | before, '_' :: rest => before && rest.head?.any Char.isDigit && separatesDigits false rest
  | _, c :: rest => separatesDigits c.isDigit rest

/-! ## Points in time -/

/-- A number of one or two digits, with what follows it. -/
def shortNumber? (cs : List Char) : Option (Nat × List Char) :=
  match cs with
  | a :: b :: rest =>
    if a.isDigit && b.isDigit then (inBase? 10 [a, b]).map (·, rest)
    else if a.isDigit then (inBase? 10 [a]).map (·, b :: rest)
    else none
  | [a] => if a.isDigit then (inBase? 10 [a]).map (·, []) else none
  | [] => none

/-- The number of days of a month. -/
def daysIn (year month : Nat) : Nat :=
  if month = 2 then
    if year % 4 = 0 && (year % 100 != 0 || year % 400 = 0) then 29 else 28
  else if month = 4 || month = 6 || month = 9 || month = 11 then 30
  else 31

/-- What follows a character that has to stand at the start. -/
def expect? (c : Char) : List Char → Option (List Char)
  | d :: rest => if c = d then some rest else none
  | [] => none

/-- A date, with what follows it. -/
def date? (cs : List Char) : Option (List Char) := do
  let year ← if (cs.take 4).all Char.isDigit then inBase? 10 (cs.take 4) else none
  if cs.length < 4 then none
  let rest ← expect? '-' (cs.drop 4)
  let (month, rest) ← shortNumber? rest
  let rest ← expect? '-' rest
  let (day, rest) ← shortNumber? rest
  if 1 ≤ month && month ≤ 12 && 1 ≤ day && day ≤ daysIn year month then some rest else none

/-- A time of day with an optional fraction of a second, with what follows it. -/
def clock? (cs : List Char) : Option (List Char) := do
  let (hour, rest) ← shortNumber? cs
  let rest ← expect? ':' rest
  let (minute, rest) ← shortNumber? rest
  let rest ← expect? ':' rest
  let (second, rest) ← shortNumber? rest
  if hour > 23 || minute > 59 || second > 59 then none
  match rest with
  | c :: d :: more =>
    if (c = '.' || c = ',') && d.isDigit then some (more.dropWhile Char.isDigit) else some rest
  | rest => some rest

/-- Whether the text is a time zone. -/
def isZone (cs : List Char) : Bool :=
  match cs with
  | ['Z'] => true
  | [s, a, b, ':', c, d] =>
    (s = '+' || s = '-') && [a, b, c, d].all Char.isDigit &&
      (inBase? 10 [a, b]).any (· ≤ 24) && (inBase? 10 [c, d]).any (· ≤ 60)
  | _ => false

/-- Whether the text is a date, alone, with a time of day behind spaces, or with a time of day and a
time zone behind the letter T. -/
def isTime (cs : List Char) : Bool :=
  match date? cs with
  | none => false
  | some [] => true
  | some (c :: rest) =>
    if c = ' ' then clock? (rest.dropWhile (· == ' ')) = some []
    else (c = 'T' || c = 't') && (clock? rest).any isZone

/-! ## Resolving -/

/-- What a plain scalar means. Its first character tells what it can be. Underscores in a number do
not count, but one that starts with a point has them between digits only. -/
def resolve (s : String) : Meaning :=
  let cs := s.toList
  match words.find? fun w => w.1.contains s with
  | some w => w.2
  | none =>
    match cs with
    | '.' :: _ =>
      if separatesDigits false cs then (float? (cs.filter (· != '_'))).getD .text else .text
    | c :: _ =>
      if c = '+' || c = '-' || c.isDigit then
        let digits := cs.filter (· != '_')
        if isTime cs then .time
        else match integer? digits with
          | some n => .int n
          | none => (float? digits).getD .text
      else .text
    | [] => .null

/-! ## Tags -/

/-- The start of the tags that the format defines. -/
def commonTag : String := "tag:yaml.org,2002:"

def shortTag (tag : String) : String :=
  if tag.startsWith commonTag then "!!" ++ String.ofList (tag.toList.drop commonTag.length) else tag

/-- The tag of a meaning. -/
def Meaning.tag : Meaning → String
  | null => "!!null"
  | bool _ => "!!bool"
  | int _ => "!!int"
  | float _ => "!!float"
  | infinite _ => "!!float"
  | nan => "!!float"
  | time => "!!timestamp"
  | text => "!!str"
  | encoded _ => "!!binary"

/-- The six bits of a character in base 64. -/
def sixBits? (c : Char) : Option Nat :=
  if 'A' ≤ c && c ≤ 'Z' then some (c.toNat - 'A'.toNat)
  else if 'a' ≤ c && c ≤ 'z' then some (c.toNat - 'a'.toNat + 26)
  else if '0' ≤ c && c ≤ '9' then some (c.toNat - '0'.toNat + 52)
  else if c = '+' then some 62
  else if c = '/' then some 63
  else none

/-- The bytes of a text in base 64. -/
def base64? : List Char → Option (List UInt8)
  | [] => some []
  | a :: b :: c :: d :: rest => do
    let x := (← sixBits? a) * 64 + (← sixBits? b)
    if c = '=' && d = '=' && rest.isEmpty then return [UInt8.ofNat (x / 16)]
    let x := x * 64 + (← sixBits? c)
    if d = '=' && rest.isEmpty then return [UInt8.ofNat (x / 1024), UInt8.ofNat (x / 4)]
    let x := x * 64 + (← sixBits? d)
    return UInt8.ofNat (x / 65536) :: UInt8.ofNat (x / 256) :: UInt8.ofNat x :: (← base64? rest)
  | _ => none

/-- The text that is written in base 64, whose lines may be broken. -/
def encodedText? (s : String) : Option String :=
  (base64? (s.toList.filter fun c => c != '\n' && c != '\r')).map ofUtf8

/-- What a scalar means: quoted ones are text; a tag that the format defines has to agree with the
spelling, where an integer is also a floating-point number; any other tag makes it text. -/
def meaning? (s : String) (plain : Bool) (tag : Option String) : Option Meaning :=
  match tag.map shortTag with
  | none => some (if plain then resolve s else .text)
  | some "!!str" => some .text
  | some "!!binary" => (encodedText? s).map .encoded
  | some tag =>
    if ["!!bool", "!!int", "!!float", "!!null", "!!timestamp"].contains tag then
      match resolve s with
      | .int n =>
        if tag = "!!int" then some (.int n)
        else if tag = "!!float" && n < wordLimit then
          (Decimal.nearest? ⟨n < 0, n.natAbs, 0⟩).map .float
        else none
      | m => if m.tag = tag then some m else none
    else some .text

/-! ## Older spellings -/

/-- Whether the text was once read as a truth value. -/
def isOldBool (s : String) : Bool :=
  ["y", "Y", "yes", "Yes", "YES", "on", "On", "ON", "n", "N", "no", "No", "NO", "off", "Off",
    "OFF"].contains s

/-- Whether what follows a number is made of groups `:m` or `:mm` below sixty, at least `least` of
them, with an optional fraction at the end. -/
def base60Groups (least : Nat) : Nat → List Char → Bool
  | 0, _ => false
  | fuel + 1, cs =>
    match cs with
    | ':' :: rest =>
      match shortNumber? rest with
      | some (n, rest) => n < 60 && base60Groups (least - 1) fuel rest
      | none => false
    | '.' :: rest => least = 0 && rest.all fun c => c.isDigit || c = '_'
    | [] => least = 0
    | _ => false

/-- Whether the text was once read as a number in base sixty, such as `12:30`. -/
def isBase60 (s : String) : Bool :=
  match (signed s.toList).2 with
  | c :: rest =>
    c.isDigit && base60Groups 1 (rest.length + 1) (rest.dropWhile fun c => c.isDigit || c = '_')
  | [] => false

end FlagFlow.Yaml
