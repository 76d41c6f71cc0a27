import FlagFlow.Decimal

/-!
# Decimal text of floating-point numbers

* `Decimal.parse?`: reads a decimal number.
* `Decimal.rounded`: a number with a given count of significant digits.
* `Decimal.shortest`: the fewest digits that read back as the same double.
* `Decimal.layout`: the text of the digits; far from one with an exponent.
* `Decimal.brief`: six significant digits, more only if the point would be lost, and no digits for a
  number that is too large.
* `Decimal.remote`: six digits of a number that no double is near to.
-/

namespace FlagFlow.Decimal

/-- The digits at the start of a text, with the rest. -/
def digitsOf (cs : List Char) : List Char × List Char :=
  (cs.takeWhile Char.isDigit, cs.dropWhile Char.isDigit)

def natOf (cs : List Char) : Nat := cs.foldl (fun n c => 10 * n + (c.toNat - '0'.toNat)) 0

/-- Takes a sign from the start of a text. -/
def signOf : List Char → Bool × List Char
  | '-' :: cs => (true, cs)
  | '+' :: cs => (false, cs)
  | cs => (false, cs)

/-- Reads an exponent. -/
def exponentOf? : List Char → Option Int
  | [] => some 0
  | e :: cs =>
    if e = 'e' || e = 'E' then
      let (negative, cs) := signOf cs
      let (digits, rest) := digitsOf cs
      if digits.isEmpty || !rest.isEmpty then none
      else some (if negative then -(natOf digits : Int) else natOf digits)
    else none

/-- Reads a decimal number. -/
def parse? (s : String) : Option Decimal :=
  let (negative, cs) := signOf s.toList
  let (whole, cs) := digitsOf cs
  let (fraction, cs) := match cs with
    | '.' :: cs => digitsOf cs
    | cs => ([], cs)
  if whole.isEmpty && fraction.isEmpty then none
  else (exponentOf? cs).map fun e => ⟨negative, natOf (whole ++ fraction), e - fraction.length⟩

/-- The quotient of two numbers that a decimal number is, without its sign. -/
def ratio (x : Decimal) : Nat × Nat :=
  if 0 ≤ x.exponent then
    (x.digits * Nat.pow 10 x.exponent.toNat, 1) else (x.digits, Nat.pow 10 (-x.exponent).toNat)

/-- Whether the number is an integer. -/
def isInteger (x : Decimal) : Bool := x.ratio.1 % x.ratio.2 = 0

/-- The exact decimal text of a double: `2 ^ -k = 5 ^ k · 10 ^ -k`. -/
def ofBinary (x : Binary) : Decimal :=
  if 0 ≤ x.exponent then ⟨x.negative, x.mantissa * Nat.pow 2 x.exponent.toNat, 0⟩
  else ⟨x.negative, x.mantissa * Nat.pow 5 (-x.exponent).toNat, x.exponent⟩

/-- Drops zeros from the end of the digits, at most `fuel` of them. -/
def trim : (fuel : Nat) → Decimal → Decimal
  | 0, x => x
  | fuel + 1, x =>
    if x.digits ≠ 0 && x.digits % 10 = 0 then trim fuel ⟨x.negative, x.digits / 10, x.exponent + 1⟩ else x

def size (x : Decimal) : Nat := (toString x.digits).length

/-- The number rounded to `n` significant digits, a half to the even neighbour, without zeros at the
end. -/
def rounded (n : Nat) (x : Decimal) : Decimal :=
  let drop := x.size - n
  trim x.size ⟨x.negative, roundHalfEven x.digits (Nat.pow 10 drop), x.exponent + drop⟩

/-- The shortest of the roundings to `1`, `2`, … digits that reads back as the same double. -/
def shortest (x : Decimal) : Decimal :=
  match x.nearest? with
  | none => x
  | some b =>
    let exact := ofBinary b
    let candidates := (List.range 17).map fun n => exact.rounded (n + 1)
    (candidates.find? fun y => y.nearest? = some b).getD exact

/-- The text of digits with a point after the first `n` of them. -/
def pointAfter (n : Nat) (digits : List Char) : List Char :=
  if digits.length ≤ n then digits else digits.take n ++ '.' :: digits.drop n

/-- The text of a number without zeros at the end. Numbers below `10 ^ -4` and from `10 ^ 6` have an
exponent of at least two digits. -/
def layout (x : Decimal) : String :=
  let digits := (toString x.digits).toList
  let e : Int := x.exponent + (digits.length - 1 : Nat)
  let text :=
    if x.digits = 0 then ['0']
    else if e < -4 || 6 ≤ e then
      let n := (toString e.natAbs).toList
      pointAfter 1 digits ++ 'e' :: (if e < 0 then '-' else '+') :: (if n.length < 2 then '0' :: n else n)
    else if e < 0 then '0' :: '.' :: List.replicate (e.natAbs - 1) '0' ++ digits
    else pointAfter (e.toNat + 1) (digits ++ List.replicate x.exponent.toNat '0')
  String.ofList (if x.negative && x.digits ≠ 0 then '-' :: text else text)

/-- The least power of two above a number that is not zero. -/
def powerAbove (x : Decimal) : Int :=
  let (num, den) := x.ratio
  let guess : Int := (num.log2 : Int) - den.log2
  let below := if 0 ≤ guess then
    den * Nat.pow 2 guess.toNat ≤ num else den ≤ num * Nat.pow 2 (-guess).toNat
  if below then guess + 1 else guess

/-- The decimal logarithm of two, in units of `10 ^ -32`. -/
def logTwo : Int := 30102999566398119521373889472449

/-- The decimal exponent of a power of two, without its fraction. -/
def exponentOfPower (n : Int) : Int := Int.tdiv (n * logTwo) (Nat.pow 10 32)

/-- The text of a number that no double is near to. The exponent is that of the least power of two
above the number; it is moved by one if the digits before it are not between one and ten, where what
six digits round to one counts as one. -/
def remote (x : Decimal) : String :=
  let e := exponentOfPower x.powerAbove
  let scaled (e : Int) : Decimal := { x with exponent := x.exponent - e }
  let (num, den) := (scaled e).ratio
  let e := if num * 10000000 < den * 9999995 then e - 1 else if 10 * den ≤ num then e + 1 else e
  ((scaled e).rounded 6).layout ++ "e" ++ (if e < 0 then "-" else "+") ++ toString e.natAbs

/-- The greatest power of ten below which numbers are told apart; the powers of two go to about
`2 ^ 31`. -/
def maxPower : Int := 646456993

/-- Whether a number is too large. One whose binary exponent alone is too small counts as well. -/
def isUnknown (x : Decimal) : Bool :=
  x.exponent + x.size > maxPower || x.exponent + (x.digits.log2 + 1) < -0x80000000

/-- A short text of a number: six digits of the nearest double, and all that are needed if the
number is not an integer and the short text would not show it. -/
def brief (x : Decimal) : String :=
  if x.digits = 0 then "0"
  else if x.isUnknown then "unknown"
  else if x.exponent + x.size < -maxPower then "0"
  else match x.nearest? with
    | none => x.remote
    | some b =>
      if b.mantissa = 0 then x.remote
      else
        let short := ((ofBinary b).rounded 6).layout
        if !x.isInteger && !short.toList.contains '.' then x.shortest.layout else short

end FlagFlow.Decimal
