/-!
# Decimal numbers and binary floating point

A decimal number with an exponent, and the double-precision number nearest to it.

* `Decimal`: a sign, digits and an exponent.
* `Decimal.nearest?`: the nearest number with 53 significant bits, ties to even; `none` when that is
  beyond the greatest double.
* `Binary.truncate`: the integer part.
-/

namespace FlagFlow

/-- The number `± digits · 10 ^ exponent`. -/
structure Decimal where
  negative : Bool
  digits : Nat
  exponent : Int
  deriving DecidableEq, Repr

/-- The number `± mantissa · 2 ^ exponent`. -/
structure Binary where
  negative : Bool
  mantissa : Nat
  exponent : Int
  deriving DecidableEq, Repr

/-- The quotient rounded to the nearest integer, a half to the even neighbour. -/
def roundHalfEven (num den : Nat) : Nat :=
  let q := num / den
  let r := num % den
  if 2 * r > den || (2 * r = den && q % 2 = 1) then q + 1 else q

/-- The quotient `num / den`, which is not zero, as a number with 53 significant bits. -/
def nearestQuotient (num den : Nat) : Nat × Int :=
  let scaled (k : Int) : Nat × Nat :=
    if 0 ≤ k then (num, den * Nat.pow 2 k.toNat) else (num * Nat.pow 2 (-k).toNat, den)
  let guess : Int := (num.log2 : Int) - (den.log2 : Int) - 52
  let (n, d) := scaled guess
  let exact := if n / d < Nat.pow 2 52 then guess - 1 else guess
  let k := max exact (-1074)
  let (n, d) := scaled k
  (roundHalfEven n d, k)

/-- The double nearest to a decimal number. -/
def Decimal.nearest? (x : Decimal) : Option Binary :=
  let size : Int := (toString x.digits).length
  if x.digits = 0 || x.exponent + size < -400 then some ⟨x.negative, 0, 0⟩
  else if x.exponent + size > 400 then none
  else
    let (num, den) :=
      if 0 ≤ x.exponent then (x.digits * Nat.pow 10 x.exponent.toNat, 1)
      else (x.digits, Nat.pow 10 (-x.exponent).toNat)
    let (m, k) := nearestQuotient num den
    if k ≥ 0 && m * Nat.pow 2 k.toNat ≥ Nat.pow 2 1024 then none else some ⟨x.negative, m, k⟩

def Binary.truncate (x : Binary) : Int :=
  let n : Nat := if 0 ≤ x.exponent then x.mantissa * Nat.pow 2 x.exponent.toNat
    else x.mantissa / Nat.pow 2 (-x.exponent).toNat
  if x.negative then -(n : Int) else n

end FlagFlow
