/-!
# Binary search

* `searchBetween`, `searchFirst`: the first number that satisfies a condition which, once it holds,
  holds for all greater numbers.
-/

namespace FlagFlow

/-- Looks for the first number from `lo` that satisfies `p`, halving the distance to `hi` at most
`fuel` times. -/
def searchBetween (p : Nat → Bool) : (fuel lo hi : Nat) → Nat
  | 0, lo, _ => lo
  | fuel + 1, lo, hi =>
    if lo < hi then
      let mid := (lo + hi) / 2
      if p mid then searchBetween p fuel lo mid else searchBetween p fuel (mid + 1) hi
    else lo

/-- The first number below `n` that satisfies `p`, or `n` if there is none. -/
def searchFirst (n : Nat) (p : Nat → Bool) : Nat := searchBetween p n 0 n

end FlagFlow
