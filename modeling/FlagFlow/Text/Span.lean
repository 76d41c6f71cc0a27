/-!
# Spans of code points

Sets of code points are given as spans, each a range in which every point or every second point
belongs to the set.

* `Span.mem`, `inSpans`: membership.
-/

namespace FlagFlow.Text

/-- The numbers `lo`, `lo + step`, … up to `hi`. -/
structure Span where
  lo : Nat
  hi : Nat
  step : Nat
  deriving DecidableEq, Repr

/-- Whether a number is in the span. -/
def Span.mem (s : Span) (n : Nat) : Bool := s.lo ≤ n && n ≤ s.hi && (n - s.lo) % s.step == 0

/-- Whether a number is in one of the spans. -/
def inSpans (spans : List Span) (n : Nat) : Bool := spans.any fun s => s.mem n

end FlagFlow.Text
