import FlagFlow.Regex.Basic

/-!
# The nesting and the size of regular expressions

How deeply an expression is nested and how large it is are counted on its shape, in which characters
that stand side by side are one literal, groups that only bracket are gone, and alternatives share
what they start with.

* `Shape`: the nodes of an expression.
* `Shape.height`: the number of nodes on the longest way down.
* `Shape.extent`: the size when repetitions are written out.
* `Shape.sequenceOf`, `Shape.choiceOf`: the shapes of items in a row and of alternatives.
* `Regex.shape`: the shape of an expression.
-/

namespace FlagFlow.Regex

/-- The shape of an expression; a literal may match without regard to case. -/
inductive Shape where
  | empty
  | literal (points : List Nat) (fold : Bool)
  | set (s : CharSet)
  | anchor
  | capture (s : Shape)
  | rep (s : Shape) (min : Nat) (max : Option Nat)
  | sequence (ss : List Shape)
  | choice (ss : List Shape)

/-- The code point that is the only member of a set, and whether the set has its case variants as
well. A class in brackets that has just one or two members counts. -/
def CharSet.literal? : CharSet → Option (Nat × Bool)
  | spans [s] => if s.lo = s.hi then some (s.lo, false) else Option.none
  | anyCase (spans [s]) => if s.lo = s.hi then some (Text.foldPoint s.lo, true) else Option.none
  | union (spans []) (spans [s]) => if s.lo = s.hi then some (s.lo, false) else Option.none
  | union (spans []) (anyCase (spans [s])) =>
    if s.lo = s.hi then
      match (Text.caseVariants s.lo).eraseDups with
      | [n] => some (n, false)
      | [_, _] => some (Text.foldPoint s.lo, true)
      | _ => Option.none
    else Option.none
  | _ => Option.none

namespace Shape

/-! ## Height and size -/

mutual

/-- The number of nodes on the longest way down. -/
def height : Shape → Nat
  | capture s => s.height + 1
  | rep s _ _ => s.height + 1
  | sequence ss => heights ss + 1
  | choice ss => heights ss + 1
  | _ => 1

def heights : List Shape → Nat
  | [] => 0
  | s :: ss => max s.height (heights ss)

end

mutual

def nodes : Shape → Nat
  | capture s => s.nodes + 1
  | rep s _ _ => s.nodes + 1
  | sequence ss => nodesOf ss + 1
  | choice ss => nodesOf ss + 1
  | _ => 1

/-- The number of nodes of some shapes together. -/
def nodesOf : List Shape → Nat
  | [] => 0
  | s :: ss => s.nodes + nodesOf ss

end

mutual

/-- The size when repetitions are written out: `x{2,4}` counts as `xx(x(x)?)?`, and `x{2,}` as
`xx+`. -/
def extent : Shape → Nat
  | literal ps _ => ps.length
  | capture s => s.extent + 2
  | rep s 0 none => s.extent + 2
  | rep s min none => min * s.extent + 1
  | rep s min (some max) => Nat.max 1 (max * s.extent + (max - min))
  | sequence ss => extents ss
  | choice ss => extents ss + (ss.length - 1)
  | _ => 1

/-- The size of some shapes together when repetitions are written out. -/
def extents : List Shape → Nat
  | [] => 0
  | s :: ss => s.extent + extents ss

end

mutual

/-- The number of nodes, and of characters of literals. -/
def size : Shape → Nat
  | literal ps _ => ps.length + 1
  | capture s => s.size + 1
  | rep s _ _ => s.size + 1
  | sequence ss => sizes ss + 1
  | choice ss => sizes ss + 1
  | _ => 1

def sizes : List Shape → Nat
  | [] => 0
  | s :: ss => s.size + sizes ss

end

/-! ## Rows -/

/-- Items in a row, of which those that are literals side by side are one. -/
def joinLiterals : List Shape → List Shape
  | [] => []
  | s :: ss =>
    match s, joinLiterals ss with
    | literal ps f, literal qs g :: rest =>
      if f = g then literal (ps ++ qs) f :: rest else s :: literal qs g :: rest
    | s, rest => s :: rest

def row : Shape → List Shape
  | sequence ss => ss
  | s => [s]

/-- A row of items; a single one stands for itself. -/
def ofRow : List Shape → Shape
  | [] => empty
  | [s] => s
  | ss => sequence ss

/-- The shape of items in a row. A row inside a row is not kept apart. -/
def sequenceOf (ss : List Shape) : Shape := ofRow ((joinLiterals ss).flatMap row)

/-! ## Alternatives -/

/-- The set of a shape that is one character. -/
def single? : Shape → Option CharSet
  | literal [n] fold => some ((CharSet.point n).folded fold)
  | set s => some s
  | _ => none

/-- Alternatives of which those that are one character, side by side, are one set. -/
def joinSingles : List Shape → List Shape
  | [] => []
  | s :: ss =>
    match joinSingles ss with
    | [] => [s]
    | t :: rest =>
      match s.single?, t.single? with
      | some a, some b => (if a = b then s else set (.union a b)) :: rest
      | _, _ => s :: t :: rest

/-- Alternatives without an empty one before another empty one. -/
def joinEmpty : List Shape → List Shape
  | empty :: empty :: ss => joinEmpty (empty :: ss)
  | s :: ss => s :: joinEmpty ss
  | [] => []

/-- The runs of neighbours whose beginnings have something in common, as `meet` tells, with what
that is. The run that is open has begun with `kept`. -/
def runsFrom {α : Type} (start : Shape → α) (meet : α → α → Option α) (common : α) (kept : List Shape) :
    List Shape → List (α × List Shape)
  | [] => [(common, kept.reverse)]
  | s :: ss =>
    match meet common (start s) with
    | some common => runsFrom start meet common (s :: kept) ss
    | none => (common, kept.reverse) :: runsFrom start meet (start s) [s] ss

/-- The runs of neighbours whose beginnings have something in common. -/
def runs {α : Type} (start : Shape → α) (meet : α → α → Option α) : List Shape → List (α × List Shape)
  | [] => []
  | s :: ss => runsFrom start meet (start s) [s] ss

/-- The literal that a shape starts with. -/
def leadingPoints : Shape → List Nat × Bool
  | literal ps f => (ps, f)
  | sequence (literal ps f :: _) => (ps, f)
  | _ => ([], false)

/-- The characters that two lists both start with. -/
def commonStart : List Nat → List Nat → List Nat
  | a :: as, b :: bs => if a = b then a :: commonStart as bs else []
  | _, _ => []

/-- What two literals both start with, if that is any character. -/
def meetPoints (a b : List Nat × Bool) : Option (List Nat × Bool) :=
  let ps := commonStart a.1 b.1
  if a.2 = b.2 && !ps.isEmpty then some (ps, a.2) else none

/-- A shape without the first `n` characters of the literal that it starts with. -/
def dropPoints (n : Nat) : Shape → Shape
  | literal ps f => if ps.length ≤ n then empty else literal (ps.drop n) f
  | sequence (literal ps f :: ss) =>
    if ps.length ≤ n then ofRow ss else sequence (literal (ps.drop n) f :: ss)
  | s => s

/-- The item that a shape starts with. -/
def leadingItem : Shape → Shape
  | sequence (s :: _) => s
  | s => s

/-- The first of two items, if they are the same set of characters, taken the same number of
times. -/
def meetItems (a b : Shape) : Option Shape :=
  match a, b with
  | rep s m (some n), rep t k (some l) =>
    if m = n && k = l && m = k && s.single?.isSome && s.single? = t.single? then some a else none
  | a, b => if a.single?.isSome && a.single? = b.single? then some a else none

/-- A shape without the item that it starts with. -/
def dropItem : Shape → Shape
  | sequence (_ :: ss) => ofRow ss
  | _ => empty

def alternatives : Shape → List Shape
  | choice ss => ss
  | s => [s]

/-- The shape of alternatives. A choice inside a choice is not kept apart, and what neighbours start
with is taken out in front of them: first literals, then sets of characters. Each taking out makes
the rest smaller, so `fuel` is at most the size. -/
def factored : Nat → List Shape → Shape
  | 0, ss => choice ss
  | _ + 1, [s] => s
  | fuel + 1, ss =>
    let ss := ss.flatMap alternatives
    let ss := (runs leadingPoints meetPoints ss).map fun (common, run) =>
      match run with
      | [s] => s
      | run => sequence [literal common.1 common.2, factored fuel (run.map (dropPoints common.1.length))]
    let ss := (runs leadingItem meetItems ss).map fun (common, run) =>
      match run with
      | [s] => s
      | run => sequence [common, factored fuel (run.map dropItem)]
    match joinEmpty (joinSingles ss) with
    | [s] => s
    | ss => choice ss

def choiceOf (ss : List Shape) : Shape := factored (sizes ss + 1) (joinSingles ss)

end Shape

/-! ## The shape of an expression -/

/-- A part of an expression whose end is still open, with the last of its pieces first. -/
inductive Pieces where
  | whole (s : Shape)
  | items (ss : List Shape)
  | options (ss : List Shape)

def Pieces.close : Pieces → Shape
  | whole s => s
  | items ss => .sequenceOf ss.reverse
  | options ss => .choiceOf ss.reverse

/-- The pieces of an expression. -/
def pieces : Regex → Pieces
  | empty => .whole .empty
  | one s => .whole (match s.literal? with
    | some (n, fold) => .literal [n] fold
    | none => .set s)
  | anchor _ => .whole .anchor
  | group captures r => .whole (if captures then .capture r.pieces.close else r.pieces.close)
  | rep r min max => .whole (.rep r.pieces.close min max)
  | cat r s =>
    match r.pieces with
    | .items ss => .items (s.pieces.close :: ss)
    | p => .items [s.pieces.close, p.close]
  | alt r s =>
    match r.pieces with
    | .options ss => .options (s.pieces.close :: ss)
    | p => .options [s.pieces.close, p.close]

def shape (r : Regex) : Shape := r.pieces.close

end FlagFlow.Regex
