import FlagFlow.Regex.Basic

/-!
# Matching regular expressions

A text of length `n` has the positions from `0` to `n`. A set of them is a number, with a bit for
each position, and an expression moves such a set: from the positions where matches start to all the
positions where they can end.

* `Plan`: an expression, with the positions of a text where its characters and conditions match.
* `Plan.reach`: the positions where matches end that start in a set of positions.
* `Regex.plan`: the plan of an expression, from the positions where its conditions hold.
* `Regex.matchesIn`: whether an expression matches somewhere in a text.
-/

namespace FlagFlow.Regex

/-- The set of the positions below `n` for which `p` holds. -/
def positions (p : Nat → Bool) : Nat → Nat
  | 0 => 0
  | n + 1 => if p n then positions p n ||| 1 <<< n else positions p n

/-- The positions of `s` that are not in `t`. -/
def without (s t : Nat) : Nat := s ^^^ (s &&& t)

/-- An expression that is to be matched in one text; `here` is a set of positions. -/
inductive Plan where
  | stay (here : Nat)
  | step (here : Nat)
  | cat (p q : Plan)
  | alt (p q : Plan)
  | rep (p : Plan) (min max : Nat)

namespace Plan

/-- The positions that are reached from `fresh` by one to `n` steps, together with `found`.
Positions that were `seen` before are not followed again. -/
def follow (step : Nat → Nat) : Nat → (seen found fresh : Nat) → Nat
  | 0, _, found, _ => found
  | n + 1, seen, found, fresh =>
    let next := step fresh
    let fresh := without next seen
    if fresh = 0 then found ||| next else follow step n (seen ||| fresh) (found ||| next) fresh

/-- The positions that are reached from `s` by `min` to `max` steps. -/
def times (step : Nat → Nat) (min max : Nat) (s : Nat) : Nat :=
  match min with
  | 0 => s ||| follow step max s 0 s
  | min + 1 =>
    let s := min.repeat step s
    follow step (max - min) s 0 s

/-- The positions where matches end that start in a set of positions. -/
def reach : Plan → Nat → Nat
  | stay here, s => s &&& here
  | step here, s => (s &&& here) <<< 1
  | cat p q, s => q.reach (p.reach s)
  | alt p q, s => p.reach s ||| q.reach s
  | rep p min max, s => times p.reach min max s

end Plan

/-! ## Matching in a text -/

/-- What an expression asks of a position. -/
inductive Condition where
  | next (s : CharSet)
  | anchor (a : Anchor)
  deriving DecidableEq

/-- Whether a condition holds of position `i`. -/
def Condition.holds (text : Array Char) (i : Nat) : Condition → Bool
  | next s => after text s i
  | anchor a => a.holds text i

/-- The conditions of an expression, each once, together with some others. -/
def conditions : Regex → List Condition → List Condition
  | empty, cs => cs
  | one s, cs => cs.insert (.next s)
  | anchor a, cs => cs.insert (.anchor a)
  | cat r s, cs => s.conditions (r.conditions cs)
  | alt r s, cs => s.conditions (r.conditions cs)
  | group _ r, cs => r.conditions cs
  | rep r _ _, cs => r.conditions cs

/-- The plan of an expression for a text of `n` characters, given the set of all positions and those
where the conditions hold. Among `n + 1` positions, `n + 1` steps beyond the least number reach all
that any number of steps reaches. -/
def plan (n all : Nat) (here : Condition → Nat) : Regex → Plan
  | empty => .stay all
  | one s => .step (here (.next s))
  | anchor a => .stay (here (.anchor a))
  | cat r s => .cat (r.plan n all here) (s.plan n all here)
  | alt r s => .alt (r.plan n all here) (s.plan n all here)
  | group _ r => r.plan n all here
  | rep r min max => .rep (r.plan n all here) min (max.getD (min + n + 1))

/-- Whether the expression matches some part of the text. The positions of a condition are found
once, however often it is asked. -/
def matchesIn (r : Regex) (text : String) : Bool :=
  let chars := text.toList.toArray
  let all := positions (fun _ => true) (chars.size + 1)
  let places := (r.conditions []).map fun c => (c, positions (c.holds chars) (chars.size + 1))
  (r.plan chars.size all fun c => (places.lookup c).getD 0).reach all != 0

end FlagFlow.Regex
