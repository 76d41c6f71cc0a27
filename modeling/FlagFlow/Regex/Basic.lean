import FlagFlow.Regex.CharSet

/-!
# Regular expressions

* `Regex`: the expressions. Counted repetition is a construct of its own.
* `Regex.Anchor.holds`: where in a text the conditions on positions hold.
-/

namespace FlagFlow

/-- A condition on a position of a text. Lines start and end where the text does, too, and a word
boundary is between a word character and another or none. -/
inductive Regex.Anchor where
  | textStart
  | textEnd
  | lineStart
  | lineEnd
  | wordBoundary
  | noWordBoundary
  deriving DecidableEq, Repr

/-- A regular expression. A group may remember what it matches, and a repetition may have no
limit. -/
inductive Regex where
  | empty
  | one (s : Regex.CharSet)
  | anchor (a : Regex.Anchor)
  | cat (r s : Regex)
  | alt (r s : Regex)
  | group (captures : Bool) (r : Regex)
  | rep (r : Regex) (min : Nat) (max : Option Nat)

namespace Regex

/-- Whether the character before position `i` is in a set. -/
def before (text : Array Char) (s : CharSet) (i : Nat) : Bool :=
  i != 0 && (text[i - 1]?).any s.mem

/-- Whether the character after position `i` is in a set. -/
def after (text : Array Char) (s : CharSet) (i : Nat) : Bool := (text[i]?).any s.mem

/-- Whether a condition holds of position `i`. -/
def Anchor.holds (text : Array Char) (i : Nat) : Anchor → Bool
  | textStart => i == 0
  | textEnd => i == text.size
  | lineStart => i == 0 || before text (.char '\n') i
  | lineEnd => i == text.size || after text (.char '\n') i
  | wordBoundary => before text .word i != after text .word i
  | noWordBoundary => before text .word i == after text .word i

end Regex

end FlagFlow
