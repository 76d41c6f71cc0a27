import FlagFlow.Text.Category
import FlagFlow.Text.Fold
import FlagFlow.Text.Script

/-!
# Sets of characters

The character classes of regular expressions.

* `CharSet`: ranges, unions, complements, and closure under case.
* `CharSet.mem`: membership.
* `CharSet.digit`, `CharSet.space`, `CharSet.word`, `CharSet.posix?`, `CharSet.unicode?`: the
  classes that have names.
-/

namespace FlagFlow.Regex

open Text

/-- A set of characters; `anyCase` adds those that differ in case only. -/
inductive CharSet where
  | spans (ss : List Span)
  | union (s t : CharSet)
  | compl (s : CharSet)
  | anyCase (s : CharSet)
  deriving DecidableEq

namespace CharSet

/-- Whether a code point is in the set. -/
def memPoint : CharSet → Nat → Bool
  | spans ss, n => inSpans ss n
  | union s t, n => s.memPoint n || t.memPoint n
  | compl s, n => !s.memPoint n
  | anyCase s, n => (caseVariants n).any s.memPoint

/-- Whether a character is in the set. -/
def mem (s : CharSet) (c : Char) : Bool := s.memPoint c.toNat

def none : CharSet := spans []

def any : CharSet := spans [⟨0, 0x10FFFF, 1⟩]

/-- The code points from `lo` to `hi`. -/
def range (lo hi : Nat) : CharSet := spans [⟨lo, hi, 1⟩]

/-- The set with a single code point. -/
def point (n : Nat) : CharSet := range n n

def char (c : Char) : CharSet := point c.toNat

/-- All characters but the newline. -/
def notNewline : CharSet := compl (char '\n')

/-- The set, closed under case if `fold` holds. -/
def folded (fold : Bool) (s : CharSet) : CharSet := if fold then anyCase s else s

/-- The set, or its complement. -/
def negated (negate : Bool) (s : CharSet) : CharSet := if negate then compl s else s

/-- The ranges between pairs of ASCII characters. -/
def ascii (ranges : List (Char × Char)) : CharSet :=
  spans (ranges.map fun r => ⟨r.1.toNat, r.2.toNat, 1⟩)

/-- Decimal digits. -/
def digit : CharSet := ascii [('0', '9')]

/-- Blanks: tab, newline, form feed, carriage return and space. -/
def space : CharSet := spans [⟨0x09, 0x0a, 1⟩, ⟨0x0c, 0x0d, 1⟩, ⟨0x20, 0x20, 1⟩]

/-- Letters, digits and the underscore. -/
def word : CharSet := ascii [('0', '9'), ('A', 'Z'), ('_', '_'), ('a', 'z')]

/-- The class that stands between the colons of `[:name:]`. -/
def posix? (name : String) : Option CharSet :=
  match name with
  | "alnum" => some (ascii [('0', '9'), ('A', 'Z'), ('a', 'z')])
  | "alpha" => some (ascii [('A', 'Z'), ('a', 'z')])
  | "ascii" => some (range 0 0x7f)
  | "blank" => some (spans [⟨0x09, 0x09, 1⟩, ⟨0x20, 0x20, 1⟩])
  | "cntrl" => some (spans [⟨0, 0x1f, 1⟩, ⟨0x7f, 0x7f, 1⟩])
  | "digit" => some digit
  | "graph" => some (ascii [('!', '~')])
  | "lower" => some (ascii [('a', 'z')])
  | "print" => some (ascii [(' ', '~')])
  | "punct" => some (spans [⟨0x21, 0x2f, 1⟩, ⟨0x3a, 0x40, 1⟩, ⟨0x5b, 0x60, 1⟩, ⟨0x7b, 0x7e, 1⟩])
  | "space" => some (spans [⟨0x09, 0x0d, 1⟩, ⟨0x20, 0x20, 1⟩])
  | "upper" => some (ascii [('A', 'Z')])
  | "word" => some word
  | "xdigit" => some (ascii [('0', '9'), ('A', 'F'), ('a', 'f')])
  | _ => Option.none

/-- The class `\p{name}`: all characters, a general category by its two-letter name, a major class
by its letter, or a script. -/
def unicode? (name : String) : Option CharSet :=
  if name = "Any" then some any
  else
    match Category.all.filter fun k => k.name = name || k.name.toList.take 1 = name.toList with
    | [] => (scripts.lookup name).map spans
    | ks => some (spans (ks.flatMap Category.spans))

end CharSet

end FlagFlow.Regex
