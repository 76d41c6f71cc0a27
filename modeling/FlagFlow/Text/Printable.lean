import FlagFlow.Text.Category

/-!
# Printable characters

A character is printable when it is the ASCII space, or a letter, mark, number, punctuation sign or
symbol. Every other character (controls, format characters, other spaces, private use and unassigned
code points) is not.

* `isPrintable`: the predicate.
-/

namespace FlagFlow.Text

/-- Whether a character is printed as it is. The ASCII part is the range from the space to the
tilde; the general category decides about the others. -/
def isPrintable (c : Char) : Bool :=
  if c.toNat < 0x80 then 0x20 ≤ c.toNat && c.toNat ≤ 0x7e
  else inClasses ['L', 'M', 'N', 'P', 'S'] c

end FlagFlow.Text
