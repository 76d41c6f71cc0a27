/-!
# Machine integers

The range of the integers that a machine word holds.

* `wordLimit`: the first number beyond the signed range.
* `unsignedLimit`: the first number beyond the unsigned range.
-/

namespace FlagFlow

/-- The smallest positive number that a signed word of 64 bits does not hold; its negation is the
smallest one that it holds. -/
def wordLimit : Nat := 0x8000000000000000

/-- The smallest positive number that an unsigned word of 64 bits does not hold. -/
def unsignedLimit : Nat := 0x10000000000000000

end FlagFlow
