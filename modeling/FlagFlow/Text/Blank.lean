/-!
# Blanks

* `isBlank`: the white space of Unicode.
* `trim`: a text without the blanks around it.
* `splitCommas`: the parts of a text between its commas.
-/

namespace FlagFlow.Text

def isBlank (c : Char) : Bool :=
  let n := c.toNat
  (0x09 ≤ n && n ≤ 0x0d) || n = 0x20 || n = 0x85 || n = 0xa0 || n = 0x1680 ||
    (0x2000 ≤ n && n ≤ 0x200a) || n = 0x2028 || n = 0x2029 || n = 0x202f || n = 0x205f || n = 0x3000

/-- A text without the blanks at its start and end. -/
def trim (s : String) : String :=
  String.ofList ((s.toList.dropWhile isBlank).reverse.dropWhile isBlank).reverse

/-- The parts of a text between its commas, empty ones included. -/
def splitCommas (s : String) : List String := (s.toList.splitOn ',').map String.ofList

end FlagFlow.Text
