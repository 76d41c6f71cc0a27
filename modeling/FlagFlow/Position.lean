/-!
# Positions in source files

* `Spot`: a line and a column.
* `Position`: a line and a column of a file, both counted from one.
* `Position.precedes`, `Position.le`: the order of the positions of a file, and of all files.
* `Position.text`: `file:line:column`.
* `positionText`: the text of a position that may be missing.
-/

namespace FlagFlow

/-- A line and a column, from one. Columns are counted in bytes. -/
abbrev Spot := Nat × Nat

/-- Whether a spot comes before another one. -/
def Spot.before (a b : Spot) : Bool := a.1 < b.1 || (a.1 = b.1 && a.2 < b.2)

def Spot.next (s : Spot) (c : Char) : Spot := if c = '\n' then (s.1 + 1, 1) else (s.1, s.2 + c.utf8Size)

def Spot.after (s : Spot) (text : String) : Spot := text.toList.foldl Spot.next s

/-- A line and a column of a source file, both from one. -/
structure Position where
  file : String
  line : Nat
  column : Nat
  deriving DecidableEq, Repr, Inhabited

def Position.text (p : Position) : String :=
  p.file ++ ":" ++ toString p.line ++ ":" ++ toString p.column

/-- Whether a position comes before another one of the same file. -/
def Position.precedes (p q : Position) : Bool :=
  p.line < q.line || (p.line = q.line && p.column < q.column)

/-- The order of positions: by file, line and column. -/
def Position.le (p q : Position) : Bool := p.file < q.file || (p.file = q.file && !q.precedes p)

/-- The text of a position, a dash if there is none. -/
def positionText : Option Position → String
  | some p => p.text
  | none => "-"

end FlagFlow
