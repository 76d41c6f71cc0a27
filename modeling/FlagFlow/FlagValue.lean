import FlagFlow.Text.Quoted

/-!
# Flag values

What is known about a value, or about the condition under which a program point is reached, with
respect to the feature flag `A`.

* `FlagValue`: the seven values; `FlagValue.text` and `FlagValue.parse?` write and read them.
* `FlagValue.negate`: the value of the negation.
* `FlagValue.dependsOnFlag`: whether the value is the flag or its negation.
* `FlagValue.code`: the number of a value, with the names of the numbers that are no value.
-/

namespace FlagFlow

/-- What is known about a value with respect to the flag. `bottom` is nothing yet, `one` a constant
other than zero, `external` the condition under which a function is called from outside. -/
inductive FlagValue where
  | bottom
  | flag
  | notFlag
  | one
  | zero
  | external
  | unknown
  deriving DecidableEq, Repr

namespace FlagValue

/-- Nothing has been computed yet. -/
instance : Inhabited FlagValue := ⟨bottom⟩

/-- All values, in the order of their numbers. -/
def all : List FlagValue := [bottom, flag, notFlag, one, zero, external, unknown]

/-- The text of a value. -/
def text : FlagValue → String
  | bottom => "_"
  | flag => "A"
  | notFlag => "!A"
  | one => "1"
  | zero => "0"
  | external => "E"
  | unknown => "?"

def parse? (name : String) : Option FlagValue := all.find? fun x => x.text = name

/-- The complaint about a text that is no value. -/
def parseFailure (name : String) : String := "unknown feature state " ++ Text.quote name

/-- The value of a negation. Only the flag and its negation have a known one. -/
def negate : FlagValue → FlagValue
  | flag => notFlag
  | notFlag => flag
  | _ => unknown

/-- Whether the value is the flag or its negation. -/
def dependsOnFlag (x : FlagValue) : Bool := x = flag || x = notFlag

/-! ## Numbers -/

/-- The number of a value. -/
def code : FlagValue → Nat
  | bottom => 0
  | flag => 1
  | notFlag => 2
  | one => 3
  | zero => 4
  | external => 5
  | unknown => 6

def ofCode? (n : Nat) : Option FlagValue := all[n]?

/-- The text of a number, also of one that belongs to no value. -/
def codeText (n : Nat) : String :=
  match ofCode? n with
  | some x => x.text
  | none => "FeatureState(" ++ toString n ++ ")"

end FlagValue

end FlagFlow
