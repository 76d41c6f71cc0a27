/-!
# Types of values

The types that values of a program have, as far as the analysis looks at them.

* `Ty`: a type.
* `Ty.ofName`: the type of a predeclared name.
* `Ty.isPrimitive`: the types whose values have facts.
* `Ty.text`: the text of a type, as seen from a package.
-/

namespace FlagFlow

/-- A type. The package of a defined type may be empty, and a tuple has the values of an expression
with several results. -/
inductive Ty where
  | basic (name : String)
  | interface (name : String)
  | pointer (target : Ty)
  | slice (of : Ty)
  | array (size : Nat) (of : Ty)
  | map (key value : Ty)
  | tuple (parts : List Ty)
  | named (name pkg : String) (under : Ty)
  | record
  | function
  deriving Inhabited

namespace Ty

/-- The type of the results of an expression that has none. -/
def unit : Ty := tuple []

def ofName (name : String) : Ty :=
  if name = "error" || name = "any" then interface name else basic name

/-- Whether a type is a basic one, or is defined as one. -/
def isPrimitive : Ty → Bool
  | basic _ => true
  | named _ _ under => under.isPrimitive
  | _ => false

/-- A name of a package as it is written in another one. -/
def qualify (home pkg name : String) : String :=
  if pkg = "" || pkg = home then name else pkg ++ "." ++ name

mutual

/-- The text of a type as seen from the package `home`, the empty one for a full text. -/
def text (home : String) : Ty → String
  | basic name => name
  | interface name => name
  | pointer target => "*" ++ text home target
  | slice of => "[]" ++ text home of
  | array size of => "[" ++ toString size ++ "]" ++ text home of
  | map key value => "map[" ++ text home key ++ "]" ++ text home value
  | tuple parts => "(" ++ ", ".intercalate (texts home parts) ++ ")"
  | named name pkg _ => qualify home pkg name
  | record => "struct\x7b\x7d"
  | function => "func()"

def texts (home : String) : List Ty → List String
  | [] => []
  | t :: ts => text home t :: texts home ts

end

end Ty

end FlagFlow
