import FlagFlow.Code.Type
import FlagFlow.Decimal.Digits
import FlagFlow.Position
import FlagFlow.Text.Quoted
import FlagFlow.Word

/-!
# Operands of instructions

* `Literal`: the value of a constant, with its text.
* `FuncRef`: the mention of a function.
* `Operand`: what an instruction works on. Variables of packages and functions are known by a number
  that all mentions of the same one share.
-/

namespace FlagFlow

/-- The value of a constant. -/
inductive Literal where
  | int (n : Int)
  | bool (b : Bool)
  | string (s : String)
  | float (x : Decimal)
  | nil

namespace Literal

/-- The bytes that the text of a long string may have. -/
def stringLimit : Nat := 20

/-- The bytes of a string constant that are shown: those of a long one are cut and end in dots. -/
def shownBytes (s : String) : List UInt8 :=
  let bytes := Text.utf8 s
  if stringLimit < bytes.length then bytes.take (stringLimit - 3) ++ Text.utf8 "..." else bytes

def text : Literal → String
  | int n => toString n
  | bool b => if b then "true" else "false"
  | string s => Text.quoteBytes (shownBytes s)
  | float x => x.brief
  | nil => "nil"

/-- The value of an integer or truth value. Of integers that do not fit 64 bits only the sign is
kept. -/
def integer? : Literal → Option Int
  | int n => some (if -wordLimit ≤ n && n < wordLimit then n else n.sign)
  | bool b => some (if b then 1 else 0)
  | _ => none

end Literal

/-- The mention of a function, with the type of its receiver if it is a method, and the name of the
generic function of which it is an instance. -/
structure FuncRef where
  name : String
  pkg : String := ""
  receiver : Option Ty := none
  origin : Option String := none
  variadic : Bool := false
  position : Option Position := none
  object : Nat := 0

/-- The text of a mention of a function, as seen from the package `home`. -/
def FuncRef.text (home : String) (f : FuncRef) : String :=
  match f.receiver with
  | some t => "(" ++ t.text home ++ ")." ++ f.name
  | none => Ty.qualify home f.pkg f.name

/-- What an instruction works on: a register, a parameter or a variable of the enclosing function by
number, a constant, a variable of a package, a function of the language, or a function. -/
inductive Operand where
  | register (n : Nat)
  | param (i : Nat)
  | free (i : Nat)
  | const (value : Literal) (type : Ty)
  | global (object : Nat) (name pkg : String) (type : Ty) (position : Option Position)
  | builtin (object : Nat) (name : String) (variadic : Bool)
  | func (f : FuncRef)
  deriving Inhabited

end FlagFlow
