import FlagFlow.Stmt

/-!
# The effect of a statement

A statement turns what is known before it into what is known after it, along its fall-through edges
and along its branch edges.

* `Stmt.transfer`: the two outputs.
* `Stmt.markFlag`, `Stmt.split`, `Stmt.define`: the parts of the effect, in their order.
* `Stmt.lacksArgument`: a feature call whose first argument is missing, which has no meaning.
-/

namespace FlagFlow

/-- The function whose first argument carries the flag when no others are named. -/
def defaultCallee : String := "makeFeature"

namespace Stmt

variable {V : Type}

/-- The first argument of a call of a feature callee. -/
def flagArgument? (isFeature : String → Bool) (stmt : Stmt V) : Option (Expr V) :=
  match stmt.call with
  | some ⟨callee, arg :: _⟩ => if isFeature callee then some arg else none
  | _ => none

/-- Whether the statement is a feature call with an argument list whose first argument is missing.
Such a call cannot be interpreted. -/
def lacksArgument (isFeature : String → Bool) (stmt : Stmt V) : Bool :=
  match stmt.flagArgument? isFeature with
  | some .absent => true
  | _ => false

/-- The variable that a feature call makes carry the flag. -/
def flagged? (isFeature : String → Bool) (stmt : Stmt V) : Option V :=
  (stmt.flagArgument? isFeature).bind Expr.var?

variable [DecidableEq V]

/-- A feature call makes its first argument, if it is a variable, carry the flag. -/
def markFlag (isFeature : String → Bool) (stmt : Stmt V) (s : Env V) : Env V :=
  match stmt.flagged? isFeature with
  | some v => s.set v .flag
  | none => s

/-- The path condition along the fall-through edges: what the condition of a branch is, if it
depends on the flag. -/
def fallPath? (stmt : Stmt V) (s : Env V) : Option FlagValue :=
  match stmt.condition with
  | some c => let x := c.eval s; if x.dependsOnFlag then some x else none
  | none => none

/-- A branch on the flag splits the path condition. -/
def split (stmt : Stmt V) (s : Env V) (fall branch : Env V) : Env V × Env V :=
  match stmt.fallPath? s with
  | some x => (fall.withPath x, branch.withPath x.negate)
  | none => (fall, branch)

/-- The expression whose value a definition gives: casts keep the value. -/
def definedValue (d : Definition V) : Expr V := d.value.cast?.getD d.value

/-- The definition of a variable of a primitive type makes a fact. -/
def define (stmt : Stmt V) (s : Env V) : Env V :=
  match stmt.definition with
  | some d =>
    match d.target with
    | some v => if d.primitive then s.set v ((definedValue d).eval s) else s
    | none => s
  | none => s

/-- What is known after a statement, along the fall-through edges and along the branch edges. The
condition of a branch is evaluated before the statement has any effect; only the fall-through side
sees the effects. -/
def transfer (isFeature : String → Bool) (stmt : Stmt V) (s : Env V) : Env V × Env V :=
  let (fall, branch) := stmt.split s (stmt.markFlag isFeature s) s
  (stmt.define fall, branch)

end Stmt

end FlagFlow
