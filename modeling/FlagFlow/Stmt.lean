import FlagFlow.Env

/-!
# Expressions and statements

The analysis sees a program through questions: whether an expression is an equality, a constant, a
variable or a cast, and whether a statement is a call, a conditional or a definition. An expression
or statement holds the answers, which are independent of each other.

* `Expr`: the readings of an expression.
* `Stmt`: the readings of a statement; `Stmt.skip` has none.
* `Expr.eval`: what is known about the value of an expression.
-/

namespace FlagFlow

/-- An expression over variables `V`, by its readings as an equality, a constant, a variable or a
cast; or no expression. -/
inductive Expr (V : Type) where
  | absent
  | reads (eq : Option (Expr V × Expr V)) (int : Option Int) (var : Option V)
      (cast : Option (Expr V))

namespace Expr

variable {V : Type}

instance : Inhabited (Expr V) := ⟨absent⟩

def equal (x y : Expr V) : Expr V := reads (some (x, y)) none none none

def const (n : Int) : Expr V := reads none (some n) none none

def ofVar (v : V) : Expr V := reads none none (some v) none

/-- The conversion of another expression. -/
def convert (x : Expr V) : Expr V := reads none none none (some x)

/-- An expression of which nothing is known. -/
def other : Expr V := reads none none none none

def eq? : Expr V → Option (Expr V × Expr V)
  | absent => none
  | reads eq _ _ _ => eq

def int? : Expr V → Option Int
  | absent => none
  | reads _ int _ _ => int

def var? : Expr V → Option V
  | absent => none
  | reads _ _ var _ => var

def cast? : Expr V → Option (Expr V)
  | absent => none
  | reads _ _ _ cast => cast

/-- Whether the expression is the constant zero. -/
def isZero (e : Expr V) : Bool := e.int? = some 0

/-- The side of an equality that is compared with zero. -/
def comparedWithZero (x y : Expr V) : Expr V :=
  if x.isZero then y else if y.isZero then x else absent

variable [DecidableEq V]

/-- What is known about an equality: the comparison of a variable with zero is its negation. -/
def evalEqual (x y : Expr V) (s : Env V) : FlagValue :=
  match (comparedWithZero x y).var? with
  | some v =>
    match s.find? v with
    | some value => value.negate
    | none => .unknown
  | none => .unknown

/-- What is known about the value of an expression. The reading as an equality comes first, then
that as a constant, then that as a variable. -/
def eval (e : Expr V) (s : Env V) : FlagValue :=
  match e.eq? with
  | some (x, y) => evalEqual x y s
  | none =>
    match e.int? with
    | some n => if n = 0 then .zero else .one
    | none =>
      match e.var? with
      | some v => s.get v
      | none => .unknown

end Expr

/-- A call of a function by its name. -/
structure Call (V : Type) where
  callee : String
  args : List (Expr V)

/-- The definition of a variable, which may be missing, with its value and whether its type is
primitive. -/
structure Definition (V : Type) where
  target : Option V
  value : Expr V
  primitive : Bool

/-- A statement over variables `V`, by its readings: the call that it makes, the condition on which
it branches, the definition that it makes. -/
structure Stmt (V : Type) where
  call : Option (Call V) := none
  condition : Option (Expr V) := none
  definition : Option (Definition V) := none

def Stmt.skip {V : Type} : Stmt V := {}

instance {V : Type} : Inhabited (Stmt V) := ⟨.skip⟩

end FlagFlow
