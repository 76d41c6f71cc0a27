import FlagFlow.FlagValue
import FlagFlow.Table

/-!
# Environments

What is known at a program point: the condition under which it is reached, and facts about some
variables. A variable without a fact may have any value.

* `Env`: a path condition and a table of facts over variables `V`.
* `Env.find?`, `Env.get`: the fact of a variable, and its value if nothing is known.
* `Env.merge`: what is known where two paths meet.
* `Env.same`: the path conditions and all facts agree.
* `Env.render`: the text of an environment, with the facts by name.
-/

namespace FlagFlow

/-- What is known at a program point: the condition under which it is reached, and facts about
variables. -/
structure Env (V : Type) where
  path : FlagValue
  facts : Table V FlagValue

namespace Env

variable {V : Type}

/-- The environment with a path condition and no facts. -/
def ofPath (path : FlagValue) : Env V := ⟨path, .empty⟩

/-- Before anything has been computed there are no facts and no path. -/
instance : Inhabited (Env V) := ⟨ofPath .bottom⟩

/-- At the entry of a function nothing is known about the caller. -/
def atEntry : Env V := ofPath .external

/-- At a point that no path has reached yet. -/
def unreached : Env V := ofPath .bottom

def withPath (s : Env V) (path : FlagValue) : Env V := { s with path }

def size (s : Env V) : Nat := s.facts.size

def vars (s : Env V) : List V := s.facts.keys

variable [DecidableEq V]

def find? (s : Env V) (v : V) : Option FlagValue := s.facts.find? v

/-- The value of a variable, `unknown` without a fact. -/
def get (s : Env V) (v : V) : FlagValue := (s.find? v).getD .unknown

/-- The environment in which the fact about `v` is `x`. -/
def set (s : Env V) (v : V) (x : FlagValue) : Env V := { s with facts := s.facts.set v x }

/-! ## Merging -/

/-- The value where two paths meet that are reached under `path` and `path'`, and give `x` and `x'`.
Different values are forgotten, except that two different constants on the two sides of the flag
make the flag, or its negation. -/
def mergeValue (path path' x x' : FlagValue) : FlagValue :=
  if x = x' then x
  else match path, path', x, x' with
    | .flag, .notFlag, .one, .zero => .flag
    | .notFlag, .flag, .one, .zero => .notFlag
    | .flag, .notFlag, .zero, .one => .notFlag
    | .notFlag, .flag, .zero, .one => .flag
    | _, _, _, _ => .unknown

/-- What is known where two paths meet. A fact of one side only is kept. -/
def merge (s t : Env V) : Env V where
  path := if s.path = t.path then s.path else .unknown
  facts := s.facts.merge (mergeValue s.path t.path) t.facts

/-- Whether two environments have the same path condition and the same facts. -/
def same (s t : Env V) : Bool := s.path = t.path && s.facts.agree t.facts

/-! ## Text -/

/-- The facts sorted by the names of their variables. -/
def factsByName (name : V → String) (s : Env V) : List (V × FlagValue) :=
  s.facts.entries.mergeSort fun e f => decide (name e.1 ≤ name f.1)

/-- The names of the variables that have facts, sorted. -/
def names (name : V → String) (s : Env V) : List String :=
  (s.factsByName name).map fun e => name e.1

def render (name : V → String) (s : Env V) : String :=
  let facts := (s.factsByName name).map fun e => name e.1 ++ "=" ++ e.2.text
  s.path.text ++ " -- \x7b" ++ ", ".intercalate facts ++ "\x7d"

end Env

end FlagFlow
