import FlagFlow.Findings

/-!
# Summaries of findings

What is exported about functions, with every value as text. A text is a string, or in files a list
of bytes.

* `Summary`: the exported findings about a function, made of `BranchEntry`, `Point`, `StateEntry`
  and `FactEntry`.
* `Summary.mapText`: the same summary with other texts.
* `Findings.summary`: the summary of findings.
-/

namespace FlagFlow.Report

/-- What is known about a variable. -/
structure FactEntry (T : Type := String) where
  name : T
  state : T
  deriving DecidableEq, Repr

/-- What is known at a program point: the condition under which it is reached, and facts by name. -/
structure StateEntry (T : Type := String) where
  path : T
  facts : Option (List (FactEntry T)) := none
  deriving DecidableEq, Repr

/-- The states before an instruction and along the edges after it. -/
structure Point (T : Type := String) where
  instruction : T
  before : StateEntry T
  fall : Option (StateEntry T) := none
  branch : Option (StateEntry T) := none
  deriving DecidableEq, Repr

/-- A branch on the flag. -/
structure BranchEntry (T : Type := String) where
  instruction : T
  position : T
  condition : T
  deriving DecidableEq, Repr

/-- The exported findings about a function; the error is empty if there is none. -/
structure Summary (T : Type := String) where
  name : T
  position : T
  error : T
  loops : Int := 0
  branches : Option (List (BranchEntry T)) := none
  points : Option (List (Point T)) := none
  deriving DecidableEq, Repr

/-! ## Other texts -/

variable {T U : Type} (g : T → U)

def FactEntry.mapText (f : FactEntry T) : FactEntry U := ⟨g f.name, g f.state⟩

def StateEntry.mapText (s : StateEntry T) : StateEntry U :=
  ⟨g s.path, s.facts.map (List.map (FactEntry.mapText g))⟩

/-- The states at an instruction with other texts. -/
def Point.mapText (p : Point T) : Point U :=
  ⟨g p.instruction, p.before.mapText g, p.fall.map (StateEntry.mapText g),
    p.branch.map (StateEntry.mapText g)⟩

def BranchEntry.mapText (b : BranchEntry T) : BranchEntry U :=
  ⟨g b.instruction, g b.position, g b.condition⟩

def Summary.mapText (s : Summary T) : Summary U :=
  ⟨g s.name, g s.position, g s.error, s.loops, s.branches.map (List.map (BranchEntry.mapText g)),
    s.points.map (List.map (Point.mapText g))⟩

/-- A list with at least one element. -/
def nonempty? {α : Type} (xs : List α) : Option (List α) := if xs.isEmpty then none else some xs

end FlagFlow.Report

namespace FlagFlow

open Report

def Env.entry (s : Env Slot) : StateEntry where
  path := s.path.text
  facts := nonempty? ((s.factsByName Slot.name).map fun e => ⟨e.1.name, e.2.text⟩)

namespace Findings

/-- The exported form of the states at an instruction. -/
def point (r : Findings) (b : Body Nat Slot) (s : Solution Nat (Env Slot)) (n : Nat) : Point :=
  let f := s.flowsAt n
  { instruction := r.headline n
    before := f.before.entry
    fall := if (b.fall n).isEmpty then none else some f.fall.entry
    branch := if (b.branch n).isEmpty then none else some f.branch.entry }

/-- The summary of findings. After a failure it holds only the error. -/
def summary (r : Findings) : Summary :=
  let position := positionText r.func.position
  match r.errorText? with
  | some e => { name := r.name, position, error := e }
  | none =>
    { name := r.name
      position
      error := ""
      loops := r.loops
      branches := nonempty? (r.branches.map fun e =>
        ⟨r.headline e.1, positionText (r.position? e.1), e.2.text⟩)
      points := r.states.bind fun (b, s) => nonempty? (s.order.map (r.point b s)) }

end Findings

end FlagFlow
