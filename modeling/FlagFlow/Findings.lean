import FlagFlow.Code.Graph

/-!
# The findings about a function

* `FunctionError`: why the analysis of a function failed.
* `Options`: what the analysis of a function depends on.
* `Findings`: what the analysis of a function found.
* `Func.analyze`: analyses a function.
-/

namespace FlagFlow

/-- Why the analysis of a function failed: it has no code, or the analysis of its code failed. -/
inductive FunctionError where
  | noBody
  | analysis (e : AnalysisError)
  deriving DecidableEq, Repr

def FunctionError.message : FunctionError → String
  | noBody => "function has no body"
  | analysis e => e.message

/-- What the analysis of a function depends on: the callees that introduce the flag, and the visits
that are allowed, the default number if `maxVisits` is not positive. -/
structure Options where
  isFeature : String → Bool
  maxVisits : Int := 0

/-- What the analysis of a function found: the flows at every instruction, if there is code, the
branches on the flag in the order of the first visits, the number of loops, and why it failed. -/
structure Findings where
  name : String
  func : Func
  states : Option (Body Nat Slot × Solution Nat (Env Slot)) := none
  branches : List (Nat × FlagValue) := []
  loops : Nat := 0
  error : Option FunctionError := none

/-- The number of loops of a graph. -/
def FlowGraph.loopCount (g : FlowGraph Nat) : Nat :=
  (IndexGraph.ofNodes g.nodes g.succs).loops.length

/-- Analyses a function, which has a full name. -/
def Func.analyze (f : Func) (name : String) (o : Options) : Findings :=
  match f.body? with
  | none => { name, func := f, error := some .noBody }
  | some b =>
    match b.analyze o.isFeature o.maxVisits with
    | .error e => { name, func := f, error := some (.analysis e) }
    | .ok s =>
      match b.shortfall? o.maxVisits s with
      | some e => { name, func := f, states := some (b, s), error := some (.analysis e) }
      | none =>
        { name, func := f, states := some (b, s), branches := b.flagBranches s
          loops := b.toFlowGraph.loopCount }

namespace Findings

/-- The text of the error, with the name of the function. -/
def errorText? (r : Findings) : Option String := r.error.map fun e => r.name ++ ": " ++ e.message

def headline (r : Findings) : Nat → String :=
  let texts := r.func.headlines.toArray
  fun n => texts.getD n ""

def position? (r : Findings) (n : Nat) : Option Position :=
  (r.func.code[n]?).bind r.func.locate

def journal (r : Findings) (o : Options) : List Log.Entry :=
  match r.states with
  | none => []
  | some (b, s) =>
    let texts := r.func.descriptions.toArray
    b.journal o.isFeature o.maxVisits (fun n => texts.getD n "") Slot.name s

end Findings

/-- The text of an environment of a function. -/
def Env.text (s : Env Slot) : String := s.render Slot.name

end FlagFlow
