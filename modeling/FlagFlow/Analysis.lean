import FlagFlow.Flow.Journal
import FlagFlow.Transfer

/-!
# The feature analysis

Follows the flag through the statements of a control-flow graph.

* `Body`: a control-flow graph with a statement at every node.
* `Body.problem`: the dataflow problem of the analysis.
* `Body.analyze`: its solution.
* `Body.flagBranches`: the conditional branches that depend on the flag.
-/

namespace FlagFlow

/-- A control-flow graph with statements. -/
structure Body (N V : Type) extends FlowGraph N where
  stmt : N → Stmt V

/-- Why an analysis has no complete result: the solver failed, or a feature call lacks its first
argument. -/
inductive AnalysisError where
  | solver (e : SolveError)
  | lacksArgument
  deriving DecidableEq, Repr

def AnalysisError.message : AnalysisError → String
  | solver e => "feature analysis failed: " ++ e.message
  | lacksArgument => "feature call without its first argument"

/-- The visits per node and value that an analysis is allowed. -/
def visitsPerValue : Nat := 16

/-- The visits that an analysis of a number of nodes is allowed when no other number is set. -/
def defaultBudget (nodes : Nat) : Nat := nodes * FlagValue.all.length * visitsPerValue

namespace Body

variable {N V : Type} [DecidableEq N] [DecidableEq V]

/-- The dataflow problem of the analysis. -/
def problem (b : Body N V) (isFeature : String → Bool) : Problem N (Env V) where
  entryFlow := .atEntry
  newFlow := .unreached
  flow s n := (b.stmt n).transfer isFeature s
  merge := Env.merge
  same := Env.same

/-- The visits that a setting allows; the default for one that is not positive. -/
def budget (b : Body N V) (setting : Int) : Nat :=
  if 0 < setting then setting.toNat else defaultBudget b.nodes.length

/-- Whether a visit within the budget comes to a feature call that lacks its argument. -/
def stumbles (b : Body N V) (isFeature : String → Bool) (budget : Nat) : Bool :=
  let p := b.problem isFeature
  (Run.trace b.toFlowGraph p budget (initialRun b.toFlowGraph p)).any fun e =>
    (b.stmt e.1).lacksArgument isFeature

def analyze (b : Body N V) (isFeature : String → Bool) (maxVisits : Int) :
    Except AnalysisError (Solution N (Env V)) :=
  let budget := b.budget maxVisits
  match solve? b.toFlowGraph (b.problem isFeature) budget with
  | none => .error (.solver .noEntry)
  | some s => if b.stumbles isFeature budget then .error .lacksArgument else .ok s

/-- What is wrong with a solution, if it is not complete. -/
def shortfall? (b : Body N V) (maxVisits : Int) (s : Solution N (Env V)) : Option AnalysisError :=
  if s.converged then none else some (.solver (.noFixpoint (b.budget maxVisits)))

/-- The conditional branches whose condition is the flag or its negation, in the order of the first
visits. -/
def flagBranches (b : Body N V) (s : Solution N (Env V)) : List (N × FlagValue) :=
  s.order.filterMap fun n =>
    (b.stmt n).condition.bind fun c =>
      let x := c.eval (s.flowsAt n).before
      if x.dependsOnFlag then some (n, x) else none

def journal (b : Body N V) (isFeature : String → Bool) (maxVisits : Int) (node : N → String)
    (name : V → String) (s : Solution N (Env V)) : List Log.Entry :=
  solveJournal node (Env.render name) b.toFlowGraph (b.problem isFeature) (b.budget maxVisits) s

end Body

end FlagFlow
