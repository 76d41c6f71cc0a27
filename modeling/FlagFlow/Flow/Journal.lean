import FlagFlow.Flow.Solver
import FlagFlow.Log

/-!
# The journal of a run

The messages of a run of the solver: the number of unreachable nodes, every visit, and the end.

* `solveJournal`: the messages, given how nodes and flows are written.
-/

namespace FlagFlow

variable {N F : Type} [DecidableEq N] [Inhabited F]

def visitText (node : N → String) (flow : F → String) (v : N × Flows F) : String :=
  "visit " ++ node v.1 ++ ": in " ++ flow v.2.before ++ ", fall-through " ++ flow v.2.fall ++
    ", branch " ++ flow v.2.branch ++ "\n"

/-- The messages of a run that made the solution `s`. -/
def solveJournal (node : N → String) (flow : F → String) (g : FlowGraph N) (p : Problem N F)
    (budget : Nat) (s : Solution N F) : List Log.Entry :=
  let unreachable := s.unreachable.length
  let start := if unreachable = 0 then [] else
    [⟨.debug, toString unreachable ++ " nodes are unreachable from the entry\n"⟩]
  let visits := (Run.trace g p budget (initialRun g p)).map fun v => ⟨.trace, visitText node flow v⟩
  let finish := if s.converged then
    [⟨.debug, "fixpoint reached after " ++ toString s.visits ++ " visits of " ++
      toString g.nodes.length ++ " nodes\n"⟩] else []
  start ++ visits ++ finish

end FlagFlow
