import FlagFlow.Flow.Graph
import FlagFlow.Flow.IndexGraph
import FlagFlow.Table
import FlagFlow.Word

/-!
# Dataflow problems and their solution

A forward dataflow problem gives every node of a control-flow graph a flow before it and two flows
after it, one along each kind of edge. The flows are computed by visiting nodes from a worklist
until it is empty: a node is visited again when a flow that enters it has changed. No law is asked
of the flows, so that a run need not end; a budget bounds the number of visits.

* `Problem`: the flows at the start, the effect of a node, and how flows are merged and compared.
* `Run`: the state of a computation; `Run.step` visits one node.
* `Run.after`: the state after a number of visits.
* `solve?`: the flows of a graph, complete or as far as the budget goes.
-/

namespace FlagFlow

/-- A forward dataflow problem with flows `F`: the flow that enters the entry and the flow at every
other point before it is visited, the flows after a node along its two kinds of edges, the flow
where two edges meet, that of the earlier predecessor first, and whether a flow has not changed. -/
structure Problem (N F : Type) where
  entryFlow : F
  newFlow : F
  flow : F → N → F × F
  merge : F → F → F
  same : F → F → Bool

/-- The parts of a problem, some of which may be missing. -/
structure Problem.Parts (N F : Type) where
  entryFlow : Option F
  newFlow : Option F
  flow : Option (F → N → F × F)
  merge : Option (F → F → F)
  same : Option (F → F → Bool)

/-- The problem that has all its parts. -/
def Problem.ofParts? {N F : Type} (p : Problem.Parts N F) : Option (Problem N F) := do
  return ⟨← p.entryFlow, ← p.newFlow, ← p.flow, ← p.merge, ← p.same⟩

/-- Why there is no solution: a part of the problem is missing, the entry is no node of the graph,
or the visits of the budget did not suffice. -/
inductive SolveError where
  | incompleteProblem
  | noEntry
  | noFixpoint (budget : Nat)
  deriving DecidableEq, Repr

def SolveError.message : SolveError → String
  | incompleteProblem => "dataflow problem is missing a function"
  | noEntry => "control-flow graph has no entry node"
  | noFixpoint budget =>
    "after " ++ toString budget ++ " visits: no fixpoint reached within the visit budget"

/-- The flows at a node: before it, along the fall-through edges and along the branch edges. -/
structure Flows (F : Type) where
  before : F
  fall : F
  branch : F

/-- The flow along the edges of a kind. -/
def Flows.out {F : Type} (f : Flows F) : EdgeKind → F
  | .fall => f.fall
  | .branch => f.branch

instance {F : Type} [Inhabited F] : Inhabited (Flows F) := ⟨⟨default, default, default⟩⟩

/-! ## Visits -/

/-- The state of a computation: the flows at the nodes, the nodes that are to be visited, the next
one first, the marks of these nodes, and the number of visits. -/
structure Run (N F : Type) where
  flows : Table N (Flows F)
  worklist : List N
  queued : List N
  visits : Nat

namespace Run

variable {N F : Type} [DecidableEq N]

/-- Puts a node at the end of the worklist, unless it is in it. -/
def enqueue (r : Run N F) (n : N) : Run N F :=
  if n ∈ r.queued then r else { r with worklist := r.worklist ++ [n], queued := n :: r.queued }

/-- Puts nodes at the end of the worklist. -/
def enqueueAll (r : Run N F) (ns : List N) : Run N F := ns.foldl enqueue r

variable [Inhabited F]

/-- The flows at a node. What is not a node of the graph starts with the default flow. -/
def flowsAt (r : Run N F) (n : N) : Flows F := r.flows.getD n default

def along (r : Run N F) (e : N × EdgeKind) : F := (r.flowsAt e.1).out e.2

/-- The flow before a node: the flows along the edges that enter it, merged from left to right, and
at the entry the flow from outside last. A node that no edge enters keeps the flow that it has. -/
def flowBefore (g : FlowGraph N) (p : Problem N F) (r : Run N F) (n : N) : F :=
  match g.entering n with
  | [] => if n = g.entry then p.entryFlow else (r.flowsAt n).before
  | e :: es =>
    let flow := es.foldl (fun flow e => p.merge flow (r.along e)) (r.along e)
    if n = g.entry then p.merge flow p.entryFlow else flow

/-- The flows that a visit of a node computes. -/
def visited (g : FlowGraph N) (p : Problem N F) (r : Run N F) (n : N) : Flows F :=
  let before := r.flowBefore g p n
  let (fall, branch) := p.flow before n
  ⟨before, fall, branch⟩

/-- Visits the first node of the worklist. The successors along the edges of a kind are visited
again if the flow along them has changed. -/
def step (g : FlowGraph N) (p : Problem N F) (r : Run N F) : Run N F :=
  match r.worklist with
  | [] => r
  | n :: rest =>
    let old := r.flowsAt n
    let new := r.visited g p n
    let r := { r with
      flows := r.flows.set n new, worklist := rest, queued := r.queued.erase n, visits := r.visits + 1 }
    let r := if p.same new.fall old.fall then r else r.enqueueAll (g.fall n)
    if p.same new.branch old.branch then r else r.enqueueAll (g.branch n)

/-- The state after `k` visits, or when the worklist is empty. -/
def after (g : FlowGraph N) (p : Problem N F) : Nat → Run N F → Run N F
  | 0, r => r
  | k + 1, r =>
    match r.worklist with
    | [] => r
    | _ :: _ => after g p k (r.step g p)

/-- The nodes visited by the next `k` visits, each with the flows that the visit computed. -/
def trace (g : FlowGraph N) (p : Problem N F) : Nat → Run N F → List (N × Flows F)
  | 0, _ => []
  | k + 1, r =>
    match r.worklist with
    | [] => []
    | n :: _ => (n, r.visited g p n) :: trace g p k (r.step g p)

end Run

/-! ## Solutions -/

/-- The nodes of a graph by their places. -/
def FlowGraph.indexed {N : Type} [DecidableEq N] (g : FlowGraph N) : IndexGraph N :=
  .ofNodes g.nodes g.succs

/-- The nodes that cannot be reached from the entry. -/
def FlowGraph.unreachable {N : Type} [DecidableEq N] (g : FlowGraph N) : List N :=
  g.indexed.unreachable g.entry

/-- The order of the first visits: the reachable nodes, nearest first, then the others. -/
def FlowGraph.visitOrder {N : Type} [DecidableEq N] (g : FlowGraph N) : List N :=
  (g.indexed.breadthFirst? g.entry).getD [] ++ g.unreachable

def FlowGraph.hasEntry {N : Type} [DecidableEq N] (g : FlowGraph N) : Bool := decide (g.entry ∈ g.nodes)

variable {N F : Type} [DecidableEq N] [Inhabited F]

def initialFlows (g : FlowGraph N) (p : Problem N F) : Table N (Flows F) :=
  let blank : Flows F := ⟨p.newFlow, p.newFlow, p.newFlow⟩
  (Table.ofList (g.nodes.map (·, blank))).set g.entry { blank with before := p.entryFlow }

/-- The state before any visit: all nodes are to be visited. -/
def initialRun (g : FlowGraph N) (p : Problem N F) : Run N F :=
  Run.enqueueAll ⟨initialFlows g p, [], [], 0⟩ g.visitOrder

/-- What a run has computed. `order` is that of the first visits. A run that was stopped counts the
visit that it was refused. -/
structure Solution (N F : Type) where
  entry : N
  order : List N
  unreachable : List N
  visits : Nat
  converged : Bool
  flows : Table N (Flows F)

def Solution.flowsAt (s : Solution N F) (n : N) : Flows F := s.flows.getD n default

/-- Solves a problem with at most `budget` visits. There is no solution if the graph has no
entry. -/
def solve? (g : FlowGraph N) (p : Problem N F) (budget : Nat) : Option (Solution N F) :=
  if g.hasEntry then
    let r := Run.after g p budget (initialRun g p)
    let converged := r.worklist.isEmpty
    some
      { entry := g.entry
        order := g.visitOrder
        unreachable := g.unreachable
        visits := if converged then r.visits else budget + 1
        converged := converged
        flows := r.flows }
  else none

/-- The visits that a setting allows. One that is not positive allows as many as can be counted with
64 bits. -/
def visitBudget (setting : Int) : Nat := if 0 < setting then setting.toNat else wordLimit - 1

end FlagFlow
