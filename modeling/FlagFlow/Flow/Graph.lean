/-!
# Control-flow graphs

A node of a control-flow graph has two kinds of successors: those that follow it, and those that it
jumps to.

* `FlowGraph`: an entry, a list of nodes, and the neighbours of each node.
* `FlowGraph.entering`: the edges that enter a node, in the order in which their flows are merged.
* `FlowGraph.ofEntries`: the graph of a list of nodes with their successors.
-/

namespace FlagFlow

/-- The two kinds of edges: to a node that follows or is next when a branch is not taken, and to the
target of a jump. -/
inductive EdgeKind where
  | fall
  | branch
  deriving DecidableEq, Repr

/-- A control-flow graph. Nodes, predecessors and successors have a fixed order. -/
structure FlowGraph (N : Type) where
  entry : N
  nodes : List N
  preds : N → List N
  fall : N → List N
  branch : N → List N

namespace FlowGraph

variable {N : Type}

/-- All successors of a node, those along fall-through edges first. -/
def succs (g : FlowGraph N) (n : N) : List N := g.fall n ++ g.branch n

/-- The successors of a node along the edges of a kind. -/
def succsBy (g : FlowGraph N) (k : EdgeKind) (n : N) : List N :=
  match k with
  | .fall => g.fall n
  | .branch => g.branch n

variable [DecidableEq N]

/-- The edges from `p` to `n`, the fall-through edge first. -/
def edgesBetween (g : FlowGraph N) (p n : N) : List (N × EdgeKind) :=
  (if n ∈ g.fall p then [(p, .fall)] else []) ++ (if n ∈ g.branch p then [(p, .branch)] else [])

/-- The edges that enter a node, by predecessor, once for every time that the node is listed. -/
def entering (g : FlowGraph N) (n : N) : List (N × EdgeKind) :=
  (List.replicate (g.nodes.count n) ((g.preds n).flatMap (g.edgesBetween · n))).flatten

/-! ## Graphs from lists -/

/-- A node with its successors, and its predecessors if they are not those that the successors
give. -/
structure Entry (N : Type) where
  node : N
  fall : List N
  branch : List N
  preds : Option (List N) := none

/-- The graph of a list of nodes. If a node is listed several times, the first entry decides about
its neighbours. Without predecessors of its own a node has those of the entries that lead to it, in
the order of the list. -/
def ofEntries (entry : N) (es : List (Entry N)) : FlowGraph N :=
  let find (n : N) : Option (Entry N) := es.find? fun e => e.node = n
  let fall (n : N) : List N := (find n).elim [] Entry.fall
  let branch (n : N) : List N := (find n).elim [] Entry.branch
  let leading (n : N) : List N :=
    (es.filter fun e => e.fall.contains n || e.branch.contains n).map Entry.node
  let known := es.map fun e => (e.node, (find e.node).bind Entry.preds |>.getD (leading e.node))
  { entry := entry
    nodes := es.map Entry.node
    preds := fun n => (known.lookup n).getD (leading n)
    fall := fall
    branch := branch }

end FlowGraph

end FlagFlow
