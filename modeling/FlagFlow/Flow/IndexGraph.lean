/-!
# Graphs on numbered nodes

A list of nodes with a successor function, as a graph on the places in the list. Successors that are
not in the list do not count. If a node stands in the list several times, edges lead to its last
place.

* `IndexGraph.ofNodes`: the graph of a list of nodes.
* `IndexGraph.breadthFirst?`: the nodes that can be reached from a root, nearest first.
* `IndexGraph.unreachable`: the other nodes.
* `IndexGraph.components`: the strong components, as places.
* `IndexGraph.loops`: the strong components with a cycle.
-/

namespace FlagFlow

/-- A graph on the places of a list of nodes, with the places of the successors of each, without
repetitions. -/
structure IndexGraph (N : Type) where
  nodes : List N
  succs : List (List Nat)

namespace IndexGraph

variable {N : Type} [DecidableEq N]

/-- The last place of a node in a list. -/
def lastPlace? (nodes : List N) (n : N) : Option Nat :=
  (nodes.reverse.findIdx? (· = n)).map (nodes.length - 1 - ·)

/-- The graph of a list of nodes. -/
def ofNodes (nodes : List N) (successors : N → List N) : IndexGraph N where
  nodes := nodes
  succs := nodes.map fun n => ((successors n).filterMap (lastPlace? nodes)).eraseDups

/-- The number of nodes. -/
def order (g : IndexGraph N) : Nat := g.nodes.length

/-- The place of a node. -/
def index? (g : IndexGraph N) (n : N) : Option Nat := lastPlace? g.nodes n

/-- The node at a place. -/
def node? (g : IndexGraph N) (i : Int) : Option N := if 0 ≤ i then g.nodes[i.toNat]? else none

/-- The successors of the node at a place; none for a place that is not in the list. -/
def succsAt (g : IndexGraph N) (i : Nat) : List Nat := g.succs.getD i []

/-- The successors of the node at a place, in order, up to the first for which `stop` holds, and
whether there is such a one. -/
def visit (g : IndexGraph N) (i : Int) (stop : Nat → Bool) : List Nat × Bool :=
  let ws := if 0 ≤ i then g.succsAt i.toNat else []
  match ws.findIdx? stop with
  | some k => (ws.take (k + 1), true)
  | none => (ws, false)

/-! ## Breadth-first search -/

/-- Searches on from the places of `queue`, the first one next. The places of `done` have been left
already; `done ++ queue` are the places found so far, in the order in which they were found. -/
def explore {A : Type} [BEq A] (succ : A → List A) : Nat → List A → List A → List A
  | 0, done, queue => done ++ queue
  | _ + 1, done, [] => done
  | fuel + 1, done, v :: queue =>
    let fresh := (succ v).filter fun w => !(done ++ v :: queue).contains w
    explore succ fuel (done ++ [v]) (queue ++ fresh)

/-- The places that can be reached from one of a list, nearest first. Every place is left at most
once. -/
def reachFrom (g : IndexGraph N) (start : List Nat) : List Nat := explore g.succsAt g.order [] start

def nodesAt (g : IndexGraph N) (places : List Nat) : List N := places.filterMap (g.nodes[·]?)

/-- The nodes that can be reached from a root, nearest first; nodes that are equally near come in
the order of their predecessors and their successor lists. There is no order if the root is not a
node. -/
def breadthFirst? (g : IndexGraph N) (root : N) : Option (List N) :=
  (g.index? root).map fun r => g.nodesAt (g.reachFrom [r])

/-- The nodes that cannot be reached from a root. -/
def unreachable (g : IndexGraph N) (root : N) : List N :=
  let reached := (g.breadthFirst? root).getD []
  g.nodes.filter fun n => !reached.contains n

/-! ## Loops -/

/-- The places that can be reached from each place. -/
def reach (g : IndexGraph N) : List (List Nat) := (List.range g.order).map fun i => g.reachFrom [i]

/-- The strong component of place `i`, given what can be reached from each place. -/
def componentAt (reach : List (List Nat)) (i : Nat) : List Nat :=
  (reach.getD i []).filter fun j => (reach.getD j []).contains i

/-- The strong components: the largest sets of places of which each can be reached from each. -/
def components (g : IndexGraph N) : List (List Nat) :=
  let reach := g.reach
  (List.range g.order).foldl
    (fun cs i => if cs.any (·.contains i) then cs else cs ++ [componentAt reach i]) []

/-- Whether a place has an edge to itself. -/
def hasSelfEdge (g : IndexGraph N) (i : Nat) : Bool := (g.succsAt i).any (· = i)

/-- Whether a component is a single place without an edge to itself. -/
def isTrivial (g : IndexGraph N) (component : List Nat) : Bool :=
  component.length = 1 && !component.head?.any g.hasSelfEdge

/-- Of some components, given as places, those with a cycle. -/
def loopsAmong (g : IndexGraph N) (components : List (List Nat)) : List (List N) :=
  (components.filter fun c => !g.isTrivial c).map g.nodesAt

/-- The strong components with a cycle. -/
def loops (g : IndexGraph N) : List (List N) := g.loopsAmong g.components

end IndexGraph

end FlagFlow
