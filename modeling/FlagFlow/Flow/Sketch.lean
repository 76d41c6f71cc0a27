import FlagFlow.Flow.Graph
import FlagFlow.Table

/-!
# Sketches of control-flow graphs

A sketch shows a control-flow graph with at most one edge from a node to another. Its nodes have
numbers, and the flow before them. The edges of the graph are added to it one by one: an edge
between two nodes that are joined already leaves its mark on the edge that is there.

* `EdgeMarks`: the kinds of edges that an edge of a sketch stands for.
* `Sketch.addEdge`: adds an edge of the graph.
* `Sketch.ofGraph`: the sketch of a graph.
* `Link`, `Sketch.links`: the edges of a sketch as a list.
-/

namespace FlagFlow

/-- All edges of a graph with their kinds, by source, the fall-through edges first. -/
def FlowGraph.edges {N : Type} (g : FlowGraph N) : List (N × EdgeKind × N) :=
  g.nodes.flatMap fun n => (g.fall n).map (n, .fall, ·) ++ (g.branch n).map (n, .branch, ·)

/-- The kinds of edges that an edge of a sketch stands for. -/
structure EdgeMarks where
  fall : Bool := false
  branch : Bool := false
  deriving DecidableEq, Repr

/-- The marks with that of a kind. -/
def EdgeMarks.add (m : EdgeMarks) : EdgeKind → EdgeMarks
  | .fall => { m with fall := true }
  | .branch => { m with branch := true }

/-- A node of a sketch, with its number and the flow before it. -/
structure SketchNode (F : Type) where
  id : Nat
  before : F
  deriving DecidableEq, Repr

/-- A sketch of a graph with nodes `N`; edges have the numbers of the nodes that they join. -/
structure Sketch (N F : Type) where
  nodes : Table N (SketchNode F)
  edges : Table (Nat × Nat) EdgeMarks := .empty

namespace Sketch

variable {N F : Type} [DecidableEq N]

/-- The numbers of two nodes that an edge joins. An edge from a node to itself is left out, and so
is one that leaves the nodes. -/
def ends? (s : Sketch N F) (n m : N) : Option (Nat × Nat) :=
  if n = m then none
  else match s.nodes.find? n, s.nodes.find? m with
    | some source, some target => some (source.id, target.id)
    | _, _ => none

/-- Adds an edge of a kind, or its mark where there is an edge. -/
def addEdge (s : Sketch N F) (e : N × EdgeKind × N) : Sketch N F :=
  match s.ends? e.1 e.2.2 with
  | none => s
  | some ends => { s with edges := s.edges.set ends ((s.edges.getD ends {}).add e.2.1) }

/-- The nodes of a graph with their places as numbers, without edges. -/
def ofNodes (nodes : List N) (before : N → F) : Sketch N F where
  nodes := .ofList (nodes.zipIdx.map fun e => (e.1, ⟨e.2, before e.1⟩))

/-- The sketch of a graph with the flows before its nodes. -/
def ofGraph (g : FlowGraph N) (before : N → F) : Sketch N F :=
  g.edges.foldl addEdge (ofNodes g.nodes before)

end Sketch

/-- An edge of a sketch from one number to another, with the kinds of edges that it stands for. -/
structure Link where
  source : Nat
  target : Nat
  fall : Bool
  branch : Bool
  deriving DecidableEq, Repr

namespace Link

def reverse (e : Link) : Link := { e with source := e.target, target := e.source }

/-- Whether an edge is listed before another: by source, then by target. -/
def isBefore (e e' : Link) : Bool :=
  decide (e.source < e'.source) || (decide (e.source = e'.source) && decide (e.target ≤ e'.target))

/-- The edge between two numbers with marks. -/
def ofEntry (e : (Nat × Nat) × EdgeMarks) : Link := ⟨e.1.1, e.1.2, e.2.fall, e.2.branch⟩

end Link

/-- The edges of a sketch, by source and target. -/
def Sketch.links {N F : Type} (s : Sketch N F) : List Link :=
  (s.edges.entries.map Link.ofEntry).mergeSort Link.isBefore

end FlagFlow
