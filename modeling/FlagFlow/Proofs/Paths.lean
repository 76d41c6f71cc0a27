import FlagFlow.Flow.Solver
import Mathlib.Order.WellFounded
import Mathlib.Data.Fintype.Order
import Mathlib.Data.Finite.Defs

/-!
# Paths of a control-flow graph

Edges lead from the nodes of a graph to their successors. A path is the list of its edges, each
given by the node that it leaves and its kind.

* `PredsAgree`: the predecessors of a node are the nodes that lead to it.
* `Path`, `Reachable`, `Acyclic`: paths, nodes with a path from the entry, graphs without cycles.
* `mem_entering`: the edges that enter a node, when it is listed among the nodes.
* `predsAgree_ofEntries`: the graph of a list of distinct nodes has the predecessors that its
  successors give.
* `mem_visitOrder`: the order of the first visits holds exactly the nodes.
* **`Acyclic.wellFounded`**: a node of a graph without cycles has no infinite chain of predecessors;
  `wellFounded_of_not_on_cycle` says so of nodes that are on no cycle.
-/

namespace FlagFlow

namespace FlowGraph

variable {N : Type} {g : FlowGraph N}

/-- The predecessors of every node are the nodes that have it as a successor. -/
def PredsAgree (g : FlowGraph N) : Prop :=
  ∀ n ∈ g.nodes, ∀ p, p ∈ g.preds n ↔ p ∈ g.nodes ∧ n ∈ g.succs p

/-- The paths from `a`, by their edges and the node that they lead to. -/
inductive Path (g : FlowGraph N) (a : N) : List (N × EdgeKind) → N → Prop
  | nil : Path g a [] a
  | snoc {es : List (N × EdgeKind)} {p n : N} {k : EdgeKind} :
      Path g a es p → p ∈ g.nodes → n ∈ g.succsBy k p → Path g a (es ++ [(p, k)]) n

/-- A node that some path from the entry leads to. -/
def Reachable (g : FlowGraph N) (n : N) : Prop := ∃ es, g.Path g.entry es n

/-- No path leads back to where it started. -/
def Acyclic (g : FlowGraph N) : Prop := ∀ n es, g.Path n es n → es = []

theorem mem_succs_iff {p n : N} : n ∈ g.succs p ↔ ∃ k, n ∈ g.succsBy k p := by
  rw [succs, List.mem_append]
  constructor
  · rintro (h | h)
    · exact ⟨.fall, h⟩
    · exact ⟨.branch, h⟩
  · rintro ⟨k, h⟩
    cases k with
    | fall => exact .inl h
    | branch => exact .inr h

theorem Path.append {a b c : N} {es fs : List (N × EdgeKind)} (h : g.Path a es b)
    (h' : g.Path b fs c) : g.Path a (es ++ fs) c := by
  induction h' with
  | nil => rwa [List.append_nil]
  | snoc _ hp hn ih =>
    rw [← List.append_assoc]
    exact .snoc ih hp hn

theorem Reachable.snoc {p n : N} {k : EdgeKind} (h : g.Reachable p) (hp : p ∈ g.nodes)
    (hn : n ∈ g.succsBy k p) : g.Reachable n :=
  h.elim fun _ hes => ⟨_, .snoc hes hp hn⟩

theorem Path.start_mem {a n : N} {es : List (N × EdgeKind)} (h : g.Path a es n) (hn : n ∈ g.nodes) :
    a ∈ g.nodes := by
  induction h with
  | nil => exact hn
  | snoc _ hp _ ih => exact ih hp

theorem Path.edge {p n : N} {k : EdgeKind} (hp : p ∈ g.nodes) (hn : n ∈ g.succsBy k p) :
    g.Path p [(p, k)] n := .snoc .nil hp hn

/-- A graph whose edges lead upwards in some numbering has no cycles. -/
theorem acyclic_of_rank (rank : N → Nat)
    (h : ∀ p ∈ g.nodes, ∀ n ∈ g.succs p, rank p < rank n) : g.Acyclic := by
  have hpath : ∀ {a n : N} {es : List (N × EdgeKind)}, g.Path a es n →
      rank a + es.length ≤ rank n := by
    intro a n es hes
    induction hes with
    | nil => exact Nat.le_refl _
    | snoc _ hp hn ih =>
      have := h _ hp _ (mem_succs_iff.mpr ⟨_, hn⟩)
      rw [List.length_append, List.length_singleton]
      omega
  intro n es hes
  have := hpath hes
  exact List.length_eq_zero_iff.mp (by omega)

/-- Nodes that are on no cycle are well-founded by the paths between them. -/
theorem wellFounded_of_not_on_cycle (W : N → Prop) (hW : ∀ n, W n → ∀ es, g.Path n es n → es = []) :
    WellFounded fun p n : {n // n ∈ g.nodes ∧ W n} => ∃ es, es ≠ [] ∧ g.Path p.1 es n.1 := by
  have : Finite {n // n ∈ g.nodes ∧ W n} :=
    ((List.finite_toSet g.nodes).subset fun n hn => hn.1 : {n | n ∈ g.nodes ∧ W n}.Finite)
  have : IsTrans {n // n ∈ g.nodes ∧ W n} fun p n => ∃ es, es ≠ [] ∧ g.Path p.1 es n.1 := by
    refine ⟨fun a b c hab hbc => ?_⟩
    obtain ⟨es, hne, hes⟩ := hab
    obtain ⟨fs, _, hfs⟩ := hbc
    exact ⟨es ++ fs, by simp [hne], hes.append hfs⟩
  have : Std.Irrefl fun p n : {n // n ∈ g.nodes ∧ W n} => ∃ es, es ≠ [] ∧ g.Path p.1 es n.1 :=
    ⟨fun n ⟨es, hne, hes⟩ => hne (hW n.1 n.2.2 es hes)⟩
  exact Finite.wellFounded_of_trans_of_irrefl _

/-- **Without cycles the nodes are well-founded** by the paths between them. -/
theorem Acyclic.wellFounded (hg : g.Acyclic) :
    WellFounded fun p n : {n // n ∈ g.nodes} => ∃ es, es ≠ [] ∧ g.Path p.1 es n.1 := by
  let inject : {n // n ∈ g.nodes} → {n // n ∈ g.nodes ∧ True} := fun n => ⟨n.1, n.2, trivial⟩
  exact InvImage.wf inject (wellFounded_of_not_on_cycle (fun _ => True) fun n _ => hg n)

section Entering

variable [DecidableEq N]

theorem mem_edgesBetween {p n : N} {e : N × EdgeKind} :
    e ∈ g.edgesBetween p n ↔ e.1 = p ∧ n ∈ g.succsBy e.2 p := by
  obtain ⟨q, k⟩ := e
  cases k <;> by_cases hf : n ∈ g.fall p <;> by_cases hb : n ∈ g.branch p <;>
    simp [edgesBetween, succsBy, hf, hb]

theorem mem_entering {n : N} {e : N × EdgeKind} :
    e ∈ g.entering n ↔ n ∈ g.nodes ∧ e.1 ∈ g.preds n ∧ n ∈ g.succsBy e.2 e.1 := by
  simp only [entering, List.mem_flatten, List.mem_replicate, ne_eq, List.count_eq_zero, not_not]
  constructor
  · rintro ⟨_, ⟨hn, rfl⟩, he⟩
    obtain ⟨p, hp, hpe⟩ := List.mem_flatMap.mp he
    obtain ⟨rfl, hk⟩ := mem_edgesBetween.mp hpe
    exact ⟨hn, hp, hk⟩
  · rintro ⟨hn, hp, hk⟩
    exact ⟨_, ⟨hn, rfl⟩, List.mem_flatMap.mpr ⟨e.1, hp, mem_edgesBetween.mpr ⟨rfl, hk⟩⟩⟩

theorem PredsAgree.mem_entering (hg : g.PredsAgree) {n : N} (hn : n ∈ g.nodes)
    {e : N × EdgeKind} : e ∈ g.entering n ↔ e.1 ∈ g.nodes ∧ n ∈ g.succsBy e.2 e.1 := by
  rw [FlowGraph.mem_entering, hg n hn]
  constructor
  · rintro ⟨_, ⟨hp, _⟩, hk⟩
    exact ⟨hp, hk⟩
  · rintro ⟨hp, hk⟩
    exact ⟨hn, ⟨hp, mem_succs_iff.mpr ⟨e.2, hk⟩⟩, hk⟩

theorem find?_node {es : List (Entry N)} (hes : (es.map Entry.node).Nodup) {e : Entry N}
    (he : e ∈ es) :
    es.find? (fun e' => e'.node = e.node) = some e := by
  cases hfind : es.find? (fun e' => e'.node = e.node) with
  | none => simpa using List.find?_eq_none.mp hfind e he
  | some e' =>
    have hnode : e'.node = e.node := by simpa using List.find?_some hfind
    rw [List.inj_on_of_nodup_map hes (List.mem_of_find?_eq_some hfind) he hnode]

theorem succs_ofEntries (entry : N) {es : List (Entry N)} (hes : (es.map Entry.node).Nodup)
    {e : Entry N} (he : e ∈ es) : (ofEntries entry es).succs e.node = e.fall ++ e.branch := by
  simp only [succs, ofEntries, find?_node hes he, Option.elim_some]

theorem preds_ofEntries (entry : N) {es : List (Entry N)} (hes : (es.map Entry.node).Nodup)
    (hpreds : ∀ e ∈ es, e.preds = none) (n : N) :
    (ofEntries entry es).preds n =
      (es.filter fun e => e.fall.contains n || e.branch.contains n).map Entry.node := by
  simp only [ofEntries]
  cases hlookup : List.lookup n _ with
  | none => rfl
  | some ps =>
    obtain ⟨front, back, hknown, -⟩ := List.lookup_eq_some_iff.mp hlookup
    have hmem : (n, ps) ∈ front ++ (n, ps) :: back := by simp
    rw [← hknown] at hmem
    obtain ⟨e, he, heq⟩ := List.mem_map.mp hmem
    rw [find?_node hes he, Option.bind_some, hpreds e he] at heq
    cases heq
    rfl

/-- **Predecessors of a listed graph** are those that its neighbours say. -/
theorem predsAgree_ofEntries (entry : N) {es : List (Entry N)} (hes : (es.map Entry.node).Nodup)
    (hpreds : ∀ e ∈ es, e.preds = none) : (ofEntries entry es).PredsAgree := by
  intro n _ p
  rw [preds_ofEntries entry hes hpreds, List.mem_map]
  constructor
  · rintro ⟨e, he, rfl⟩
    obtain ⟨he, hn⟩ := List.mem_filter.mp he
    refine ⟨List.mem_map_of_mem he, ?_⟩
    rw [succs_ofEntries entry hes he]
    simpa using hn
  · rintro ⟨hp, hn⟩
    obtain ⟨e, he, rfl⟩ := List.mem_map.mp hp
    rw [succs_ofEntries entry hes he] at hn
    exact ⟨e, List.mem_filter.mpr ⟨he, by simpa using hn⟩, rfl⟩

/-- **The order of the first visits holds exactly the nodes.** -/
theorem mem_visitOrder {n : N} : n ∈ g.visitOrder ↔ n ∈ g.nodes := by
  have hreach : ∀ m ∈ (g.indexed.breadthFirst? g.entry).getD [], m ∈ g.nodes := by
    intro m hm
    cases hb : g.indexed.breadthFirst? g.entry with
    | none => simp [hb] at hm
    | some order =>
      obtain ⟨r, _, rfl⟩ := Option.map_eq_some_iff.mp hb
      rw [hb, Option.getD_some, IndexGraph.nodesAt, List.mem_filterMap] at hm
      obtain ⟨i, _, hi⟩ := hm
      exact List.mem_of_getElem? hi
  rw [visitOrder, unreachable, IndexGraph.unreachable, List.mem_append, List.mem_filter]
  constructor
  · rintro (h | h)
    · exact hreach n h
    · exact h.1
  · intro h
    by_cases hm : n ∈ (g.indexed.breadthFirst? g.entry).getD []
    · exact .inl hm
    · exact .inr ⟨h, by simpa using hm⟩

end Entering

end FlowGraph

end FlagFlow
