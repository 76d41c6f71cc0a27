import FlagFlow.Proofs.Predecessors
import FlagFlow.Proofs.Table
import FlagFlow.Report.Drawing

/-!
# Sketches show the edges of their graphs

The edges of a graph are added to its sketch one by one, in any order and number of fall-through and
branch edges between the same nodes.

* `EdgeMarks.has`: whether an edge of a sketch is marked for a kind.
* `Sketch.find?_addEdge`: what adding an edge changes; `Sketch.isSome_find?_foldl_addEdge` and
  `Sketch.has_foldl_addEdge`: what adding many changes.
* **`Sketch.find?_ofGraph`**: the edges of the sketch of a graph.
* `Sketch.filter_links`: the list of edges has one for every pair that is joined.
* **`Func.sketch_shows_graph`**: the sketch of a function that was analysed.
-/

namespace FlagFlow

/-! ## Marks -/

namespace EdgeMarks

/-- Whether an edge of a sketch stands for an edge of a kind. -/
def has (m : EdgeMarks) : EdgeKind → Bool
  | .fall => m.fall
  | .branch => m.branch

theorem has_add (m : EdgeMarks) (k k' : EdgeKind) :
    (m.add k).has k' = (m.has k' || decide (k' = k)) := by
  cases k <;> cases k' <;> simp [add, has]

end EdgeMarks

/-! ## Adding edges -/

theorem FlowGraph.mem_edges {N : Type} {g : FlowGraph N} {n m : N} {k : EdgeKind} :
    (n, k, m) ∈ g.edges ↔ n ∈ g.nodes ∧ m ∈ g.succsBy k n := by
  cases k <;> simp [edges, succsBy]

namespace Sketch

variable {N F : Type} [DecidableEq N] {s : Sketch N F} {q : Nat × Nat}

@[simp]
theorem nodes_addEdge (s : Sketch N F) (e : N × EdgeKind × N) : (s.addEdge e).nodes = s.nodes := by
  unfold addEdge
  split <;> rfl

theorem ends?_addEdge (s : Sketch N F) (e : N × EdgeKind × N) : (s.addEdge e).ends? = s.ends? := by
  funext n m
  rw [ends?, nodes_addEdge, ends?]

/-- **Adding an edge** marks the pair that it joins, and changes nothing else. -/
theorem find?_addEdge (s : Sketch N F) (e : N × EdgeKind × N) (q : Nat × Nat) :
    (s.addEdge e).edges.find? q =
      if s.ends? e.1 e.2.2 = some q then some ((s.edges.getD q {}).add e.2.1)
      else s.edges.find? q := by
  unfold addEdge
  cases s.ends? e.1 e.2.2 with
  | none => simp
  | some q' =>
    rw [Table.find?_set]
    by_cases h : q = q'
    · rw [if_pos h, if_pos (congrArg some h.symm), h]
    · rw [if_neg h, if_neg fun h' => h (Option.some.inj h').symm]

theorem isSome_find?_foldl_addEdge (es : List (N × EdgeKind × N)) (s : Sketch N F) (q : Nat × Nat) :
    ((es.foldl addEdge s).edges.find? q).isSome = true ↔
      (s.edges.find? q).isSome = true ∨ ∃ e ∈ es, s.ends? e.1 e.2.2 = some q := by
  induction es generalizing s with
  | nil => simp
  | cons e es ih =>
    rw [List.foldl_cons, ih, find?_addEdge, ends?_addEdge]
    by_cases h : s.ends? e.1 e.2.2 = some q <;> simp [h]

/-- The marks of a pair after edges have been added. -/
theorem has_foldl_addEdge (es : List (N × EdgeKind × N)) (s : Sketch N F) (q : Nat × Nat)
    (k : EdgeKind) :
    ((es.foldl addEdge s).edges.getD q {}).has k = true ↔
      (s.edges.getD q {}).has k = true ∨ ∃ e ∈ es, s.ends? e.1 e.2.2 = some q ∧ e.2.1 = k := by
  induction es generalizing s with
  | nil => simp
  | cons e es ih =>
    rw [List.foldl_cons, ih, ends?_addEdge, Table.getD, find?_addEdge]
    by_cases h : s.ends? e.1 e.2.2 = some q
    · simp [h, EdgeMarks.has_add, or_assoc, eq_comm (a := k)]
    · simp [h, Table.getD]

/-! ## The sketch of a graph -/

variable {g : FlowGraph N} (before : N → F)

theorem entries_ofNodes {nodes : List N} (hnodup : nodes.Nodup) :
    (ofNodes nodes before).nodes.entries = nodes.zipIdx.map fun e => (e.1, ⟨e.2, before e.1⟩) := by
  refine Table.entries_ofList ?_
  rw [List.map_map]
  have hfst : nodes.zipIdx.map (Prod.fst ∘ fun e : N × Nat => (e.1,
      (⟨e.2, before e.1⟩ : SketchNode F))) = nodes :=
    List.zipIdx_map_fst 0 nodes
  rwa [hfst]

theorem find?_ofNodes {nodes : List N} (hnodup : nodes.Nodup) {n : N} {x : SketchNode F} :
    (ofNodes nodes before).nodes.find? n = some x ↔ nodes[x.id]? = some n ∧ x.before = before n := by
  rw [Table.find?_eq_some_iff, entries_ofNodes before hnodup, List.mem_map]
  constructor
  · rintro ⟨⟨m, i⟩, hmem, heq⟩
    obtain ⟨rfl, rfl⟩ := Prod.mk.inj heq
    exact ⟨List.mem_zipIdx_iff_getElem?.mp hmem, rfl⟩
  · rintro ⟨hid, hbefore⟩
    refine ⟨(n, x.id), List.mem_zipIdx_iff_getElem?.mpr hid, ?_⟩
    rw [← hbefore]

theorem ends?_ofNodes {nodes : List N} (hnodup : nodes.Nodup) {n m : N} {i j : Nat} :
    (ofNodes nodes before).ends? n m = some (i, j) ↔
      n ≠ m ∧ nodes[i]? = some n ∧ nodes[j]? = some m := by
  rw [ends?]
  by_cases hne : n = m
  · simp [hne]
  rw [if_neg hne]
  constructor
  · intro h
    cases hn : (ofNodes nodes before).nodes.find? n with
    | none => simp [hn] at h
    | some x =>
      cases hm : (ofNodes nodes before).nodes.find? m with
      | none => simp [hn, hm] at h
      | some y =>
        simp only [hn, hm, Option.some.injEq, Prod.mk.injEq] at h
        obtain ⟨rfl, rfl⟩ := h
        exact ⟨hne, ((find?_ofNodes before hnodup).mp hn).1, ((find?_ofNodes before hnodup).mp hm).1⟩
  · rintro ⟨-, hi, hj⟩
    have hn : (ofNodes nodes before).nodes.find? n = some ⟨i, before n⟩ :=
      (find?_ofNodes before hnodup).mpr ⟨hi, rfl⟩
    have hm : (ofNodes nodes before).nodes.find? m = some ⟨j, before m⟩ :=
      (find?_ofNodes before hnodup).mpr ⟨hj, rfl⟩
    rw [hn, hm]

theorem nodes_ofGraph (g : FlowGraph N) :
    (ofGraph g before).nodes = (ofNodes g.nodes before).nodes := by
  have hfold : ∀ (es : List (N × EdgeKind × N)) (s : Sketch N F), (es.foldl addEdge s).nodes =
      s.nodes := by
    intro es
    induction es with
    | nil => exact fun _ => rfl
    | cons e es ih => exact fun s => (ih _).trans (nodes_addEdge s e)
  exact hfold g.edges _

section Places

variable (hnodup : g.nodes.Nodup) {n m : N} {i j : Nat} (hi : g.nodes[i]? = some n)
  (hj : g.nodes[j]? = some m)

include hnodup hi hj

theorem exists_edge_iff (k : EdgeKind) :
    (∃ e ∈ g.edges, (ofNodes g.nodes before).ends? e.1 e.2.2 = some (i, j) ∧ e.2.1 = k) ↔
      n ≠ m ∧ m ∈ g.succsBy k n := by
  constructor
  · rintro ⟨⟨n', k', m'⟩, hmem, hends, rfl⟩
    obtain ⟨hne, hi', hj'⟩ := (ends?_ofNodes before hnodup).mp hends
    obtain rfl : n = n' := Option.some.inj (hi.symm.trans hi')
    obtain rfl : m = m' := Option.some.inj (hj.symm.trans hj')
    exact ⟨hne, (FlowGraph.mem_edges.mp hmem).2⟩
  · rintro ⟨hne, hmem⟩
    exact ⟨(n, k, m), FlowGraph.mem_edges.mpr ⟨List.mem_of_getElem? hi, hmem⟩,
      (ends?_ofNodes before hnodup).mpr ⟨hne, hi, hj⟩, rfl⟩

theorem isSome_find?_ofGraph :
    ((ofGraph g before).edges.find? (i, j)).isSome = true ↔
      n ≠ m ∧ (m ∈ g.fall n ∨ m ∈ g.branch n) := by
  have hkinds := exists_edge_iff before hnodup hi hj
  rw [ofGraph, isSome_find?_foldl_addEdge, ← List.mem_append, ← FlowGraph.succs,
    FlowGraph.mem_succs_iff]
  constructor
  · rintro (hempty | ⟨e, he, hends⟩)
    · cases hempty
    · obtain ⟨hne, hmem⟩ := (hkinds e.2.1).mp ⟨e, he, hends, rfl⟩
      exact ⟨hne, e.2.1, hmem⟩
  · rintro ⟨hne, k, hmem⟩
    obtain ⟨e, he, hends, -⟩ := (hkinds k).mpr ⟨hne, hmem⟩
    exact .inr ⟨e, he, hends⟩

theorem has_ofGraph (k : EdgeKind) :
    ((ofGraph g before).edges.getD (i, j) {}).has k = true ↔ n ≠ m ∧ m ∈ g.succsBy k n := by
  rw [ofGraph, has_foldl_addEdge, exists_edge_iff before hnodup hi hj, or_iff_right]
  cases k <;> exact Bool.false_ne_true

/-- **The edges of the sketch of a graph** join different places, with the marks of their kinds. -/
theorem find?_ofGraph :
    (ofGraph g before).edges.find? (i, j) =
      if n ≠ m ∧ (m ∈ g.fall n ∨ m ∈ g.branch n)
      then some ⟨decide (m ∈ g.fall n), decide (m ∈ g.branch n)⟩ else none := by
  have hsome := isSome_find?_ofGraph before hnodup hi hj
  have hhas := has_ofGraph before hnodup hi hj
  cases hmarks : (ofGraph g before).edges.find? (i, j) with
  | none =>
    rw [hmarks] at hsome
    exact (if_neg fun h => Bool.false_ne_true (hsome.mpr h)).symm
  | some marks =>
    rw [hmarks] at hsome
    have hjoined := hsome.mp rfl
    simp only [Table.getD, hmarks, Option.getD_some, hjoined.1, ne_eq, not_false_eq_true, true_and]
      at hhas
    have hfall : marks.fall = decide (m ∈ g.fall n) :=
      Bool.eq_iff_iff.mpr ((hhas .fall).trans decide_eq_true_iff.symm)
    have hbranch : marks.branch = decide (m ∈ g.branch n) :=
      Bool.eq_iff_iff.mpr ((hhas .branch).trans decide_eq_true_iff.symm)
    rw [if_pos hjoined, ← hfall, ← hbranch]

end Places

theorem lt_length_of_find?_ofGraph (hnodup : g.nodes.Nodup) {i j : Nat}
    (h : ((ofGraph g before).edges.find? (i, j)).isSome = true) :
    i < g.nodes.length ∧ j < g.nodes.length := by
  rw [ofGraph, isSome_find?_foldl_addEdge] at h
  rcases h with hempty | ⟨e, -, hends⟩
  · cases hempty
  · obtain ⟨-, hi, hj⟩ := (ends?_ofNodes before hnodup).mp hends
    exact ⟨(List.getElem?_eq_some_iff.mp hi).1, (List.getElem?_eq_some_iff.mp hj).1⟩

/-! ## The list of edges -/

omit [DecidableEq N] in
/-- **A pair that is joined has one edge in the list, and another pair has none.** -/
theorem filter_links (s : Sketch N F) (i j : Nat) :
    s.links.filter (fun e => e.source = i ∧ e.target = j) =
      ((s.edges.find? (i, j)).map fun m => Link.ofEntry ((i, j), m)).toList := by
  have hperm : (s.links.filter fun e => e.source = i ∧ e.target = j).Perm
      ((s.edges.entries.filter fun e => e.1 = (i, j)).map Link.ofEntry) := by
    refine ((List.mergeSort_perm _ _).filter _).trans ?_
    rw [List.filter_map]
    refine List.Perm.of_eq (congrArg _ (List.filter_congr fun e _ => ?_))
    exact decide_eq_decide.mpr (Prod.ext_iff (x := e.1) (y := (i, j))).symm
  rw [Table.filter_entries] at hperm
  cases hfind : s.edges.find? (i, j) with
  | none => simpa [hfind] using hperm
  | some m => simpa [hfind] using hperm

end Sketch

/-! ## The sketch of a function -/

namespace Func

variable {f : Func}

theorem body?_of_states {name : String} {o : Options} {b : Body Nat Slot} {s : Solution Nat (Env Slot)}
    (h : (f.analyze name o).states = some (b, s)) : f.body? = some b := by
  unfold analyze at h
  cases hb : f.body? with
  | none => simp [hb] at h
  | some b' =>
    cases hs : b'.analyze o.isFeature o.maxVisits with
    | error e => simp [hb, hs] at h
    | ok s' => cases he : b'.shortfall? o.maxVisits s' <;> simp_all

section Body

variable {b : Body Nat Slot} (hb : f.body? = some b)

include hb

theorem nodes_of_body? : b.nodes = List.range f.code.length := by
  rw [body?_eq_some hb, nodes_graph]

theorem mem_nodes_of_successor {i j : Nat} (h : j ∈ b.fall i ∨ j ∈ b.branch i) :
    i ∈ b.nodes ∧ j ∈ b.nodes := by
  rw [← List.mem_append, ← FlowGraph.succs, body?_eq_some hb] at h
  obtain ⟨k, hk⟩ := FlowGraph.mem_succs_iff.mp h
  rw [body?_eq_some hb]
  exact ⟨mem_nodes_graph.mpr (standsAt_of_mem_succsBy hk), mem_nodes_of_mem_succs h⟩

theorem filter_links_ofGraph {F : Type} (before : Nat → F) (i j : Nat) :
    (Sketch.ofGraph b.toFlowGraph before).links.filter (fun e => e.source = i ∧ e.target = j) =
      if i ≠ j ∧ (j ∈ b.fall i ∨ j ∈ b.branch i)
      then [⟨i, j, decide (j ∈ b.fall i), decide (j ∈ b.branch i)⟩] else [] := by
  have hnodes := nodes_of_body? hb
  have hnodup : b.nodes.Nodup := hnodes ▸ List.nodup_range
  have hplace : ∀ i ∈ b.nodes, b.nodes[i]? = some i := fun i hi => by
    rw [hnodes, List.mem_range] at hi
    rw [hnodes, List.getElem?_range hi]
  rw [Sketch.filter_links]
  by_cases hmem : i ∈ b.nodes ∧ j ∈ b.nodes
  · rw [Sketch.find?_ofGraph before hnodup (hplace i hmem.1) (hplace j hmem.2)]
    split <;> rfl
  · have hnone : (Sketch.ofGraph b.toFlowGraph before).edges.find? (i, j) = none := by
      refine Option.not_isSome_iff_eq_none.mp fun hsome => hmem ?_
      have hlt := Sketch.lt_length_of_find?_ofGraph before hnodup hsome
      rwa [hnodes, List.length_range, ← List.mem_range, ← List.mem_range, ← hnodes] at hlt
    rw [hnone, if_neg fun h => hmem (mem_nodes_of_successor hb h.2)]
    rfl

theorem entries_ofGraph {F : Type} (before : Nat → F) :
    (Sketch.ofGraph b.toFlowGraph before).nodes.entries =
      (List.range f.code.length).map fun i => (i, ⟨i, before i⟩) := by
  have hnodes := nodes_of_body? hb
  rw [Sketch.nodes_ofGraph, Sketch.entries_ofNodes before (hnodes ▸ List.nodup_range), hnodes]
  exact List.ext_getElem (by simp) fun i _ _ => by simp

end Body

/-- **The sketch shows the instruction graph**: a node for each instruction, and one edge to each
other one that follows it. -/
theorem sketch_shows_graph (f : Func) (name : String) (o : Options) {b : Body Nat Slot}
    {s : Solution Nat (Env Slot)} (h : (f.analyze name o).states = some (b, s)) :
    f.body? = some b ∧ ∃ g, (f.analyze name o).sketch? = some g ∧
      g.nodes.entries = (List.range f.code.length).map (fun i => (i, ⟨i, (s.flowsAt i).before⟩)) ∧
      (∀ i j, g.links.filter (fun e => e.source = i ∧ e.target = j) =
        if i ≠ j ∧ (j ∈ b.fall i ∨ j ∈ b.branch i)
        then [⟨i, j, decide (j ∈ b.fall i), decide (j ∈ b.branch i)⟩] else []) ∧
      ∀ e ∈ g.links, e.source ≠ e.target := by
  have hb := body?_of_states h
  refine ⟨hb, _, by rw [Findings.sketch?, h, Option.map_some], entries_ofGraph hb _,
    filter_links_ofGraph hb _, ?_⟩
  intro e he hself
  have hnone := filter_links_ofGraph hb (fun n => (s.flowsAt n).before) e.source e.target
  rw [if_neg fun hne => hne.1 hself, List.filter_eq_nil_iff] at hnone
  exact hnone e he (decide_eq_true ⟨rfl, rfl⟩)

/-- A branch whose edges both lead to a jump, which leads to itself. -/
def turning : Func where
  blocks := [
    { succs := [1, 1], instrs := [{ kind := .branch (.param 0) }] },
    { succs := [1], preds := [0, 0, 1], instrs := [{ kind := .jump }] }]

theorem sketch_shows_graph_turning :
    ∃ b s g, (turning.analyze "p.turning" ⟨(· == defaultCallee), 0⟩).states = some (b, s) ∧
      (turning.analyze "p.turning" ⟨(· == defaultCallee), 0⟩).sketch? = some g ∧
      g.links.filter (fun e => e.source = 0 ∧ e.target = 1) = [⟨0, 1, true, true⟩] ∧
      g.links.filter (fun e => e.source = 1 ∧ e.target = 1) = [] := by
  have hsome : (turning.analyze "p.turning" ⟨(· == defaultCallee), 0⟩).states.isSome = true := by
    decide
  obtain ⟨⟨b, s⟩, h⟩ := Option.isSome_iff_exists.mp hsome
  obtain ⟨hb, g, hg, -, hlinks, -⟩ :=
    sketch_shows_graph turning "p.turning" ⟨(· == defaultCallee), 0⟩ h
  have hfall : b.fall 0 = [1] := by rw [body?_eq_some hb]; decide
  have hbranch : b.branch 0 = [1] := by rw [body?_eq_some hb]; decide
  refine ⟨b, s, g, h, hg, ?_, ?_⟩
  · rw [hlinks, hfall, hbranch]
    decide
  · rw [hlinks]
    rfl

end Func

end FlagFlow
