import FlagFlow.Proofs.Flattening

/-!
# The predecessors of instructions

The predecessors of an instruction are read off the successors. They can as well be recorded while
walking through the blocks: inside a block an instruction is noted at the next one without further
ado, and at the end of a block it is noted at every instruction that control comes to, unless it is
there already. Both give the same lists, so that a graph of instructions is what the solver of
dataflow problems takes for granted.

* `FlowGraph.Consistent`: what the solver takes for granted; `FlowGraph.Consistent.count_entering`:
  every edge enters a node exactly once.
* `Func.recorded`: the predecessors as a walk through the blocks records them;
  `Func.recorded_eq_preds`.
* `Func.consistent_graph`: the graph of a function with code is consistent.
* `Func.BranchesAt`: a branch at the end of a block.
* **`Func.graph_suits_solver`**: what the solver finds in the graph of a function.
-/

namespace FlagFlow

/-! ## Consistent graphs -/

namespace FlowGraph

variable {N : Type} {g : FlowGraph N}

/-- Nodes are listed once and hold the entry and all successors, and the predecessors of a node are
the nodes that lead to it, each once. -/
structure Consistent (g : FlowGraph N) : Prop where
  nodup : g.nodes.Nodup
  entry_mem : g.entry ∈ g.nodes
  succs_mem : ∀ p n, n ∈ g.succs p → n ∈ g.nodes
  mem_preds : ∀ p n, p ∈ g.preds n ↔ n ∈ g.fall p ∨ n ∈ g.branch p
  nodup_preds : ∀ n, (g.preds n).Nodup

variable [DecidableEq N]

theorem count_edgesBetween (p n q : N) (k : EdgeKind) :
    (g.edgesBetween p n).count (q, k) = if q = p ∧ n ∈ g.succsBy k p then 1 else 0 := by
  by_cases hq : q = p
  · subst hq
    cases k <;> by_cases hf : n ∈ g.fall q <;> by_cases hb : n ∈ g.branch q <;>
      simp [edgesBetween, succsBy, hf, hb]
  · rw [if_neg (fun h => hq h.1), List.count_eq_zero, mem_edgesBetween]
    exact fun h => hq h.1

theorem count_flatMap_edgesBetween {ps : List N} (hps : ps.Nodup) (n q : N) (k : EdgeKind) :
    (ps.flatMap (g.edgesBetween · n)).count (q, k) = if q ∈ ps ∧ n ∈ g.succsBy k q then 1 else 0 := by
  induction ps with
  | nil => simp
  | cons p ps ih =>
    obtain ⟨hp, hps⟩ := List.nodup_cons.mp hps
    rw [List.flatMap_cons, List.count_append, count_edgesBetween, ih hps]
    by_cases hq : q = p
    · subst hq
      simp [hp]
    · simp [hq]

/-- **Every edge enters once.** -/
theorem Consistent.count_entering (hg : g.Consistent) (n p : N) (k : EdgeKind) :
    (g.entering n).count (p, k) = if n ∈ g.succsBy k p then 1 else 0 := by
  by_cases hn : n ∈ g.nodes
  · have hpreds : n ∈ g.succsBy k p → p ∈ g.preds n := fun h => by
      rw [hg.mem_preds]
      cases k with
      | fall => exact .inl h
      | branch => exact .inr h
    rw [entering, List.count_eq_one_of_mem hg.nodup hn, List.replicate_one, List.flatten_singleton,
      count_flatMap_edgesBetween (hg.nodup_preds n)]
    exact if_congr ⟨fun h => h.2, fun h => ⟨hpreds h, h⟩⟩ rfl rfl
  · have hsucc : n ∉ g.succsBy k p := fun h => hn (hg.succs_mem p n (mem_succs_iff.mpr ⟨k, h⟩))
    rw [if_neg hsucc, List.count_eq_zero, mem_entering]
    exact fun h => hn h.1

end FlowGraph

namespace Func

variable {f : Func} {b i j k n : Nat} {B : Block}

/-! ## Recording predecessors -/

/-- Notes `p` at `n`. -/
def noteAt (p : Nat) (preds : Nat → List Nat) (n : Nat) : Nat → List Nat :=
  fun m => if m = n then preds m ++ [p] else preds m

/-- Notes `p` at `n`, unless it is there already. -/
def noteOnceAt (p : Nat) (preds : Nat → List Nat) (n : Nat) : Nat → List Nat :=
  if p ∈ preds n then preds else noteAt p preds n

/-- Records the predecessors that the instructions of a block are, the first of which has the number
`start`. -/
def recordBlock (f : Func) (succs : List Nat) :
    (start : Nat) → List Instr → (Nat → List Nat) → Nat → List Nat
  | _, [], preds => preds
  | start, [last], preds =>
    (f.exits succs last).2.foldl (noteOnceAt start)
      ((f.exits succs last).1.foldl (noteOnceAt start) preds)
  | start, _ :: next :: rest, preds =>
    recordBlock f succs (start + 1) (next :: rest) (noteAt start preds (start + 1))

/-- The predecessors that a walk through all blocks records. -/
def recorded (f : Func) : Nat → List Nat :=
  f.blocks.zipIdx.foldl (fun preds e => f.recordBlock e.1.succs (f.blockStart e.2) e.1.instrs preds)
    fun _ => []

/-- The instructions from the number `start` on that have `n` as a successor. -/
def leading (n start : Nat) (outs : List (List Nat × List Nat)) : List Nat :=
  ((outs.zipIdx start).filter fun e => e.1.1.contains n || e.1.2.contains n).map Prod.snd

theorem leading_cons (n start : Nat) (out : List Nat × List Nat) (outs : List (List Nat × List Nat)) :
    leading n start (out :: outs) =
      (if n ∈ out.1 ∨ n ∈ out.2 then [start] else []) ++ leading n (start + 1) outs := by
  by_cases h : n ∈ out.1 ∨ n ∈ out.2 <;> simp [leading, List.zipIdx_cons, h]

theorem leading_append (n start : Nat) (outs outs' : List (List Nat × List Nat)) :
    leading n start (outs ++ outs') =
      leading n start outs ++ leading n (start + outs.length) outs' := by
  simp [leading, List.zipIdx_append]

theorem lt_of_mem_leading {outs : List (List Nat × List Nat)} {start p : Nat}
    (hp : p ∈ leading n start outs) :
    p < start + outs.length := by
  obtain ⟨⟨out, q⟩, he, rfl⟩ := List.mem_map.mp hp
  have := List.snd_lt_of_mem_zipIdx (List.mem_of_mem_filter he)
  omega

theorem foldl_noteOnceAt (p : Nat) (ns : List Nat) (preds : Nat → List Nat) (m : Nat) :
    ns.foldl (noteOnceAt p) preds m = if m ∈ ns ∧ p ∉ preds m then preds m ++ [p] else preds m := by
  induction ns generalizing preds with
  | nil => simp
  | cons n ns ih =>
    rw [List.foldl_cons, ih]
    by_cases hn : p ∈ preds n <;> by_cases hm : m = n <;> simp_all [noteOnceAt, noteAt]

/-- **One block** adds its instructions at the end of the predecessors. -/
theorem recordBlock_eq (f : Func) (succs : List Nat) (start : Nat) (is : List Instr)
    (preds : Nat → List Nat) (hlt : ∀ m, ∀ p ∈ preds m, p < start) (n : Nat) :
    f.recordBlock succs start is preds n =
      preds n ++ leading n start (f.blockSuccessors succs start is) := by
  fun_induction recordBlock f succs start is preds with
  | case1 => simp [blockSuccessors, leading]
  | case2 start last preds =>
    have hnot : start ∉ preds n := fun h => Nat.lt_irrefl _ (hlt n start h)
    rw [blockSuccessors, leading_cons, foldl_noteOnceAt, foldl_noteOnceAt]
    by_cases hf : n ∈ (f.exits succs last).1 <;> by_cases hb : n ∈ (f.exits succs last).2 <;>
      simp [hf, hb, hnot, leading]
  | case3 start _ next rest preds ih =>
    -- what has been noted is smaller, so there is no need to look for it
    have hnext : ∀ m, ∀ p ∈ noteAt start preds (start + 1) m, p < start + 1 := by
      intro m p hp
      unfold noteAt at hp
      split at hp
      · obtain hp | hp := List.mem_append.mp hp
        · exact Nat.lt_succ_of_lt (hlt m p hp)
        · rw [List.mem_singleton.mp hp]
          exact Nat.lt_succ_self start
      · exact Nat.lt_succ_of_lt (hlt m p hp)
    rw [ih hnext, blockSuccessors, leading_cons]
    by_cases hn : n = start + 1 <;> simp [noteAt, hn]

theorem blockStart_succ (hb : f.blocks[b]? = some B) :
    f.blockStart (b + 1) = f.blockStart b + B.instrs.length := by
  obtain ⟨hlt, rfl⟩ := List.getElem?_eq_some_iff.mp hb
  rw [blockStart, List.take_succ_eq_append_getElem hlt, List.flatMap_append, List.length_append]
  simp [blockStart]

/-- **A walk through the blocks** from block `b` on. -/
theorem foldl_recordBlock (f : Func) (n : Nat) (bs : List Block) :
    ∀ (b : Nat) (preds : Nat → List Nat), f.blocks.drop b = bs →
    (∀ m, ∀ p ∈ preds m, p < f.blockStart b) →
      (bs.zipIdx b).foldl
          (fun preds e => f.recordBlock e.1.succs (f.blockStart e.2) e.1.instrs preds) preds n =
        preds n ++ leading n (f.blockStart b)
          ((bs.zipIdx b).flatMap fun e => f.blockSuccessors e.1.succs (f.blockStart e.2)
            e.1.instrs) := by
  induction bs with
  | nil => intro b preds _ _; simp [leading]
  | cons B bs ih =>
    intro b preds hdrop hlt
    have hB : f.blocks[b]? = some B := by
      rw [← List.head?_drop, hdrop, List.head?_cons]
    have hrest : f.blocks.drop (b + 1) = bs := by
      rw [← List.tail_drop, hdrop, List.tail_cons]
    have hstart := blockStart_succ hB
    have hrecord := f.recordBlock_eq B.succs (f.blockStart b) B.instrs preds hlt
    rw [List.zipIdx_cons, List.foldl_cons, List.flatMap_cons, ih (b + 1) _ hrest, hrecord n,
      leading_append, length_blockSuccessors, ← hstart, List.append_assoc]
    intro m p hp
    rw [hrecord m] at hp
    obtain hp | hp := List.mem_append.mp hp
    · have := hlt m p hp
      omega
    · have := lt_of_mem_leading hp
      rwa [length_blockSuccessors, ← hstart] at this

theorem leading_successors (f : Func) (n : Nat) : leading n 0 f.successors = f.graph.preds n := by
  have hzip : f.successors.zipIdx = (List.range f.successors.length).map fun i =>
      ((f.graph.fall i, f.graph.branch i), i) := by
    refine List.ext_getElem (by simp) fun i hi _ => ?_
    have hi : i < f.successors.length := by simpa using hi
    obtain ⟨hfall, hbranch⟩ := succs_graph_of_getElem? (List.getElem?_eq_getElem hi)
    simp [hfall, hbranch]
  have hpreds : f.graph.preds n = (List.range f.successors.length).filter fun p =>
      (f.graph.fall p).contains n || (f.graph.branch p).contains n := rfl
  rw [leading, hzip, List.filter_map, List.map_map, hpreds]
  exact List.map_id' _

/-- **Recorded predecessors** are those that the successors give, in the order of the
instructions. -/
theorem recorded_eq_preds (f : Func) : f.recorded = f.graph.preds := by
  funext n
  have hwalk := f.foldl_recordBlock n f.blocks 0 (fun _ => []) List.drop_zero (by simp)
  rw [recorded, hwalk, List.nil_append]
  exact leading_successors f n

/-! ## Edges -/

theorem mem_preds_graph {p : Nat} :
    p ∈ f.graph.preds n ↔ n ∈ f.graph.fall p ∨ n ∈ f.graph.branch p := by
  have hpreds : f.graph.preds n = f.graph.nodes.filter fun p =>
      (f.graph.fall p).contains n || (f.graph.branch p).contains n := rfl
  rw [hpreds, List.mem_filter, Bool.or_eq_true, List.contains_iff_mem, List.contains_iff_mem]
  refine and_iff_right_of_imp fun h => ?_
  have hsucc : ∃ e, n ∈ f.graph.succsBy e p := h.elim (fun h => ⟨.fall, h⟩) fun h => ⟨.branch, h⟩
  exact mem_nodes_graph.mpr (standsAt_of_mem_succsBy hsucc.choose_spec)

theorem exists_leader?_of_mem_exits {succs : List Nat} {last : Instr}
    (h : j ∈ (f.exits succs last).1 ∨ j ∈ (f.exits succs last).2) :
    ∃ s ∈ succs, f.leader? s = some j := by
  unfold exits at h
  split at h
  · simp only [List.mem_filterMap] at h
    obtain ⟨s, hs, hj⟩ | ⟨s, hs, hj⟩ := h
    · exact ⟨s, List.mem_of_mem_take hs, hj⟩
    · exact ⟨s, List.mem_of_mem_drop (List.mem_of_mem_take hs), hj⟩
  · simp at h
  · simp at h
  · simpa [List.mem_filterMap] using h

theorem mem_nodes_of_mem_succs (h : j ∈ f.graph.succs i) : j ∈ f.graph.nodes := by
  obtain ⟨e, he⟩ := FlowGraph.mem_succs_iff.mp h
  obtain ⟨b, k, B, hi⟩ := standsAt_of_mem_succsBy he
  rw [FlowGraph.succs, List.mem_append] at h
  rw [mem_nodes_graph]
  by_cases hk : k + 1 < B.instrs.length
  · obtain ⟨hfall, hbranch⟩ := succsBy_graph_of_lt hi hk
    have hj : j = i + 1 := by simpa [hfall, hbranch] using h
    have hnumber := hi.number
    exact ⟨b, k + 1, B, hi.block, hk, by omega⟩
  · have hlast : k + 1 = B.instrs.length := by have := hi.lt; omega
    obtain ⟨hfall, hbranch⟩ := succsBy_graph_of_last hi hlast (List.getElem?_eq_getElem hi.lt)
    rw [hfall, hbranch] at h
    obtain ⟨s, -, hs⟩ := exists_leader?_of_mem_exits h
    obtain ⟨d, hd, rfl⟩ := leader?_eq_some_iff.mp hs
    obtain ⟨D, hD, hne⟩ := hd.exists_block
    exact ⟨d, 0, D, hD, List.length_pos_iff.mpr hne, rfl⟩

/-- **Consistency.** No block needs to be regular for it. -/
theorem consistent_graph (hcode : f.hasCode = true) : f.graph.Consistent where
  nodup := by
    rw [nodes_graph]
    exact List.nodup_range
  entry_mem := by
    unfold hasCode at hcode
    split at hcode
    · rename_i B Bs hblocks
      refine mem_nodes_graph.mpr ⟨0, 0, B, by rw [hblocks]; rfl, ?_, rfl⟩
      exact List.length_pos_iff.mpr (by simpa using hcode)
    · cases hcode
  succs_mem _ _ := mem_nodes_of_mem_succs
  mem_preds _ _ := mem_preds_graph
  nodup_preds n := by
    have hnodes : f.graph.nodes.Nodup := by
      rw [nodes_graph]
      exact List.nodup_range
    exact hnodes.filter _

/-- The instruction with the number `i` is a branch at the end of a block. -/
def BranchesAt (f : Func) (i : Nat) : Prop :=
  ∃ b k B I x, f.StandsAt i b k B ∧ k + 1 = B.instrs.length ∧ B.instrs[k]? = some I ∧
    I.kind = .branch x

theorem branchesAt_of_branch_ne_nil (h : f.graph.branch i ≠ []) : f.BranchesAt i := by
  obtain ⟨j, hj⟩ := List.exists_mem_of_ne_nil _ h
  obtain ⟨b, k, B, hi⟩ := standsAt_of_mem_succsBy (e := .branch) hj
  have hI := List.getElem?_eq_getElem hi.lt
  have hlast : k + 1 = B.instrs.length := by
    have hle := hi.lt
    by_contra hne
    exact h (succsBy_graph_of_lt hi (by omega)).2
  rw [(succsBy_graph_of_last hi hlast hI).2] at h
  unfold exits at h
  split at h
  · rename_i x hx
    exact ⟨b, k, B, _, x, hi, hlast, hI, hx⟩
  all_goals exact absurd rfl h

theorem length_le_one_of_branchesAt (h : f.BranchesAt i) (e : EdgeKind) :
    (f.graph.succsBy e i).length ≤ 1 := by
  obtain ⟨b, k, B, I, x, hi, hlast, hI, hx⟩ := h
  obtain ⟨hfall, hbranch⟩ := succsBy_graph_of_last hi hlast hI
  have htake : ∀ ss : List Nat, ((ss.take 1).filterMap f.leader?).length ≤ 1 := fun ss =>
    (List.length_filterMap_le _ _).trans (List.length_take_le 1 ss)
  rw [exits, hx] at hfall hbranch
  cases e with
  | fall =>
    rw [FlowGraph.succsBy, hfall]
    exact htake B.succs
  | branch =>
    rw [FlowGraph.succsBy, hbranch]
    exact htake (B.succs.drop 1)

/-- **The instruction graph suits the solver.** It lists nodes and predecessors once, and each edge
is merged once. -/
theorem graph_suits_solver {g : Body Nat Slot} (hg : f.body? = some g) :
    g.nodes.Nodup ∧ g.entry ∈ g.nodes ∧ (∀ p n, n ∈ g.fall p ∨ n ∈ g.branch p → n ∈ g.nodes) ∧
      (∀ p n, p ∈ g.preds n ↔ n ∈ g.fall p ∨ n ∈ g.branch p) ∧ (∀ n, (g.preds n).Nodup) ∧
      g.preds = f.recorded ∧
      (∀ i, g.branch i ≠ [] → f.BranchesAt i) ∧
      (∀ i, f.BranchesAt i → (g.fall i).length ≤ 1 ∧ (g.branch i).length ≤ 1) ∧
      ∀ n p k, (g.entering n).count (p, k) = if n ∈ g.succsBy k p then 1 else 0 := by
  have hcode : f.hasCode = true := by
    by_contra hcode
    simp [body?, hcode] at hg
  rw [body?_eq_some hg]
  have hgraph := consistent_graph hcode
  exact ⟨hgraph.nodup, hgraph.entry_mem,
    fun p n h => hgraph.succs_mem p n (List.mem_append.mpr h), hgraph.mem_preds, hgraph.nodup_preds,
    f.recorded_eq_preds.symm, fun _ => branchesAt_of_branch_ne_nil,
    fun _ h => ⟨length_le_one_of_branchesAt h .fall, length_le_one_of_branchesAt h .branch⟩,
    hgraph.count_entering⟩

/-- A loop whose branch comes back to its start along both edges, along one of them through a block
without instructions. -/
def spinning : Func where
  blocks := [
    { succs := [1], instrs := [{ kind := .jump }] },
    { succs := [2, 1], instrs := [{ kind := .effect "poll" [] }, { kind := .branch (.param 0) }] },
    { succs := [1] }]

theorem graph_suits_solver_spinning :
    ∃ g, spinning.body? = some g ∧ g.fall 2 = [1] ∧ g.branch 2 = [1] ∧ g.preds 1 = [0, 2] ∧
      (g.entering 1).count (2, .fall) = 1 ∧ (g.entering 1).count (2, .branch) = 1 := by
  obtain ⟨g, hg⟩ : ∃ g, spinning.body? = some g := ⟨_, rfl⟩
  obtain ⟨-, -, -, -, -, hrecorded, -, -, hcount⟩ := graph_suits_solver hg
  have hgraph := body?_eq_some hg
  have hfall : g.fall 2 = [1] := by rw [hgraph]; decide
  have hbranch : g.branch 2 = [1] := by rw [hgraph]; decide
  refine ⟨g, hg, hfall, hbranch, by rw [hrecorded]; decide, ?_, ?_⟩
  · rw [hcount 1 2 .fall, FlowGraph.succsBy, hfall]
    rfl
  · rw [hcount 1 2 .branch, FlowGraph.succsBy, hbranch]
    rfl

end Func

end FlagFlow
