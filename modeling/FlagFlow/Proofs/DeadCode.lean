import FlagFlow.Proofs.BreadthFirst
import FlagFlow.Proofs.PathConditions
import FlagFlow.Proofs.Truncation

/-!
# Dead code

The solver also visits the nodes that cannot be reached from the entry. They are in the same
worklist as the others, so their visits come between the visits of the others. Still they do not
matter, as long as no edge leads from them to a reachable node: the run on the reachable nodes alone
makes the same visits of these nodes in the same order, and computes the same flows. No law is asked
of the problem.

* `FlowGraph.live`: the graph without its unreachable nodes; `FlowGraph.Severed`: no edge leads from
  these to the others.
* `FlowGraph.Severed.entering_live`, `FlowGraph.Severed.reached_live`: what the reachable nodes have
  in common in both graphs.
* `Run.LiveView`: a state of the run and the state of the run on the reachable nodes that belongs to
  it; `Run.LiveView.step_dead` and `Run.LiveView.step_live` keep it.
* `exists_visiting_live`: the visits of reachable nodes are the visits of the smaller run.
* **`dead_code_irrelevant`**: the flows at reachable nodes, and the branches on the flag among them.
-/

namespace FlagFlow

namespace FlowGraph

variable {N : Type} [DecidableEq N] {g : FlowGraph N} {n m : N}

/-- The graph without its unreachable nodes. -/
def live (g : FlowGraph N) : FlowGraph N :=
  { g with
    nodes := g.nodes.filter fun n => n ∉ g.unreachable
    preds := fun n => (g.preds n).filter fun q => q ∉ g.unreachable }

/-- The nodes are distinct, their successors are nodes, and no edge leads from an unreachable node
to a reachable one. -/
structure Severed (g : FlowGraph N) : Prop where
  nodup : g.nodes.Nodup
  succs : ∀ n ∈ g.nodes, ∀ m ∈ g.succs n, m ∈ g.nodes
  dead : ∀ n ∈ g.nodes, ¬ g.Reachable n → ∀ m ∈ g.succs n, ¬ g.Reachable m

theorem mem_live : n ∈ g.live.nodes ↔ n ∈ g.nodes ∧ g.Reachable n := by
  have hlive : n ∈ g.live.nodes ↔ n ∈ g.nodes ∧ n ∉ g.unreachable := by
    rw [live, List.mem_filter, decide_eq_true_eq]
  rw [hlive, mem_unreachable]
  exact ⟨fun h => ⟨h.1, by_contra fun hr => h.2 ⟨h.1, hr⟩⟩, fun h => ⟨h.1, fun hr => hr.2 h.2⟩⟩

theorem entry_mem_live (hentry : g.entry ∈ g.nodes) : g.live.entry ∈ g.live.nodes :=
  mem_live.mpr ⟨hentry, [], .nil⟩

namespace Severed

theorem dead_of_dead (hg : g.Severed) (hn : n ∈ g.unreachable) (hm : m ∈ g.succs n) :
    m ∈ g.unreachable := by
  obtain ⟨hmem, hnot⟩ := mem_unreachable.mp hn
  exact mem_unreachable.mpr ⟨hg.succs n hmem m hm, hg.dead n hmem hnot m hm⟩

theorem live_of_live (hg : g.Severed) (hn : n ∈ g.live.nodes) (hm : m ∈ g.succs n) :
    m ∈ g.live.nodes := by
  obtain ⟨hmem, hreach⟩ := mem_live.mp hn
  obtain ⟨k, hk⟩ := mem_succs_iff.mp hm
  exact mem_live.mpr ⟨hg.succs n hmem m hm, hreach.snoc hmem hk⟩

theorem entering_live (hg : g.Severed) (hn : n ∉ g.unreachable) :
    g.live.entering n = g.entering n := by
  have hcount : g.live.nodes.count n = g.nodes.count n := List.count_filter (decide_eq_true hn)
  have hnone : ∀ q, q ∈ g.unreachable → g.edgesBetween q n = [] := by
    refine fun q hq => List.eq_nil_iff_forall_not_mem.mpr fun e he => hn ?_
    exact hg.dead_of_dead hq (mem_succs_iff.mpr ⟨e.2, (mem_edgesBetween.mp he).2⟩)
  have hedges : ∀ qs : List N, (qs.filter fun q => q ∉ g.unreachable).flatMap (g.edgesBetween · n) =
      qs.flatMap (g.edgesBetween · n) := by
    intro qs
    induction qs with
    | nil => rfl
    | cons q qs ih =>
      by_cases hq : q ∈ g.unreachable
      · rw [List.filter_cons_of_neg (by simpa using hq), ih, List.flatMap_cons, hnone q hq,
          List.nil_append]
      · rw [List.filter_cons_of_pos (by simpa using hq), List.flatMap_cons, ih, List.flatMap_cons]
  rw [entering, entering, hcount]
  exact congrArg (fun es => (List.replicate (g.nodes.count n) es).flatten) (hedges (g.preds n))

theorem reached_live (hg : g.Severed) (hentry : g.entry ∈ g.nodes) : g.live.reached = g.reached := by
  have hlisted : ∀ n ∈ g.live.nodes,
      IndexGraph.listed g.nodes g.succs n = IndexGraph.listed g.live.nodes g.succs n := by
    intro n hn
    have hfilter : (g.succs n).filter (· ∈ g.nodes) = (g.succs n).filter (· ∈ g.live.nodes) := by
      refine List.filter_congr fun m hm => ?_
      have hlive := hg.live_of_live hn hm
      rw [decide_eq_true hlive, decide_eq_true (mem_live.mp hlive).1]
    rw [IndexGraph.listed, IndexGraph.listed, hfilter]
  have hstart : IndexGraph.Searching (IndexGraph.listed g.live.nodes g.succs) g.live.nodes []
      [g.entry] := IndexGraph.searching_start (entry_mem_live hentry)
  have hlen : g.live.nodes.length ≤ g.nodes.length := List.length_filter_le _ _
  have hfuel : g.live.nodes.length ≤ ([] : List N).length + g.live.nodes.length :=
    Nat.le_add_left _ _
  exact (hstart.explore_congr (IndexGraph.listed_within g.live.nodes g.succs) hlisted hfuel hlen).symm

theorem visitOrder_live (hg : g.Severed) (hentry : g.entry ∈ g.nodes) :
    g.live.visitOrder = g.reached := by
  have hnone : g.live.unreachable = [] := by
    rw [unreachable_eq (entry_mem_live hentry), hg.reached_live hentry, List.filter_eq_nil_iff]
    intro n hn
    rw [List.contains_iff_mem.mpr ((mem_reached hentry).mpr (mem_live.mp hn))]
    exact Bool.false_ne_true
  rw [visitOrder_eq (entry_mem_live hentry), hnone, List.append_nil, hg.reached_live hentry]

end Severed

theorem filter_visitOrder (hentry : g.entry ∈ g.nodes) :
    (g.visitOrder.filter fun n => n ∉ g.unreachable) = g.reached := by
  have hreached : (g.reached.filter fun n => n ∉ g.unreachable) = g.reached := by
    refine List.filter_eq_self.mpr fun n hn => decide_eq_true fun hdead => ?_
    exact (mem_unreachable.mp hdead).2 ((mem_reached hentry).mp hn).2
  have hnone : (g.unreachable.filter fun n => n ∉ g.unreachable) = [] :=
    List.filter_eq_nil_iff.mpr fun n hn => by simpa using hn
  rw [visitOrder_eq hentry, List.filter_append, hreached, hnone, List.append_nil]

end FlowGraph

variable {N F : Type} [DecidableEq N] [Inhabited F] {g : FlowGraph N} {p : Problem N F}

/-! ## The run on the reachable nodes -/

namespace Run

variable {r r' : Run N F} {n : N} {ns rest : List N}

omit [Inhabited F] in
theorem Tidy.worklist_enqueueAll_filter {keep : N → Bool} (hr : r.Tidy) (hr' : r'.Tidy)
    (hw : r'.worklist = r.worklist.filter keep) (ns : List N) :
    (r'.enqueueAll (ns.filter keep)).worklist = (r.enqueueAll ns).worklist.filter keep := by
  induction ns generalizing r r' with
  | nil => exact hw
  | cons n ns ih =>
    by_cases hn : keep n = true
    · have hiff : n ∈ r'.queued ↔ n ∈ r.queued := by
        rw [hr'.queued.mem_iff, hr.queued.mem_iff, hw, List.mem_filter]
        exact and_iff_left hn
      have hnext : (r'.enqueue n).worklist = (r.enqueue n).worklist.filter keep := by
        unfold Run.enqueue
        by_cases hmem : n ∈ r.queued
        · rw [if_pos hmem, if_pos (hiff.mpr hmem), hw]
        · rw [if_neg hmem, if_neg fun h => hmem (hiff.mp h), List.filter_append, hw,
            List.filter_cons_of_pos hn, List.filter_nil]
      rw [List.filter_cons_of_pos hn, enqueueAll_cons, enqueueAll_cons]
      exact ih (hr.enqueue n) (hr'.enqueue n) hnext
    · have hnext : r'.worklist = (r.enqueue n).worklist.filter keep := by
        unfold Run.enqueue
        split
        · exact hw
        · rw [List.filter_append, List.filter_cons_of_neg hn, List.filter_nil, List.append_nil, hw]
      rw [List.filter_cons_of_neg hn, enqueueAll_cons]
      exact ih (hr.enqueue n) hr' hnext

theorem flowBefore_congr {g g' : FlowGraph N} (hentry : g'.entry = g.entry)
    (hentering : g'.entering n = g.entering n) (hbefore : (r'.flowsAt n).before = (r.flowsAt n).before)
    (halong : ∀ e ∈ g.entering n, r'.along e = r.along e) :
    r'.flowBefore g' p n = r.flowBefore g p n := by
  unfold flowBefore
  rw [hentering, hentry, hbefore]
  cases hes : g.entering n with
  | nil => rfl
  | cons e es =>
    rw [hes] at halong
    have hfold : es.foldl (fun flow e => p.merge flow (r'.along e)) (r.along e) =
        es.foldl (fun flow e => p.merge flow (r.along e)) (r.along e) :=
      List.foldl_ext _ _ _ fun flow e' he' => by rw [halong e' (List.mem_cons_of_mem _ he')]
    simp only [halong e List.mem_cons_self, hfold]

variable (g) in
/-- The state `r'` is the state `r` of a run without what it has about unreachable nodes. -/
structure LiveView (r r' : Run N F) : Prop where
  tidy : r.Tidy
  tidy_live : r'.Tidy
  within : ∀ n ∈ r.worklist, n ∈ g.nodes
  worklist : r'.worklist = r.worklist.filter fun n => n ∉ g.unreachable
  flows : ∀ n, n ∉ g.unreachable → r'.flowsAt n = r.flowsAt n

namespace LiveView

theorem within_step (hg : g.Severed) (h : r.LiveView g r') (hw : r.worklist = n :: rest) :
    ∀ m ∈ (r.step g p).worklist, m ∈ g.nodes := by
  have hwithin := h.within
  rw [hw] at hwithin
  intro m hm
  rcases (h.tidy.mem_worklist_step hw).mp hm with hm | hm
  · exact hwithin m (List.mem_cons_of_mem _ hm)
  · obtain ⟨k, -, hk⟩ := mem_affected.mp hm
    exact hg.succs n (hwithin n List.mem_cons_self) m (FlowGraph.mem_succs_iff.mpr ⟨k, hk⟩)

/-- **A visit of an unreachable node** changes nothing that the smaller run sees. -/
theorem step_dead (hg : g.Severed) (h : r.LiveView g r') (hw : r.worklist = n :: rest)
    (hn : n ∈ g.unreachable) : (r.step g p).LiveView g r' where
  tidy := h.tidy.step
  tidy_live := h.tidy_live
  within := h.within_step hg hw
  worklist := by
    have hnone : ((r.affected g p n).filter fun m => m ∉ g.unreachable) = [] := by
      refine List.filter_eq_nil_iff.mpr fun m hm => ?_
      obtain ⟨k, -, hk⟩ := mem_affected.mp hm
      simpa using hg.dead_of_dead hn (FlowGraph.mem_succs_iff.mpr ⟨k, hk⟩)
    have hsettle : r'.worklist = (r.settle g p n rest).worklist.filter fun m => m ∉ g.unreachable := by
      rw [h.worklist, hw, List.filter_cons_of_neg (by simpa using hn)]
      rfl
    have hqueue := (h.tidy.settle hw).worklist_enqueueAll_filter h.tidy_live hsettle
      (r.affected g p n)
    rw [hnone] at hqueue
    rw [step_eq hw, ← hqueue]
    rfl
  flows m hm := by
    have hne : m ≠ n := fun heq => hm (heq ▸ hn)
    rw [flowsAt_step hw, if_neg hne, h.flows m hm]

theorem visited_eq (hg : g.Severed) (h : r.LiveView g r') (hn : n ∉ g.unreachable) :
    r'.visited g.live p n = r.visited g p n := by
  have hbefore : r'.flowBefore g.live p n = r.flowBefore g p n := by
    refine flowBefore_congr rfl (hg.entering_live hn) (by rw [h.flows n hn]) fun e he => ?_
    have hlive : e.1 ∉ g.unreachable := fun hdead =>
      hn (hg.dead_of_dead hdead (FlowGraph.mem_succs_iff.mpr ⟨e.2,
        (FlowGraph.mem_entering.mp he).2.2⟩))
    rw [along, along, h.flows e.1 hlive]
  rw [visited, visited, hbefore]

/-- **A visit of a reachable node** is the next visit of the smaller run. -/
theorem step_live (hg : g.Severed) (h : r.LiveView g r') (hw : r.worklist = n :: rest)
    (hn : n ∉ g.unreachable) :
    (∃ rest', r'.worklist = n :: rest') ∧ (r.step g p).LiveView g (r'.step g.live p) := by
  have hw' : r'.worklist = n :: rest.filter fun m => m ∉ g.unreachable := by
    rw [h.worklist, hw, List.filter_cons_of_pos (by simpa using hn)]
  have hvisited : r'.visited g.live p n = r.visited g p n := h.visited_eq hg hn
  have hmem : n ∈ g.live.nodes := by
    have hnode : n ∈ g.nodes := h.within n (by rw [hw]; exact List.mem_cons_self)
    exact List.mem_filter.mpr ⟨hnode, decide_eq_true hn⟩
  have haffected : r'.affected g.live p n = (r.affected g p n).filter fun m => m ∉ g.unreachable := by
    have hsame : r'.affected g.live p n = r.affected g p n := by
      rw [affected, affected, changes, changes, changes, changes, hvisited, h.flows n hn]
      rfl
    rw [hsame]
    refine (List.filter_eq_self.mpr fun m hm => ?_).symm
    obtain ⟨k, -, hk⟩ := mem_affected.mp hm
    exact (List.mem_filter.mp (hg.live_of_live hmem (FlowGraph.mem_succs_iff.mpr ⟨k, hk⟩))).2
  refine ⟨⟨_, hw'⟩, h.tidy.step, h.tidy_live.step, h.within_step hg hw, ?_, fun m hm => ?_⟩
  · rw [step_eq hw, step_eq hw', haffected]
    exact (h.tidy.settle hw).worklist_enqueueAll_filter (h.tidy_live.settle hw') rfl _
  · rw [flowsAt_step hw, flowsAt_step hw', hvisited, h.flows m hm]

end LiveView

end Run

theorem initialRun_liveView (hg : g.Severed) (hentry : g.entry ∈ g.nodes) :
    (initialRun g p).LiveView g (initialRun g.live p) where
  tidy := initialRun_tidy
  tidy_live := initialRun_tidy
  within n hn := FlowGraph.mem_visitOrder.mp (mem_worklist_initialRun.mp hn)
  worklist := by
    rw [worklist_initialRun (FlowGraph.nodup_visitOrder hg.nodup),
      worklist_initialRun (FlowGraph.nodup_visitOrder (hg.nodup.filter _)),
      hg.visitOrder_live hentry, FlowGraph.filter_visitOrder hentry]
  flows n hn := by
    have hiff : n ∈ g.live.nodes ↔ n ∈ g.nodes :=
      ⟨fun h => (List.mem_filter.mp h).1, fun h => List.mem_filter.mpr ⟨h, decide_eq_true hn⟩⟩
    rw [flowsAt_initialRun, flowsAt_initialRun]
    simp only [hiff]
    rfl

/-- **The visits of reachable nodes** are those of the run on the reachable nodes. -/
theorem exists_visiting_live (hg : g.Severed) (hentry : g.entry ∈ g.nodes) {ns : List N} {r : Run N F}
    (hns : (initialRun g p).Visiting g p ns r) :
    ∃ r', (initialRun g.live p).Visiting g.live p (ns.filter fun n => n ∉ g.unreachable) r' ∧
      r.LiveView g r' := by
  induction hns with
  | nil => exact ⟨_, .nil, initialRun_liveView hg hentry⟩
  | @snoc ns rest n r _ hw ih =>
    obtain ⟨r', hns', hview⟩ := ih
    by_cases hn : n ∈ g.unreachable
    · refine ⟨r', ?_, hview.step_dead hg hw hn⟩
      rwa [List.filter_append, List.filter_cons_of_neg (by simpa using hn), List.filter_nil,
        List.append_nil]
    · obtain ⟨⟨rest', hw'⟩, hstep⟩ := hview.step_live (p := p) hg hw hn
      refine ⟨_, ?_, hstep⟩
      rw [List.filter_append, List.filter_cons_of_pos (by simpa using hn), List.filter_nil]
      exact .snoc hns' hw'

/-! ## Results -/

theorem Unbounded.unique {s t : Solution N F} (hs : Unbounded g p s) (ht : Unbounded g p t) :
    s = t := by
  have h := solve?_of_unbounded hs (Nat.le_max_left s.visits t.visits)
  rw [solve?_of_unbounded ht (Nat.le_max_right s.visits t.visits)] at h
  exact (Option.some.inj h).symm

theorem exists_unbounded_live (hg : g.Severed) {s : Solution N F} (hs : Unbounded g p s) :
    ∃ s', Unbounded g.live p s' ∧ s'.visits ≤ s.visits ∧
      ∀ n, n ∉ g.unreachable → s'.flowsAt n = s.flowsAt n := by
  obtain ⟨hentry, ns, r, hns, hnil, rfl⟩ := hs
  obtain ⟨r', hns', hview⟩ := exists_visiting_live hg hentry hns
  have hnil' : r'.worklist = [] := by rw [hview.worklist, hnil, List.filter_nil]
  exact ⟨_, ⟨FlowGraph.entry_mem_live hentry, _, r', hns', hnil', rfl⟩, List.length_filter_le _ _,
    hview.flows⟩

theorem Unbounded.order_eq {s : Solution N F} (hs : Unbounded g p s) : s.order = g.visitOrder := by
  obtain ⟨-, ns, r, -, -, rfl⟩ := hs
  rfl

theorem flagBranches_live {V : Type} [DecidableEq V] {stmt : N → Stmt V} {s s' : Solution N (Env V)}
    (horder : s'.order = s.order.filter fun n => n ∉ g.unreachable)
    (hflows : ∀ n, n ∉ g.unreachable → s'.flowsAt n = s.flowsAt n) :
    Body.flagBranches ⟨g.live, stmt⟩ s' =
      (Body.flagBranches ⟨g, stmt⟩ s).filter fun e => e.1 ∉ g.unreachable := by
  rw [Body.flagBranches_eq, Body.flagBranches_eq, horder, List.filterMap_filter, List.filter_filterMap]
  refine List.filterMap_congr fun n _ => ?_
  by_cases hn : n ∈ g.unreachable
  · cases (stmt n).fallPath? (s.flowsAt n).before <;> simp [hn, Option.filter]
  · rw [hflows n hn]
    cases (stmt n).fallPath? (s.flowsAt n).before <;> simp [hn, Option.filter]

/-- **Dead code does not influence live code**, unless an edge leads from it back to a reachable
node. -/
theorem dead_code_irrelevant (hg : g.Severed) :
    (∀ n, n ∈ g.live.nodes ↔ n ∈ g.nodes ∧ g.Reachable n) ∧
      (∀ (F : Type) [Inhabited F] (p : Problem N F) (s : Solution N F), Unbounded g p s →
        ∃ s', Unbounded g.live p s' ∧ s'.visits ≤ s.visits ∧
          ∀ n ∈ g.nodes, g.Reachable n → s'.flowsAt n = s.flowsAt n) ∧
      ∀ (V : Type) [DecidableEq V] (stmt : N → Stmt V) (isFeature : String → Bool)
        (s s' : Solution N (Env V)), Unbounded g (Body.problem ⟨g, stmt⟩ isFeature) s →
        Unbounded g.live (Body.problem ⟨g.live, stmt⟩ isFeature) s' →
          Body.flagBranches ⟨g.live, stmt⟩ s' =
            (Body.flagBranches ⟨g, stmt⟩ s).filter fun e => e.1 ∉ g.unreachable := by
  refine ⟨fun n => FlowGraph.mem_live, fun F _ p s hs => ?_, fun V _ stmt isFeature s s' hs hs' => ?_⟩
  · obtain ⟨s', hs', hvisits, hflows⟩ := exists_unbounded_live hg hs
    refine ⟨s', hs', hvisits, fun n _ hreach => hflows n fun hdead => ?_⟩
    exact (FlowGraph.mem_unreachable.mp hdead).2 hreach
  · obtain ⟨t, ht, -, hflows⟩ := exists_unbounded_live hg hs
    obtain rfl : s' = t := hs'.unique ht
    refine flagBranches_live ?_ hflows
    rw [hs.order_eq, hs'.order_eq, FlowGraph.filter_visitOrder hs.1, hg.visitOrder_live hs.1]

/-- The nodes `0` to `2`, and a loop of `3` and `4` that cannot be reached. -/
def deadLoop : FlowGraph Nat :=
  .ofEntries 0 [⟨0, [1], [], none⟩, ⟨3, [4], [], none⟩, ⟨1, [2], [2], none⟩, ⟨4, [3], [], none⟩,
    ⟨2, [], [], none⟩]

/-- A branch on the flag, and one in the loop that cannot be reached, on a variable of its own. -/
def deadLoopStmt : Nat → Stmt Nat
  | 0 => { call := some ⟨defaultCallee, [.ofVar 0]⟩ }
  | 1 => { condition := some (.ofVar 0) }
  | 3 => { call := some ⟨defaultCallee, [.ofVar 1]⟩ }
  | 4 => { condition := some (.equal (.ofVar 1) (.const 0)) }
  | _ => .skip

theorem severed_deadLoop : deadLoop.Severed where
  nodup := by decide
  succs := by decide
  dead n hn hnot m hm hreach := by
    have hdead : ∀ n ∈ deadLoop.unreachable, ∀ m ∈ deadLoop.succs n, m ∈ deadLoop.unreachable := by
      decide
    have hm' := hdead n (FlowGraph.mem_unreachable.mpr ⟨hn, hnot⟩) m hm
    exact (FlowGraph.mem_unreachable.mp hm').2 hreach

/-- The loop is visited between the other nodes. -/
theorem dead_code_irrelevant_deadLoop :
    deadLoop.Severed ∧ deadLoop.unreachable = [3, 4] ∧
      (∃ s s', Unbounded deadLoop cappedCount s ∧ Unbounded deadLoop.live cappedCount s' ∧
        s'.visits ≤ s.visits ∧ s'.flowsAt 2 = s.flowsAt 2) ∧
      ∃ s s', Unbounded deadLoop (Body.problem ⟨deadLoop, deadLoopStmt⟩ fun _ => true) s ∧
        Unbounded deadLoop.live (Body.problem ⟨deadLoop.live, deadLoopStmt⟩ fun _ => true) s' ∧
        Body.flagBranches ⟨deadLoop, deadLoopStmt⟩ s = [(1, .flag), (4, .notFlag)] ∧
        Body.flagBranches ⟨deadLoop.live, deadLoopStmt⟩ s' = [(1, .flag)] := by
  obtain ⟨hmem, hflows, hbranches⟩ := dead_code_irrelevant severed_deadLoop
  have hcount : (solve? deadLoop cappedCount 40).map (·.converged) = some true := by decide
  obtain ⟨s, hs, hc⟩ := Option.map_eq_some_iff.mp hcount
  have hs' := (unbounded_of_converged hs hc).1
  obtain ⟨t, ht, hvisits, heq⟩ := hflows Nat cappedCount s hs'
  have hreach : deadLoop.Reachable 2 := ((hmem 2).mp (by decide)).2
  have hbody : (solve? deadLoop (Body.problem ⟨deadLoop, deadLoopStmt⟩ fun _ => true) 40).map
      (fun s => (s.converged, Body.flagBranches ⟨deadLoop, deadLoopStmt⟩ s)) =
        some (true, [(1, .flag), (4, .notFlag)]) := by decide
  obtain ⟨u, hu, hub⟩ := Option.map_eq_some_iff.mp hbody
  obtain ⟨huc, hlist⟩ := Prod.mk.inj hub
  have hu' := (unbounded_of_converged hu huc).1
  obtain ⟨w, hw, -⟩ := hflows (Env Nat) _ u hu'
  refine ⟨severed_deadLoop, by decide, ⟨s, t, hs', ht, hvisits, heq 2 (by decide) hreach⟩,
    u, w, hu', hw, hlist, ?_⟩
  rw [hbranches Nat deadLoopStmt (fun _ => true) u w hu' hw, hlist]
  decide

end FlagFlow
