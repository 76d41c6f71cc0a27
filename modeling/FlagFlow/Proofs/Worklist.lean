import FlagFlow.Proofs.BreadthFirst
import FlagFlow.Proofs.Truncation

/-!
# The worklist of a run

A node is queued at the start, or because a flow that enters it has changed, which may happen while
the nodes of the start are still waiting, to the visited node itself, and to what is no node of the
graph.

* `Stage`: every state that a run goes through, also those between two nodes that are queued.
* `Stage.tidy`: in all of them no node waits twice, and the marks tell which nodes wait.
* `stage_nil_iff`: those with nothing left to queue are the states after a number of visits.
* `Run.Visiting.in_first_round`: the nodes of the start are visited in their order before any other.
* **`worklist_discipline`**: the marks, the first visits, and what a run has visited when it ends.
-/

namespace FlagFlow

variable {N F : Type} [DecidableEq N] [Inhabited F] {g : FlowGraph N} {p : Problem N F}
  {ns ms : List N} {r : Run N F}

/-! ## All states of a run -/

variable (g p) in
/-- A state that the solver goes through, with the nodes that it is about to queue. It starts
with no node queued, queues the nodes of the order one by one, and then, as long as a node waits,
takes the first one off the worklist, computes its flows, and queues its affected successors one
by one. -/
inductive Stage : List N → Run N F → Prop
  | start : Stage g.visitOrder ⟨initialFlows g p, [], [], 0⟩
  | queue {n : N} {ns : List N} {r : Run N F} : Stage (n :: ns) r → Stage ns (r.enqueue n)
  | visit {n : N} {rest : List N} {r : Run N F} : Stage [] r → r.worklist = n :: rest →
      Stage (r.affected g p n) (r.settle g p n rest)

/-- **No node waits twice, and the marked nodes are those that wait.** -/
theorem Stage.tidy (h : Stage g p ns r) : r.Tidy := by
  induction h with
  | start => exact ⟨List.nodup_nil, .nil⟩
  | queue _ ih => exact ih.enqueue _
  | visit _ hw ih => exact ih.settle hw

theorem Stage.enqueueAll (h : Stage g p (ns ++ ms) r) : Stage g p ms (r.enqueueAll ns) := by
  induction ns generalizing r with
  | nil => exact h
  | cons n ns ih => exact ih h.queue

theorem Stage.step (h : Stage g p [] r) : Stage g p [] (r.step g p) := by
  cases hw : r.worklist with
  | nil =>
    have hstep : r.step g p = r := by simp [Run.step, hw]
    rwa [hstep]
  | cons n rest =>
    have hvisit := h.visit hw
    rw [← List.append_nil (r.affected g p n)] at hvisit
    rw [Run.step_eq hw]
    exact hvisit.enqueueAll

theorem stage_after (g : FlowGraph N) (p : Problem N F) (k : Nat) :
    Stage g p [] (Run.after g p k (initialRun g p)) := by
  induction k with
  | zero =>
    have hstart : Stage g p (g.visitOrder ++ []) ⟨initialFlows g p, [], [], 0⟩ := by
      rw [List.append_nil]
      exact .start
    exact hstart.enqueueAll
  | succ k ih =>
    rw [Run.after_succ]
    exact ih.step

theorem Stage.exists_after (h : Stage g p ns r) :
    ∃ k, r.enqueueAll ns = Run.after g p k (initialRun g p) := by
  induction h with
  | start => exact ⟨0, rfl⟩
  | queue _ ih => exact ih
  | @visit n rest r _ hw ih =>
    obtain ⟨k, hk⟩ := ih
    have hr : r = Run.after g p k (initialRun g p) := hk
    refine ⟨k + 1, ?_⟩
    rw [Run.after_succ, ← hr, Run.step_eq hw]

theorem stage_nil_iff : Stage g p [] r ↔ ∃ k, r = Run.after g p k (initialRun g p) := by
  constructor
  · exact fun h => h.exists_after
  · rintro ⟨k, rfl⟩
    exact stage_after g p k

/-! ## The first visits -/

namespace FlowGraph

/-- **Distinct nodes are all in the order of the first visits, each once.** -/
theorem visitOrder_perm (hnodup : g.nodes.Nodup) : g.visitOrder.Perm g.nodes :=
  (List.perm_ext_iff_of_nodup (nodup_visitOrder hnodup) hnodup).mpr fun _ => mem_visitOrder

end FlowGraph

/-- **The first round** visits the nodes of the start before all others. -/
theorem Run.Visiting.in_first_round (hnodup : g.nodes.Nodup) (h : (initialRun g p).Visiting g p ns r) :
    g.visitOrder <+: ns ∨
      ∃ waiting others, g.visitOrder = ns ++ waiting ∧ r.worklist = waiting ++ others := by
  induction h with
  | nil =>
    refine .inr ⟨g.visitOrder, [], rfl, ?_⟩
    rw [worklist_initialRun (FlowGraph.nodup_visitOrder hnodup), List.append_nil]
  | @snoc ns rest n r _ hw ih =>
    rcases ih with hbegins | ⟨waiting, others, horder, hlist⟩
    · exact .inl (hbegins.trans (List.prefix_append ns [n]))
    · cases waiting with
      | nil =>
        rw [List.append_nil] at horder
        exact .inl (horder ▸ List.prefix_append ns [n])
      | cons m waiting =>
        -- the visited node is the next one of the order; what it queues goes behind all that wait
        have hcons := hw.symm.trans hlist
        rw [List.cons_append] at hcons
        obtain ⟨rfl, rfl⟩ := List.cons.inj hcons
        obtain ⟨fresh, hfresh, -⟩ :=
          exists_worklist_enqueueAll (r.settle g p n (waiting ++ others)) (r.affected g p n)
        refine .inr ⟨waiting, others ++ fresh, ?_, ?_⟩
        · rw [horder, List.append_assoc, List.singleton_append]
        · rw [step_eq hw, hfresh, ← List.append_assoc]
          rfl

theorem Run.Visiting.begins_of_length_le (hnodup : g.nodes.Nodup)
    (h : (initialRun g p).Visiting g p ns r) (hlen : g.nodes.length ≤ ns.length) :
    g.visitOrder <+: ns := by
  rcases h.in_first_round hnodup with hbegins | ⟨waiting, others, horder, -⟩
  · exact hbegins
  · have hnodes := (FlowGraph.visitOrder_perm hnodup).length_eq
    rw [horder, List.length_append] at hnodes
    have hnil : waiting = [] := List.eq_nil_of_length_eq_zero (by omega)
    rw [hnil, List.append_nil] at horder
    exact horder ▸ List.prefix_refl _

theorem Run.Visiting.begins_of_ended (hnodup : g.nodes.Nodup)
    (h : (initialRun g p).Visiting g p ns r) (hnil : r.worklist = []) : g.visitOrder <+: ns := by
  rcases h.in_first_round hnodup with hbegins | ⟨waiting, others, horder, hlist⟩
  · exact hbegins
  · rw [hnil] at hlist
    rw [(List.append_eq_nil_iff.mp hlist.symm).1, List.append_nil] at horder
    exact horder ▸ List.prefix_refl _

/-- The first visits are made, one for each node. -/
theorem visiting_visitOrder (g : FlowGraph N) (p : Problem N F) (hnodup : g.nodes.Nodup) :
    (initialRun g p).Visiting g p g.visitOrder
      (Run.after g p g.nodes.length (initialRun g p)) := by
  obtain ⟨ns, hns, hle, hlen⟩ := Run.exists_visiting_after g p (initialRun g p) g.nodes.length
  have hbegins : g.visitOrder <+: ns := by
    cases hw : (Run.after g p g.nodes.length (initialRun g p)).worklist with
    | nil => exact hns.begins_of_ended hnodup hw
    | cons n rest =>
      refine hns.begins_of_length_le hnodup (hlen ?_).ge
      rw [hw]
      exact List.cons_ne_nil _ _
  have horder := (FlowGraph.visitOrder_perm hnodup).length_eq
  rwa [hbegins.eq_of_length_le (horder ▸ hle)]

/-! ## Results -/

variable (g p) in
/-- The visits of the nodes `ns` computed the flows of a result. -/
def Solution.ComputedBy (s : Solution N F) (ns : List N) : Prop :=
  ∃ r, (initialRun g p).Visiting g p ns r ∧ s.flows = r.flows

/-- A budget for as many visits as there are nodes allows the first round. -/
theorem exists_computedBy_of_le (hnodup : g.nodes.Nodup) {budget : Nat} {s : Solution N F}
    (hle : g.nodes.length ≤ budget) (hs : solve? g p budget = some s) :
    ∃ ns, s.ComputedBy g p ns ∧ ns.length ≤ budget ∧ s.order <+: ns := by
  obtain ⟨ns, hns, hbudget, hlen⟩ := Run.exists_visiting_after g p (initialRun g p) budget
  obtain ⟨-, rfl⟩ := solve?_eq_some_iff.mp hs
  refine ⟨ns, ⟨_, hns, rfl⟩, hbudget, ?_⟩
  by_cases hnil : (Run.after g p budget (initialRun g p)).worklist = []
  · exact hns.begins_of_ended hnodup hnil
  · exact hns.begins_of_length_le hnodup (hle.trans (hlen hnil).ge)

theorem Unbounded.exists_computedBy (hnodup : g.nodes.Nodup) {s : Solution N F}
    (hs : Unbounded g p s) :
    ∃ ns, s.ComputedBy g p ns ∧ ns.length = s.visits ∧ s.order <+: ns := by
  obtain ⟨-, ns, r, hns, hnil, rfl⟩ := hs
  exact ⟨ns, ⟨r, hns, rfl⟩, rfl, hns.begins_of_ended hnodup hnil⟩

/-- **The discipline of the worklist.** No node waits twice, the marked nodes are those that wait,
and the first visits follow the order. -/
theorem worklist_discipline (g : FlowGraph N) (p : Problem N F) :
    (∀ ns r, Stage g p ns r → r.worklist.Nodup ∧ ∀ x, x ∈ r.queued ↔ x ∈ r.worklist) ∧
      (∀ r, Stage g p [] r ↔ ∃ k, r = Run.after g p k (initialRun g p)) ∧
      (g.nodes.Nodup →
        g.visitOrder.Perm g.nodes ∧
        (initialRun g p).Visiting g p g.visitOrder
          (Run.after g p g.nodes.length (initialRun g p)) ∧
        (∀ ns r, (initialRun g p).Visiting g p ns r → g.nodes.length ≤ ns.length →
          g.visitOrder <+: ns) ∧
        (∀ budget s, g.nodes.length ≤ budget → solve? g p budget = some s →
          s.order = g.visitOrder ∧
            ∃ ns, s.ComputedBy g p ns ∧ ns.length ≤ budget ∧ s.order <+: ns) ∧
        ∀ s, Unbounded g p s ∨ (∃ budget, solve? g p budget = some s ∧ s.converged = true) →
          g.nodes.length ≤ s.visits ∧
            ∃ ns, s.ComputedBy g p ns ∧ ns.length = s.visits ∧ g.visitOrder <+: ns ∧
              ∀ n ∈ g.nodes, n ∈ ns) := by
  refine ⟨fun ns r h => ⟨h.tidy.nodup, fun x => h.tidy.queued.mem_iff⟩, fun r => stage_nil_iff,
    fun hnodup => ⟨FlowGraph.visitOrder_perm hnodup, visiting_visitOrder g p hnodup,
      fun ns r h hlen => h.begins_of_length_le hnodup hlen, fun budget s hle hs => ?_, fun s hs => ?_⟩⟩
  · refine ⟨?_, exists_computedBy_of_le hnodup hle hs⟩
    obtain ⟨-, rfl⟩ := solve?_eq_some_iff.mp hs
    rfl
  · have hfree : Unbounded g p s := by
      rcases hs with hs | ⟨budget, hs, hc⟩
      · exact hs
      · exact (unbounded_of_converged hs hc).1
    obtain ⟨ns, hns, hvisits, hbegins⟩ := hfree.exists_computedBy hnodup
    have horder : s.order = g.visitOrder := by
      obtain ⟨-, _, _, -, -, rfl⟩ := hfree
      rfl
    rw [horder] at hbegins
    have hperm := FlowGraph.visitOrder_perm hnodup
    refine ⟨?_, ns, hns, hvisits, hbegins, fun n hn => hbegins.subset (hperm.mem_iff.mpr hn)⟩
    rw [← hvisits, ← hperm.length_eq]
    exact hbegins.length_le

/-- A node that follows itself and jumps to what is no node, and one that nothing leads to. -/
def strayGraph : FlowGraph Nat :=
  .ofEntries 0 [⟨0, [0, 2], [9], none⟩, ⟨1, [], [2], none⟩, ⟨2, [1], [], none⟩, ⟨5, [2], [], none⟩]

/-- The nodes 0 and 9 are queued during the first round, behind those of the start. -/
theorem worklist_discipline_strayGraph :
    strayGraph.nodes.Nodup ∧ strayGraph.visitOrder = [0, 2, 1, 5] ∧
      (Run.after strayGraph cappedCount 1 (initialRun strayGraph cappedCount)).worklist =
        [2, 1, 5, 0, 9] ∧
      (initialRun strayGraph cappedCount).Visiting strayGraph cappedCount [0, 2, 1, 5]
        (Run.after strayGraph cappedCount 4 (initialRun strayGraph cappedCount)) ∧
      ∃ s, solve? strayGraph cappedCount 40 = some s ∧ s.converged = true ∧
        4 ≤ s.visits ∧ ∃ ns, s.ComputedBy strayGraph cappedCount ns ∧ [0, 2, 1, 5] <+: ns := by
  have hnodup : strayGraph.nodes.Nodup := by decide
  have horder : strayGraph.visitOrder = [0, 2, 1, 5] := by decide
  have hc : (solve? strayGraph cappedCount 40).map (·.converged) = some true := by decide
  obtain ⟨s, hs, hc⟩ := Option.map_eq_some_iff.mp hc
  obtain ⟨-, -, h⟩ := worklist_discipline strayGraph cappedCount
  obtain ⟨-, hfirst, -, -, hend⟩ := h hnodup
  obtain ⟨hle, ns, hns, -, hbegins, -⟩ := hend s (.inr ⟨40, hs, hc⟩)
  rw [horder] at hfirst hbegins
  exact ⟨hnodup, horder, by decide, hfirst, s, hs, hc, hle, ns, hns, hbegins⟩

end FlagFlow
