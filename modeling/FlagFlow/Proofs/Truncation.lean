import FlagFlow.Proofs.Rounds

/-!
# The visit budget

Without a budget the solver visits nodes until the worklist is empty, however many visits this
takes. A budget cuts this run off and does nothing else: the visits that it allows are the first
visits of the run, each of them is made as a whole, and a run that ends within the budget does not
notice it.

* `Run.Visiting`: the visits that lead from one state to another; nothing bounds their number.
* `Run.Visiting.eq_after`, `Run.exists_visiting_after`: `Run.after` makes the first of these visits.
* `Run.Visiting.flow_eq`, `Run.Visiting.flowsAt_of_not_mem`: visited nodes have the flows of their
  last visit, the others those of the start.
* `Unbounded`: the result of the solver without a budget; `endsWith_iff_unbounded`: it is the result
  of every budget that allows its visits.
* **`budget_truncates`**: the result of a budget is that of the run without one, or its first
  visits.
-/

namespace FlagFlow

variable {N F : Type} [DecidableEq N] [Inhabited F] {g : FlowGraph N} {p : Problem N F}

namespace Run

variable {r r' : Run N F} {ns : List N} {k : Nat}

/-! ## Visits without a bound -/

/-- The visits of the nodes `ns`, one after the other, lead from the state `r` to another one. -/
inductive Visiting (g : FlowGraph N) (p : Problem N F) (r : Run N F) : List N → Run N F → Prop
  | nil : Visiting g p r [] r
  | snoc {ns rest : List N} {n : N} {r' : Run N F} : Visiting g p r ns r' →
      r'.worklist = n :: rest → Visiting g p r (ns ++ [n]) (r'.step g p)

theorem after_succ (k : Nat) : after g p (k + 1) r = (after g p k r).step g p := by
  induction k generalizing r with
  | zero =>
    cases hw : r.worklist with
    | nil =>
      have hstep : r.step g p = r := by simp [step, hw]
      rw [after_nil hw, after, hstep]
    | cons n rest => exact after_cons hw 0
  | succ k ih =>
    cases hw : r.worklist with
    | nil =>
      have hstep : r.step g p = r := by simp [step, hw]
      rw [after_nil hw, after_nil hw, hstep]
    | cons n rest => rw [after_cons hw, ih, ← after_cons hw]

theorem Visiting.eq_after (h : r.Visiting g p ns r') : r' = after g p ns.length r := by
  induction h with
  | nil => rfl
  | snoc _ _ ih => rw [List.length_append, List.length_singleton, after_succ, ← ih]

theorem Visiting.visits_eq (h : r.Visiting g p ns r') : r'.visits = r.visits + ns.length := by
  induction h with
  | nil => rfl
  | snoc _ hw ih => rw [visits_step hw, ih, List.length_append, List.length_singleton, Nat.add_assoc]

theorem exists_visiting_after (g : FlowGraph N) (p : Problem N F) (r : Run N F) (k : Nat) :
    ∃ ns, r.Visiting g p ns (after g p k r) ∧ ns.length ≤ k ∧
      ((after g p k r).worklist ≠ [] → ns.length = k) := by
  induction k with
  | zero => exact ⟨[], .nil, Nat.le_refl _, fun _ => rfl⟩
  | succ k ih =>
    obtain ⟨ns, hns, hle, hlen⟩ := ih
    cases hw : (after g p k r).worklist with
    | nil =>
      have hstep : after g p (k + 1) r = after g p k r := by rw [after_succ]; simp [step, hw]
      rw [hstep]
      exact ⟨ns, hns, Nat.le_succ_of_le hle, fun hne => absurd hw hne⟩
    | cons n rest =>
      have hk : ns.length = k := hlen (by rw [hw]; exact List.cons_ne_nil _ _)
      have hlen' : (ns ++ [n]).length = k + 1 := by rw [List.length_append, List.length_singleton, hk]
      refine ⟨ns ++ [n], ?_, hlen'.le, fun _ => hlen'⟩
      rw [after_succ]
      exact .snoc hns hw

/-- **Ending within a number of visits.** -/
theorem worklist_after_eq_nil_iff :
    (after g p k r).worklist = [] ↔
      ∃ ns r', r.Visiting g p ns r' ∧ ns.length ≤ k ∧ r'.worklist = [] := by
  constructor
  · intro hnil
    obtain ⟨ns, hns, hle, -⟩ := exists_visiting_after g p r k
    exact ⟨ns, _, hns, hle, hnil⟩
  · rintro ⟨ns, r', hns, hle, hnil⟩
    have hend := hns.eq_after
    have hvisits := hns.visits_eq
    rw [hend] at hnil hvisits
    rw [after_eq_of_ended hnil hvisits hle]
    exact hnil

/-! ## The flows of visited nodes -/

/-- A node that has been visited has the flows that its last visit computed. -/
theorem Visiting.flow_eq (h : r.Visiting g p ns r') {n : N} (hn : n ∈ ns) :
    ((r'.flowsAt n).fall, (r'.flowsAt n).branch) = p.flow (r'.flowsAt n).before n := by
  induction h with
  | nil => cases hn
  | @snoc ns rest m r' _ hw ih =>
    rw [flowsAt_step hw]
    by_cases hnm : n = m
    · rw [if_pos hnm, hnm]
      rfl
    · rw [if_neg hnm]
      refine ih ((List.mem_append.mp hn).resolve_right fun hm => hnm ?_)
      exact List.mem_singleton.mp hm

theorem Visiting.flowsAt_of_not_mem (h : r.Visiting g p ns r') {n : N} (hn : n ∉ ns) :
    r'.flowsAt n = r.flowsAt n := by
  induction h with
  | nil => rfl
  | snoc _ hw ih =>
    rw [List.mem_append, List.mem_singleton, not_or] at hn
    rw [flowsAt_step hw, if_neg hn.2, ih hn.1]

theorem Visiting.out_eq_newFlow (h : (initialRun g p).Visiting g p ns r') {n : N} (hn : n ∈ g.nodes)
    (hns : n ∉ ns) (i : EdgeKind) : (r'.flowsAt n).out i = p.newFlow := by
  rw [h.flowsAt_of_not_mem hns, flowsAt_initialRun, if_pos hn]
  split <;> cases i <;> rfl

end Run

/-! ## The result without a budget -/

variable (g p) in
/-- The solver without a budget has a result: some visits from the start empty the worklist, and the
result tells how many, and the flows that they have computed. -/
def Unbounded (s : Solution N F) : Prop :=
  g.entry ∈ g.nodes ∧ ∃ ns r, (initialRun g p).Visiting g p ns r ∧ r.worklist = [] ∧
    s = { entry := g.entry, order := g.visitOrder, unreachable := g.unreachable,
          visits := ns.length, converged := true, flows := r.flows }

theorem unbounded_of_converged {budget : Nat} {s : Solution N F} (hs : solve? g p budget = some s)
    (hc : s.converged = true) : Unbounded g p s ∧ s.visits ≤ budget := by
  have hnil := worklist_of_converged hs hc
  obtain ⟨ns, hns, hle, -⟩ := Run.exists_visiting_after g p (initialRun g p) budget
  have hvisits := hns.visits_eq
  rw [visits_initialRun, Nat.zero_add] at hvisits
  obtain ⟨hentry, rfl⟩ := solve?_eq_some_iff.mp hs
  simp only [hnil, hvisits, List.isEmpty_nil, if_true]
  exact ⟨⟨hentry, ns, _, hns, hnil, rfl⟩, hle⟩

/-- **A budget that allows all visits changes nothing.** -/
theorem solve?_of_unbounded {budget : Nat} {s : Solution N F} (hs : Unbounded g p s)
    (hle : s.visits ≤ budget) : solve? g p budget = some s := by
  obtain ⟨hentry, ns, r, hns, hnil, rfl⟩ := hs
  have hend := hns.eq_after
  have hvisits := hns.visits_eq
  rw [hend] at hnil hvisits
  have hrun := Run.after_eq_of_ended hnil hvisits hle
  rw [← hend] at hrun hnil hvisits
  rw [visits_initialRun, Nat.zero_add] at hvisits
  refine solve?_eq_some_iff.mpr ⟨hentry, ?_⟩
  simp only [hrun, hnil, hvisits, List.isEmpty_nil, if_true]

theorem endsWith_iff_unbounded {s : Solution N F} : EndsWith g p s ↔ Unbounded g p s := by
  constructor
  · rintro ⟨hc, hs⟩
    exact (unbounded_of_converged (hs _ (Nat.le_refl _)) hc).1
  · intro hs
    refine ⟨?_, fun budget hle => solve?_of_unbounded hs hle⟩
    obtain ⟨-, ns, r, -, -, rfl⟩ := hs
    rfl

theorem visitBudget_of_pos {k : Nat} (hk : 0 < k) : visitBudget k = k := by
  rw [visitBudget, if_pos (Int.natCast_pos.mpr hk), Int.toNat_natCast]

/-- **The budget only truncates the run**: it is exhausted exactly if the run needs more visits, and
else changes nothing. -/
theorem budget_truncates (g : FlowGraph N) (p : Problem N F) {k : Nat} (hk : 0 < k) :
    (g.entry ∉ g.nodes → ∀ setting, solve? g p (visitBudget setting) = none) ∧
      (g.entry ∈ g.nodes → ∃ s, solve? g p (visitBudget k) = some s ∧
        (s.converged = false ↔ ¬ ∃ ns r, (initialRun g p).Visiting g p ns r ∧ ns.length ≤ k ∧
          r.worklist = []) ∧
        (s.converged = false → s.visits = k + 1 ∧
          ∃ ns r, (initialRun g p).Visiting g p ns r ∧ ns.length = k ∧ s.flows = r.flows ∧
            (∀ n ∈ ns,
              ((s.flowsAt n).fall, (s.flowsAt n).branch) = p.flow (s.flowsAt n).before n) ∧
            ∀ n ∈ g.nodes, n ∉ ns → ∀ i, (s.flowsAt n).out i = p.newFlow) ∧
        (s.converged = true → Unbounded g p s ∧
          (∀ l : Nat, k ≤ l → solve? g p (visitBudget l) = some s) ∧
          ∀ setting ≤ 0, s.visits < wordLimit → solve? g p (visitBudget setting) = some s)) := by
  refine ⟨fun hentry setting => ?_, fun hentry => ?_⟩
  · rw [solve?, FlowGraph.hasEntry, decide_eq_false hentry]
    rfl
  obtain ⟨s, hs⟩ : ∃ s, solve? g p k = some s := ⟨_, solve?_eq_some_iff.mpr ⟨hentry, rfl⟩⟩
  have hrun := (solve?_eq_some_iff.mp hs).2
  have hiff : s.converged = true ↔ (Run.after g p k (initialRun g p)).worklist = [] := by
    rw [hrun]
    exact List.isEmpty_iff
  refine ⟨s, by rw [visitBudget_of_pos hk, hs], ?_, fun hc => ?_, fun hc => ?_⟩
  · rw [← Run.worklist_after_eq_nil_iff, ← hiff, Bool.not_eq_true]
  · have hne : (Run.after g p k (initialRun g p)).worklist ≠ [] := by
      rw [ne_eq, ← hiff, hc]
      exact Bool.false_ne_true
    obtain ⟨ns, hns, -, hlen⟩ := Run.exists_visiting_after g p (initialRun g p) k
    rw [flowsAt_of_solve? hs]
    refine ⟨?_, ns, _, hns, hlen hne, by rw [hrun], fun n hn => hns.flow_eq hn,
      fun n hn hnot => hns.out_eq_newFlow hn hnot⟩
    rw [hrun]
    exact if_neg fun hnil => hne (List.isEmpty_iff.mp hnil)
  · obtain ⟨hfree, hle⟩ := unbounded_of_converged hs hc
    refine ⟨hfree, fun l hl => ?_, fun setting hsetting hlt => solve?_of_unbounded hfree ?_⟩
    · rw [visitBudget_of_pos (Nat.lt_of_lt_of_le hk hl)]
      exact solve?_of_unbounded hfree (hle.trans hl)
    · rw [visitBudget, if_neg (Int.not_lt.mpr hsetting)]
      exact Nat.le_sub_one_of_lt hlt

/-- Four visits are not enough for the tangled graph, and forty are. -/
theorem budget_truncates_tangledGraph :
    0 < 4 ∧ 0 < 40 ∧ tangledGraph.entry ∈ tangledGraph.nodes ∧
      (∃ s, solve? tangledGraph cappedCount (visitBudget 4) = some s ∧ s.converged = false ∧
        s.visits = 5 ∧ ∃ ns r,
          (initialRun tangledGraph cappedCount).Visiting tangledGraph cappedCount ns r ∧
          ns.length = 4 ∧ s.flows = r.flows) ∧
      ∃ s, solve? tangledGraph cappedCount (visitBudget 40) = some s ∧ s.converged = true ∧
        Unbounded tangledGraph cappedCount s ∧
        ∀ l : Nat, 40 ≤ l → solve? tangledGraph cappedCount (visitBudget l) = some s := by
  have hentry : tangledGraph.entry ∈ tangledGraph.nodes := by decide
  obtain ⟨s, hs, -, hshort, -⟩ :=
    (budget_truncates tangledGraph cappedCount (show 0 < 4 by decide)).2 hentry
  obtain ⟨t, ht, -, -, hfull⟩ :=
    (budget_truncates tangledGraph cappedCount (show 0 < 40 by decide)).2 hentry
  have hsc : (solve? tangledGraph cappedCount (visitBudget (4 : Nat))).map (·.converged) =
      some false := by
    decide
  have htc : (solve? tangledGraph cappedCount (visitBudget (40 : Nat))).map (·.converged) =
      some true := by
    decide
  rw [hs, Option.map_some, Option.some.injEq] at hsc
  rw [ht, Option.map_some, Option.some.injEq] at htc
  obtain ⟨hvisits, ns, r, hns, hlen, hflows, -⟩ := hshort hsc
  obtain ⟨hfree, hlarger, -⟩ := hfull htc
  exact ⟨by decide, by decide, hentry, ⟨s, hs, hsc, hvisits, ns, r, hns, hlen, hflows⟩,
    t, ht, htc, hfree, hlarger⟩

end FlagFlow
