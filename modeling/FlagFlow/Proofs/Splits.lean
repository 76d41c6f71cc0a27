import FlagFlow.Proofs.BreadthFirst
import FlagFlow.Proofs.PathConditions

/-!
# Branches on the flag and splits of the path condition

The branches on the flag are listed after a run, by evaluating every condition with what is known
before its node in the end. During the run the effect of a node splits the path condition, by
evaluating the same condition with what was known before the node at each visit. In a complete
result the two agree: a branch is listed if the path conditions after its node differ, and with the
path condition along its fall-through edges. This also holds for a statement that is a call, a
conditional and a definition at once.

* `Body.paths_of_fallPath`, `Body.paths_of_fallPath_none`: the path conditions after a node.
* `Body.flagBranches_eq_splits`: the list of branches, from the path conditions after the nodes.
* **`Body.flag_branches_are_splits`**: the listed branches are the splits, each once and in order.
-/

namespace FlagFlow

theorem FlagValue.ne_negate {x : FlagValue} (hx : x.dependsOnFlag = true) : x ≠ x.negate := by
  cases x with
  | flag | notFlag => decide
  | _ => cases hx

namespace Body

variable {N V : Type} [DecidableEq N] [DecidableEq V] {b : Body N V} {isFeature : String → Bool}
  {maxVisits : Int} {s : Solution N (Env V)} {x c : FlagValue} {n : N}

theorem paths_of_fallPath (hs : b.analyze isFeature maxVisits = .ok s) (hc : s.converged = true)
    (hn : n ∈ b.nodes) (hx : (b.stmt n).fallPath? (s.flowsAt n).before = some x) :
    (s.flowsAt n).fall.path = x ∧ (s.flowsAt n).branch.path = x.negate := by
  rw [fall_eq hs hc hn, branch_eq hs hc hn, Stmt.path_transfer_fst, Stmt.path_transfer_snd, hx]
  exact ⟨rfl, rfl⟩

theorem paths_of_fallPath_none (hs : b.analyze isFeature maxVisits = .ok s) (hc : s.converged = true)
    (hn : n ∈ b.nodes) (hnone : (b.stmt n).fallPath? (s.flowsAt n).before = none) :
    (s.flowsAt n).fall.path = (s.flowsAt n).before.path ∧
      (s.flowsAt n).branch.path = (s.flowsAt n).before.path := by
  have hnot : ¬ b.IsFlagBranch s n := by
    rw [isFlagBranch_iff hs]
    rintro ⟨-, x, hx⟩
    rw [hnone] at hx
    cases hx
  exact ⟨out_path_of_not_isFlagBranch hs hc hn hnot .fall,
    out_path_of_not_isFlagBranch hs hc hn hnot .branch⟩

theorem fallPath_eq_some_iff (hs : b.analyze isFeature maxVisits = .ok s) (hc : s.converged = true)
    (hn : n ∈ b.nodes) (hx : x.dependsOnFlag = true) :
    (b.stmt n).fallPath? (s.flowsAt n).before = some x ↔
      (s.flowsAt n).fall.path = x ∧ (s.flowsAt n).branch.path = x.negate := by
  refine ⟨paths_of_fallPath hs hc hn, fun ⟨hfall, hbranch⟩ => ?_⟩
  cases hpath : (b.stmt n).fallPath? (s.flowsAt n).before with
  | none =>
    obtain ⟨hf, hb⟩ := paths_of_fallPath_none hs hc hn hpath
    rw [hf, ← hb, hbranch] at hfall
    exact absurd hfall.symm (FlagValue.ne_negate hx)
  | some y => rw [← (paths_of_fallPath hs hc hn hpath).1, hfall]

/-- **The list of branches** has the nodes after which the path conditions differ. -/
theorem flagBranches_eq_splits (hs : b.analyze isFeature maxVisits = .ok s) (hc : s.converged = true) :
    b.flagBranches s =
      (s.order.filter fun n => (s.flowsAt n).fall.path ≠ (s.flowsAt n).branch.path).map
        fun n => (n, (s.flowsAt n).fall.path) := by
  rw [flagBranches_eq, ← List.filterMap_eq_map, List.filterMap_filter]
  refine List.filterMap_congr fun n hn => ?_
  rw [order_of_analyze hs, FlowGraph.mem_visitOrder] at hn
  cases hpath : (b.stmt n).fallPath? (s.flowsAt n).before with
  | none =>
    obtain ⟨hf, hb⟩ := paths_of_fallPath_none hs hc hn hpath
    simp [hf, hb]
  | some x =>
    obtain ⟨hf, hb⟩ := paths_of_fallPath hs hc hn hpath
    simp [hf, hb, FlagValue.ne_negate (Stmt.dependsOnFlag_of_fallPath hpath)]

/-- **The branches on the flag are the splits of the path condition**, in the order of the first
visits. -/
theorem flag_branches_are_splits (hs : b.analyze isFeature maxVisits = .ok s)
    (hc : s.converged = true) :
    (∀ n ∈ s.order, ∀ c, c.dependsOnFlag = true →
        ((n, c) ∈ b.flagBranches s ↔
          (s.flowsAt n).fall.path = c ∧ (s.flowsAt n).branch.path = c.negate)) ∧
      (∀ e ∈ b.flagBranches s, e.1 ∈ s.order ∧ e.2.dependsOnFlag = true) ∧
      (∀ n ∈ s.order, ¬ b.IsFlagBranch s n →
        (s.flowsAt n).fall.path = (s.flowsAt n).before.path ∧
          (s.flowsAt n).branch.path = (s.flowsAt n).before.path) ∧
      (b.flagBranches s).map Prod.fst =
        s.order.filter (fun n => (s.flowsAt n).fall.path ≠ (s.flowsAt n).branch.path) ∧
      (b.nodes.Nodup → ((b.flagBranches s).map Prod.fst).Nodup) := by
  have hnodes : ∀ n, n ∈ s.order ↔ n ∈ b.nodes := fun n => by
    rw [order_of_analyze hs, FlowGraph.mem_visitOrder]
  have hlist : (b.flagBranches s).map Prod.fst =
      s.order.filter (fun n => (s.flowsAt n).fall.path ≠ (s.flowsAt n).branch.path) := by
    rw [flagBranches_eq_splits hs hc, List.map_map]
    exact List.map_id _
  refine ⟨fun n hn c hdep => ?_, fun e he => ?_, fun n hn hnot => ?_, hlist, fun hnodup => ?_⟩
  · rw [hnodes] at hn
    rw [mem_flagBranches hs, fallPath_eq_some_iff hs hc hn hdep]
    exact and_iff_right hn
  · obtain ⟨hn, hpath⟩ := (mem_flagBranches hs).mp he
    exact ⟨(hnodes e.1).mpr hn, Stmt.dependsOnFlag_of_fallPath hpath⟩
  · rw [hnodes] at hn
    exact ⟨out_path_of_not_isFlagBranch hs hc hn hnot .fall,
      out_path_of_not_isFlagBranch hs hc hn hnot .branch⟩
  · rw [hlist, order_of_analyze hs]
    exact (FlowGraph.nodup_visitOrder hnodup).filter _

/-- A loop of two statements, each of them a call, a conditional and a definition at once. The first
branches on the flag when it is visited first, but not in the end. -/
def threefold : Body Nat Nat where
  toFlowGraph := .ofEntries 0 [⟨0, [1], [], none⟩, ⟨1, [2], [2], none⟩, ⟨2, [3], [1], none⟩,
    ⟨3, [], [], none⟩]
  stmt
    | 0 => { call := some ⟨defaultCallee, [.ofVar 0]⟩ }
    | 1 => { call := some ⟨defaultCallee, [.ofVar 1]⟩
             condition := some (.ofVar 0)
             definition := some ⟨some 0, .const 1, true⟩ }
    | 2 => { call := some ⟨defaultCallee, [.ofVar 0]⟩
             condition := some (.equal (.const 0) (.ofVar 1))
             definition := some ⟨some 1, .ofVar 0, true⟩ }
    | _ => .skip

theorem flag_branches_are_splits_threefold :
    threefold.nodes.Nodup ∧
      ∃ s, threefold.analyze (fun _ => true) 0 = .ok s ∧ s.converged = true ∧
        threefold.flagBranches s = [(2, .notFlag)] ∧ (s.flowsAt 2).fall.path = .notFlag ∧
        (s.flowsAt 2).branch.path = .flag ∧
        (s.flowsAt 1).fall.path = (s.flowsAt 1).before.path ∧
        ((threefold.flagBranches s).map Prod.fst).Nodup := by
  obtain ⟨s, hs, hc, hlist, horder⟩ := exists_ok_of_toOption (r := threefold.analyze (fun _ => true) 0)
    (P := fun s => s.converged = true ∧ threefold.flagBranches s = [(2, .notFlag)] ∧
      s.order = [0, 1, 2, 3]) (by decide)
  obtain ⟨hiff, -, hnot, -, hnodup⟩ := flag_branches_are_splits hs hc
  have hsplit := (hiff 2 (by rw [horder]; decide) .notFlag rfl).mp (by rw [hlist]; decide)
  have hrest := hnot 1 (by rw [horder]; decide) (by rw [IsFlagBranch, hlist]; decide)
  have hdistinct : threefold.nodes.Nodup := by decide
  exact ⟨hdistinct, s, hs, hc, hlist, hsplit.1, hsplit.2, hrest.1, hnodup hdistinct⟩

end Body

end FlagFlow
