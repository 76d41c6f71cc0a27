import FlagFlow.Proofs.Equations
import Mathlib.Algebra.BigOperators.Ring.List
import Mathlib.Algebra.Order.BigOperators.Group.List
import Mathlib.Order.KrullDimension

/-!
# Least solutions

If flows are ordered, merging is the least upper bound and the flow after a node is monotone in the
flow before it, then the flows of a run only rise. With chains of bounded length every run ends,
after a number of visits that the sizes of the graph and of the chains bound, and its flows are
below those of every other solution.

* `FlowGraph.Closed`: all neighbours of the nodes are nodes; `FlowGraph.edgeCount` counts the edges.
* `Problem.Lawful`: the laws, with a bound for the length of chains.
* `Run.Rising`: no flow is above the one that a visit would compute; `Run.out_le_step`: flows rise.
* `Run.visits_add_length_le`: each visit beyond the first ones is paid for by the rise of a flow.
* `IsLeastSolution`: flows that solve the equations and are below every other solution.
* **`least_solution`**: the run ends within the bound with the least solution.
-/

namespace FlagFlow

namespace FlowGraph

variable {N : Type}

/-- The entry and all neighbours of the nodes are nodes. -/
structure Closed (g : FlowGraph N) : Prop where
  entry : g.entry ∈ g.nodes
  succs : ∀ n ∈ g.nodes, ∀ m ∈ g.succs n, m ∈ g.nodes
  preds : ∀ n ∈ g.nodes, ∀ m ∈ g.preds n, m ∈ g.nodes

/-- The total length of the successor lists of the nodes. -/
def edgeCount (g : FlowGraph N) : Nat :=
  (g.nodes.map fun n => (g.fall n).length + (g.branch n).length).sum

end FlowGraph

variable {N F : Type} [PartialOrder F] {g : FlowGraph N} {p : Problem N F} {h : Nat}

namespace Problem

/-- The laws of a problem whose flows are ordered. Chains make at most `h` steps. -/
structure Lawful (p : Problem N F) (h : Nat) : Prop where
  same_iff : ∀ a b, p.same a b = true ↔ a = b
  merge : ∀ a b, IsLUB {a, b} (p.merge a b)
  newFlow_le : ∀ a, p.newFlow ≤ a
  fall : ∀ n, Monotone fun x => (p.flow x n).1
  branch : ∀ n, Monotone fun x => (p.flow x n).2
  chain : ∀ c : LTSeries F, c.length ≤ h

namespace Lawful

theorem out_mono (hp : p.Lawful h) (n : N) (k : EdgeKind) {x y : F} (hxy : x ≤ y) :
    p.out x n k ≤ p.out y n k := by
  cases k with
  | fall => exact hp.fall n hxy
  | branch => exact hp.branch n hxy

theorem le_merge_left (hp : p.Lawful h) (a b : F) : a ≤ p.merge a b := (hp.merge a b).1 (by simp)

theorem le_merge_right (hp : p.Lawful h) (a b : F) : b ≤ p.merge a b := (hp.merge a b).1 (by simp)

theorem merge_le (hp : p.Lawful h) {a b c : F} (ha : a ≤ c) (hb : b ≤ c) : p.merge a b ≤ c :=
  (hp.merge a b).2 (by simp [upperBounds, ha, hb])

theorem merge_mono (hp : p.Lawful h) {a a' b b' : F} (ha : a ≤ a') (hb : b ≤ b') :
    p.merge a b ≤ p.merge a' b' :=
  hp.merge_le (ha.trans (hp.le_merge_left a' b')) (hb.trans (hp.le_merge_right a' b'))

theorem le_mergeAll (hp : p.Lawful h) {x : F} {xs : List F} (hx : x ∈ xs) : x ≤ p.mergeAll xs := by
  have hle : ∀ (ys : List F) (a : F), a ≤ ys.foldl p.merge a := by
    intro ys
    induction ys with
    | nil => exact fun a => le_rfl
    | cons y ys ih => exact fun a => (hp.le_merge_left a y).trans (ih _)
  have hmem : ∀ (ys : List F) (a : F), x ∈ ys → x ≤ ys.foldl p.merge a := by
    intro ys
    induction ys with
    | nil => exact fun a hx => absurd hx List.not_mem_nil
    | cons y ys ih =>
      intro a hx
      rcases List.mem_cons.mp hx with rfl | hx
      · exact (hp.le_merge_right a x).trans (hle ys _)
      · exact ih _ hx
  cases xs with
  | nil => exact absurd hx List.not_mem_nil
  | cons y ys =>
    rcases List.mem_cons.mp hx with rfl | hx
    · exact hle ys x
    · exact hmem ys y hx

/-- A number for every flow that grows with the flow and is at most `h`. -/
theorem exists_rank (hp : p.Lawful h) : ∃ rank : F → Nat, StrictMono rank ∧ ∀ x, rank x ≤ h := by
  have hle : ∀ x : F, Order.height x ≤ h := fun x =>
    Order.height_le fun c _ => by exact_mod_cast hp.chain c
  have hfin : ∀ x : F, Order.height x < ⊤ := fun x => (hle x).trans_lt (ENat.natCast_lt_top h)
  refine ⟨fun x => (Order.height x).toNat, fun x y hxy => ?_, fun x => ?_⟩
  · have hlt := Order.height_strictMono hxy (hfin x)
    rw [← ENat.natCast_toNat (hfin x).ne, ← ENat.natCast_toNat (hfin y).ne] at hlt
    exact_mod_cast hlt
  · exact ENat.toNat_le_of_le_natCast (hle x)

end Lawful

end Problem

variable [DecidableEq N]

theorem Problem.Lawful.inflow_mono (hp : p.Lawful h) {f f' : N → Flows F}
    (hf : ∀ n k, (f n).out k ≤ (f' n).out k) (n : N) : p.inflow g f n ≤ p.inflow g f' n :=
  Problem.inflow_rel (R := (· ≤ ·)) le_rfl le_rfl hp.merge_mono fun e _ => hf e.1 e.2

variable [Inhabited F]

namespace Run

variable {r : Run N F} {n : N} {rest : List N}

/-! ## Flows rise -/

variable (g p) in
/-- Only nodes are to be visited, and no flow is above the one that a visit would compute. -/
structure Rising (r : Run N F) : Prop where
  tidy : r.Tidy
  idle : r.Idle g p
  nodes : ∀ n ∈ r.worklist, n ∈ g.nodes
  le : ∀ n ∈ g.nodes, ∀ k, (r.flowsAt n).out k ≤ p.out (p.inflow g r.flowsAt n) n k

theorem Rising.le_visited (hr : r.Rising g p) (hw : r.worklist = n :: rest) (k : EdgeKind) :
    (r.flowsAt n).out k ≤ (r.visited g p n).out k := by
  have hn : n ∈ g.nodes := hr.nodes n (by rw [hw]; exact List.mem_cons_self)
  rw [visited_out, hr.idle.flowBefore_eq hn]
  exact hr.le n hn k

theorem Rising.out_le_step (hr : r.Rising g p) (hw : r.worklist = n :: rest) (m : N) (k : EdgeKind) :
    (r.flowsAt m).out k ≤ ((r.step g p).flowsAt m).out k := by
  rw [flowsAt_step hw]
  split
  · rename_i hmn
    rw [hmn]
    exact hr.le_visited hw k
  · exact le_rfl

theorem Rising.step (hg : g.Closed) (hp : p.Lawful h) (hr : r.Rising g p)
    (hw : r.worklist = n :: rest) : (r.step g p).Rising g p := by
  have hn : n ∈ g.nodes := hr.nodes n (by rw [hw]; exact List.mem_cons_self)
  refine ⟨hr.tidy.step, hr.idle.step, ?_, ?_⟩
  · intro m hm
    rcases (hr.tidy.mem_worklist_step hw).mp hm with hm | hm
    · exact hr.nodes m (by rw [hw]; exact List.mem_cons_of_mem _ hm)
    · obtain ⟨k, _, hk⟩ := mem_affected.mp hm
      exact hg.succs n hn m (FlowGraph.mem_succs_iff.mpr ⟨k, hk⟩)
  · intro m hm k
    have hin : p.inflow g r.flowsAt m ≤ p.inflow g (r.step g p).flowsAt m :=
      hp.inflow_mono (hr.out_le_step hw) m
    refine le_trans ?_ (hp.out_mono m k hin)
    rw [flowsAt_step hw]
    split
    · rename_i hmn
      rw [hmn, visited_out, hr.idle.flowBefore_eq hn]
    · exact hr.le m hm k

/-! ## The number of visits -/

variable (g) in
/-- What the flows have risen so far, weighted by the edges that carry them. -/
def potential (rank : F → Nat) (r : Run N F) : Nat :=
  (g.nodes.map fun n => rank (r.flowsAt n).fall * (g.fall n).length +
    rank (r.flowsAt n).branch * (g.branch n).length).sum

theorem sum_map_add_le {f f' : N → Nat} {d : Nat} {ns : List N} (hle : ∀ m ∈ ns, f m ≤ f' m)
    (hn : n ∈ ns) (hd : f n + d ≤ f' n) : (ns.map f).sum + d ≤ (ns.map f').sum := by
  induction ns with
  | nil => exact absurd hn List.not_mem_nil
  | cons m ns ih =>
    have hm := hle m List.mem_cons_self
    have hns : (ns.map f).sum ≤ (ns.map f').sum :=
      List.sum_le_sum fun i hi => hle i (List.mem_cons_of_mem _ hi)
    simp only [List.map_cons, List.sum_cons]
    by_cases hnm : n = m
    · subst hnm
      omega
    · have := ih (fun i hi => hle i (List.mem_cons_of_mem _ hi))
        ((List.mem_cons.mp hn).resolve_left hnm)
      omega

theorem Rising.affected_le (hp : p.Lawful h) {rank : F → Nat} (hrank : StrictMono rank)
    (hr : r.Rising g p) (hw : r.worklist = n :: rest) :
    rank (r.flowsAt n).fall * (g.fall n).length +
        rank (r.flowsAt n).branch * (g.branch n).length + (r.affected g p n).length ≤
      rank (r.visited g p n).fall * (g.fall n).length +
        rank (r.visited g p n).branch * (g.branch n).length := by
  have hrise : ∀ k, (if r.changes g p n k then 1 else 0) + rank ((r.flowsAt n).out k) ≤
      rank ((r.visited g p n).out k) := by
    intro k
    have hle := hr.le_visited hw k
    split
    · rename_i hc
      have hne : (r.visited g p n).out k ≠ (r.flowsAt n).out k := fun heq => by
        simp [changes, (hp.same_iff _ _).mpr heq] at hc
      have := hrank (lt_of_le_of_ne hle (Ne.symm hne))
      omega
    · have := hrank.monotone hle
      omega
  have hfall := Nat.mul_le_mul_right (g.fall n).length (hrise .fall)
  have hbranch := Nat.mul_le_mul_right (g.branch n).length (hrise .branch)
  simp only [Flows.out, Nat.add_mul] at hfall hbranch
  have hlen : (r.affected g p n).length =
      (if r.changes g p n .fall then 1 else 0) * (g.fall n).length +
        (if r.changes g p n .branch then 1 else 0) * (g.branch n).length := by
    unfold affected
    split <;> split <;> simp
  omega

theorem Rising.visits_add_length_step (hp : p.Lawful h) {rank : F → Nat} (hrank : StrictMono rank)
    (hr : r.Rising g p) (hw : r.worklist = n :: rest)
    (hle : r.visits + r.worklist.length ≤ g.nodes.length + r.potential g rank) :
    (r.step g p).visits + (r.step g p).worklist.length ≤
      g.nodes.length + (r.step g p).potential g rank := by
  have hn : n ∈ g.nodes := hr.nodes n (by rw [hw]; exact List.mem_cons_self)
  have hpay : r.potential g rank + (r.affected g p n).length ≤ (r.step g p).potential g rank := by
    refine sum_map_add_le (fun m _ => ?_) hn ?_
    · have hfall := hrank.monotone (hr.out_le_step hw m .fall)
      have hbranch := hrank.monotone (hr.out_le_step hw m .branch)
      exact Nat.add_le_add (Nat.mul_le_mul_right _ hfall) (Nat.mul_le_mul_right _ hbranch)
    · rw [flowsAt_step hw, if_pos rfl]
      exact hr.affected_le hp hrank hw
  have hlen := length_step_le (g := g) (p := p) hw
  rw [hw, List.length_cons] at hle
  rw [visits_step hw]
  omega

omit [PartialOrder F] in
theorem potential_le {rank : F → Nat} (hrank : ∀ x, rank x ≤ h) (r : Run N F) :
    r.potential g rank ≤ h * g.edgeCount := by
  unfold potential FlowGraph.edgeCount
  rw [← List.sum_map_mul_left]
  refine List.sum_le_sum fun n _ => ?_
  rw [Nat.mul_add]
  exact Nat.add_le_add (Nat.mul_le_mul_right _ (hrank _)) (Nat.mul_le_mul_right _ (hrank _))

end Run

theorem initialRun_rising (hp : p.Lawful h) : (initialRun g p).Rising g p where
  tidy := initialRun_tidy
  idle := (initialRun_settled Eq).idle
  nodes n hn := FlowGraph.mem_visitOrder.mp (mem_worklist_initialRun.mp hn)
  le n hn k := by
    rw [flowsAt_initialRun, if_pos hn]
    split <;> cases k <;> exact hp.newFlow_le _

omit [PartialOrder F] [Inhabited F] in
theorem length_worklist_initialRun_le : (initialRun g p).worklist.length ≤ g.nodes.length := by
  have hsub : (initialRun g p).worklist ⊆ g.nodes := fun n hn =>
    FlowGraph.mem_visitOrder.mp (mem_worklist_initialRun.mp hn)
  exact (List.subperm_of_subset initialRun_tidy.nodup hsub).length_le

/-- **The number of visits** is at most that of the nodes and the possible rises of flows. -/
theorem Run.visits_add_length_le (hg : g.Closed) (hp : p.Lawful h) (k : Nat) :
    (Run.after g p k (initialRun g p)).visits + (Run.after g p k (initialRun g p)).worklist.length ≤
      g.nodes.length + h * g.edgeCount := by
  obtain ⟨rank, hrank, hle⟩ := hp.exists_rank
  have hinv := Run.after_induction
    (fun r => r.Rising g p ∧ r.visits + r.worklist.length ≤ g.nodes.length + r.potential g rank)
    (fun r n rest hw hr => ⟨hr.1.step hg hp hw, hr.1.visits_add_length_step hp hrank hw hr.2⟩) k
    ⟨initialRun_rising hp, by
      have := length_worklist_initialRun_le (g := g) (p := p)
      rw [visits_initialRun]
      omega⟩
  exact hinv.2.trans (Nat.add_le_add_left (Run.potential_le hle _) _)

/-! ## The flows are below every solution -/

/-- The flows of a run stay below those of a solution. -/
theorem below_solution (hg : g.Closed) (hp : p.Lawful h) {f : N → Flows F} (hf : p.Solves g f) :
    FlowInvariant g p (fun n x => n ∈ g.nodes → x ≤ (f n).before)
      (fun n k x => n ∈ g.nodes → x ≤ (f n).out k) where
  start n hn := by
    rw [flowsAt_initialRun, if_pos hn]
    split
    · rename_i hentry
      subst hentry
      rw [(hf g.entry hn).before]
      exact hp.le_mergeAll (by simp [Problem.arriving])
    · exact hp.newFlow_le _
  startOut n k hn := by
    rw [flowsAt_initialRun, if_pos hn]
    split <;> cases k <;> exact hp.newFlow_le _
  entry hn := by
    rw [(hf g.entry hn).before]
    exact hp.le_mergeAll (by simp [Problem.arriving])
  edge {n e x} he hx hn := by
    refine (hx (hg.preds n hn e.1 (FlowGraph.mem_entering.mp he).2.1)).trans ?_
    rw [(hf n hn).before]
    exact hp.le_mergeAll
      (List.mem_append_left _ (List.mem_map_of_mem (f := fun e => (f e.1).out e.2) he))
  merge hx hy hn := hp.merge_le (hx hn) (hy hn)
  node {n x} hx k hn := by
    rw [(hf n hn).out_eq k]
    exact hp.out_mono n k (hx hn)

variable (g p) in
/-- A solution whose flows at the nodes are below those of every solution. -/
def IsLeastSolution (f : N → Flows F) : Prop :=
  p.Solves g f ∧ ∀ f', p.Solves g f' → ∀ n ∈ g.nodes,
    (f n).before ≤ (f' n).before ∧ ∀ k, (f n).out k ≤ (f' n).out k

/-- **The least solution.** A lawful run ends within a bound, and every budget that allows it gives
the least solution. -/
theorem least_solution (hg : g.Closed) (hp : p.Lawful h) :
    ∃ k ≤ g.nodes.length + h * g.edgeCount, ∀ budget, k ≤ budget →
      ∃ s, solve? g p budget = some s ∧ s.converged = true ∧ s.visits = k ∧
        IsLeastSolution g p s.flowsAt := by
  let bound := g.nodes.length + h * g.edgeCount
  let last := Run.after g p bound (initialRun g p)
  have hle : last.visits + last.worklist.length ≤ bound := Run.visits_add_length_le hg hp bound
  -- with a visit still due after so many visits, the bound would be exceeded
  have hnil : last.worklist = [] := by
    by_contra hne
    have hvisits : last.visits = (initialRun g p).visits + bound := Run.visits_after bound hne
    have := List.length_pos_iff.mpr hne
    rw [visits_initialRun] at hvisits
    omega
  refine ⟨last.visits, by omega, fun budget hbudget => ?_⟩
  have hrun : Run.after g p budget (initialRun g p) = last :=
    Run.after_eq_of_ended hnil (by rw [visits_initialRun, Nat.zero_add]) hbudget
  obtain ⟨s, hs⟩ : ∃ s, solve? g p budget = some s := ⟨_, solve?_eq_some_iff.mpr ⟨hg.entry, rfl⟩⟩
  have hs' := (solve?_eq_some_iff.mp hs).2
  rw [hrun, hnil] at hs'
  have hc : s.converged = true := by rw [hs']; rfl
  refine ⟨s, hs, hc, by rw [hs']; rfl, fun n hn => ?_, fun f hf n hn => ?_⟩
  · exact holdsAt_of_converged (.of_same_iff hp.same_iff) hs hc hn
  · have hbelow := (below_solution hg hp hf).after budget
    rw [flowsAt_of_solve? hs]
    exact ⟨hbelow.1 n hn, fun i => hbelow.2 n i hn⟩

/-- The largest of the numbers met on the way, up to `3`. -/
def largestMet : Problem Nat (Fin 4) where
  entryFlow := 1
  newFlow := 0
  flow x n := (max x (.ofNat 4 n), x)
  merge := max
  same x y := x == y

theorem least_solution_tangledGraph :
    tangledGraph.Closed ∧ largestMet.Lawful 3 ∧ ∃ k ≤ 3 + 3 * 5, ∀ budget, k ≤ budget →
      ∃ s, solve? tangledGraph largestMet budget = some s ∧ s.converged = true ∧ s.visits = k ∧
        IsLeastSolution tangledGraph largestMet s.flowsAt := by
  have hg : tangledGraph.Closed := ⟨by decide, by decide, by decide⟩
  have hp : largestMet.Lawful 3 :=
    { same_iff := fun a b => beq_iff_eq
      merge := fun a b => isLUB_pair
      newFlow_le := Fin.zero_le
      fall := fun n x y hxy => max_le_max_right _ hxy
      branch := fun n x y hxy => hxy
      chain := fun c => Nat.lt_succ_iff.mp c.length_lt_card }
  exact ⟨hg, hp, least_solution hg hp⟩

end FlagFlow
