import FlagFlow.Proofs.Rounds
import Mathlib.Data.List.Sort

/-!
# Graphs without cycles

Without cycles the dataflow equations have exactly one solution, whatever the problem, and
evaluating the nodes once in a topological order gives it. The run of the solver visits the nodes in
another order and comes back to some of them, but it ends, and with that solution. So its flows do
not depend on the order of the nodes and of their successors, from which only the order of the
visits is made.

* `Problem.IsSolution`: the equations hold at the nodes, and other flows are the default ones.
* `Problem.IsSolution.unique`: without cycles there is at most one solution.
* `FlowGraph.Topological`, `Problem.evaluate`: evaluation of the nodes in an order along the edges.
* `FlowGraph.Reordered`: graphs that differ in the order of nodes and successors.
* **`loop_free_solution`**: the run ends within the bound, with the only solution.
-/

namespace FlagFlow

variable {N F : Type}

namespace FlowGraph

variable {g g' : FlowGraph N}

/-- An order of the nodes in which no edge leads back. -/
structure Topological (g : FlowGraph N) (order : List N) : Prop where
  perm : order.Perm g.nodes
  forward : order.Pairwise fun a b => a ∉ g.succs b

/-- The graphs differ only in the order of their nodes and of the successors. -/
structure Reordered (g g' : FlowGraph N) : Prop where
  entry : g.entry = g'.entry
  nodes : g.nodes.Perm g'.nodes
  preds : ∀ n, g.preds n = g'.preds n
  fall : ∀ n, (g.fall n).Perm (g'.fall n)
  branch : ∀ n, (g.branch n).Perm (g'.branch n)

theorem Acyclic.exists_topological (hg : g.Acyclic) : ∃ order, g.Topological order := by
  let le (a b : N) : Bool := decide (g.depth a ≤ g.depth b)
  have hsorted : (g.nodes.mergeSort le).Pairwise fun a b => le a b = true :=
    List.pairwise_mergeSort (by simp only [le, decide_eq_true_eq]; exact fun a b c => Nat.le_trans)
      (by simp only [le, Bool.or_eq_true, decide_eq_true_eq]; exact fun a b => Nat.le_total _ _) _
  refine ⟨_, List.mergeSort_perm g.nodes le, hsorted.imp_of_mem fun {a b} _ hb hle hedge => ?_⟩
  have hlt := hg.pathsWithin.depth_lt (List.mem_mergeSort.mp hb) hedge
  rw [decide_eq_true_eq] at hle
  omega

theorem Acyclic.not_mem_succs (hg : g.Acyclic) {n : N} (hn : n ∈ g.nodes) : n ∉ g.succs n := by
  intro hmem
  obtain ⟨k, hk⟩ := mem_succs_iff.mp hmem
  cases hg n _ (.edge hn hk)

namespace Reordered

theorem symm (h : g.Reordered g') : g'.Reordered g where
  entry := h.entry.symm
  nodes := h.nodes.symm
  preds n := (h.preds n).symm
  fall n := (h.fall n).symm
  branch n := (h.branch n).symm

theorem mem_succsBy (h : g.Reordered g') {k : EdgeKind} {n m : N} :
    m ∈ g.succsBy k n ↔ m ∈ g'.succsBy k n := by
  cases k with
  | fall => exact (h.fall n).mem_iff
  | branch => exact (h.branch n).mem_iff

theorem path (h : g.Reordered g') {a n : N} {es : List (N × EdgeKind)} (hes : g.Path a es n) :
    g'.Path a es n := by
  induction hes with
  | nil => exact .nil
  | snoc _ hp hn ih => exact .snoc ih (h.nodes.mem_iff.mp hp) (h.mem_succsBy.mp hn)

theorem acyclic (h : g.Reordered g') (hg : g.Acyclic) : g'.Acyclic :=
  fun n es hes => hg n es (h.symm.path hes)

theorem succs_mem_nodes (h : g.Reordered g') (hsuccs : ∀ n ∈ g.nodes, ∀ m ∈ g.succs n, m ∈ g.nodes) :
    ∀ n ∈ g'.nodes, ∀ m ∈ g'.succs n, m ∈ g'.nodes := by
  intro n hn m hm
  obtain ⟨k, hk⟩ := mem_succs_iff.mp hm
  have hm' : m ∈ g.succs n := mem_succs_iff.mpr ⟨k, h.mem_succsBy.mpr hk⟩
  exact h.nodes.mem_iff.mp (hsuccs n (h.nodes.mem_iff.mpr hn) m hm')

theorem entering_eq [DecidableEq N] (h : g.Reordered g') (n : N) : g.entering n = g'.entering n := by
  have hedges : ∀ p, g.edgesBetween p n = g'.edgesBetween p n := by
    intro p
    simp only [edgesBetween, (h.fall p).mem_iff, (h.branch p).mem_iff]
  simp only [entering, h.nodes.count_eq, h.preds, hedges]

end Reordered

end FlowGraph

variable [DecidableEq N] {g g' : FlowGraph N} {p : Problem N F} {f f' : N → Flows F} {n : N}

namespace Problem

/-! ## Evaluation in an order -/

/-- The flows at a node that the flows at the others give. -/
def flowsFrom (p : Problem N F) (g : FlowGraph N) (f : N → Flows F) (n : N) : Flows F :=
  ⟨p.inflow g f n, (p.flow (p.inflow g f n) n).1, (p.flow (p.inflow g f n) n).2⟩

/-- Evaluates the nodes of a list, one after the other. -/
def evaluate (p : Problem N F) (g : FlowGraph N) (order : List N) (f : N → Flows F) : N → Flows F :=
  order.foldl (fun f n => Function.update f n (p.flowsFrom g f n)) f

theorem flowsFrom_congr (h : ∀ e ∈ g.entering n, f e.1 = f' e.1) :
    p.flowsFrom g f n = p.flowsFrom g f' n := by
  have hin : p.inflow g f n = p.inflow g f' n :=
    inflow_rel (R := Eq) rfl rfl (fun ha hb => by rw [ha, hb]) fun e he => by rw [h e he]
  rw [flowsFrom, flowsFrom, hin]

theorem holdsAt_iff : p.HoldsAt Eq g f n ↔ f n = p.flowsFrom g f n := by
  constructor
  · intro h
    have hflow := h.after
    rw [h.before] at hflow
    obtain ⟨hfall, hbranch⟩ := Prod.mk.inj hflow
    rw [flowsFrom, ← hfall, ← hbranch, ← h.before]
  · intro h
    rw [flowsFrom] at h
    refine ⟨by rw [h], ?_⟩
    rw [h]

theorem evaluate_cons (a : N) (order : List N) (f : N → Flows F) :
    p.evaluate g (a :: order) f =
      p.evaluate g order (Function.update f a (p.flowsFrom g f a)) := rfl

theorem evaluate_of_not_mem {order : List N} (hn : n ∉ order) (f : N → Flows F) :
    p.evaluate g order f n = f n := by
  induction order generalizing f with
  | nil => rfl
  | cons a order ih =>
    rw [List.mem_cons, not_or] at hn
    rw [evaluate_cons, ih hn.2, Function.update_of_ne hn.1]

/-- **Evaluation along the edges.** A node that has been evaluated satisfies its equations for
good. -/
theorem evaluate_eq_flowsFrom {order : List N} (hself : ∀ a ∈ order, a ∉ g.succs a)
    (hforward : order.Pairwise fun a b => a ∉ g.succs b) (f : N → Flows F) (hn : n ∈ order) :
    p.evaluate g order f n = p.flowsFrom g (p.evaluate g order f) n := by
  induction order generalizing f with
  | nil => cases hn
  | cons a order ih =>
    rw [List.pairwise_cons] at hforward
    have ih' := ih (fun b hb => hself b (List.mem_cons_of_mem _ hb)) hforward.2
      (Function.update f a (p.flowsFrom g f a))
    rw [evaluate_cons]
    by_cases hmem : n ∈ order
    · exact ih' hmem
    · obtain rfl : n = a := (List.mem_cons.mp hn).resolve_right hmem
      rw [evaluate_of_not_mem hmem, Function.update_self]
      refine flowsFrom_congr fun e he => ?_
      -- the edge leaves neither the node itself nor one that comes later
      have hedge : n ∈ g.succs e.1 :=
        FlowGraph.mem_succs_iff.mpr ⟨e.2, (FlowGraph.mem_entering.mp he).2.2⟩
      have hne : e.1 ≠ n := fun heq => hself n List.mem_cons_self (heq ▸ hedge)
      have hlater : e.1 ∉ order := fun hlater => hforward.1 e.1 hlater hedge
      rw [evaluate_of_not_mem hlater, Function.update_of_ne hne]

/-! ## The only solution -/

variable [Inhabited F]

/-- The flows solve the equations at the nodes; what is not a node has the default flows. -/
structure IsSolution (p : Problem N F) (g : FlowGraph N) (f : N → Flows F) : Prop where
  solves : p.Solves g f
  outside : ∀ m, m ∉ g.nodes → f m = default

/-- **Without cycles there is at most one solution.** -/
theorem IsSolution.unique (hg : g.Acyclic) (hf : p.IsSolution g f) (hf' : p.IsSolution g f') :
    f = f' := by
  have hnodes : ∀ m : {m // m ∈ g.nodes}, f m.1 = f' m.1 := by
    intro m
    induction m using hg.wellFounded.induction with
    | h m ih =>
      obtain ⟨n, hn⟩ := m
      rw [holdsAt_iff.mp (hf.solves n hn), holdsAt_iff.mp (hf'.solves n hn)]
      refine flowsFrom_congr fun e he => ?_
      by_cases hp : e.1 ∈ g.nodes
      · have hk := (FlowGraph.mem_entering.mp he).2.2
        exact ih ⟨e.1, hp⟩ ⟨_, List.cons_ne_nil _ _, .edge hp hk⟩
      · rw [hf.outside e.1 hp, hf'.outside e.1 hp]
  funext n
  by_cases hn : n ∈ g.nodes
  · exact hnodes ⟨n, hn⟩
  · rw [hf.outside n hn, hf'.outside n hn]

theorem isSolution_evaluate (hg : g.Acyclic) {order : List N} (horder : g.Topological order) :
    p.IsSolution g (p.evaluate g order fun _ => default) where
  solves _ hn :=
    holdsAt_iff.mpr (evaluate_eq_flowsFrom
      (fun _ ha => hg.not_mem_succs (horder.perm.mem_iff.mp ha)) horder.forward _
      (horder.perm.mem_iff.mpr hn))
  outside _ hm := evaluate_of_not_mem (fun hmem => hm (horder.perm.mem_iff.mp hmem)) _

theorem IsSolution.of_reordered (h : g.Reordered g') (hf : p.IsSolution g' f) : p.IsSolution g f where
  solves n hn := by
    have heq := holdsAt_iff.mp (hf.solves n (h.nodes.mem_iff.mp hn))
    refine holdsAt_iff.mpr (heq.trans ?_)
    simp only [flowsFrom, inflow, arriving, h.entering_eq, h.entry]
  outside m hm := hf.outside m fun hmem => hm (h.nodes.mem_iff.mpr hmem)

end Problem

/-! ## The run -/

variable [Inhabited F]

theorem flowsAt_after_of_not_mem (hentry : g.entry ∈ g.nodes)
    (hsuccs : ∀ n ∈ g.nodes, ∀ m ∈ g.succs n, m ∈ g.nodes) (k : Nat) {m : N} (hm : m ∉ g.nodes) :
    (Run.after g p k (initialRun g p)).flowsAt m = default := by
  refine after_induction_within (W := (· ∈ g.nodes)) (fun _ hn => hn)
    (fun hn hk => hsuccs _ hn _ (FlowGraph.mem_succs_iff.mpr ⟨_, hk⟩))
    (fun r => r.flowsAt m = default) ?_ ?_ k
  · have hne : m ≠ g.entry := fun heq => hm (heq ▸ hentry)
    rw [flowsAt_initialRun, if_neg hne, if_neg hm]
  · intro r n rest hw hn hr
    have hne : m ≠ n := fun heq => hm (heq ▸ hn)
    rw [Run.flowsAt_step hw, if_neg hne, hr]

theorem isSolution_of_endsWith (hentry : g.entry ∈ g.nodes)
    (hsuccs : ∀ n ∈ g.nodes, ∀ m ∈ g.succs n, m ∈ g.nodes)
    (hsame : ∀ a b, p.same a b = true ↔ a = b) {s : Solution N F} (hs : EndsWith g p s) :
    p.IsSolution g s.flowsAt where
  solves _ hn := holdsAt_of_converged (.of_same_iff hsame) (hs.2 _ (Nat.le_refl _)) hs.1 hn
  outside m hm := by
    rw [flowsAt_of_solve? (hs.2 _ (Nat.le_refl _))]
    exact flowsAt_after_of_not_mem hentry hsuccs _ hm

/-- **Graphs without cycles.** Every run ends, and its flows are the only solution, also for another
order of the nodes. -/
theorem loop_free_solution (hentry : g.entry ∈ g.nodes)
    (hsuccs : ∀ n ∈ g.nodes, ∀ m ∈ g.succs n, m ∈ g.nodes) (hg : g.Acyclic)
    (hsame : ∀ a b, p.same a b = true ↔ a = b) :
    ∃ s, EndsWith g p s ∧
      (∀ L, g.PathsWithin L → s.visits ≤ g.nodes.length * (L + 1)) ∧
      (∀ f, p.IsSolution g f ↔ f = s.flowsAt) ∧
      (∃ order, g.Topological order) ∧
      (∀ order, g.Topological order → p.evaluate g order (fun _ => default) = s.flowsAt) ∧
      ∀ g', g.Reordered g' → ∃ s', EndsWith g' p s' ∧ s'.flowsAt = s.flowsAt := by
  obtain ⟨s, hs, hvisits⟩ := exists_endsWith_of_acyclic hentry hsuccs hg p
  have hsol := isSolution_of_endsWith hentry hsuccs hsame hs
  refine ⟨s, hs, fun L hL => hvisits.trans hL.visitBound_le, fun f => ?_, hg.exists_topological,
    fun order horder => (Problem.isSolution_evaluate hg horder).unique hg hsol, fun g' h => ?_⟩
  · exact ⟨fun hf => hf.unique hg hsol, fun heq => heq ▸ hsol⟩
  · have hentry' : g'.entry ∈ g'.nodes := h.entry ▸ h.nodes.mem_iff.mp hentry
    have hsuccs' := h.succs_mem_nodes hsuccs
    obtain ⟨s', hs', -⟩ := exists_endsWith_of_acyclic hentry' hsuccs' (h.acyclic hg) p
    have hsol' := isSolution_of_endsWith hentry' hsuccs' hsame hs'
    exact ⟨s', hs', (hsol'.of_reordered h).unique hg hsol⟩

/-- The entry leads to a node directly and by a detour, and the direct edge comes first. -/
def detourGraph : FlowGraph Nat :=
  .ofEntries 0 [⟨0, [2, 1], [], none⟩, ⟨1, [2], [], none⟩, ⟨2, [3], [3], none⟩, ⟨3, [], [], none⟩]

/-- A problem without laws: the merge depends on the order, and flows along branches fall. -/
def lawlessCount : Problem Nat Nat where
  entryFlow := 7
  newFlow := 0
  flow x n := (10 * x + n, 5 - x)
  merge x y := 2 * x + y
  same x y := x == y

theorem acyclic_detourGraph : detourGraph.Acyclic := FlowGraph.acyclic_of_rank id (by decide)

theorem topological_detourGraph : detourGraph.Topological [0, 1, 2, 3] :=
  ⟨by decide, by decide⟩

theorem reordered_detourGraph : detourGraph.Reordered
    { detourGraph with
      nodes := detourGraph.nodes.reverse, fall := fun n => (detourGraph.fall n).reverse } where
  entry := rfl
  nodes := (List.reverse_perm _).symm
  preds _ := rfl
  fall _ := (List.reverse_perm _).symm
  branch _ := .refl _

/-- Two nodes are visited again, since the detour comes after the node that it leads to. -/
theorem loop_free_solution_detourGraph :
    detourGraph.entry ∈ detourGraph.nodes ∧ detourGraph.Acyclic ∧
      ∃ s, EndsWith detourGraph lawlessCount s ∧ s.visits = 6 ∧
        lawlessCount.evaluate detourGraph [0, 1, 2, 3] (fun _ => default) = s.flowsAt ∧
        ∃ s', EndsWith { detourGraph with
          nodes := detourGraph.nodes.reverse, fall := fun n => (detourGraph.fall n).reverse }
          lawlessCount s' ∧ s'.flowsAt = s.flowsAt := by
  obtain ⟨s, hs, hvisits, -, -, heval, hreorder⟩ := loop_free_solution (p := lawlessCount)
    (g := detourGraph) (by decide) (by decide) acyclic_detourGraph (by simp [lawlessCount])
  refine ⟨by decide, acyclic_detourGraph, s, hs, ?_, heval _ topological_detourGraph,
    hreorder _ reordered_detourGraph⟩
  have hle : s.visits ≤ 20 := hvisits 4 acyclic_detourGraph.pathsWithin
  have hrun : (solve? detourGraph lawlessCount 20).map (·.visits) = some 6 := by decide
  rw [hs.2 20 hle] at hrun
  exact Option.some.inj hrun

end FlagFlow
