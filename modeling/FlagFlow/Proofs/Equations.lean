import FlagFlow.Proofs.Paths
import FlagFlow.Proofs.Visits
import Mathlib.Data.List.Forall2

/-!
# The dataflow equations

A dataflow problem asks for flows such that every node turns the flow before it into the flows after
it, and the flow before a node is the merge of the flows that arrive there. A run that ends with an
empty worklist has found such flows, whatever the problem: no law is asked of the flow of a node or
of the merge.

* `Problem.inflow`: the flows that arrive at a node, merged from left to right.
* `Problem.Solves`: the equations hold at every node.
* `Problem.Congruence`: a relation between flows that comparing and merging respect.
* `Run.Settled`: the equations hold at every node outside of the worklist; `Run.Settled.step` shows
  that a visit keeps this.
* **`solves_of_converged`**: a complete solution solves the equations.
* `after_induction_within`: what every visit of certain nodes keeps, if a run visits only these.
* `FlowInvariant`, `FlowInvariantOn`: what holds of the flows at the start and is kept by nodes,
  edges and merges holds of all flows of a run.
-/

namespace FlagFlow

variable {N F : Type} [DecidableEq N]

namespace Problem

/-- Flows merged from left to right. Where no flow arrives the flow is the new one. -/
def mergeAll (p : Problem N F) : List F → F
  | [] => p.newFlow
  | x :: xs => xs.foldl p.merge x

/-- The flows that arrive at a node: along the edges that enter it, in their order, and at the entry
also from outside. -/
def arriving (p : Problem N F) (g : FlowGraph N) (f : N → Flows F) (n : N) : List F :=
  (g.entering n).map (fun e => (f e.1).out e.2) ++ if n = g.entry then [p.entryFlow] else []

/-- The flow that the flows at the other nodes give before a node. -/
def inflow (p : Problem N F) (g : FlowGraph N) (f : N → Flows F) (n : N) : F :=
  p.mergeAll (p.arriving g f n)

/-- The flow after a node along its edges of a kind, given the flow before. -/
def out (p : Problem N F) (x : F) (n : N) : EdgeKind → F
  | .fall => (p.flow x n).1
  | .branch => (p.flow x n).2

/-- The equations of a node, where flows before it are compared by `R`. -/
structure HoldsAt (p : Problem N F) (R : F → F → Prop) (g : FlowGraph N) (f : N → Flows F) (n : N) :
    Prop where
  before : R (f n).before (p.inflow g f n)
  after : ((f n).fall, (f n).branch) = p.flow (f n).before n

/-- **The dataflow equations**: they hold at every node. -/
def Solves (p : Problem N F) (g : FlowGraph N) (f : N → Flows F) : Prop :=
  ∀ n ∈ g.nodes, p.HoldsAt Eq g f n

/-- An equivalence of flows that comparing and merging respect. -/
structure Congruence (p : Problem N F) (R : F → F → Prop) : Prop where
  equiv : Equivalence R
  same : ∀ {a b}, p.same a b = true → R a b
  merge : ∀ {a a' b b'}, R a a' → R b b' → R (p.merge a b) (p.merge a' b')

theorem HoldsAt.out_eq {p : Problem N F} {R : F → F → Prop} {g : FlowGraph N} {f : N → Flows F}
    {n : N} (h : p.HoldsAt R g f n) (k : EdgeKind) : (f n).out k = p.out (f n).before n k := by
  cases k with
  | fall => exact congrArg Prod.fst h.after
  | branch => exact congrArg Prod.snd h.after

omit [DecidableEq N] in
theorem Congruence.of_same_iff {p : Problem N F} (h : ∀ a b, p.same a b = true ↔ a = b) :
    p.Congruence Eq where
  equiv := eq_equivalence
  same hab := (h _ _).mp hab
  merge ha hb := by rw [ha, hb]

section Relations

variable {p : Problem N F} {g : FlowGraph N} {R : F → F → Prop}

omit [DecidableEq N] in
theorem mergeAll_rel (hnew : R p.newFlow p.newFlow)
    (hmerge : ∀ {a a' b b'}, R a a' → R b b' → R (p.merge a b) (p.merge a' b')) {xs ys : List F}
    (h : List.Forall₂ R xs ys) : R (p.mergeAll xs) (p.mergeAll ys) := by
  have hfold : ∀ {xs ys : List F} {x y : F}, List.Forall₂ R xs ys → R x y →
      R (xs.foldl p.merge x) (ys.foldl p.merge y) := by
    intro xs ys x y hxs
    induction hxs generalizing x y with
    | nil => exact id
    | cons hab _ ih => exact fun hxy => ih (hmerge hxy hab)
  cases h with
  | nil => exact hnew
  | cons hab h => exact hfold h hab

/-- **Related flows give related inflows**, for an equivalence or an order. -/
theorem inflow_rel (hnew : R p.newFlow p.newFlow) (hentry : R p.entryFlow p.entryFlow)
    (hmerge : ∀ {a a' b b'}, R a a' → R b b' → R (p.merge a b) (p.merge a' b'))
    {f f' : N → Flows F} {n : N}
    (h : ∀ e ∈ g.entering n, R ((f e.1).out e.2) ((f' e.1).out e.2)) :
    R (p.inflow g f n) (p.inflow g f' n) := by
  refine mergeAll_rel hnew hmerge (List.rel_append ?_ ?_)
  · rw [List.forall₂_map_left_iff, List.forall₂_map_right_iff, List.forall₂_same]
    exact h
  · split
    · exact .cons hentry .nil
    · exact .nil

end Relations

end Problem

namespace Run

variable [Inhabited F] {g : FlowGraph N} {p : Problem N F} {r : Run N F}

/-! ## The invariant of a run -/

variable (g p) in
/-- Where no flow arrives, the flow before a node is still the new one. -/
def Idle (r : Run N F) : Prop :=
  ∀ n ∈ g.nodes, g.entering n = [] → n ≠ g.entry → (r.flowsAt n).before = p.newFlow

theorem visited_out (n : N) (k : EdgeKind) :
    (r.visited g p n).out k = p.out (r.flowBefore g p n) n k := by
  cases k <;> rfl

theorem Idle.flowBefore_eq (hr : r.Idle g p) {n : N} (hn : n ∈ g.nodes) :
    r.flowBefore g p n = p.inflow g r.flowsAt n := by
  unfold flowBefore Problem.inflow Problem.arriving
  cases he : g.entering n with
  | nil =>
    by_cases hentry : n = g.entry
    · simp [hentry, Problem.mergeAll]
    · simp [hentry, Problem.mergeAll, hr n hn he hentry]
  | cons e es =>
    by_cases hentry : n = g.entry <;>
      simp [hentry, Problem.mergeAll, List.foldl_map, along]

variable (g p) in
/-- **The invariant of a run**: the equations hold at every node outside of the worklist. -/
structure Settled (R : F → F → Prop) (r : Run N F) : Prop where
  tidy : r.Tidy
  idle : r.Idle g p
  holds : ∀ n ∈ g.nodes, n ∉ r.worklist → p.HoldsAt R g r.flowsAt n

theorem Idle.step (hr : r.Idle g p) : (r.step g p).Idle g p := by
  cases hw : r.worklist with
  | nil =>
    have : r.step g p = r := by simp [Run.step, hw]
    rwa [this]
  | cons m rest =>
    intro n hn he hentry
    rw [flowsAt_step hw]
    split
    · rename_i hnm
      subst hnm
      change r.flowBefore g p n = p.newFlow
      simp [flowBefore, he, hentry, hr n hn he hentry]
    · exact hr n hn he hentry

theorem out_step {R : F → F → Prop} (hR : p.Congruence R) (hr : r.Tidy) {n : N} {rest : List N}
    (hw : r.worklist = n :: rest) {m : N} (hm : m ∉ (r.step g p).worklist) {e : N × EdgeKind}
    (he : e ∈ g.entering m) :
    R ((r.flowsAt e.1).out e.2) (((r.step g p).flowsAt e.1).out e.2) := by
  rw [flowsAt_step hw]
  split
  · rename_i hen
    have hm' : m ∉ r.affected g p n := fun h => hm ((hr.mem_worklist_step hw).mpr (.inr h))
    have hk : m ∈ g.succsBy e.2 n := hen ▸ (FlowGraph.mem_entering.mp he).2.2
    have hsame : p.same ((r.visited g p n).out e.2) ((r.flowsAt n).out e.2) = true := by
      by_contra hne
      exact hm' (mem_affected.mpr ⟨e.2, by simp [changes, hne], hk⟩)
    rw [hen]
    exact hR.equiv.symm (hR.same hsame)
  · exact hR.equiv.refl _

/-- **A visit keeps the invariant.** -/
theorem Settled.step {R : F → F → Prop} (hR : p.Congruence R) (hr : r.Settled g p R) {n : N}
    {rest : List N} (hw : r.worklist = n :: rest) : (r.step g p).Settled g p R := by
  refine ⟨hr.tidy.step, hr.idle.step, ?_⟩
  intro m hm hmw
  -- `m` is not queued again, so what arrives there has changed only up to `R`
  have hin : R (p.inflow g r.flowsAt m) (p.inflow g (r.step g p).flowsAt m) :=
    Problem.inflow_rel (hR.equiv.refl _) (hR.equiv.refl _) hR.merge
      fun e he => out_step hR hr.tidy hw hmw he
  by_cases hmn : m = n
  · subst hmn
    refine ⟨?_, ?_⟩
    · rw [flowsAt_step hw, if_pos rfl]
      change R (r.flowBefore g p m) _
      rw [hr.idle.flowBefore_eq hm]
      exact hin
    · rw [flowsAt_step hw, if_pos rfl]
      rfl
  · have hold : p.HoldsAt R g r.flowsAt m := by
      refine hr.holds m hm fun h => ?_
      rw [hw, List.mem_cons] at h
      rcases h with h | h
      · exact hmn h
      · exact hmw ((hr.tidy.mem_worklist_step hw).mpr (.inl h))
    refine ⟨?_, ?_⟩
    · rw [flowsAt_step hw, if_neg hmn]
      exact hR.equiv.trans hold.before hin
    · rw [flowsAt_step hw, if_neg hmn]
      exact hold.after

end Run

variable [Inhabited F] {g : FlowGraph N} {p : Problem N F}

theorem initialRun_settled (R : F → F → Prop) : (initialRun g p).Settled g p R where
  tidy := initialRun_tidy
  idle n hn _ hentry := by rw [flowsAt_initialRun, if_neg hentry, if_pos hn]
  holds n hn hw := absurd (mem_worklist_initialRun.mpr (FlowGraph.mem_visitOrder.mpr hn)) hw

theorem after_settled {R : F → F → Prop} (hR : p.Congruence R) (k : Nat) :
    (Run.after g p k (initialRun g p)).Settled g p R :=
  Run.after_induction (fun r => r.Settled g p R) (fun _ _ _ hw hr => hr.step hR hw) k
    (initialRun_settled R)

/-! ## Solutions -/

theorem solve?_eq_some_iff {budget : Nat} {s : Solution N F} :
    solve? g p budget = some s ↔ g.entry ∈ g.nodes ∧
      s = { entry := g.entry, order := g.visitOrder, unreachable := g.unreachable,
            visits := if (Run.after g p budget (initialRun g p)).worklist.isEmpty then
              (Run.after g p budget (initialRun g p)).visits else budget + 1,
            converged := (Run.after g p budget (initialRun g p)).worklist.isEmpty,
            flows := (Run.after g p budget (initialRun g p)).flows } := by
  unfold solve? FlowGraph.hasEntry
  by_cases h : g.entry ∈ g.nodes
  · simp only [h, decide_true, if_true, Option.some.injEq, true_and]
    exact eq_comm
  · simp [h]

theorem flowsAt_of_solve? {budget : Nat} {s : Solution N F} (hs : solve? g p budget = some s) :
    s.flowsAt = (Run.after g p budget (initialRun g p)).flowsAt := by
  obtain ⟨_, rfl⟩ := solve?_eq_some_iff.mp hs
  rfl

theorem worklist_of_converged {budget : Nat} {s : Solution N F} (hs : solve? g p budget = some s)
    (hc : s.converged = true) : (Run.after g p budget (initialRun g p)).worklist = [] := by
  obtain ⟨_, rfl⟩ := solve?_eq_some_iff.mp hs
  exact List.isEmpty_iff.mp hc

/-- The equations of a complete solution, up to a relation. -/
theorem holdsAt_of_converged {R : F → F → Prop} (hR : p.Congruence R) {budget : Nat}
    {s : Solution N F} (hs : solve? g p budget = some s) (hc : s.converged = true) {n : N}
    (hn : n ∈ g.nodes) : p.HoldsAt R g s.flowsAt n := by
  rw [flowsAt_of_solve? hs]
  refine (after_settled hR budget).holds n hn ?_
  rw [worklist_of_converged hs hc]
  exact List.not_mem_nil

/-- **A complete solution solves the dataflow equations** if flows are compared by equality. -/
theorem solves_of_converged (hsame : ∀ a b, p.same a b = true ↔ a = b) {budget : Nat}
    {s : Solution N F} (hs : solve? g p budget = some s) (hc : s.converged = true) :
    p.Solves g s.flowsAt :=
  fun _ hn => holdsAt_of_converged (.of_same_iff hsame) hs hc hn

/-- A loop back to the entry, a node that follows itself, and two edges between the same nodes. -/
def tangledGraph : FlowGraph Nat :=
  .ofEntries 0 [⟨0, [1], [1], none⟩, ⟨1, [2, 1], [0], none⟩, ⟨2, [], [], none⟩]

/-- Counts up to a bound along fall-through edges and forgets all but the parity along branches. -/
def cappedCount : Problem Nat Nat where
  entryFlow := 3
  newFlow := 0
  flow x n := (min (x + n) 9, x % 2)
  merge x y := if x < y then y else x
  same x y := x == y

theorem solves_of_converged_tangledGraph :
    ∃ s, solve? tangledGraph cappedCount 40 = some s ∧ s.converged = true ∧
      cappedCount.Solves tangledGraph s.flowsAt := by
  have h : (solve? tangledGraph cappedCount 40).map (·.converged) = some true := by decide
  obtain ⟨s, hs, hc⟩ := Option.map_eq_some_iff.mp h
  exact ⟨s, hs, hc, solves_of_converged (fun a b => by simp [cappedCount]) hs hc⟩

/-! ## Properties of all flows -/

/-- **Induction over the visits** of a run that stays in `W`. -/
theorem after_induction_within {W : N → Prop} (hnodes : ∀ n ∈ g.nodes, W n)
    (hsuccs : ∀ {n k m}, W n → m ∈ g.succsBy k n → W m) (P : Run N F → Prop)
    (hstart : P (initialRun g p))
    (hstep : ∀ r n rest, r.worklist = n :: rest → W n → P r → P (r.step g p)) (k : Nat) :
    P (Run.after g p k (initialRun g p)) := by
  refine (Run.after_induction (fun r => r.Tidy ∧ (∀ n ∈ r.worklist, W n) ∧ P r) ?_ k
    ⟨initialRun_tidy, fun n hn => ?_, hstart⟩).2.2
  · intro r n rest hw ⟨htidy, hW, hP⟩
    have hn : W n := hW n (by rw [hw]; exact List.mem_cons_self)
    refine ⟨htidy.step, fun m hm => ?_, hstep r n rest hw hn hP⟩
    rcases (htidy.mem_worklist_step hw).mp hm with hm | hm
    · exact hW m (by rw [hw]; exact List.mem_cons_of_mem _ hm)
    · obtain ⟨i, -, hi⟩ := Run.mem_affected.mp hm
      exact hsuccs hn hi
  · exact hnodes n (FlowGraph.mem_visitOrder.mp (mem_worklist_initialRun.mp hn))

variable (g p) in
/-- Properties of the flows before nodes and along edges that hold at the start, that edges hand on,
and that merging keeps. The nodes that are visited are among those in `W`, and these hand them on as
well. -/
structure FlowInvariantOn (W : N → Prop) (I : N → F → Prop) (O : N → EdgeKind → F → Prop) :
    Prop where
  nodes : ∀ n ∈ g.nodes, W n
  succs : ∀ {n k m}, W n → m ∈ g.succsBy k n → W m
  start : ∀ n, I n ((initialRun g p).flowsAt n).before
  startOut : ∀ n k, O n k (((initialRun g p).flowsAt n).out k)
  entry : I g.entry p.entryFlow
  edge : ∀ {n e x}, e ∈ g.entering n → O e.1 e.2 x → I n x
  merge : ∀ {n x y}, I n x → I n y → I n (p.merge x y)
  node : ∀ {n x}, W n → I n x → ∀ k, O n k (p.out x n k)

namespace FlowInvariantOn

variable {W : N → Prop} {I : N → F → Prop} {O : N → EdgeKind → F → Prop} {r : Run N F}

theorem flowBefore (h : FlowInvariantOn g p W I O) (hI : ∀ n, I n (r.flowsAt n).before)
    (hO : ∀ n k, O n k ((r.flowsAt n).out k)) (n : N) : I n (r.flowBefore g p n) := by
  have hfold : ∀ (es : List (N × EdgeKind)) (x : F), (∀ e ∈ es, e ∈ g.entering n) → I n x →
      I n (es.foldl (fun flow e => p.merge flow (r.along e)) x) := by
    intro es
    induction es with
    | nil => exact fun x _ hx => hx
    | cons e es ih =>
      intro x hes hx
      refine ih _ (fun e' he' => hes e' (List.mem_cons_of_mem _ he')) ?_
      exact h.merge hx (h.edge (hes e List.mem_cons_self) (hO e.1 e.2))
  unfold Run.flowBefore
  split
  · split
    · rename_i hn
      exact hn ▸ h.entry
    · exact hI n
  · rename_i e es he
    have hflow := hfold es (r.along e) (fun e' he' => by rw [he]; exact List.mem_cons_of_mem _ he')
      (h.edge (by rw [he]; exact List.mem_cons_self) (hO e.1 e.2))
    split
    · rename_i hn
      exact h.merge hflow (hn ▸ h.entry)
    · exact hflow

/-- **All flows of a run have the properties.** -/
theorem after (h : FlowInvariantOn g p W I O) (k : Nat) :
    (∀ n, I n ((Run.after g p k (initialRun g p)).flowsAt n).before) ∧
      ∀ n i, O n i (((Run.after g p k (initialRun g p)).flowsAt n).out i) := by
  refine after_induction_within h.nodes h.succs
    (fun r => (∀ n, I n (r.flowsAt n).before) ∧ ∀ n i, O n i ((r.flowsAt n).out i))
    ⟨h.start, h.startOut⟩ ?_ k
  intro r m rest hw hm ⟨hI, hO⟩
  have hin := h.flowBefore hI hO m
  refine ⟨fun n => ?_, fun n i => ?_⟩
  · rw [Run.flowsAt_step hw]
    split
    · rename_i hnm
      exact hnm ▸ hin
    · exact hI n
  · rw [Run.flowsAt_step hw]
    split
    · rename_i hnm
      rw [hnm, Run.visited_out]
      exact h.node hm hin i
    · exact hO n i

end FlowInvariantOn

variable (g p) in
/-- Properties of the flows before nodes and along edges that hold at the start, that nodes and
edges hand on, and that merging keeps. -/
structure FlowInvariant (I : N → F → Prop) (O : N → EdgeKind → F → Prop) : Prop where
  start : ∀ n, I n ((initialRun g p).flowsAt n).before
  startOut : ∀ n k, O n k (((initialRun g p).flowsAt n).out k)
  entry : I g.entry p.entryFlow
  edge : ∀ {n e x}, e ∈ g.entering n → O e.1 e.2 x → I n x
  merge : ∀ {n x y}, I n x → I n y → I n (p.merge x y)
  node : ∀ {n x}, I n x → ∀ k, O n k (p.out x n k)

theorem FlowInvariant.after {I : N → F → Prop} {O : N → EdgeKind → F → Prop}
    (h : FlowInvariant g p I O) (k : Nat) :
    (∀ n, I n ((Run.after g p k (initialRun g p)).flowsAt n).before) ∧
      ∀ n i, O n i (((Run.after g p k (initialRun g p)).flowsAt n).out i) :=
  FlowInvariantOn.after
    { nodes := fun _ _ => trivial
      succs := fun _ _ => trivial
      start := h.start
      startOut := h.startOut
      entry := h.entry
      edge := h.edge
      merge := h.merge
      node := fun _ => h.node : FlowInvariantOn g p (fun _ => True) I O } k

end FlagFlow
