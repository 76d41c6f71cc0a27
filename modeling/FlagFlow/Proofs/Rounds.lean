import FlagFlow.Proofs.Least
import Mathlib.Order.ConditionallyCompleteLattice.Basic
import Mathlib.Order.Nat

/-!
# Visits in rounds

The worklist is first in, first out, so a run proceeds in rounds: the nodes that are queued during a
round are visited in the next one. Without cycles a node is queued in a round only by a node that is
less deep, where the depth of a node is the length of the longest path to it. So in the round with
number `i`, counted from zero, only nodes of depth `i` or more are visited, each at most once, and a
node of depth `d` is visited at most `d + 1` times. This holds for every problem, whether or not its
flows are ordered.

* `FlowGraph.depth`: the length of the longest path to a node; `FlowGraph.visitBound` adds them up.
* `FlowGraph.Acyclic.pathsWithin`: without cycles paths are not longer than there are nodes.
* `Run.InRound`: the worklist within a round; `Run.due`: the visits that may still come.
* `Run.Paced.step`: the visits made and those that may still come do not get more.
* `EndsWith`: how a run without a budget ends.
* **`exists_endsWith_of_acyclic`**: without cycles every run ends, within the bound.
-/

namespace FlagFlow

namespace FlowGraph

variable {N : Type} {g : FlowGraph N} {a n p : N} {es : List (N × EdgeKind)} {L : Nat}

/-! ## The length of paths -/

/-- No path has more than `L` edges. -/
def PathsWithin (g : FlowGraph N) (L : Nat) : Prop := ∀ a es n, g.Path a es n → es.length ≤ L

/-- The number of edges of the longest path to a node. -/
noncomputable def depth (g : FlowGraph N) (n : N) : Nat :=
  sSup {l | ∃ a es, g.Path a es n ∧ es.length = l}

/-- One visit more than its depth for every node. -/
noncomputable def visitBound (g : FlowGraph N) : Nat := (g.nodes.map fun n => g.depth n + 1).sum

theorem Path.mem_nodes (h : g.Path a es n) : ∀ q ∈ es.map Prod.fst, q ∈ g.nodes := by
  induction h with
  | nil => simp
  | snoc _ hp _ ih =>
    intro q hq
    rw [List.map_append, List.mem_append, List.map_singleton, List.mem_singleton] at hq
    rcases hq with hq | rfl
    · exact ih q hq
    · exact hp

theorem Path.exists_of_mem (h : g.Path a es n) :
    ∀ q ∈ es.map Prod.fst, ∃ fs, fs ≠ [] ∧ g.Path q fs n := by
  induction h with
  | nil => simp
  | @snoc es p n k _ hp hn ih =>
    intro q hq
    rw [List.map_append, List.mem_append, List.map_singleton, List.mem_singleton] at hq
    rcases hq with hq | rfl
    · obtain ⟨fs, -, hfs⟩ := ih q hq
      exact ⟨fs ++ [(p, k)], by simp, .snoc hfs hp hn⟩
    · exact ⟨[(q, k)], by simp, .edge hp hn⟩

theorem Acyclic.nodup_of_path (hg : g.Acyclic) (h : g.Path a es n) : (es.map Prod.fst).Nodup := by
  induction h with
  | nil => simp
  | @snoc es p n k hes _ _ ih =>
    rw [List.map_append, List.map_singleton, List.nodup_append]
    refine ⟨ih, List.nodup_singleton _, fun q hq q' hq' hqq => ?_⟩
    rw [List.mem_singleton] at hq'
    subst hqq hq'
    obtain ⟨fs, hne, hfs⟩ := hes.exists_of_mem q hq
    exact hne (hg q fs hfs)

/-- **Without cycles paths are short**: no node is left twice. -/
theorem Acyclic.pathsWithin (hg : g.Acyclic) : g.PathsWithin g.nodes.length := by
  intro a es n h
  have hle := (List.subperm_of_subset (hg.nodup_of_path h) h.mem_nodes).length_le
  rwa [List.length_map] at hle

namespace PathsWithin

theorem bddAbove (hL : g.PathsWithin L) (n : N) :
    BddAbove {l | ∃ a es, g.Path a es n ∧ es.length = l} := by
  refine ⟨L, ?_⟩
  rintro _ ⟨a, es, h, rfl⟩
  exact hL a es n h

theorem length_le_depth (hL : g.PathsWithin L) (h : g.Path a es n) : es.length ≤ g.depth n :=
  le_csSup (hL.bddAbove n) ⟨a, es, h, rfl⟩

theorem exists_path (hL : g.PathsWithin L) (n : N) :
    ∃ a es, g.Path a es n ∧ es.length = g.depth n := by
  have hne : {l | ∃ a es, g.Path a es n ∧ es.length = l}.Nonempty := ⟨0, n, [], .nil, rfl⟩
  exact Nat.sSup_mem hne (hL.bddAbove n)

theorem depth_le (hL : g.PathsWithin L) (n : N) : g.depth n ≤ L := by
  obtain ⟨a, es, h, hlen⟩ := hL.exists_path n
  exact hlen ▸ hL a es n h

theorem depth_lt (hL : g.PathsWithin L) (hp : p ∈ g.nodes) (hn : n ∈ g.succs p) :
    g.depth p < g.depth n := by
  obtain ⟨k, hk⟩ := mem_succs_iff.mp hn
  obtain ⟨a, es, h, hlen⟩ := hL.exists_path p
  have hle := hL.length_le_depth (.snoc h hp hk)
  rw [List.length_append, List.length_singleton] at hle
  omega

theorem visitBound_le (hL : g.PathsWithin L) : g.visitBound ≤ g.nodes.length * (L + 1) := by
  have hle : g.visitBound ≤ (g.nodes.map fun _ => L + 1).sum :=
    List.sum_le_sum fun n _ => Nat.add_le_add_right (hL.depth_le n) 1
  rwa [List.map_const', List.sum_replicate, smul_eq_mul] at hle

end PathsWithin

end FlowGraph

variable {N F : Type} [DecidableEq N] {g : FlowGraph N} {p : Problem N F} {rank : N → Nat}

/-! ## Rounds -/

namespace Run

variable {r : Run N F} {i : Nat} {n : N} {now next rest : List N}

theorem exists_worklist_enqueueAll (r : Run N F) (ns : List N) :
    ∃ fresh, (r.enqueueAll ns).worklist = r.worklist ++ fresh ∧ ∀ m ∈ fresh, m ∈ ns := by
  induction ns generalizing r with
  | nil => exact ⟨[], (List.append_nil _).symm, by simp⟩
  | cons n ns ih =>
    obtain ⟨fresh, heq, hfresh⟩ := ih (r.enqueue n)
    rw [enqueueAll_cons, heq]
    unfold enqueue
    split
    · exact ⟨fresh, rfl, fun m hm => List.mem_cons_of_mem _ (hfresh m hm)⟩
    · refine ⟨n :: fresh, by simp, fun m hm => ?_⟩
      rcases List.mem_cons.mp hm with rfl | hm
      · exact List.mem_cons_self
      · exact List.mem_cons_of_mem _ (hfresh m hm)

variable (g rank) in
/-- The worklist during the round with number `i`: the nodes that are left in this round, and behind
them those that it has queued for the next one. -/
structure InRound (r : Run N F) (i : Nat) (now next : List N) : Prop where
  tidy : r.Tidy
  worklist : r.worklist = now ++ next
  now_rank : ∀ n ∈ now, n ∈ g.nodes ∧ i ≤ rank n
  next_rank : ∀ n ∈ next, n ∈ g.nodes ∧ i < rank n

variable (g rank) in
/-- The visits that may still come in the round with number `i` and the later ones. -/
def due (i : Nat) (now : List N) : Nat :=
  (g.nodes.map fun n => if n ∈ now then rank n + 1 - i else rank n - i).sum

variable (g rank) in
/-- In some round, the visits made and those that may still come are not too many. -/
def Paced (r : Run N F) : Prop :=
  ∃ i now next, r.InRound g rank i now next ∧
    r.visits + due g rank i now ≤ (g.nodes.map fun n => rank n + 1).sum

omit [DecidableEq N] in
theorem InRound.turn (h : r.InRound g rank i [] next) : r.InRound g rank (i + 1) next [] where
  tidy := h.tidy
  worklist := by rw [h.worklist, List.nil_append, List.append_nil]
  now_rank := h.next_rank
  next_rank := by simp

theorem due_turn_le (g : FlowGraph N) (rank : N → Nat) (i : Nat) (next : List N) :
    due g rank (i + 1) next ≤ due g rank i [] := by
  refine List.sum_le_sum fun n _ => ?_
  rw [if_neg List.not_mem_nil]
  split <;> omega

theorem InRound.due_lt (h : r.InRound g rank i (n :: now) next) :
    due g rank i now + 1 ≤ due g rank i (n :: now) := by
  obtain ⟨hn, hi⟩ := h.now_rank n List.mem_cons_self
  have hnodup := h.tidy.nodup
  rw [h.worklist, List.cons_append, List.nodup_cons] at hnodup
  have hnow : n ∉ now := fun hm => hnodup.1 (List.mem_append_left _ hm)
  refine sum_map_add_le (fun m _ => ?_) hn ?_
  · by_cases hm : m ∈ now
    · rw [if_pos hm, if_pos (List.mem_cons_of_mem _ hm)]
    · rw [if_neg hm]
      split <;> omega
  · rw [if_neg hnow, if_pos List.mem_cons_self]
    omega

theorem Paced.exists_inRound (h : r.Paced g rank) (hw : r.worklist = n :: rest) :
    ∃ i now next, r.InRound g rank i (n :: now) next ∧
      r.visits + due g rank i (n :: now) ≤ (g.nodes.map fun n => rank n + 1).sum := by
  obtain ⟨i, now, next, hround, hle⟩ := h
  have hlist := hround.worklist.symm.trans hw
  cases now with
  | nil =>
    rw [List.nil_append] at hlist
    subst hlist
    have hturn := due_turn_le g rank i (n :: rest)
    exact ⟨i + 1, rest, [], hround.turn, by omega⟩
  | cons m now =>
    obtain rfl : m = n := (List.cons.inj hlist).1
    exact ⟨i, now, next, hround, hle⟩

theorem Paced.visits_lt (h : r.Paced g rank) (hw : r.worklist = n :: rest) :
    r.visits < (g.nodes.map fun n => rank n + 1).sum := by
  obtain ⟨i, now, next, hround, hle⟩ := h.exists_inRound hw
  have := hround.due_lt
  omega

variable [Inhabited F]

theorem InRound.step (hrank : ∀ n ∈ g.nodes, ∀ m ∈ g.succs n, m ∈ g.nodes ∧ rank n < rank m)
    (h : r.InRound g rank i (n :: now) next) :
    ∃ fresh, (r.step g p).InRound g rank i now (next ++ fresh) := by
  obtain ⟨hn, hi⟩ := h.now_rank n List.mem_cons_self
  have hw : r.worklist = n :: (now ++ next) := h.worklist
  obtain ⟨fresh, heq, hfresh⟩ :=
    exists_worklist_enqueueAll (r.settle g p n (now ++ next)) (r.affected g p n)
  refine ⟨fresh, h.tidy.step, ?_, fun m hm => h.now_rank m (List.mem_cons_of_mem _ hm), ?_⟩
  · rw [step_eq hw, heq, ← List.append_assoc]
    rfl
  · intro m hm
    rcases List.mem_append.mp hm with hm | hm
    · exact h.next_rank m hm
    · -- a queued node is a successor of the visited one, so its rank is larger
      obtain ⟨k, -, hk⟩ := mem_affected.mp (hfresh m hm)
      obtain ⟨hmem, hlt⟩ := hrank n hn m (FlowGraph.mem_succs_iff.mpr ⟨k, hk⟩)
      exact ⟨hmem, by omega⟩

/-- **A visit is paid for** by the visits that may still come. -/
theorem Paced.step (hrank : ∀ n ∈ g.nodes, ∀ m ∈ g.succs n, m ∈ g.nodes ∧ rank n < rank m)
    (h : r.Paced g rank) (hw : r.worklist = n :: rest) : (r.step g p).Paced g rank := by
  obtain ⟨i, now, next, hround, hle⟩ := h.exists_inRound hw
  obtain ⟨fresh, hstep⟩ := hround.step (p := p) hrank
  refine ⟨i, now, next ++ fresh, hstep, ?_⟩
  have := hround.due_lt
  rw [visits_step hw]
  omega

end Run

theorem initialRun_paced : (initialRun g p).Paced g rank := by
  refine ⟨0, (initialRun g p).worklist, [],
    ⟨initialRun_tidy, (List.append_nil _).symm, ?_, by simp⟩, ?_⟩
  · intro n hn
    exact ⟨FlowGraph.mem_visitOrder.mp (mem_worklist_initialRun.mp hn), Nat.zero_le _⟩
  · rw [visits_initialRun, Nat.zero_add]
    refine List.sum_le_sum fun n _ => ?_
    split <;> omega

/-! ## The end of a run -/

variable [Inhabited F]

variable (g p) in
/-- A run without a budget ends with the solution: so does every run whose budget allows its
visits. -/
def EndsWith (s : Solution N F) : Prop :=
  s.converged = true ∧ ∀ budget, s.visits ≤ budget → solve? g p budget = some s

theorem exists_endsWith (hentry : g.entry ∈ g.nodes) {k : Nat}
    (hnil : (Run.after g p k (initialRun g p)).worklist = []) :
    ∃ s, EndsWith g p s ∧ s.visits = (Run.after g p k (initialRun g p)).visits := by
  obtain ⟨s, hs⟩ : ∃ s, solve? g p k = some s := ⟨_, solve?_eq_some_iff.mpr ⟨hentry, rfl⟩⟩
  have hs' := (solve?_eq_some_iff.mp hs).2
  have hc : s.converged = true := by rw [hs', hnil]; rfl
  have hvisits : s.visits = (Run.after g p k (initialRun g p)).visits := by rw [hs', hnil]; rfl
  refine ⟨s, ⟨hc, fun budget hbudget => ?_⟩, hvisits⟩
  have hrun : Run.after g p budget (initialRun g p) = Run.after g p k (initialRun g p) :=
    Run.after_eq_of_ended hnil (by rw [visits_initialRun, Nat.zero_add]) (hvisits ▸ hbudget)
  refine solve?_eq_some_iff.mpr ⟨hentry, ?_⟩
  rw [hs', hrun, hnil]
  rfl

/-- **Ranked graphs.** The run ends, and no node is visited more often than its rank and once. -/
theorem exists_endsWith_of_rank (hentry : g.entry ∈ g.nodes)
    (hrank : ∀ n ∈ g.nodes, ∀ m ∈ g.succs n, m ∈ g.nodes ∧ rank n < rank m) :
    ∃ s, EndsWith g p s ∧ s.visits ≤ (g.nodes.map fun n => rank n + 1).sum := by
  let bound := (g.nodes.map fun n => rank n + 1).sum
  have hpaced : (Run.after g p bound (initialRun g p)).Paced g rank :=
    Run.after_induction (fun r => r.Paced g rank) (fun r n rest hw h => h.step hrank hw) bound
      initialRun_paced
  have hnil : (Run.after g p bound (initialRun g p)).worklist = [] := by
    cases hw : (Run.after g p bound (initialRun g p)).worklist with
    | nil => rfl
    | cons n rest =>
      have hlt := hpaced.visits_lt hw
      have hvisits := Run.visits_after (g := g) (p := p) (r := initialRun g p) bound (by rw [hw]; simp)
      rw [visits_initialRun] at hvisits
      omega
  obtain ⟨s, hs, hvisits⟩ := exists_endsWith hentry hnil
  obtain ⟨i, now, next, -, hle⟩ := hpaced
  exact ⟨s, hs, by omega⟩

/-- **Without cycles every run ends**, and no node is visited more often than its depth and once. -/
theorem exists_endsWith_of_acyclic (hentry : g.entry ∈ g.nodes)
    (hsuccs : ∀ n ∈ g.nodes, ∀ m ∈ g.succs n, m ∈ g.nodes) (hg : g.Acyclic) (p : Problem N F) :
    ∃ s, EndsWith g p s ∧ s.visits ≤ g.visitBound :=
  exists_endsWith_of_rank hentry fun n hn m hm => ⟨hsuccs n hn m hm, hg.pathsWithin.depth_lt hn hm⟩

end FlagFlow
