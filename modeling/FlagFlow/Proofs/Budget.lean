import FlagFlow.Proofs.BreadthFirst
import FlagFlow.Proofs.Rounds
import FlagFlow.Proofs.Transfer
import Mathlib.Algebra.BigOperators.Intervals

/-!
# How many visits are enough

Without cycles an analysis ends, so it is complete if it is allowed enough visits. The default is a
fixed number of visits per node. This is enough as long as paths are short. It is not enough for all
graphs without cycles: a new fact may have to cross all nodes that come later, and one visit of a
node may bring a single new fact, so the visits can grow with the square of the number of nodes.

* `Body.Completes`: an analysis has a complete result.
* **`Body.analyze_complete_of_acyclic`**: without cycles the depths of the nodes tell a number of
  visits that is enough, and the default is enough for short paths.
* `Body.ladder`: nodes that are visited in the opposite of their order in the graph.
* `Body.LadderRound.step`: one visit in a ladder; `Body.LadderRound.worklist_ne_nil`: all of them.
* **`Body.ladder_exhausts_default_budget`**: a ladder for which the default is not enough.
-/

namespace FlagFlow

namespace Body

variable {N V : Type} [DecidableEq N] [DecidableEq V] {b : Body N V} {isFeature : String → Bool}
  {maxVisits : Int} {s : Solution N (Env V)}

/-- The analysis has a result, and the result is complete. -/
def Completes (b : Body N V) (isFeature : String → Bool) (maxVisits : Int) : Prop :=
  ∃ s, b.analyze isFeature maxVisits = .ok s ∧ b.shortfall? maxVisits s = none

theorem stumbles_eq_false (hsuccs : ∀ n ∈ b.nodes, ∀ m ∈ b.succs n, m ∈ b.nodes)
    (hcalls : ∀ n ∈ b.nodes, (b.stmt n).lacksArgument isFeature = false) (budget : Nat) :
    b.stumbles isFeature budget = false := by
  rw [stumbles, List.any_eq_false]
  intro e he
  have hmem : e.1 ∈ b.nodes := Run.forall_trace
    (fun n hn k m hm => hsuccs n hn m (FlowGraph.mem_succs_iff.mpr ⟨k, hm⟩)) initialRun_tidy
    (fun n hn => FlowGraph.mem_visitOrder.mp (mem_worklist_initialRun.mp hn)) budget e he
  rw [hcalls e.1 hmem]
  exact Bool.false_ne_true

theorem analyze_of_solve? (hsuccs : ∀ n ∈ b.nodes, ∀ m ∈ b.succs n, m ∈ b.nodes)
    (hcalls : ∀ n ∈ b.nodes, (b.stmt n).lacksArgument isFeature = false)
    (hs : solve? b.toFlowGraph (b.problem isFeature) (b.budget maxVisits) = some s) :
    b.analyze isFeature maxVisits = .ok s := by
  simp only [analyze, hs, stumbles_eq_false hsuccs hcalls, Bool.false_eq_true, if_false]

omit [DecidableEq N] [DecidableEq V] in
theorem budget_of_nonpos (b : Body N V) (h : maxVisits ≤ 0) :
    b.budget maxVisits = b.nodes.length * (FlagValue.all.length * visitsPerValue) := by
  rw [budget, if_neg (by omega), defaultBudget, Nat.mul_assoc]

/-- **Without cycles enough visits make an analysis complete**: for every node one more than its
depth. -/
theorem analyze_complete_of_acyclic (hentry : b.entry ∈ b.nodes)
    (hsuccs : ∀ n ∈ b.nodes, ∀ m ∈ b.succs n, m ∈ b.nodes) (hg : b.Acyclic)
    (hcalls : ∀ n ∈ b.nodes, (b.stmt n).lacksArgument isFeature = false) :
    (∀ maxVisits, b.visitBound ≤ b.budget maxVisits → b.Completes isFeature maxVisits) ∧
      ∀ L, b.PathsWithin L → L < FlagValue.all.length * visitsPerValue →
        ∀ maxVisits ≤ 0, b.Completes isFeature maxVisits := by
  have henough : ∀ maxVisits, b.visitBound ≤ b.budget maxVisits → b.Completes isFeature maxVisits := by
    intro maxVisits hbudget
    obtain ⟨s, ⟨hc, hs⟩, hvisits⟩ := exists_endsWith_of_acyclic hentry hsuccs hg (b.problem isFeature)
    refine ⟨s, analyze_of_solve? hsuccs hcalls (hs _ (hvisits.trans hbudget)), ?_⟩
    rw [shortfall?, if_pos hc]
  refine ⟨henough, fun L hL hlt maxVisits hmax => henough maxVisits ?_⟩
  calc b.visitBound ≤ b.nodes.length * (L + 1) := hL.visitBound_le
    _ ≤ b.nodes.length * (FlagValue.all.length * visitsPerValue) := Nat.mul_le_mul_left _ hlt
    _ = b.budget maxVisits := (b.budget_of_nonpos hmax).symm

theorem has_flowBefore {r : Run N (Env V)} {n : N} (hne : b.entering n ≠ []) (v : V) :
    (r.flowBefore b.toFlowGraph (b.problem isFeature) n).Has v ↔
      ∃ e ∈ b.entering n, (r.along e).Has v := by
  unfold Run.flowBefore
  cases hes : b.entering n with
  | nil => exact absurd hes hne
  | cons e es =>
    have hfold : (es.foldl (fun flow e => Env.merge flow (r.along e)) (r.along e)).Has v ↔
        ∃ e' ∈ e :: es, (r.along e').Has v := by
      rw [← List.foldl_map, Env.has_foldl_merge, List.exists_mem_cons_iff]
      simp
    rw [← hfold]
    simp only [problem]
    split
    · rw [Env.has_merge]
      simp [Env.Has, Env.atEntry]
    · rfl

/-! ## Ladders -/

/-- A ladder. The entry leads to the nodes `1` to `k`, and each of them but the first leads to the
one before. Each defines a variable of its own. -/
def ladder (k : Nat) : Body Nat Nat where
  entry := 0
  nodes := List.range (k + 1)
  preds
    | 0 => []
    | i + 1 => if i + 1 < k then [0, i + 2] else [0]
  fall
    | 0 => List.range' 1 k
    | 1 => []
    | i + 2 => [i + 1]
  branch _ := []
  stmt
    | 0 => .skip
    | i + 1 => { definition := some ⟨some (i + 1), .const 1, true⟩ }

variable {k i l w j m n : Nat}

theorem mem_succs_ladder :
    n ∈ (ladder k).succs m ↔ (m = 0 ∧ 1 ≤ n ∧ n ≤ k) ∨ (1 ≤ n ∧ m = n + 1) := by
  rw [FlowGraph.succs, show (ladder k).branch m = [] from rfl, List.append_nil]
  rcases m with _ | _ | i
  · rw [show (ladder k).fall 0 = List.range' 1 k from rfl, List.mem_range'_1]
    omega
  · rw [show (ladder k).fall (0 + 1) = [] from rfl]
    simp only [List.not_mem_nil, false_iff]
    omega
  · rw [show (ladder k).fall (i + 1 + 1) = [i + 1] from rfl, List.mem_singleton]
    omega

theorem mem_nodes_ladder : n ∈ (ladder k).nodes ↔ n ≤ k := by
  rw [show (ladder k).nodes = List.range (k + 1) from rfl, List.mem_range]
  omega

theorem length_nodes_ladder (k : Nat) : (ladder k).nodes.length = k + 1 := List.length_range

theorem succs_ladder (hm : m ∈ (ladder k).nodes) (hn : n ∈ (ladder k).succs m) :
    n ∈ (ladder k).nodes := by
  rw [mem_nodes_ladder] at *
  rw [mem_succs_ladder] at hn
  omega

theorem predsAgree_ladder (k : Nat) : (ladder k).PredsAgree := by
  intro n hn p
  rw [mem_nodes_ladder] at *
  rw [mem_succs_ladder]
  cases n with
  | zero =>
    rw [show (ladder k).preds 0 = [] from rfl]
    simp only [List.not_mem_nil, false_iff]
    omega
  | succ i =>
    rw [show (ladder k).preds (i + 1) = if i + 1 < k then [0, i + 2] else [0] from rfl]
    split
    · rw [List.mem_cons, List.mem_singleton]
      omega
    · rw [List.mem_singleton]
      omega

theorem acyclic_ladder (k : Nat) : (ladder k).Acyclic := by
  refine FlowGraph.acyclic_of_rank (fun i => if i = 0 then 0 else k + 1 - i) fun m hm n hn => ?_
  rw [mem_nodes_ladder] at hm
  rw [mem_succs_ladder] at hn
  split <;> split <;> omega

theorem lacksArgument_ladder (k n : Nat) (isFeature : String → Bool) :
    ((ladder k).stmt n).lacksArgument isFeature = false := by
  cases n <;> rfl

/-- A ladder of 101 nodes, and one of 225, which needs more than the default. -/
theorem analyze_complete_of_acyclic_ladder :
    ((ladder 100).Acyclic ∧ (ladder 100).Completes (· == defaultCallee) 0) ∧
      (ladder 224).Acyclic ∧ (ladder 224).Completes (· == defaultCallee) 50850 := by
  have hcomplete := fun k => analyze_complete_of_acyclic (mem_nodes_ladder.mpr (Nat.zero_le _))
    (fun m hm n hn => succs_ladder hm hn) (acyclic_ladder k)
    fun n _ => lacksArgument_ladder k n (· == defaultCallee)
  refine ⟨⟨acyclic_ladder 100, ?_⟩, acyclic_ladder 224, ?_⟩
  · exact (hcomplete 100).2 _ (acyclic_ladder 100).pathsWithin (by decide) 0 (Int.le_refl 0)
  · have hbound := (acyclic_ladder 224).pathsWithin.visitBound_le
    rw [length_nodes_ladder] at hbound
    exact (hcomplete 224).1 50850 hbound

theorem nodup_firstVisits_ladder (k : Nat) : (0 :: List.range' 1 k).Nodup :=
  List.nodup_cons.mpr
    ⟨fun h => Nat.not_succ_le_zero 0 (List.mem_range'_1.mp h).1, List.nodup_range'⟩

theorem visitOrder_ladder (k : Nat) : (ladder k).visitOrder = 0 :: List.range' 1 k := by
  have hsuccs : (ladder k).succs (ladder k).entry = List.range' 1 k := List.append_nil _
  have horder := (ladder k).visitOrder_of_succs_entry (mem_nodes_ladder.mpr (Nat.zero_le _))
  rw [hsuccs] at horder
  refine horder (nodup_firstVisits_ladder k) fun n => ?_
  rw [mem_nodes_ladder, List.mem_cons, List.mem_range'_1, show (ladder k).entry = 0 from rfl]
  omega

/-! ## The visits of a ladder -/

theorem entering_ladder (hn : 1 ≤ n) (hk : n ≤ k) (e : Nat × EdgeKind) :
    e ∈ (ladder k).entering n ↔ e = (0, .fall) ∨ (n + 1 ≤ k ∧ e = (n + 1, .fall)) := by
  obtain ⟨m, kind⟩ := e
  rw [(predsAgree_ladder k).mem_entering (mem_nodes_ladder.mpr hk), mem_nodes_ladder]
  cases kind with
  | branch => simp [FlowGraph.succsBy, ladder]
  | fall =>
    have hfall : n ∈ (ladder k).succsBy .fall m ↔ n ∈ (ladder k).succs m := by
      rw [FlowGraph.succs, show (ladder k).branch m = [] from rfl, List.append_nil]
      rfl
    rw [hfall, mem_succs_ladder]
    simp only [Prod.mk.injEq, and_true]
    omega

theorem definesAs_ladder (hn : 1 ≤ n) : ((ladder k).stmt n).DefinesAs true l ↔ l = n := by
  obtain ⟨i, rfl⟩ : ∃ i, n = i + 1 := ⟨n - 1, by omega⟩
  constructor
  · rintro ⟨d, hd, htarget, -⟩
    obtain rfl := Option.some.inj hd
    exact (Option.some.inj htarget).symm
  · rintro rfl
    exact ⟨_, rfl, rfl, rfl⟩

theorem has_visited_ladder (r : Run Nat (Env Nat)) (hn : 1 ≤ n) (hk : n ≤ k) (l : Nat) :
    (r.visited (ladder k).toFlowGraph ((ladder k).problem isFeature) n).fall.Has l ↔
      (r.flowsAt 0).fall.Has l ∨ (n + 1 ≤ k ∧ (r.flowsAt (n + 1)).fall.Has l) ∨ l = n := by
  have hentering := entering_ladder hn hk
  have hne : (ladder k).entering n ≠ [] := List.ne_nil_of_mem ((hentering _).mpr (.inl rfl))
  have hflag : ((ladder k).stmt n).flagged? isFeature = none := by cases n <;> rfl
  have hbefore : (r.flowBefore (ladder k).toFlowGraph ((ladder k).problem isFeature) n).Has l ↔
      (r.flowsAt 0).fall.Has l ∨ (n + 1 ≤ k ∧ (r.flowsAt (n + 1)).fall.Has l) := by
    rw [has_flowBefore hne]
    constructor
    · rintro ⟨e, he, hl⟩
      rcases (hentering e).mp he with rfl | ⟨hlt, rfl⟩
      · exact .inl hl
      · exact .inr ⟨hlt, hl⟩
    · rintro (hl | ⟨hlt, hl⟩)
      · exact ⟨_, (hentering _).mpr (.inl rfl), hl⟩
      · exact ⟨_, (hentering _).mpr (.inr ⟨hlt, rfl⟩), hl⟩
  change (((ladder k).stmt n).transfer isFeature _).1.Has l ↔ _
  rw [Stmt.has_transfer_fst, hbefore, hflag, definesAs_ladder hn]
  simp [or_assoc]

/-- A ladder in the round of width `w`, after `j` visits of it. The nodes `1` to `w` are visited in
this round, and those that have been visited queue the nodes before them. In each round the facts
come one node closer to the end of the ladder. -/
structure LadderRound (k w j : Nat) (r : Run Nat (Env Nat)) : Prop where
  tidy : r.Tidy
  bounds : j ≤ w ∧ w ≤ k
  worklist : r.worklist = List.range' (j + 1) (w - j) ++ List.range' 1 (j - 1)
  entry : ∀ l, ¬ (r.flowsAt 0).fall.Has l
  facts : ∀ i, 1 ≤ i → i ≤ k → ∀ l, (r.flowsAt i).fall.Has l ↔
    i ≤ l ∧ l ≤ k ∧ l < i + (if i ≤ j then k - w + 1 else k - w)

namespace LadderRound

variable {r : Run Nat (Env Nat)}

theorem turn (h : LadderRound k (w + 1) (w + 1) r) : LadderRound k w 0 r where
  tidy := h.tidy
  bounds := ⟨Nat.zero_le _, by have := h.bounds; omega⟩
  worklist := by simp [h.worklist]
  entry := h.entry
  facts i hi hk l := by
    have := h.bounds
    rw [h.facts i hi hk l]
    split <;> split <;> omega

theorem worklist_cons (h : LadderRound k w j r) (hj : j < w) :
    r.worklist = (j + 1) :: (List.range' (j + 2) (w - (j + 1)) ++ List.range' 1 (j - 1)) := by
  obtain ⟨d, hd⟩ : ∃ d, w - j = d + 1 := ⟨w - j - 1, by omega⟩
  rw [h.worklist, hd, List.range'_succ, show w - (j + 1) = d by omega]
  rfl

theorem has_visited (h : LadderRound k w j r) (hj : j < w) (l : Nat) :
    (r.visited (ladder k).toFlowGraph ((ladder k).problem isFeature) (j + 1)).fall.Has l ↔
      j + 1 ≤ l ∧ l ≤ k ∧ l < j + 1 + (k - w + 1) := by
  have hbounds := h.bounds
  rw [has_visited_ladder r (by omega) (by omega)]
  have habove : j + 1 + 1 ≤ k → ((r.flowsAt (j + 1 + 1)).fall.Has l ↔
      j + 2 ≤ l ∧ l ≤ k ∧ l < j + 2 + (k - w)) := by
    intro hk
    rw [h.facts (j + 1 + 1) (by omega) hk l, if_neg (by omega)]
  have hentry := h.entry l
  by_cases hk : j + 1 + 1 ≤ k
  · rw [habove hk]
    simp only [hentry, hk, false_or, true_and]
    omega
  · simp only [hentry, hk, false_or, false_and]
    omega

theorem changes (h : LadderRound k w j r) (hj : j < w) :
    r.changes (ladder k).toFlowGraph ((ladder k).problem isFeature) (j + 1) .fall = true := by
  have hbounds := h.bounds
  rw [Run.changes, Bool.not_eq_true', Bool.eq_false_iff]
  intro hsame
  -- the fact that was one node too far away before
  have hiff := (Env.same_iff.mp hsame).has_iff (j + 1 + (k - w))
  simp only [Flows.out] at hiff
  rw [h.has_visited hj, h.facts (j + 1) (by omega) (by omega), if_neg (by omega)] at hiff
  omega

theorem affected (h : LadderRound k w j r) (hj : j < w) :
    r.affected (ladder k).toFlowGraph ((ladder k).problem isFeature) (j + 1) =
      (ladder k).fall (j + 1) := by
  rw [Run.affected, if_pos (h.changes hj), show (ladder k).branch (j + 1) = [] from rfl, ite_self,
    List.append_nil]

theorem worklist_step (h : LadderRound k w j r) (hj : j < w) :
    (r.step (ladder k).toFlowGraph ((ladder k).problem isFeature)).worklist =
      List.range' (j + 2) (w - (j + 1)) ++ List.range' 1 j := by
  have hw := h.worklist_cons hj
  rw [Run.step_eq hw, h.affected hj]
  cases j with
  | zero => rfl
  | succ j =>
    have hlast : List.range' 1 (j + 1) = List.range' 1 j ++ [j + 1] := by
      rw [List.range'_concat, Nat.one_mul, Nat.add_comm]
    have hnodup : ((List.range' (j + 1 + 2) (w - (j + 1 + 1)) ++ List.range' 1 j) ++
        [j + 1]).Nodup := by
      rw [List.append_assoc, ← hlast, List.nodup_append]
      refine ⟨List.nodup_range', List.nodup_range', fun a ha c hc => ?_⟩
      rw [List.mem_range'_1] at ha hc
      omega
    rw [hlast, ← List.append_assoc]
    exact (h.tidy.settle hw).worklist_enqueueAll hnodup

/-- **A visit in a ladder** changes what follows the node, and the round goes on. -/
theorem step (h : LadderRound k w j r) (hj : j < w) :
    LadderRound k w (j + 1) (r.step (ladder k).toFlowGraph ((ladder k).problem isFeature)) where
  tidy := h.tidy.step
  bounds := ⟨hj, h.bounds.2⟩
  worklist := h.worklist_step hj
  entry l := by
    rw [Run.flowsAt_step (h.worklist_cons hj), if_neg (by omega)]
    exact h.entry l
  facts i hi hk l := by
    rw [Run.flowsAt_step (h.worklist_cons hj)]
    by_cases heq : i = j + 1
    · subst heq
      rw [if_pos rfl, if_pos (Nat.le_refl _)]
      exact h.has_visited hj l
    · rw [if_neg heq, h.facts i hi hk l]
      have hiff : i ≤ j ↔ i ≤ j + 1 := by omega
      simp only [hiff]

theorem exists_lt (h : LadderRound k w j r) (hm : m < w - j + ∑ i ∈ Finset.range w, i) :
    ∃ w' j', LadderRound k w' j' r ∧ j' < w' ∧ m < w' - j' + ∑ i ∈ Finset.range w', i := by
  have hbounds := h.bounds
  rcases Nat.lt_or_ge j w with hj | hj
  · exact ⟨w, j, h, hj, hm⟩
  · obtain rfl : j = w := by omega
    cases j with
    | zero => simp at hm
    | succ w =>
      rw [Finset.sum_range_succ] at hm
      refine ⟨w, 0, h.turn, Nat.pos_of_ne_zero ?_, by omega⟩
      rintro rfl
      simp at hm

/-- **The visits of a ladder** take a round for each node, each one visit shorter than the one
before. -/
theorem worklist_ne_nil (h : LadderRound k w j r) (hm : m < w - j + ∑ i ∈ Finset.range w, i) :
    (Run.after (ladder k).toFlowGraph ((ladder k).problem isFeature) m r).worklist ≠ [] := by
  induction m generalizing r w j with
  | zero =>
    obtain ⟨w, j, h, hj, -⟩ := h.exists_lt hm
    rw [Run.after, h.worklist_cons hj]
    exact List.cons_ne_nil _ _
  | succ m ih =>
    obtain ⟨w, j, h, hj, hm⟩ := h.exists_lt hm
    rw [Run.after_cons (h.worklist_cons hj)]
    exact ih (h.step hj) (by omega)

end LadderRound

theorem worklist_initialRun_ladder (k : Nat) (isFeature : String → Bool) :
    (initialRun (ladder k).toFlowGraph ((ladder k).problem isFeature)).worklist =
      0 :: List.range' 1 k := by
  rw [worklist_initialRun, visitOrder_ladder]
  rw [visitOrder_ladder]
  exact nodup_firstVisits_ladder k

theorem ladderRound_first (k : Nat) : LadderRound k k 0
    ((initialRun (ladder k).toFlowGraph ((ladder k).problem isFeature)).step (ladder k).toFlowGraph
      ((ladder k).problem isFeature)) where
  tidy := initialRun_tidy.step
  bounds := ⟨Nat.zero_le _, Nat.le_refl _⟩
  worklist := by
    have hw := worklist_initialRun_ladder k isFeature
    have hqueued : ∀ n ∈ (initialRun (ladder k).toFlowGraph ((ladder k).problem isFeature)).affected
        (ladder k).toFlowGraph ((ladder k).problem isFeature) 0, n ∈ List.range' 1 k := by
      intro n hn
      obtain ⟨kind, -, hkind⟩ := Run.mem_affected.mp hn
      cases kind with
      | fall => exact hkind
      | branch => cases hkind
    rw [Run.step_eq hw, (initialRun_tidy.settle hw).enqueueAll_of_subset hqueued]
    exact (List.append_nil _).symm
  entry l := by
    have hentering : (ladder k).entering 0 = [] := by
      refine List.eq_nil_iff_forall_not_mem.mpr fun e he => ?_
      exact absurd (FlowGraph.mem_entering.mp he).2.1 List.not_mem_nil
    rw [Run.flowsAt_step (worklist_initialRun_ladder k isFeature), if_pos rfl]
    change ¬ (((ladder k).stmt 0).transfer isFeature (Run.flowBefore _ _ _ 0)).1.Has l
    rw [Run.flowBefore, hentering]
    exact Bool.false_ne_true
  facts i hi hk l := by
    have hentry : i ≠ (ladder k).entry := Nat.ne_of_gt hi
    rw [Run.flowsAt_step (worklist_initialRun_ladder k isFeature), if_neg (by omega),
      flowsAt_initialRun, if_neg hentry, if_pos (mem_nodes_ladder.mpr hk), if_neg (by omega)]
    have hnone : ¬ (Env.unreached : Env Nat).Has l := Bool.false_ne_true
    refine iff_of_false hnone ?_
    omega

/-- **The visits of a ladder grow with the square of its length.** -/
theorem ladder_not_ended {budget : Nat} (hbudget : budget ≤ ∑ i ∈ Finset.range (k + 1), i) :
    (Run.after (ladder k).toFlowGraph ((ladder k).problem isFeature) budget
      (initialRun (ladder k).toFlowGraph ((ladder k).problem isFeature))).worklist ≠ [] := by
  cases budget with
  | zero =>
    rw [Run.after, worklist_initialRun_ladder]
    exact List.cons_ne_nil _ _
  | succ m =>
    rw [Run.after_cons (worklist_initialRun_ladder k isFeature)]
    rw [Finset.sum_range_succ] at hbudget
    exact (ladderRound_first k).worklist_ne_nil (by omega)

/-- **The default is not always enough.** The visits of a ladder of 225 nodes exhaust it. -/
theorem ladder_exhausts_default_budget :
    (ladder 224).nodes.Nodup ∧ (ladder 224).entry ∈ (ladder 224).nodes ∧
      (∀ m ∈ (ladder 224).nodes, ∀ n ∈ (ladder 224).succs m, n ∈ (ladder 224).nodes) ∧
      (ladder 224).PredsAgree ∧ (ladder 224).Acyclic ∧
      (∀ n ∈ (ladder 224).nodes, ((ladder 224).stmt n).lacksArgument (· == defaultCallee) = false) ∧
      ∃ s, (ladder 224).analyze (· == defaultCallee) 0 = .ok s ∧
        (ladder 224).shortfall? 0 s = some (.solver (.noFixpoint 25200)) := by
  have hentry : (ladder 224).entry ∈ (ladder 224).nodes := mem_nodes_ladder.mpr (Nat.zero_le _)
  have hcalls : ∀ n ∈ (ladder 224).nodes,
      ((ladder 224).stmt n).lacksArgument (· == defaultCallee) = false :=
    fun n _ => lacksArgument_ladder 224 n _
  have hbudget : (ladder 224).budget 0 = 25200 := by
    rw [budget_of_nonpos _ (Int.le_refl 0), length_nodes_ladder]
    rfl
  have hlong : ∑ i ∈ Finset.range (224 + 1), i = 25200 := by rw [Finset.sum_range_id]
  refine ⟨List.nodup_range, hentry, fun m hm n hn => succs_ladder hm hn, predsAgree_ladder 224,
    acyclic_ladder 224, hcalls, ?_⟩
  obtain ⟨s, hs⟩ : ∃ s, solve? (ladder 224).toFlowGraph ((ladder 224).problem (· == defaultCallee))
      ((ladder 224).budget 0) = some s := ⟨_, solve?_eq_some_iff.mpr ⟨hentry, rfl⟩⟩
  have hc : s.converged ≠ true := by
    intro hc
    have hnil := worklist_of_converged hs hc
    rw [hbudget] at hnil
    exact ladder_not_ended hlong.ge hnil
  refine ⟨s, analyze_of_solve? (fun m hm n hn => succs_ladder hm hn) hcalls hs, ?_⟩
  rw [shortfall?, if_neg hc, hbudget]

end Body

end FlagFlow
