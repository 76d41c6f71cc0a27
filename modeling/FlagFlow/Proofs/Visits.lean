import FlagFlow.Proofs.Table
import FlagFlow.Flow.Solver
import Mathlib.Data.List.Nodup

/-!
# Visits

What a visit of a node does to the state of a computation, and what follows for any number of
visits.

* `Tidy`: the worklist has no repetitions, and `queued` holds the same nodes.
* `affected`: the successors that a visit puts into the worklist.
* **`step_eq`**: a visit in one equation; `flowsAt_step`, `mem_worklist_step` and `Tidy.step` read
  it.
* `after_induction`: what every visit keeps holds after all of them; `forall_trace`: what is
  visited.
* `after_eq_of_ended`: a computation that has ended stays as it is.
-/

namespace FlagFlow

namespace Run

variable {N F : Type} [DecidableEq N]

/-- The worklist has no repetitions, and the nodes that are marked as queued are those in it. -/
structure Tidy (r : Run N F) : Prop where
  nodup : r.worklist.Nodup
  queued : r.queued.Perm r.worklist

/-! ## Putting nodes into the worklist -/

theorem enqueueAll_cons (r : Run N F) (n : N) (ns : List N) :
    r.enqueueAll (n :: ns) = (r.enqueue n).enqueueAll ns := rfl

theorem enqueueAll_append (r : Run N F) (ns ms : List N) :
    r.enqueueAll (ns ++ ms) = (r.enqueueAll ns).enqueueAll ms := List.foldl_append

@[simp]
theorem flows_enqueue (r : Run N F) (n : N) : (r.enqueue n).flows = r.flows := by
  unfold enqueue
  split <;> rfl

@[simp]
theorem visits_enqueue (r : Run N F) (n : N) : (r.enqueue n).visits = r.visits := by
  unfold enqueue
  split <;> rfl

theorem length_enqueue_le (r : Run N F) (n : N) :
    (r.enqueue n).worklist.length ≤ r.worklist.length + 1 := by
  unfold enqueue
  split <;> simp

@[simp]
theorem flows_enqueueAll (r : Run N F) (ns : List N) : (r.enqueueAll ns).flows = r.flows := by
  induction ns generalizing r with
  | nil => rfl
  | cons n ns ih => rw [enqueueAll_cons, ih, flows_enqueue]

@[simp]
theorem visits_enqueueAll (r : Run N F) (ns : List N) : (r.enqueueAll ns).visits = r.visits := by
  induction ns generalizing r with
  | nil => rfl
  | cons n ns ih => rw [enqueueAll_cons, ih, visits_enqueue]

theorem length_enqueueAll_le (r : Run N F) (ns : List N) :
    (r.enqueueAll ns).worklist.length ≤ r.worklist.length + ns.length := by
  induction ns generalizing r with
  | nil => exact Nat.le_refl _
  | cons n ns ih =>
    have h1 := ih (r.enqueue n)
    have h2 := length_enqueue_le r n
    rw [enqueueAll_cons, List.length_cons]
    omega

theorem Tidy.enqueue {r : Run N F} (hr : r.Tidy) (n : N) : (r.enqueue n).Tidy := by
  unfold Run.enqueue
  split
  · exact hr
  · rename_i hn
    rw [hr.queued.mem_iff] at hn
    refine ⟨?_, ?_⟩
    · rw [List.nodup_append]
      refine ⟨hr.nodup, List.nodup_singleton n, ?_⟩
      intro a ha b hb hab
      rw [List.mem_singleton] at hb
      exact hn (hb ▸ hab ▸ ha)
    · exact (hr.queued.cons n).trans (List.perm_append_singleton n r.worklist).symm

theorem Tidy.mem_enqueue {r : Run N F} (hr : r.Tidy) {n x : N} :
    x ∈ (r.enqueue n).worklist ↔ x ∈ r.worklist ∨ x = n := by
  unfold Run.enqueue
  split
  · rename_i hn
    rw [hr.queued.mem_iff] at hn
    constructor
    · exact .inl
    · rintro (h | rfl)
      · exact h
      · exact hn
  · simp

theorem Tidy.enqueueAll {r : Run N F} (hr : r.Tidy) (ns : List N) : (r.enqueueAll ns).Tidy := by
  induction ns generalizing r with
  | nil => exact hr
  | cons n ns ih => exact ih (hr.enqueue n)

theorem Tidy.mem_enqueueAll {r : Run N F} (hr : r.Tidy) {ns : List N} {x : N} :
    x ∈ (r.enqueueAll ns).worklist ↔ x ∈ r.worklist ∨ x ∈ ns := by
  induction ns generalizing r with
  | nil => simp [Run.enqueueAll]
  | cons n ns ih => rw [enqueueAll_cons, ih (hr.enqueue n), hr.mem_enqueue, List.mem_cons, or_assoc]

theorem Tidy.worklist_enqueueAll {r : Run N F} (hr : r.Tidy) {ns : List N}
    (hns : (r.worklist ++ ns).Nodup) : (r.enqueueAll ns).worklist = r.worklist ++ ns := by
  induction ns generalizing r with
  | nil => exact (List.append_nil _).symm
  | cons n ns ih =>
    have hn : n ∉ r.queued := by
      rw [hr.queued.mem_iff]
      exact fun hn => List.disjoint_of_nodup_append hns hn List.mem_cons_self
    have hworklist : (r.enqueue n).worklist = r.worklist ++ [n] := by
      rw [Run.enqueue, if_neg hn]
    rw [enqueueAll_cons, ih (hr.enqueue n), hworklist, List.append_assoc, List.singleton_append]
    rw [hworklist, List.append_assoc, List.singleton_append]
    exact hns

theorem Tidy.enqueueAll_of_subset {r : Run N F} (hr : r.Tidy) {ns : List N}
    (hns : ∀ n ∈ ns, n ∈ r.worklist) : r.enqueueAll ns = r := by
  induction ns with
  | nil => rfl
  | cons n ns ih =>
    have hn : n ∈ r.queued := hr.queued.mem_iff.mpr (hns n List.mem_cons_self)
    rw [enqueueAll_cons, Run.enqueue, if_pos hn]
    exact ih fun m hm => hns m (List.mem_cons_of_mem _ hm)

/-! ## One visit -/

variable [Inhabited F] (g : FlowGraph N) (p : Problem N F)

/-- Whether a visit of `n` changes the flow along its edges of a kind. -/
def changes (r : Run N F) (n : N) (k : EdgeKind) : Bool :=
  !p.same ((r.visited g p n).out k) ((r.flowsAt n).out k)

/-- The successors that a visit of `n` puts into the worklist. -/
def affected (r : Run N F) (n : N) : List N :=
  (if r.changes g p n .fall then g.fall n else []) ++
    (if r.changes g p n .branch then g.branch n else [])

/-- The state in which the flows at `n`, the first node of the worklist, have been computed, and its
successors have not been queued yet. -/
def settle (r : Run N F) (n : N) (rest : List N) : Run N F :=
  { flows := r.flows.set n (r.visited g p n), worklist := rest, queued := r.queued.erase n,
    visits := r.visits + 1 }

variable {g p} {r : Run N F} {n : N} {rest : List N}

theorem mem_affected {x : N} :
    x ∈ r.affected g p n ↔ ∃ k, r.changes g p n k = true ∧ x ∈ g.succsBy k n := by
  have hk : ∀ P : EdgeKind → Prop, (∃ k, P k) ↔ P .fall ∨ P .branch := fun P =>
    ⟨fun ⟨k, h⟩ => by cases k <;> simp [h], fun h => h.elim (fun h => ⟨_, h⟩) fun h => ⟨_, h⟩⟩
  rw [hk, affected, List.mem_append]
  cases r.changes g p n .fall <;> cases r.changes g p n .branch <;> simp [FlowGraph.succsBy]

/-- **A visit** computes the flows at the node and queues the successors along which they have
changed. -/
theorem step_eq (h : r.worklist = n :: rest) :
    r.step g p = (r.settle g p n rest).enqueueAll (r.affected g p n) := by
  unfold step affected changes settle
  rw [h, enqueueAll_append]
  simp only [Flows.out]
  by_cases hf : p.same (r.visited g p n).fall (r.flowsAt n).fall = true <;>
    by_cases hb : p.same (r.visited g p n).branch (r.flowsAt n).branch = true <;>
    simp [hf, hb, enqueueAll]

theorem flowsAt_step (h : r.worklist = n :: rest) (m : N) :
    (r.step g p).flowsAt m = if m = n then r.visited g p n else r.flowsAt m := by
  rw [step_eq h]
  simp only [flowsAt, flows_enqueueAll]
  exact Table.getD_set r.flows n m _ _

theorem visits_step (h : r.worklist = n :: rest) : (r.step g p).visits = r.visits + 1 := by
  rw [step_eq h, visits_enqueueAll]
  rfl

theorem length_step_le (h : r.worklist = n :: rest) :
    (r.step g p).worklist.length ≤ rest.length + (r.affected g p n).length := by
  rw [step_eq h]
  exact length_enqueueAll_le _ _

theorem Tidy.settle (hr : r.Tidy) (h : r.worklist = n :: rest) : (r.settle g p n rest).Tidy := by
  have hnodup := hr.nodup
  have hperm := hr.queued
  rw [h] at hnodup hperm
  refine ⟨(List.nodup_cons.mp hnodup).2, ?_⟩
  have := hperm.erase n
  rwa [List.erase_cons_head] at this

theorem Tidy.step (hr : r.Tidy) : (r.step g p).Tidy := by
  cases h : r.worklist with
  | nil =>
    have : r.step g p = r := by simp [Run.step, h]
    rwa [this]
  | cons n rest =>
    rw [step_eq h]
    exact (hr.settle h).enqueueAll _

theorem Tidy.mem_worklist_step (hr : r.Tidy) (h : r.worklist = n :: rest) {x : N} :
    x ∈ (r.step g p).worklist ↔ x ∈ rest ∨ x ∈ r.affected g p n := by
  rw [step_eq h, (hr.settle h).mem_enqueueAll]
  rfl

/-! ## Any number of visits -/

theorem after_nil (h : r.worklist = []) (k : Nat) : after g p k r = r := by
  cases k with
  | zero => rfl
  | succ k => simp [after, h]

theorem after_cons (h : r.worklist = n :: rest) (k : Nat) :
    after g p (k + 1) r = after g p k (r.step g p) := by
  simp [after, h]

/-- **Induction over the visits.** -/
theorem after_induction (P : Run N F → Prop)
    (hstep : ∀ r n rest, r.worklist = n :: rest → P r → P (r.step g p)) (k : Nat) (h : P r) :
    P (after g p k r) := by
  induction k generalizing r with
  | zero => exact h
  | succ k ih =>
    cases hw : r.worklist with
    | nil => rwa [after_nil hw]
    | cons n rest =>
      rw [after_cons hw]
      exact ih (hstep r n rest hw h)

/-- **The nodes that are visited** stay in a set that successors do not leave. -/
theorem forall_trace {P : N → Prop} (hsuccs : ∀ n, P n → ∀ k, ∀ m ∈ g.succsBy k n, P m) (hr : r.Tidy)
    (h : ∀ n ∈ r.worklist, P n) (k : Nat) : ∀ e ∈ trace g p k r, P e.1 := by
  induction k generalizing r with
  | zero => exact fun e he => absurd he List.not_mem_nil
  | succ k ih =>
    unfold trace
    cases hw : r.worklist with
    | nil => exact fun e he => absurd he List.not_mem_nil
    | cons n rest =>
      rw [hw] at h
      obtain ⟨hn, hrest⟩ := List.forall_mem_cons.mp h
      refine List.forall_mem_cons.mpr ⟨hn, ih hr.step fun m hm => ?_⟩
      obtain hm | hm := (hr.mem_worklist_step hw).mp hm
      · exact hrest m hm
      · obtain ⟨kind, -, hkind⟩ := mem_affected.mp hm
        exact hsuccs n hn kind m hkind

theorem visits_after (k : Nat) (h : (after g p k r).worklist ≠ []) :
    (after g p k r).visits = r.visits + k := by
  induction k generalizing r with
  | zero => rfl
  | succ k ih =>
    cases hw : r.worklist with
    | nil => exact absurd (by rw [after_nil hw, hw]) h
    | cons n rest =>
      rw [after_cons hw] at h ⊢
      rw [ih h, visits_step hw]
      omega

/-- **A computation that has ended** stays as it is. -/
theorem after_eq_of_ended {i k : Nat} (h : (after g p k r).worklist = [])
    (hi : (after g p k r).visits = r.visits + i) {l : Nat} (hl : i ≤ l) :
    after g p l r = after g p k r := by
  induction k generalizing r i l with
  | zero => exact after_nil h l
  | succ k ih =>
    cases hw : r.worklist with
    | nil => rw [after_nil hw, after_nil hw]
    | cons n rest =>
      rw [after_cons hw] at h hi ⊢
      -- the visit just made is one of the `i`
      have hle : (r.step g p).visits ≤ (after g p k (r.step g p)).visits :=
        after_induction (fun r' => (r.step g p).visits ≤ r'.visits)
          (fun r' n' rest' hw' hr' => by rw [visits_step hw']; omega) k (Nat.le_refl _)
      rw [visits_step hw] at hle
      obtain ⟨l, rfl⟩ : ∃ l', l = l' + 1 := ⟨l - 1, by omega⟩
      rw [after_cons hw]
      exact ih h (i := i - 1) (by rw [hi, visits_step hw]; omega) (by omega)

end Run

/-! ## The start -/

variable {N F : Type} [DecidableEq N] {g : FlowGraph N} {p : Problem N F}

theorem initialRun_tidy : (initialRun g p).Tidy :=
  Run.Tidy.enqueueAll ⟨List.nodup_nil, .nil⟩ _

theorem mem_worklist_initialRun {x : N} :
    x ∈ (initialRun g p).worklist ↔ x ∈ g.visitOrder := by
  have h : (⟨initialFlows g p, [], [], 0⟩ : Run N F).Tidy := ⟨List.nodup_nil, .nil⟩
  rw [initialRun, h.mem_enqueueAll]
  simp

theorem worklist_initialRun (hnodup : g.visitOrder.Nodup) :
    (initialRun g p).worklist = g.visitOrder := by
  have h : (⟨initialFlows g p, [], [], 0⟩ : Run N F).Tidy := ⟨List.nodup_nil, .nil⟩
  have hns : (([] : List N) ++ g.visitOrder).Nodup := hnodup
  exact h.worklist_enqueueAll hns

theorem visits_initialRun : (initialRun g p).visits = 0 := by
  rw [initialRun, Run.visits_enqueueAll]

theorem flowsAt_initialRun [Inhabited F] (n : N) :
    (initialRun g p).flowsAt n =
      if n = g.entry then ⟨p.entryFlow, p.newFlow, p.newFlow⟩
      else if n ∈ g.nodes then ⟨p.newFlow, p.newFlow, p.newFlow⟩
      else default := by
  rw [Run.flowsAt, initialRun, Run.flows_enqueueAll]
  change (initialFlows g p).getD n default = _
  rw [initialFlows, Table.getD_set]
  split
  · rfl
  · rw [Table.getD, Table.find?_ofList_const]
    split <;> rfl

end FlagFlow
