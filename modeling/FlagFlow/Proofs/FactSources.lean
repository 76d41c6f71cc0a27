import FlagFlow.Proofs.PathConditions
import Mathlib.Tactic.FinCases

/-!
# Where facts come from

The values of facts may change back and forth during a run, but which variables have facts only ever
grows: neither merging nor a statement removes a fact, and a statement makes one along its
fall-through edges only. So a variable has a fact before a node if a statement that makes one can be
left along a fall-through edge from which a path leads to the node. A run that was stopped early has
no other facts.

* `Stmt.MakesFact`: a primitive definition of the variable, or a feature call with it as first
  argument.
* `Body.FactReaches`: a node makes a fact, and a path leads on from its fall-through edges.
* `Body.factReaches_invariant`: every fact of every run has such a node.
* `Body.has_of_factReaches`: in a complete result every such node has its fact.
* **`Body.has_fact_iff_factReaches`**: which variables have facts.
-/

namespace FlagFlow

/-- The statement makes a fact about the variable: it is a feature call with the variable as its
first argument, or a definition of it with a primitive type. -/
def Stmt.MakesFact {V : Type} (isFeature : String → Bool) (stmt : Stmt V) (v : V) : Prop :=
  stmt.flagged? isFeature = some v ∨ stmt.DefinesAs true v

namespace Body

variable {N V : Type} [DecidableEq N] [DecidableEq V] {b : Body N V} {isFeature : String → Bool}
  {maxVisits : Int} {s : Solution N (Env V)} {n : N} {v : V}

variable (b isFeature) in
/-- Some node makes a fact about the variable. -/
def Tracked (v : V) : Prop := ∃ m ∈ b.nodes, (b.stmt m).MakesFact isFeature v

variable (b isFeature) in
/-- Some node makes a fact about the variable, and from one of its fall-through successors a path
leads to `n`. -/
def FactReaches (v : V) (n : N) : Prop :=
  ∃ d ∈ b.nodes, (b.stmt d).MakesFact isFeature v ∧ ∃ m ∈ b.fall d, ∃ es, b.Path m es n

omit [DecidableEq N] [DecidableEq V] in
theorem FactReaches.tracked (h : b.FactReaches isFeature v n) : b.Tracked isFeature v := by
  obtain ⟨d, hd, hmakes, -⟩ := h
  exact ⟨d, hd, hmakes⟩

omit [DecidableEq N] [DecidableEq V] in
theorem FactReaches.snoc {p : N} {k : EdgeKind} (h : b.FactReaches isFeature v p) (hp : p ∈ b.nodes)
    (hn : n ∈ b.succsBy k p) : b.FactReaches isFeature v n := by
  obtain ⟨d, hd, hmakes, m, hm, es, hes⟩ := h
  exact ⟨d, hd, hmakes, m, hm, _, .snoc hes hp hn⟩

/-! ## Every fact has a source -/

/-- **No fact without a source**, in every state of a run. -/
theorem factReaches_invariant (hb : b.PredsAgree) (isFeature : String → Bool) :
    FlowInvariant b.toFlowGraph (b.problem isFeature)
      (fun n t => n ∈ b.nodes → ∀ v, t.Has v → b.FactReaches isFeature v n)
      (fun n k t => n ∈ b.nodes → ∀ v, t.Has v →
        b.FactReaches isFeature v n ∨ k = .fall ∧ (b.stmt n).MakesFact isFeature v) where
  start n hn v hv := by
    rw [flowsAt_initialRun, if_pos hn] at hv
    split at hv <;> cases hv
  startOut n k hn v hv := by
    rw [flowsAt_initialRun, if_pos hn] at hv
    split at hv <;> cases k <;> cases hv
  entry _ v hv := by cases hv
  edge {n e x} he hx hn v hv := by
    obtain ⟨hp, hk⟩ := (hb.mem_entering hn).mp he
    rcases hx hp v hv with h | ⟨hfall, hmakes⟩
    · exact h.snoc hp hk
    · rw [hfall] at hk
      exact ⟨e.1, hp, hmakes, n, hk, [], .nil⟩
  merge {n x y} hx hy hn v hv := ((Env.has_merge x y v).mp hv).elim (hx hn v) (hy hn v)
  node {n x} hx k hn v hv := by
    cases k with
    | fall =>
      rcases (Stmt.has_transfer_fst isFeature (b.stmt n) x v).mp hv with h | h
      · exact .inl (hx hn v h)
      · exact .inr ⟨rfl, h⟩
    | branch => exact .inl (hx hn v ((Stmt.has_transfer_snd isFeature (b.stmt n) x v).mp hv))

theorem factReaches_of_has (hb : b.PredsAgree) (hs : b.analyze isFeature maxVisits = .ok s)
    (hn : n ∈ b.nodes) (hv : (s.flowsAt n).before.Has v) : b.FactReaches isFeature v n := by
  rw [flowsAt_of_solve? (solve?_of_analyze hs)] at hv
  exact ((factReaches_invariant hb isFeature).after _).1 n hn v hv

theorem tracked_of_has (hb : b.PredsAgree) (hs : b.analyze isFeature maxVisits = .ok s)
    (hn : n ∈ b.nodes) (hv : (s.flowsAt n).before.Has v) : b.Tracked isFeature v :=
  (factReaches_of_has hb hs hn hv).tracked

theorem tracked_of_has_out (hb : b.PredsAgree) (hs : b.analyze isFeature maxVisits = .ok s)
    (hn : n ∈ b.nodes) {k : EdgeKind} (hv : ((s.flowsAt n).out k).Has v) : b.Tracked isFeature v := by
  rw [flowsAt_of_solve? (solve?_of_analyze hs)] at hv
  rcases ((factReaches_invariant hb isFeature).after _).2 n k hn v hv with h | ⟨-, hmakes⟩
  · exact h.tracked
  · exact ⟨n, hn, hmakes⟩

/-! ## Every source gives a fact -/

theorem has_out_of_has_before (hs : b.analyze isFeature maxVisits = .ok s) (hc : s.converged = true)
    (hn : n ∈ b.nodes) (hv : (s.flowsAt n).before.Has v) (k : EdgeKind) :
    ((s.flowsAt n).out k).Has v := by
  cases k with
  | fall =>
    change (s.flowsAt n).fall.Has v
    rw [fall_eq hs hc hn, Stmt.has_transfer_fst]
    exact .inl hv
  | branch =>
    change (s.flowsAt n).branch.Has v
    rw [branch_eq hs hc hn, Stmt.has_transfer_snd]
    exact hv

theorem has_before_of_has_out (hb : b.PredsAgree) (hs : b.analyze isFeature maxVisits = .ok s)
    (hc : s.converged = true) {p : N} {k : EdgeKind} (hp : p ∈ b.nodes) (hn : n ∈ b.nodes)
    (hk : n ∈ b.succsBy k p) (hv : ((s.flowsAt p).out k).Has v) : (s.flowsAt n).before.Has v := by
  have he : (p, k) ∈ b.entering n := (hb.mem_entering hn).mpr ⟨hp, hk⟩
  exact (has_before_iff hs hc hn v).mpr ⟨_, mem_arriving.mpr (.inl ⟨(p, k), he, rfl⟩), hv⟩

theorem has_of_factReaches (hb : b.PredsAgree) (hs : b.analyze isFeature maxVisits = .ok s)
    (hc : s.converged = true) (hn : n ∈ b.nodes) (h : b.FactReaches isFeature v n) :
    (s.flowsAt n).before.Has v := by
  obtain ⟨d, hd, hmakes, m, hm, es, hes⟩ := h
  -- the fact is there along the first edge, and every further edge of the path hands it on
  induction hes with
  | nil =>
    refine has_before_of_has_out hb hs hc (k := .fall) hd hn hm ?_
    change (s.flowsAt d).fall.Has v
    rw [fall_eq hs hc hd, Stmt.has_transfer_fst]
    exact .inr hmakes
  | @snoc es p n k _ hp hk ih =>
    exact has_before_of_has_out hb hs hc hp hn hk (has_out_of_has_before hs hc hp (ih hp) k)

/-- **Which variables have facts.** A fact comes along a path from a node that makes it, and a
complete result has all of them. -/
theorem has_fact_iff_factReaches (hb : b.PredsAgree) (hs : b.analyze isFeature maxVisits = .ok s) :
    (∀ n ∈ b.nodes, ∀ v, (s.flowsAt n).before.Has v → b.FactReaches isFeature v n) ∧
      (s.converged = true → ∀ n ∈ b.nodes, ∀ v,
        (s.flowsAt n).before.Has v ↔ b.FactReaches isFeature v n) ∧
      ∀ v, ¬ b.Tracked isFeature v → ∀ n ∈ b.nodes,
        ¬ (s.flowsAt n).before.Has v ∧ ∀ k, ¬ ((s.flowsAt n).out k).Has v := by
  refine ⟨fun n hn v => factReaches_of_has hb hs hn, fun hc n hn v => ?_, fun v hv n hn => ?_⟩
  · exact ⟨factReaches_of_has hb hs hn, has_of_factReaches hb hs hc hn⟩
  · exact ⟨fun h => hv (tracked_of_has hb hs hn h), fun k h => hv (tracked_of_has_out hb hs hn h)⟩

/-- A loop: the variable `0` carries the flag, and the body of the loop copies it to the variable
`1`. The variable `2`, which is defined after the loop, does not have a primitive type. -/
def copyLoop : Body (Fin 5) (Fin 3) where
  toFlowGraph := .ofEntries 0 [⟨0, [1], [], none⟩, ⟨1, [2], [3], none⟩, ⟨2, [1], [], none⟩,
    ⟨3, [4], [], none⟩, ⟨4, [], [], none⟩]
  stmt
    | 0 => { call := some ⟨defaultCallee, [.ofVar 0]⟩ }
    | 1 => { condition := some .other }
    | 2 => { definition := some ⟨some 1, .ofVar 0, true⟩ }
    | 3 => { definition := some ⟨some 2, .ofVar 1, false⟩ }
    | 4 => .skip

theorem not_tracked_copyLoop : ¬ copyLoop.Tracked (fun _ => true) 2 := by
  rintro ⟨m, -, h | ⟨d, hd, htarget, hprimitive⟩⟩
  · revert h
    fin_cases m <;> decide
  · fin_cases m
    · cases hd
    · cases hd
    · cases hd
      cases htarget
    · cases hd
      cases hprimitive
    · cases hd

/-- The copy has a fact at the head of the loop but not at the entry. -/
theorem has_fact_iff_factReaches_copyLoop :
    copyLoop.PredsAgree ∧
      (∃ s, copyLoop.analyze (fun _ => true) 0 = .ok s ∧ s.converged = true ∧
        copyLoop.FactReaches (fun _ => true) 1 1 ∧ ¬ copyLoop.FactReaches (fun _ => true) 1 0 ∧
        ∀ n ∈ copyLoop.nodes, ¬ (s.flowsAt n).before.Has 2) ∧
      ∃ s, copyLoop.analyze (fun _ => true) 2 = .ok s ∧ s.converged = false ∧
        (s.flowsAt 1).before.Has 0 ∧ copyLoop.FactReaches (fun _ => true) 0 1 := by
  have hb : copyLoop.PredsAgree := by
    unfold FlowGraph.PredsAgree
    decide
  obtain ⟨s, hs, hc, h1, h0⟩ := exists_ok_of_toOption (r := copyLoop.analyze (fun _ => true) 0)
    (P := fun s => s.converged = true ∧ (s.flowsAt 1).before.Has 1 ∧ ¬ (s.flowsAt 0).before.Has 1)
    (by decide)
  obtain ⟨-, hiff, hnever⟩ := has_fact_iff_factReaches hb hs
  obtain ⟨t, ht, htc, ht1⟩ := exists_ok_of_toOption (r := copyLoop.analyze (fun _ => true) 2)
    (P := fun s => s.converged = false ∧ (s.flowsAt 1).before.Has 0) (by decide)
  refine ⟨hb, ⟨s, hs, hc, ?_, ?_, fun n hn => (hnever 2 not_tracked_copyLoop n hn).1⟩,
    t, ht, htc, ht1, (has_fact_iff_factReaches hb ht).1 1 (by decide) 0 ht1⟩
  · exact (hiff hc 1 (by decide) 1).mp h1
  · exact fun h => h0 ((hiff hc 0 (by decide) 1).mpr h)

end Body

end FlagFlow
