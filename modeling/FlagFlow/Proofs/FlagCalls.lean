import FlagFlow.Proofs.PathConditions
import Mathlib.Logic.Relation
import Mathlib.Tactic.FinCases

/-!
# No flag without a feature call

The flag gets into an environment by a feature call. From there it is copied and negated by
definitions, it becomes a path condition at branches, and two constants on the two sides of a branch
become the flag again where the sides meet. All these need an environment that mentions the flag
already, so wherever the flag is mentioned, a path leads there from a feature call. Nothing is asked
of the graph, and a run that was stopped early mentions the flag nowhere else either.

* `FlowGraph.Within`: the nodes, and all that edges lead to from there; only these are ever visited.
* `Env.MentionsFlag`: the path condition or a fact is the flag or its negation.
* `Env.MentionsFlag.of_merge`, `Stmt.mentionsFlag_of_transfer_fst`,
  `Stmt.mentionsFlag_of_transfer_snd`: merges and statements other than feature calls do not make
  the first mention.
* `Body.FlagCallReaches`: a path leads to the node from a fall-through edge of a feature call.
* **`Body.flag_call_of_mentionsFlag`**: no mention of the flag without a feature call.
-/

namespace FlagFlow

namespace FlowGraph

variable {N : Type} {g : FlowGraph N} {n : N}

/-- A node, or something that edges lead to from a node. -/
def Within (g : FlowGraph N) (n : N) : Prop :=
  ∃ a ∈ g.nodes, Relation.ReflTransGen (fun p m => m ∈ g.succs p) a n

theorem within_of_mem (hn : n ∈ g.nodes) : g.Within n := ⟨n, hn, .refl⟩

theorem Within.snoc {m : N} (h : g.Within n) (hm : m ∈ g.succs n) : g.Within m := by
  obtain ⟨a, ha, han⟩ := h
  exact ⟨a, ha, han.tail hm⟩

theorem Within.mem_nodes (hsuccs : ∀ p ∈ g.nodes, ∀ m ∈ g.succs p, m ∈ g.nodes) (h : g.Within n) :
    n ∈ g.nodes := by
  obtain ⟨a, ha, han⟩ := h
  induction han with
  | refl => exact ha
  | tail _ hm ih => exact hsuccs _ ih _ hm

end FlowGraph

/-! ## Mentions of the flag -/

variable {V : Type} [DecidableEq V]

namespace Env

/-- The path condition or the fact of some variable is the flag or its negation. -/
def MentionsFlag (s : Env V) : Prop :=
  s.path.dependsOnFlag = true ∨ ∃ v x, s.find? v = some x ∧ x.dependsOnFlag = true

theorem not_mentionsFlag_ofPath {x : FlagValue} (hx : x.dependsOnFlag = false) :
    ¬ (ofPath x : Env V).MentionsFlag := by
  rintro (h | ⟨v, y, hy, -⟩)
  · rw [path_ofPath, hx] at h
    cases h
  · cases hy

theorem mentionsFlag_of_get {s : Env V} {v : V} (h : (s.get v).dependsOnFlag = true) :
    s.MentionsFlag := by
  unfold get at h
  cases hv : s.find? v with
  | none =>
    rw [hv] at h
    cases h
  | some x =>
    rw [hv] at h
    exact .inr ⟨v, x, hv, h⟩

theorem MentionsFlag.of_set {s : Env V} {v : V} {x : FlagValue} (h : (s.set v x).MentionsFlag) :
    s.MentionsFlag ∨ x.dependsOnFlag = true := by
  rcases h with h | ⟨w, y, hy, hdep⟩
  · exact .inl (.inl h)
  · rw [find?_set] at hy
    split at hy
    · cases hy
      exact .inr hdep
    · exact .inl (.inr ⟨w, y, hy, hdep⟩)

omit [DecidableEq V] in
theorem dependsOnFlag_of_mergeValue {c c' x x' : FlagValue}
    (h : (mergeValue c c' x x').dependsOnFlag = true) :
    x.dependsOnFlag = true ∨ c.dependsOnFlag = true := by
  unfold mergeValue at h
  split at h
  · exact .inl h
  · split at h
    · exact .inr rfl
    · exact .inr rfl
    · exact .inr rfl
    · exact .inr rfl
    · cases h

/-- **Merging does not make the first mention.** -/
theorem MentionsFlag.of_merge {s t : Env V} (h : (s.merge t).MentionsFlag) :
    s.MentionsFlag ∨ t.MentionsFlag := by
  rcases h with h | ⟨v, x, hx, hdep⟩
  · simp only [Env.merge] at h
    split at h
    · exact .inl (.inl h)
    · cases h
  · rw [find?_merge] at hx
    cases hs : s.find? v with
    | none =>
      rw [hs, Option.merge_none_left] at hx
      exact .inr (.inr ⟨v, x, hx, hdep⟩)
    | some y =>
      cases ht : t.find? v with
      | none =>
        rw [hs, ht, Option.merge_none_right] at hx
        exact .inl (.inr ⟨v, x, hs.trans hx, hdep⟩)
      | some z =>
        rw [hs, ht] at hx
        cases hx
        rcases dependsOnFlag_of_mergeValue hdep with hy | hc
        · exact .inl (.inr ⟨v, y, hs, hy⟩)
        · exact .inl (.inl hc)

end Env

variable {s : Env V}

namespace Expr

theorem mentionsFlag_of_evalEqual {x y : Expr V} (h : (evalEqual x y s).dependsOnFlag = true) :
    s.MentionsFlag := by
  unfold evalEqual at h
  cases hv : (comparedWithZero x y).var? with
  | none =>
    rw [hv] at h
    cases h
  | some v =>
    simp only [hv] at h
    cases hx : s.find? v with
    | none =>
      rw [hx] at h
      cases h
    | some value =>
      rw [hx] at h
      exact .inr ⟨v, value, hx, (FlagValue.dependsOnFlag_negate value).symm.trans h⟩

theorem mentionsFlag_of_eval {e : Expr V} (h : (e.eval s).dependsOnFlag = true) :
    s.MentionsFlag := by
  unfold eval at h
  split at h
  · exact mentionsFlag_of_evalEqual h
  · split at h
    · split at h <;> cases h
    · split at h
      · exact Env.mentionsFlag_of_get h
      · cases h

end Expr

namespace Stmt

variable {isFeature : String → Bool} {stmt : Stmt V} {x : FlagValue}

theorem mentionsFlag_of_fallPath (h : stmt.fallPath? s = some x) : s.MentionsFlag := by
  obtain ⟨c, -, rfl, hdep⟩ := fallPath?_eq_some_iff.mp h
  exact Expr.mentionsFlag_of_eval hdep

theorem mentionsFlag_of_define (h : (stmt.define s).MentionsFlag) : s.MentionsFlag := by
  unfold define at h
  split at h
  · split at h
    · split at h
      · exact h.of_set.elim id Expr.mentionsFlag_of_eval
      · exact h
    · exact h
  · exact h

theorem mentionsFlag_of_markFlag (h : (stmt.markFlag isFeature s).MentionsFlag) :
    s.MentionsFlag ∨ ∃ v, stmt.flagged? isFeature = some v := by
  unfold markFlag at h
  split at h
  · rename_i v hv
    exact .inr ⟨v, hv⟩
  · exact .inl h

/-- **A statement makes the first mention only as a feature call**, along its fall-through edges. -/
theorem mentionsFlag_of_transfer_fst (h : (stmt.transfer isFeature s).1.MentionsFlag) :
    s.MentionsFlag ∨ ∃ v, stmt.flagged? isFeature = some v := by
  unfold transfer split at h
  cases hx : stmt.fallPath? s with
  | none =>
    rw [hx] at h
    exact mentionsFlag_of_markFlag (mentionsFlag_of_define h)
  | some x => exact .inl (mentionsFlag_of_fallPath hx)

theorem mentionsFlag_of_transfer_snd (h : (stmt.transfer isFeature s).2.MentionsFlag) :
    s.MentionsFlag := by
  unfold transfer split at h
  cases hx : stmt.fallPath? s with
  | none =>
    rw [hx] at h
    exact h
  | some x => exact mentionsFlag_of_fallPath hx

end Stmt

/-! ## Feature calls -/

namespace Body

variable {N : Type} [DecidableEq N] {b : Body N V} {isFeature : String → Bool} {maxVisits : Int}
  {s : Solution N (Env V)} {n : N}

variable (b isFeature) in
/-- Some statement is a feature call with a variable as its first argument, and from one of its
fall-through successors a path leads to `n`. -/
def FlagCallReaches (n : N) : Prop :=
  ∃ c v, b.Within c ∧ (b.stmt c).flagged? isFeature = some v ∧ ∃ m ∈ b.fall c, ∃ es, b.Path m es n

omit [DecidableEq N] [DecidableEq V] in
theorem FlagCallReaches.snoc {p : N} {k : EdgeKind} (h : b.FlagCallReaches isFeature p)
    (hp : p ∈ b.nodes) (hn : n ∈ b.succsBy k p) : b.FlagCallReaches isFeature n := by
  obtain ⟨c, v, hc, hv, m, hm, es, hes⟩ := h
  exact ⟨c, v, hc, hv, m, hm, _, .snoc hes hp hn⟩

/-- **No mention of the flag without a feature call**, in every state of a run. -/
theorem flagCall_invariant (b : Body N V) (isFeature : String → Bool) :
    FlowInvariantOn b.toFlowGraph (b.problem isFeature) b.Within
      (fun n t => t.MentionsFlag → n ∈ b.nodes ∧ b.FlagCallReaches isFeature n)
      (fun n k t => t.MentionsFlag → (n ∈ b.nodes ∧ b.FlagCallReaches isFeature n) ∨
        (k = .fall ∧ b.Within n ∧ ∃ v, (b.stmt n).flagged? isFeature = some v)) where
  nodes n := FlowGraph.within_of_mem
  succs h hm := h.snoc (FlowGraph.mem_succs_iff.mpr ⟨_, hm⟩)
  start n h := by
    rw [flowsAt_initialRun] at h
    split at h
    · exact absurd h (Env.not_mentionsFlag_ofPath rfl)
    · split at h <;> exact absurd h (Env.not_mentionsFlag_ofPath rfl)
  startOut n k h := by
    rw [flowsAt_initialRun] at h
    split at h
    · cases k <;> exact absurd h (Env.not_mentionsFlag_ofPath rfl)
    · split at h <;> cases k <;> exact absurd h (Env.not_mentionsFlag_ofPath rfl)
  entry h := absurd h (Env.not_mentionsFlag_ofPath rfl)
  edge {n e x} he hx h := by
    obtain ⟨hn, -, hk⟩ := FlowGraph.mem_entering.mp he
    rcases hx h with ⟨hp, hcall⟩ | ⟨hfall, hwithin, v, hv⟩
    · exact ⟨hn, hcall.snoc hp hk⟩
    · rw [hfall] at hk
      exact ⟨hn, e.1, v, hwithin, hv, n, hk, [], .nil⟩
  merge hx hy h := h.of_merge.elim hx hy
  node {n x} hn hx k h := by
    cases k with
    | fall =>
      rcases Stmt.mentionsFlag_of_transfer_fst h with h | h
      · exact .inl (hx h)
      · exact .inr ⟨rfl, hn, h⟩
    | branch => exact .inl (hx (Stmt.mentionsFlag_of_transfer_snd h))

theorem flagCallReaches_of_before (hs : b.analyze isFeature maxVisits = .ok s)
    (h : (s.flowsAt n).before.MentionsFlag) : b.FlagCallReaches isFeature n := by
  rw [flowsAt_of_solve? (solve?_of_analyze hs)] at h
  exact (((flagCall_invariant b isFeature).after _).1 n h).2

theorem exists_flagged_of_out (hs : b.analyze isFeature maxVisits = .ok s) {k : EdgeKind}
    (h : ((s.flowsAt n).out k).MentionsFlag) :
    ∃ c v, b.Within c ∧ (b.stmt c).flagged? isFeature = some v := by
  rw [flowsAt_of_solve? (solve?_of_analyze hs)] at h
  rcases ((flagCall_invariant b isFeature).after _).2 n k h with ⟨-, c, v, hc, hv, -⟩ | ⟨-, hn, v, hv⟩
  · exact ⟨c, v, hc, hv⟩
  · exact ⟨n, v, hn, hv⟩

theorem flagCallReaches_of_isFlagBranch (hs : b.analyze isFeature maxVisits = .ok s)
    (h : b.IsFlagBranch s n) : b.FlagCallReaches isFeature n := by
  obtain ⟨-, x, hx⟩ := (isFlagBranch_iff hs).mp h
  exact flagCallReaches_of_before hs (Stmt.mentionsFlag_of_fallPath hx)

/-- **No flag without a feature call.** A path leads from such a call to every mention of the flag
and to every listed branch. -/
theorem flag_call_of_mentionsFlag (hs : b.analyze isFeature maxVisits = .ok s) :
    (∀ n, (s.flowsAt n).before.MentionsFlag ∨ b.IsFlagBranch s n → b.FlagCallReaches isFeature n) ∧
      ((∀ c, b.Within c → (b.stmt c).flagged? isFeature = none) →
        (∀ n, ¬ (s.flowsAt n).before.MentionsFlag ∧ ∀ k, ¬ ((s.flowsAt n).out k).MentionsFlag) ∧
          b.flagBranches s = []) := by
  have hreach : ∀ n, (s.flowsAt n).before.MentionsFlag ∨ b.IsFlagBranch s n →
      b.FlagCallReaches isFeature n := fun n h =>
    h.elim (flagCallReaches_of_before hs) (flagCallReaches_of_isFlagBranch hs)
  refine ⟨hreach, fun hnone => ?_⟩
  have hno : ∀ n, ¬ b.FlagCallReaches isFeature n := by
    rintro n ⟨c, v, hc, hv, -⟩
    rw [hnone c hc] at hv
    cases hv
  refine ⟨fun n => ⟨fun h => hno n (hreach n (.inl h)), fun k h => ?_⟩, ?_⟩
  · obtain ⟨c, v, hc, hv⟩ := exists_flagged_of_out hs h
    rw [hnone c hc] at hv
    cases hv
  · refine List.eq_nil_iff_forall_not_mem.mpr fun e he => ?_
    exact hno e.1 (hreach e.1 (.inr (List.mem_map_of_mem he)))

/-- The second branch is on a variable that was only ever set to constants. -/
theorem flag_call_of_mentionsFlag_toggle :
    (∃ s, toggle.analyze (fun _ => true) 0 = .ok s ∧ s.converged = true ∧ toggle.IsFlagBranch s 4 ∧
      ∃ c ∈ toggle.nodes, ∃ v, (toggle.stmt c).flagged? (fun _ => true) = some v ∧
        ∃ m ∈ toggle.fall c, ∃ es, toggle.Path m es 4) ∧
      (∃ s, toggle.analyze (fun _ => true) 3 = .ok s ∧ s.converged = false ∧
        (s.flowsAt 2).before.MentionsFlag ∧ toggle.FlagCallReaches (fun _ => true) 2) ∧
      ∃ s, toggle.analyze (fun _ => false) 0 = .ok s ∧
        (∀ n, ¬ (s.flowsAt n).before.MentionsFlag) ∧ toggle.flagBranches s = [] := by
  obtain ⟨s, hs, hc, h4⟩ := exists_ok_of_toOption (r := toggle.analyze (fun _ => true) 0)
    (P := fun s => s.converged = true ∧ toggle.IsFlagBranch s 4) (by decide)
  obtain ⟨t, ht, htc, h2⟩ := exists_ok_of_toOption (r := toggle.analyze (fun _ => true) 3)
    (P := fun s => s.converged = false ∧ (s.flowsAt 2).before.path.dependsOnFlag = true) (by decide)
  obtain ⟨u, hu, -⟩ := exists_ok_of_toOption (r := toggle.analyze (fun _ => false) 0)
    (P := fun s => s.converged = true) (by decide)
  obtain ⟨c, v, hwithin, hv, hpath⟩ := (flag_call_of_mentionsFlag hs).1 4 (.inr h4)
  have hnone : ∀ c, toggle.Within c → (toggle.stmt c).flagged? (fun _ => false) = none := by
    intro c _
    fin_cases c <;> rfl
  obtain ⟨hmention, hbranches⟩ := (flag_call_of_mentionsFlag hu).2 hnone
  exact ⟨⟨s, hs, hc, h4, c, hwithin.mem_nodes (by decide), v, hv, hpath⟩,
    ⟨t, ht, htc, .inl h2, (flag_call_of_mentionsFlag ht).1 2 (.inl (.inl h2))⟩,
    u, hu, fun n => (hmention n).1, hbranches⟩

end Body

end FlagFlow
