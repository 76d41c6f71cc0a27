import FlagFlow.Analysis
import FlagFlow.Proofs.Equations

/-!
# Laws of environments

An environment is known by its path condition and by the answers of `find?`; the order of its facts
never matters. The analysis compares environments in this sense, so its result satisfies the
dataflow equations in this sense too.

* `Agrees`: the same path condition and the same facts; `same_iff`: what the analysis compares.
* `Has`: whether a variable has a fact; `has_foldl_merge`: merging neither loses nor invents facts.
* `find?_merge`, `path_foldl_merge_eq_iff`: facts and path conditions of merged environments.
* **`merge_comm`**: merging is commutative, also where two constants make the flag.
* **`Body.before_agrees`**, `Body.out_eq`: the equations of a complete analysis.
-/

namespace FlagFlow

namespace Env

variable {V : Type}

@[simp]
theorem path_ofPath (x : FlagValue) : (ofPath x : Env V).path = x := rfl

@[simp]
theorem path_withPath (s : Env V) (x : FlagValue) : (s.withPath x).path = x := rfl

variable [DecidableEq V] {s t : Env V}

/-- The same path condition and the same facts. -/
structure Agrees (s t : Env V) : Prop where
  path : s.path = t.path
  facts : ∀ v, s.find? v = t.find? v

/-- Whether a variable has a fact. -/
def Has (s : Env V) (v : V) : Prop := (s.find? v).isSome = true

instance : DecidablePred s.Has := fun _ => inferInstanceAs (Decidable (_ = true))

@[simp]
theorem find?_ofPath (x : FlagValue) (v : V) : (ofPath x : Env V).find? v = none := rfl

@[simp]
theorem find?_withPath (s : Env V) (x : FlagValue) (v : V) : (s.withPath x).find? v = s.find? v :=
  rfl

@[simp]
theorem path_set (s : Env V) (v : V) (x : FlagValue) : (s.set v x).path = s.path := rfl

theorem find?_set (s : Env V) (v w : V) (x : FlagValue) :
    (s.set v x).find? w = if w = v then some x else s.find? w := Table.find?_set s.facts v w x

theorem has_set (s : Env V) (v w : V) (x : FlagValue) : (s.set v x).Has w ↔ s.Has w ∨ v = w := by
  unfold Has
  rw [find?_set]
  by_cases h : w = v
  · simp [h]
  · simp [h, Ne.symm h]

theorem agrees_equivalence : Equivalence (Agrees (V := V)) where
  refl _ := ⟨rfl, fun _ => rfl⟩
  symm h := ⟨h.path.symm, fun v => (h.facts v).symm⟩
  trans h h' := ⟨h.path.trans h'.path, fun v => (h.facts v).trans (h'.facts v)⟩

/-- **Comparing environments** is agreement, in whatever order the facts came. -/
theorem same_iff : s.same t = true ↔ s.Agrees t := by
  simp only [same, Bool.and_eq_true, decide_eq_true_eq, Table.agree_iff]
  exact ⟨fun h => ⟨h.1, h.2⟩, fun h => ⟨h.path, h.facts⟩⟩

theorem Agrees.has_iff (h : s.Agrees t) (v : V) : s.Has v ↔ t.Has v := by
  rw [Has, Has, h.facts v]

/-! ## Merging -/

theorem find?_merge (s t : Env V) (v : V) :
    (s.merge t).find? v = (s.find? v).merge (mergeValue s.path t.path) (t.find? v) :=
  Table.find?_merge (mergeValue s.path t.path) s.facts t.facts v

theorem Agrees.merge {s' t' : Env V} (hs : s.Agrees s') (ht : t.Agrees t') :
    (s.merge t).Agrees (s'.merge t') where
  path := by simp only [Env.merge, hs.path, ht.path]
  facts v := by rw [find?_merge, find?_merge, hs.facts, ht.facts, hs.path, ht.path]

omit [DecidableEq V] in
theorem mergeValue_comm (c c' x x' : FlagValue) : mergeValue c c' x x' = mergeValue c' c x' x := by
  unfold mergeValue
  by_cases h : x = x'
  · rw [if_pos h, if_pos h.symm, h]
  · rw [if_neg h, if_neg (Ne.symm h)]
    -- the four rows of the rule mirror each other
    split
    · rfl
    · rfl
    · rfl
    · rfl
    · split <;> simp_all

/-- **Merging is symmetric.** -/
theorem merge_agrees_swap (s t : Env V) : (s.merge t).Agrees (t.merge s) where
  path := by
    simp only [Env.merge]
    by_cases h : s.path = t.path
    · rw [if_pos h, if_pos h.symm, h]
    · rw [if_neg h, if_neg (Ne.symm h)]
  facts v := by
    rw [find?_merge, find?_merge]
    cases s.find? v <;> cases t.find? v <;> simp [mergeValue_comm s.path]

/-- **Merging is commutative** for what can be seen of an environment. -/
theorem merge_comm (s t : Env V) :
    (s.merge t).path = (t.merge s).path ∧ (∀ v, (s.merge t).find? v = (t.merge s).find? v) ∧
      (s.merge t).same (t.merge s) = true := by
  have h := merge_agrees_swap s t
  exact ⟨h.path, h.facts, same_iff.mpr h⟩

theorem has_merge (s t : Env V) (v : V) : (s.merge t).Has v ↔ s.Has v ∨ t.Has v := by
  unfold Has
  rw [find?_merge]
  cases s.find? v <;> cases t.find? v <;> simp

theorem has_foldl_merge (ts : List (Env V)) (s : Env V) (v : V) :
    (ts.foldl Env.merge s).Has v ↔ s.Has v ∨ ∃ t ∈ ts, t.Has v := by
  induction ts generalizing s with
  | nil => simp
  | cons t ts ih => rw [List.foldl_cons, ih, has_merge, or_assoc, List.exists_mem_cons_iff]

theorem path_merge_eq_iff {x : FlagValue} (hx : x ≠ .unknown) :
    (s.merge t).path = x ↔ s.path = x ∧ t.path = x := by
  simp only [Env.merge]
  split
  · rename_i h
    rw [← h, and_self]
  · rename_i h
    constructor
    · exact fun hu => absurd hu.symm hx
    · exact fun hst => absurd (hst.1.trans hst.2.symm) h

/-- **Merging never invents a path condition.** -/
theorem path_foldl_merge_eq_iff {x : FlagValue} (hx : x ≠ .unknown) (ts : List (Env V)) (s : Env V) :
    (ts.foldl Env.merge s).path = x ↔ s.path = x ∧ ∀ t ∈ ts, t.path = x := by
  induction ts generalizing s with
  | nil => simp
  | cons t ts ih => rw [List.foldl_cons, ih, path_merge_eq_iff hx, and_assoc, List.forall_mem_cons]

end Env

/-! ## The equations of an analysis -/

namespace Body

variable {N V : Type} [DecidableEq N] [DecidableEq V] {b : Body N V} {isFeature : String → Bool}
  {maxVisits : Int} {s : Solution N (Env V)}

omit [DecidableEq N] in
theorem congruence (b : Body N V) (isFeature : String → Bool) :
    (b.problem isFeature).Congruence Env.Agrees where
  equiv := Env.agrees_equivalence
  same h := Env.same_iff.mp h
  merge h h' := h.merge h'

theorem solve?_of_analyze (hs : b.analyze isFeature maxVisits = .ok s) :
    solve? b.toFlowGraph (b.problem isFeature) (b.budget maxVisits) = some s := by
  unfold analyze at hs
  simp only at hs
  split at hs
  · cases hs
  · rename_i s' hs'
    split at hs
    · cases hs
    · cases hs
      exact hs'

variable (b isFeature) in
/-- The environments that arrive at a node. -/
def arriving (s : Solution N (Env V)) (n : N) : List (Env V) :=
  (b.problem isFeature).arriving b.toFlowGraph s.flowsAt n

/-- **What is known before a node** is the merge of what arrives there. -/
theorem before_agrees (hs : b.analyze isFeature maxVisits = .ok s) (hc : s.converged = true) {n : N}
    (hn : n ∈ b.nodes) :
    (s.flowsAt n).before.Agrees ((b.problem isFeature).mergeAll (b.arriving isFeature s n)) :=
  (holdsAt_of_converged (b.congruence isFeature) (solve?_of_analyze hs) hc hn).before

theorem has_before_iff (hs : b.analyze isFeature maxVisits = .ok s) (hc : s.converged = true) {n : N}
    (hn : n ∈ b.nodes) (v : V) :
    (s.flowsAt n).before.Has v ↔ ∃ t ∈ b.arriving isFeature s n, t.Has v := by
  rw [(before_agrees hs hc hn).has_iff]
  cases b.arriving isFeature s n with
  | nil => simp [Problem.mergeAll, problem, Env.unreached, Env.Has]
  | cons t ts =>
    change (ts.foldl Env.merge t).Has v ↔ _
    rw [Env.has_foldl_merge, List.exists_mem_cons_iff]

/-- **What is known after a node** is the effect of its statement. -/
theorem out_eq (hs : b.analyze isFeature maxVisits = .ok s) (hc : s.converged = true) {n : N}
    (hn : n ∈ b.nodes) (k : EdgeKind) :
    (s.flowsAt n).out k = (b.problem isFeature).out (s.flowsAt n).before n k :=
  (holdsAt_of_converged (b.congruence isFeature) (solve?_of_analyze hs) hc hn).out_eq k

theorem fall_eq (hs : b.analyze isFeature maxVisits = .ok s) (hc : s.converged = true) {n : N}
    (hn : n ∈ b.nodes) :
    (s.flowsAt n).fall = ((b.stmt n).transfer isFeature (s.flowsAt n).before).1 :=
  out_eq hs hc hn .fall

theorem branch_eq (hs : b.analyze isFeature maxVisits = .ok s) (hc : s.converged = true) {n : N}
    (hn : n ∈ b.nodes) :
    (s.flowsAt n).branch = ((b.stmt n).transfer isFeature (s.flowsAt n).before).2 :=
  out_eq hs hc hn .branch

theorem mem_arriving {n : N} {t : Env V} :
    t ∈ b.arriving isFeature s n ↔
      (∃ e ∈ b.entering n, (s.flowsAt e.1).out e.2 = t) ∨ (n = b.entry ∧ t = .atEntry) := by
  rw [arriving, Problem.arriving, List.mem_append, List.mem_map]
  refine or_congr Iff.rfl ?_
  split
  · rename_i hn
    simp [hn, problem]
  · rename_i hn
    simp [hn]

theorem order_of_analyze (hs : b.analyze isFeature maxVisits = .ok s) : s.order = b.visitOrder := by
  obtain ⟨_, rfl⟩ := solve?_eq_some_iff.mp (solve?_of_analyze hs)
  rfl

end Body

end FlagFlow
