import FlagFlow.Proofs.Transfer

/-!
# Environments that agree

Comparing two environments counts their facts and looks up those of the first in the second. This
finds out whether they give the same answers, however they came about, and nothing else can tell
them apart: merging, the effect of a statement and the value of an expression only depend on these
answers.

* `Env.setAll`, `Env.find?_setAll`: of the facts that are added about a variable the last one
  counts.
* `Expr.eval_congr`, `Stmt.transfer_agrees`: what the analysis does with environments that agree.
* **`Env.same_extensional`**: comparing environments compares their answers.
-/

namespace FlagFlow

variable {V : Type} [DecidableEq V] {s t : Env V}

namespace Env

/-! ## Adding facts -/

/-- The environment with facts added to it, one after the other. -/
def setAll (s : Env V) (facts : List (V × FlagValue)) : Env V :=
  facts.foldl (fun s e => s.set e.1 e.2) s

theorem setAll_concat (s : Env V) (facts : List (V × FlagValue)) (e : V × FlagValue) :
    s.setAll (facts ++ [e]) = (s.setAll facts).set e.1 e.2 := by
  simp [setAll, List.foldl_append]

theorem path_setAll (s : Env V) (facts : List (V × FlagValue)) : (s.setAll facts).path = s.path := by
  induction facts using List.reverseRecOn with
  | nil => rfl
  | append_singleton facts e ih => rw [setAll_concat, path_set, ih]

/-- **The last fact counts** of those that are added about a variable. -/
theorem find?_setAll (s : Env V) (facts : List (V × FlagValue)) (v : V) :
    (s.setAll facts).find? v = ((facts.filter (·.1 = v)).getLast?.map Prod.snd).or (s.find? v) := by
  induction facts using List.reverseRecOn with
  | nil => rfl
  | append_singleton facts e ih =>
    rw [setAll_concat, find?_set, List.filter_append]
    by_cases he : e.1 = v
    · simp [he]
    · simp [he, Ne.symm he, ih]

theorem setAll_agrees (s : Env V) {facts facts' : List (V × FlagValue)}
    (h : ∀ v, facts.filter (·.1 = v) = facts'.filter (·.1 = v)) :
    (s.setAll facts).Agrees (s.setAll facts') where
  path := by rw [path_setAll, path_setAll]
  facts v := by rw [find?_setAll, find?_setAll, h v]

/-! ## Changing environments that agree -/

theorem Agrees.set (h : s.Agrees t) (v : V) (x : FlagValue) : (s.set v x).Agrees (t.set v x) where
  path := h.path
  facts w := by rw [find?_set, find?_set, h.facts w]

theorem Agrees.withPath (h : s.Agrees t) (x : FlagValue) : (s.withPath x).Agrees (t.withPath x) :=
  ⟨rfl, h.facts⟩

end Env

theorem Expr.eval_congr (h : s.Agrees t) (e : Expr V) : e.eval s = e.eval t := by
  simp only [eval, evalEqual, Env.get, h.facts]

namespace Stmt

variable (isFeature : String → Bool) (stmt : Stmt V)

theorem fallPath?_congr (h : s.Agrees t) : stmt.fallPath? s = stmt.fallPath? t := by
  simp only [fallPath?, Expr.eval_congr h]

theorem markFlag_agrees (h : s.Agrees t) :
    (stmt.markFlag isFeature s).Agrees (stmt.markFlag isFeature t) := by
  unfold markFlag
  split
  · exact h.set _ _
  · exact h

theorem define_agrees (h : s.Agrees t) : (stmt.define s).Agrees (stmt.define t) := by
  unfold define
  split
  · split
    · split
      · rw [Expr.eval_congr h]
        exact h.set _ _
      · exact h
    · exact h
  · exact h

theorem transfer_agrees (h : s.Agrees t) :
    (stmt.transfer isFeature s).1.Agrees (stmt.transfer isFeature t).1 ∧
      (stmt.transfer isFeature s).2.Agrees (stmt.transfer isFeature t).2 := by
  have hmark := stmt.markFlag_agrees isFeature h
  unfold transfer split
  rw [stmt.fallPath?_congr h]
  cases stmt.fallPath? t with
  | none => exact ⟨stmt.define_agrees hmark, h⟩
  | some x => exact ⟨stmt.define_agrees (hmark.withPath x), h.withPath x.negate⟩

end Stmt

namespace Env

/-- **Comparing environments is extensional**: the same path condition and the same answer for every
variable. All operations respect it. -/
theorem same_extensional :
    (∀ s t : Env V, s.same t = true ↔ s.path = t.path ∧ ∀ v, s.find? v = t.find? v) ∧
      Equivalence (fun s t : Env V => s.same t = true) ∧
      (∀ (s : Env V) (facts facts' : List (V × FlagValue)),
        (∀ v, facts.filter (·.1 = v) = facts'.filter (·.1 = v)) →
          (s.setAll facts).same (s.setAll facts') = true) ∧
      (∀ s s' t t' : Env V, s.same s' = true → t.same t' = true →
      (s.merge t).same (s'.merge t') = true) ∧
      (∀ s s' : Env V, s.same s' = true → ∀ (isFeature : String → Bool) (stmt : Stmt V),
        (stmt.transfer isFeature s).1.same (stmt.transfer isFeature s').1 = true ∧
          (stmt.transfer isFeature s).2.same (stmt.transfer isFeature s').2 = true) ∧
      ∀ s s' : Env V, s.same s' = true → ∀ e : Expr V, e.eval s = e.eval s' := by
  simp only [same_iff]
  exact ⟨fun s t => ⟨fun h => ⟨h.path, h.facts⟩, fun h => ⟨h.1, h.2⟩⟩, agrees_equivalence,
    fun s _ _ h => s.setAll_agrees h, fun _ _ _ _ hs ht => hs.merge ht,
    fun _ _ h isFeature stmt => stmt.transfer_agrees isFeature h, fun _ _ h e => e.eval_congr h⟩

/-- Facts about two variables, one of which gets a second one. -/
def earlyFacts : List (Bool × FlagValue) := [(true, .zero), (true, .flag), (false, .one)]

/-- The same facts in another order. -/
def lateFacts : List (Bool × FlagValue) := [(true, .zero), (false, .one), (true, .flag)]

theorem same_extensional_order :
    (∀ v, earlyFacts.filter (·.1 = v) = lateFacts.filter (·.1 = v)) ∧
      (atEntry.setAll earlyFacts).same (atEntry.setAll lateFacts) = true ∧
      ((atEntry.setAll earlyFacts).merge unreached).same
        ((atEntry.setAll lateFacts).merge unreached) = true ∧
      ((Stmt.mk none (some (.ofVar true)) none).transfer (· == defaultCallee)
        (atEntry.setAll earlyFacts)).2.same
        ((Stmt.mk none (some (.ofVar true)) none).transfer (· == defaultCallee)
          (atEntry.setAll lateFacts)).2 = true ∧
      (Expr.ofVar true).eval (atEntry.setAll earlyFacts) =
        (Expr.ofVar true).eval (atEntry.setAll lateFacts) := by
  obtain ⟨-, hequiv, horder, hmerge, htransfer, heval⟩ := same_extensional (V := Bool)
  have hfilter : ∀ v, earlyFacts.filter (·.1 = v) = lateFacts.filter (·.1 = v) := by decide
  have hsame := horder atEntry _ _ hfilter
  exact ⟨hfilter, hsame, hmerge _ _ _ _ hsame (hequiv.refl unreached), (htransfer _ _ hsame _ _).2,
    heval _ _ hsame _⟩

end Env

end FlagFlow
