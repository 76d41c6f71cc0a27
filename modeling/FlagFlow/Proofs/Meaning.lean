import FlagFlow.Proofs.Transfer
import Mathlib.Logic.Function.Basic

/-!
# The meaning of environments

Programs run on an assignment of integers to variables, for a fixed state `φ` of the flag. An
environment describes an assignment if its path condition permits `φ` and every fact admits the
value of its variable. Evaluation, merging and the effect of statements respect this meaning.

* `Expr.Value`: the values of an expression; `Expr.Plain`: it can be read in at most one way.
* `Stmt.Takes`, `Stmt.Marks`, `Stmt.Defines`: which edges a statement takes, and its two effects.
* `FlagValue.Permits`, `FlagValue.Admits`, `Env.Describes`: the meaning of values and environments.
* `Expr.eval_admits`: evaluation is sound.
* `Env.Describes.foldl_merge_of_mem`: a merge describes what each of its parts describes, if that
  part has all the facts. This is where two constants on the two sides of the flag become the flag.
* `Stmt.describes_transfer_fst`, `Stmt.describes_transfer_snd`: the effect of a statement is sound.
-/

namespace FlagFlow

/-! ## Concrete steps -/

section Concrete

variable {V : Type}

/-- The values that an expression may have under an assignment. A conversion keeps whether the value
is zero; an expression that cannot be read may have any value. -/
inductive Expr.Value (σ : V → Int) : Expr V → Int → Prop
  | const {e : Expr V} {i : Int} : e.int? = some i → Value σ e i
  | var {e : Expr V} {v : V} : e.var? = some v → Value σ e (σ v)
  | equal {e x y : Expr V} {i j : Int} : e.eq? = some (x, y) → Value σ x i → Value σ y j →
      Value σ e (if i = j then 1 else 0)
  | convert {e x : Expr V} {i j : Int} : e.cast? = some x → Value σ x i → (j = 0 ↔ i = 0) →
      Value σ e j
  | unread {e : Expr V} {i : Int} : e.eq? = none → e.int? = none → e.var? = none →
      e.cast? = none → Value σ e i

/-- An expression that can be read in at most one way, and so can its parts. -/
inductive Expr.Plain : Expr V → Prop
  | absent : Plain .absent
  | other : Plain .other
  | const (i : Int) : Plain (.const i)
  | var (v : V) : Plain (.ofVar v)
  | equal {x y : Expr V} : Plain x → Plain y → Plain (.equal x y)
  | convert {x : Expr V} : Plain x → Plain (.convert x)

namespace Stmt

/-- The condition and the defined value of a statement are plain. -/
structure Plain (stmt : Stmt V) : Prop where
  condition : ∀ c, stmt.condition = some c → c.Plain
  value : ∀ d, stmt.definition = some d → d.value.Plain

/-- A conditional takes its fall-through edges if its condition is not zero, and its branch edges
otherwise. Any other statement may take all its edges. -/
def Takes (stmt : Stmt V) (σ : V → Int) (k : EdgeKind) : Prop :=
  match stmt.condition with
  | some c => ∃ i, c.Value σ i ∧ (i ≠ 0 ↔ k = .fall)
  | none => True

variable [DecidableEq V]

/-- A feature call gives its first argument a value that is not zero exactly if the flag is set. -/
def Marks (isFeature : String → Bool) (φ : Bool) (stmt : Stmt V) (σ σ' : V → Int) : Prop :=
  match stmt.flagged? isFeature with
  | some v => ∃ i : Int, (i ≠ 0 ↔ φ = true) ∧ σ' = Function.update σ v i
  | none => σ' = σ

/-- A definition gives its variable the value of its expression. -/
def Defines (stmt : Stmt V) (σ σ' : V → Int) : Prop :=
  match stmt.definition with
  | some d =>
    match d.target with
    | some v => ∃ i, d.value.Value σ i ∧ σ' = Function.update σ v i
    | none => σ' = σ
  | none => σ' = σ

end Stmt

end Concrete

/-! ## Meaning -/

namespace FlagValue

/-- Whether a path condition permits a state of the flag. -/
def Permits (φ : Bool) : FlagValue → Prop
  | flag => φ = true
  | notFlag => φ = false
  | _ => True

/-- Whether a fact admits a value. -/
def Admits (φ : Bool) : FlagValue → Int → Prop
  | flag, i => i ≠ 0 ↔ φ = true
  | notFlag, i => i = 0 ↔ φ = true
  | one, i => i ≠ 0
  | zero, i => i = 0
  | _, _ => True

variable {φ : Bool} {x : FlagValue} {i j : Int}

theorem Admits.congr (h : x.Admits φ i) (hij : j = 0 ↔ i = 0) : x.Admits φ j := by
  cases x <;> simp_all [Admits]

theorem Admits.negate (h : x.Admits φ i) (hij : j ≠ 0 ↔ i = 0) : x.negate.Admits φ j := by
  cases x with
  | flag =>
    simp only [Admits, FlagValue.negate] at h ⊢
    rw [← h, ne_eq, ← hij, not_not]
  | notFlag =>
    simp only [Admits, FlagValue.negate] at h ⊢
    rw [← h, hij]
  | _ => trivial

/-- A value that depends on the flag, seen on the side where it is not zero. -/
theorem Admits.permits (h : x.Admits φ i) (hx : x.dependsOnFlag = true) (hi : i ≠ 0) :
    x.Permits φ := by
  cases x with
  | flag => exact h.mp hi
  | notFlag =>
    rw [Permits, ← Bool.not_eq_true]
    exact fun hφ => hi (h.mpr hφ)
  | _ => cases hx

theorem Admits.permits_negate (h : x.Admits φ i) (hx : x.dependsOnFlag = true) (hi : i = 0) :
    x.negate.Permits φ := by
  cases x with
  | flag =>
    rw [FlagValue.negate, Permits, ← Bool.not_eq_true]
    exact fun hφ => h.mpr hφ hi
  | notFlag => exact h.mp hi
  | _ => cases hx

end FlagValue

variable {V : Type} [DecidableEq V] {φ : Bool} {σ σ' : V → Int} {s t : Env V}

namespace Env

/-- What is known holds: the path condition permits the state of the flag, and every fact admits the
value of its variable. -/
structure Describes (φ : Bool) (s : Env V) (σ : V → Int) : Prop where
  path : s.path.Permits φ
  facts : ∀ v x, s.find? v = some x → x.Admits φ (σ v)

theorem Agrees.describes (h : s.Agrees t) (ht : t.Describes φ σ) : s.Describes φ σ where
  path := h.path ▸ ht.path
  facts v x hx := ht.facts v x (by rw [← h.facts]; exact hx)

theorem Describes.get (hs : s.Describes φ σ) (v : V) : (s.get v).Admits φ (σ v) := by
  unfold Env.get
  cases h : s.find? v with
  | none => trivial
  | some x => exact hs.facts v x h

theorem Describes.withPath (hs : s.Describes φ σ) {x : FlagValue} (hx : x.Permits φ) :
    (s.withPath x).Describes φ σ := ⟨hx, hs.facts⟩

theorem Describes.set (hs : s.Describes φ σ) (v : V) {x : FlagValue} {i : Int}
    (hx : x.Admits φ i) : (s.set v x).Describes φ (Function.update σ v i) := by
  refine ⟨hs.path, fun w y hy => ?_⟩
  rw [find?_set] at hy
  by_cases hw : w = v
  · subst hw
    rw [if_pos rfl] at hy
    cases hy
    rwa [Function.update_self]
  · rw [if_neg hw] at hy
    rw [Function.update_of_ne hw]
    exact hs.facts w y hy

theorem Describes.update (hs : s.Describes φ σ) {v : V} (hv : ¬ s.Has v) (i : Int) :
    s.Describes φ (Function.update σ v i) := by
  refine ⟨hs.path, fun w y hy => ?_⟩
  have hw : w ≠ v := by
    rintro rfl
    exact hv (by rw [Has, hy]; rfl)
  rw [Function.update_of_ne hw]
  exact hs.facts w y hy

end Env

/-! ## Evaluation -/

namespace Expr

variable {e : Expr V} {i : Int}

section Readings

omit [DecidableEq V]

theorem value_const {n : Int} (hi : (const n).Value σ i) : i = n := by
  cases hi with
  | const h =>
    cases h
    rfl
  | var h | equal h | convert h => cases h
  | unread _ h => cases h

theorem value_ofVar {v : V} (hi : (ofVar v).Value σ i) : i = σ v := by
  cases hi with
  | var h =>
    cases h
    rfl
  | const h | equal h | convert h => cases h
  | unread _ _ h => cases h

theorem value_equal {x y : Expr V} (hi : (equal x y).Value σ i) :
    ∃ j k, x.Value σ j ∧ y.Value σ k ∧ i = if j = k then 1 else 0 := by
  cases hi with
  | equal h hj hk =>
    cases h
    exact ⟨_, _, hj, hk, rfl⟩
  | const h | var h | convert h | unread h => cases h

theorem value_convert {x : Expr V} (hi : (convert x).Value σ i) :
    ∃ j, x.Value σ j ∧ (i = 0 ↔ j = 0) := by
  cases hi with
  | convert h hj hij =>
    cases h
    exact ⟨_, hj, hij⟩
  | const h | var h | equal h => cases h
  | unread _ _ _ h => cases h

theorem Plain.eq_const {n : Int} (he : e.Plain) (hn : e.int? = some n) : e = .const n := by
  cases he with
  | const =>
    cases hn
    rfl
  | absent | other | var | equal | convert => cases hn

theorem Plain.eq_ofVar {v : V} (he : e.Plain) (hv : e.var? = some v) : e = .ofVar v := by
  cases he with
  | var =>
    cases hv
    rfl
  | absent | other | const | equal | convert => cases hv

theorem Plain.of_cast {x : Expr V} (he : e.Plain) (hx : e.cast? = some x) :
    x.Plain ∧ e = .convert x := by
  cases he with
  | convert hx' =>
    cases hx
    exact ⟨hx', rfl⟩
  | absent | other | const | var | equal => cases hx

end Readings

theorem evalEqual_admits {x y : Expr V} (hx : x.Plain) (hy : y.Plain) (hs : s.Describes φ σ)
    {j k : Int} (hj : x.Value σ j) (hk : y.Value σ k) :
    (evalEqual x y s).Admits φ (if j = k then 1 else 0) := by
  unfold evalEqual
  split
  · rename_i v hv
    split
    · rename_i value hvalue
      refine (hs.facts v value hvalue).negate ?_
      -- one side is zero and the other the variable
      unfold comparedWithZero at hv
      split at hv
      · rename_i hzero
        rw [hx.eq_const (n := 0) (by simpa [isZero] using hzero)] at hj
        rw [hy.eq_ofVar hv] at hk
        rw [value_const hj, value_ofVar hk]
        simp [eq_comm]
      · split at hv
        · rename_i hzero
          rw [hy.eq_const (n := 0) (by simpa [isZero] using hzero)] at hk
          rw [hx.eq_ofVar hv] at hj
          rw [value_const hk, value_ofVar hj]
          simp
        · cases hv
    · trivial
  · trivial

/-- **Evaluation is sound.** -/
theorem eval_admits (he : e.Plain) (hs : s.Describes φ σ) (hi : e.Value σ i) :
    (e.eval s).Admits φ i := by
  cases he with
  | absent | other | convert => trivial
  | const n =>
    rw [value_const hi]
    change FlagValue.Admits φ (if n = 0 then .zero else .one) n
    by_cases hn : n = 0
    · rw [if_pos hn]
      exact hn
    · rw [if_neg hn]
      exact hn
  | var v =>
    rw [value_ofVar hi]
    exact hs.get v
  | equal hx hy =>
    obtain ⟨j, k, hj, hk, rfl⟩ := value_equal hi
    exact evalEqual_admits hx hy hs hj hk

end Expr

/-! ## Merging -/

namespace Env

/-- The merged value holds on the first path. -/
theorem mergeValue_admits {c c' x x' : FlagValue} {i : Int} (hc : c.Permits φ) (hx : x.Admits φ i) :
    (mergeValue c c' x x').Admits φ i := by
  unfold mergeValue
  split
  · exact hx
  · split
    · exact iff_of_true hx hc
    · exact iff_of_false hx (Bool.eq_false_iff.mp hc)
    · exact iff_of_true hx hc
    · exact iff_of_false (not_not.mpr hx) (Bool.eq_false_iff.mp hc)
    · trivial

theorem Describes.merge_left (hs : s.Describes φ σ) (ht : ∀ v, t.Has v → s.Has v) :
    (s.merge t).Describes φ σ where
  path := by
    simp only [Env.merge]
    split
    · exact hs.path
    · trivial
  facts v x hx := by
    rw [find?_merge] at hx
    cases hsv : s.find? v with
    | none =>
      rw [hsv, Option.merge_none_left] at hx
      have : s.Has v := ht v (by rw [Has, hx]; rfl)
      rw [Has, hsv] at this
      cases this
    | some y =>
      have hy := hs.facts v y hsv
      cases htv : t.find? v with
      | none =>
        rw [hsv, htv] at hx
        cases hx
        exact hy
      | some z =>
        rw [hsv, htv] at hx
        cases hx
        exact mergeValue_admits hs.path hy

theorem Describes.merge_right (ht : t.Describes φ σ) (hs : ∀ v, s.Has v → t.Has v) :
    (s.merge t).Describes φ σ := (merge_agrees_swap s t).describes (ht.merge_left hs)

theorem Describes.foldl_merge (hs : s.Describes φ σ) {ts : List (Env V)}
    (hts : ∀ t ∈ ts, ∀ v, t.Has v → s.Has v) : (ts.foldl Env.merge s).Describes φ σ := by
  induction ts generalizing s with
  | nil => exact hs
  | cons t ts ih =>
    refine ih (hs.merge_left (hts t List.mem_cons_self)) fun u hu v hv => ?_
    exact (has_merge s t v).mpr (.inl (hts u (List.mem_cons_of_mem _ hu) v hv))

/-- **Merging is sound** for an environment that has all the facts of the others. -/
theorem Describes.foldl_merge_of_mem {ts : List (Env V)} (ht : t ∈ s :: ts)
    (hd : t.Describes φ σ) (hall : ∀ u ∈ s :: ts, ∀ v, u.Has v → t.Has v) :
    (ts.foldl Env.merge s).Describes φ σ := by
  rcases List.mem_cons.mp ht with rfl | ht
  · exact hd.foldl_merge fun u hu => hall u (List.mem_cons_of_mem _ hu)
  · obtain ⟨ls, rs, rfl⟩ := List.append_of_mem ht
    rw [List.foldl_append, List.foldl_cons]
    have hleft : ∀ v, (ls.foldl Env.merge s).Has v → t.Has v := by
      intro v hv
      rcases (has_foldl_merge ls s v).mp hv with hv | ⟨u, hu, hv⟩
      · exact hall s List.mem_cons_self v hv
      · exact hall u (List.mem_cons_of_mem _ (List.mem_append_left _ hu)) v hv
    refine (hd.merge_right hleft).foldl_merge fun u hu v hv => ?_
    have hu' : u ∈ s :: (ls ++ t :: rs) :=
      List.mem_cons_of_mem _ (List.mem_append_right _ (List.mem_cons_of_mem _ hu))
    exact (has_merge _ t v).mpr (.inr (hall u hu' v hv))

end Env

/-! ## Statements -/

namespace Stmt

variable {isFeature : String → Bool} {stmt : Stmt V}

theorem describes_markFlag (hs : s.Describes φ σ) (hm : stmt.Marks isFeature φ σ σ') :
    (stmt.markFlag isFeature s).Describes φ σ' := by
  unfold Marks at hm
  unfold markFlag
  cases hf : stmt.flagged? isFeature with
  | none =>
    rw [hf] at hm
    exact hm ▸ hs
  | some v =>
    rw [hf] at hm
    obtain ⟨i, hi, rfl⟩ := hm
    exact hs.set v hi

theorem definedValue_admits {d : Definition V} (hd : d.value.Plain) (hs : s.Describes φ σ) {i : Int}
    (hi : d.value.Value σ i) : ((definedValue d).eval s).Admits φ i := by
  unfold definedValue
  cases hd' : d.value.cast? with
  | none => exact Expr.eval_admits hd hs hi
  | some x =>
    obtain ⟨hx, heq⟩ := hd.of_cast hd'
    rw [heq] at hi
    obtain ⟨j, hj, hij⟩ := Expr.value_convert hi
    exact (Expr.eval_admits hx hs hj).congr hij

theorem describes_define (hplain : stmt.Plain) (hfree : ∀ v, stmt.DefinesAs false v → ¬ s.Has v)
    (hs : s.Describes φ σ) (hd : stmt.Defines σ σ') : (stmt.define s).Describes φ σ' := by
  unfold Defines at hd
  unfold define
  cases hdef : stmt.definition with
  | none =>
    rw [hdef] at hd
    exact hd ▸ hs
  | some d =>
    rw [hdef] at hd
    simp only at hd ⊢
    cases ht : d.target with
    | none =>
      rw [ht] at hd
      exact hd ▸ hs
    | some v =>
      rw [ht] at hd
      obtain ⟨i, hi, rfl⟩ := hd
      by_cases hp : d.primitive = true
      · simp only [if_pos hp]
        exact hs.set v (definedValue_admits (hplain.value d hdef) hs hi)
      · simp only [if_neg hp]
        exact hs.update (hfree v ⟨d, hdef, ht, by simpa using hp⟩) i

theorem fallPath_permits (hplain : stmt.Plain) (hs : s.Describes φ σ) {k : EdgeKind}
    (hk : stmt.Takes σ k) {x : FlagValue} (hx : stmt.fallPath? s = some x) :
    (if k = .fall then x else x.negate).Permits φ := by
  unfold fallPath? at hx
  unfold Takes at hk
  cases hc : stmt.condition with
  | none =>
    rw [hc] at hx
    cases hx
  | some c =>
    rw [hc] at hx hk
    obtain ⟨i, hi, hik⟩ := hk
    have hadmits := Expr.eval_admits (hplain.condition c hc) hs hi
    simp only at hx
    split at hx
    · rename_i hdep
      cases hx
      split
      · rename_i hfall
        exact hadmits.permits hdep (hik.mpr hfall)
      · rename_i hfall
        exact hadmits.permits_negate hdep (not_not.mp fun hi0 => hfall (hik.mp hi0))
    · cases hx

/-- **The effect of a statement is sound** along its fall-through edges. -/
theorem describes_transfer_fst (hplain : stmt.Plain)
    (hfree : ∀ v, stmt.DefinesAs false v → ¬ s.Has v ∧ stmt.flagged? isFeature ≠ some v)
    (hs : s.Describes φ σ) (hk : stmt.Takes σ .fall) {σ₁ : V → Int}
    (hm : stmt.Marks isFeature φ σ σ₁) (hd : stmt.Defines σ₁ σ') :
    (stmt.transfer isFeature s).1.Describes φ σ' := by
  have hmark := describes_markFlag hs hm
  have hfree' : ∀ v, stmt.DefinesAs false v → ¬ (stmt.markFlag isFeature s).Has v := by
    intro v hv hhas
    rcases (has_markFlag isFeature stmt s v).mp hhas with h | h
    · exact (hfree v hv).1 h
    · exact (hfree v hv).2 h
  unfold transfer split
  cases hx : stmt.fallPath? s with
  | none => exact describes_define hplain hfree' hmark hd
  | some x =>
    exact describes_define hplain hfree' (hmark.withPath (fallPath_permits hplain hs hk hx)) hd

/-- Along its branch edges a statement has no effect but on the path condition. -/
theorem describes_transfer_snd (hplain : stmt.Plain) (hs : s.Describes φ σ)
    (hk : stmt.Takes σ .branch) : (stmt.transfer isFeature s).2.Describes φ σ := by
  unfold transfer split
  cases hx : stmt.fallPath? s with
  | none => exact hs
  | some x => exact hs.withPath (fallPath_permits hplain hs hk hx)

end Stmt

end FlagFlow
