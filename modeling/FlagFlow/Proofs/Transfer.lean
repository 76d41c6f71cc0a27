import FlagFlow.Transfer
import FlagFlow.Proofs.Env

/-!
# Laws of the effect of a statement

What a statement does to the path condition and to the set of variables that have facts.

* `path_transfer_fst`, `path_transfer_snd`: the path condition changes only at a branch on the flag.
* `DefinesAs`: the variables that a statement defines, with or without a primitive type.
* `has_transfer_fst`, `has_transfer_snd`: a statement never removes a fact, and makes one only along
  its fall-through edges, for a defined variable or the argument of a feature call.
* `find?_transfer_fst_of_not`: the facts about all other variables stay as they are.
-/

namespace FlagFlow

theorem FlagValue.dependsOnFlag_negate (x : FlagValue) : x.negate.dependsOnFlag = x.dependsOnFlag := by
  cases x <;> rfl

namespace Stmt

variable {V : Type}

/-- The statement defines a variable, of a primitive type or not. -/
def DefinesAs (primitive : Bool) (stmt : Stmt V) (v : V) : Prop :=
  ∃ d, stmt.definition = some d ∧ d.target = some v ∧ d.primitive = primitive

variable [DecidableEq V]

/-! ## Path conditions -/

theorem path_markFlag (isFeature : String → Bool) (stmt : Stmt V) (s : Env V) :
    (stmt.markFlag isFeature s).path = s.path := by
  unfold markFlag
  split <;> rfl

theorem path_define (stmt : Stmt V) (s : Env V) : (stmt.define s).path = s.path := by
  unfold define
  split
  · split
    · split <;> rfl
    · rfl
  · rfl

/-- A statement splits the path condition if it has a condition that depends on the flag. -/
theorem fallPath?_eq_some_iff {stmt : Stmt V} {s : Env V} {x : FlagValue} :
    stmt.fallPath? s = some x ↔
      ∃ c, stmt.condition = some c ∧ c.eval s = x ∧ x.dependsOnFlag = true := by
  unfold fallPath?
  cases stmt.condition with
  | none => simp
  | some c =>
    simp only [Option.ite_none_right_eq_some, Option.some.injEq, exists_eq_left']
    constructor
    · rintro ⟨hdep, rfl⟩
      exact ⟨rfl, hdep⟩
    · rintro ⟨rfl, hdep⟩
      exact ⟨hdep, rfl⟩

theorem dependsOnFlag_of_fallPath {stmt : Stmt V} {s : Env V} {x : FlagValue}
    (h : stmt.fallPath? s = some x) : x.dependsOnFlag = true :=
  let ⟨_, _, _, hdep⟩ := fallPath?_eq_some_iff.mp h
  hdep

theorem path_transfer_fst (isFeature : String → Bool) (stmt : Stmt V) (s : Env V) :
    (stmt.transfer isFeature s).1.path = (stmt.fallPath? s).getD s.path := by
  unfold transfer split
  rw [path_define]
  cases stmt.fallPath? s with
  | none => exact path_markFlag isFeature stmt s
  | some x => rfl

theorem path_transfer_snd (isFeature : String → Bool) (stmt : Stmt V) (s : Env V) :
    (stmt.transfer isFeature s).2.path = ((stmt.fallPath? s).map FlagValue.negate).getD s.path := by
  unfold transfer split
  cases stmt.fallPath? s <;> rfl

/-! ## Variables with facts -/

theorem has_markFlag (isFeature : String → Bool) (stmt : Stmt V) (s : Env V) (v : V) :
    (stmt.markFlag isFeature s).Has v ↔ s.Has v ∨ stmt.flagged? isFeature = some v := by
  unfold markFlag
  cases stmt.flagged? isFeature with
  | none => simp
  | some w => simp [Env.has_set]

theorem has_define (stmt : Stmt V) (s : Env V) (v : V) :
    (stmt.define s).Has v ↔ s.Has v ∨ stmt.DefinesAs true v := by
  unfold define DefinesAs
  cases stmt.definition with
  | none => simp
  | some d =>
    obtain ⟨target, value, primitive⟩ := d
    cases target with
    | none => simp
    | some w => cases primitive <;> simp [Env.has_set]

theorem has_transfer_fst (isFeature : String → Bool) (stmt : Stmt V) (s : Env V) (v : V) :
    (stmt.transfer isFeature s).1.Has v ↔
      s.Has v ∨ stmt.flagged? isFeature = some v ∨ stmt.DefinesAs true v := by
  unfold transfer split
  rw [← or_assoc, ← has_markFlag]
  cases stmt.fallPath? s with
  | none => exact has_define stmt _ v
  | some x => exact has_define stmt _ v

theorem find?_markFlag_of_ne {isFeature : String → Bool} {stmt : Stmt V} {v : V}
    (h : stmt.flagged? isFeature ≠ some v) (s : Env V) :
    (stmt.markFlag isFeature s).find? v = s.find? v := by
  unfold markFlag
  split
  · rename_i w hw
    rw [Env.find?_set, if_neg]
    rintro rfl
    exact h hw
  · rfl

theorem find?_define_of_not {stmt : Stmt V} {v : V} (h : ¬ stmt.DefinesAs true v) (s : Env V) :
    (stmt.define s).find? v = s.find? v := by
  unfold define
  split
  · rename_i d hd
    split
    · rename_i w hw
      split
      · rename_i hprimitive
        rw [Env.find?_set, if_neg]
        rintro rfl
        exact h ⟨d, hd, hw, hprimitive⟩
      · rfl
    · rfl
  · rfl

/-- A statement keeps the facts that it neither defines nor marks. -/
theorem find?_transfer_fst_of_not {isFeature : String → Bool} {stmt : Stmt V} {v : V}
    (hflag : stmt.flagged? isFeature ≠ some v) (hdef : ¬ stmt.DefinesAs true v) (s : Env V) :
    (stmt.transfer isFeature s).1.find? v = s.find? v := by
  unfold transfer split
  rw [find?_define_of_not hdef]
  cases stmt.fallPath? s with
  | none => exact find?_markFlag_of_ne hflag s
  | some x => exact find?_markFlag_of_ne hflag s

theorem has_transfer_snd (isFeature : String → Bool) (stmt : Stmt V) (s : Env V) (v : V) :
    (stmt.transfer isFeature s).2.Has v ↔ s.Has v := by
  unfold transfer split
  cases stmt.fallPath? s <;> rfl

end Stmt

end FlagFlow
