import FlagFlow.Proofs.FactSources
import FlagFlow.Proofs.Meaning
import Mathlib.Tactic.FinCases

/-!
# Soundness of the analysis

Whatever a run of the program does, the complete result of the analysis describes the assignment
with which it comes to a node. Two features of the analysis have to be excluded. Effects are only
seen along fall-through edges, so a node with branch edges may have none. And a fact that only one
of the merged environments has is kept, though it says nothing about runs that come from the others;
the result must not contain such a fact.

* `Body.Reaches`: the nodes and assignments that runs come to.
* `Body.Regular`: what is asked of the statements; `Body.Balanced`: no fact is one-sided.
* `Body.Regular.free`: a variable that is defined without a primitive type has no facts.
* **`Body.analysis_sound`**: the result of the analysis describes every run.
-/

namespace FlagFlow

namespace Body

variable {N V : Type} [DecidableEq V]

/-- The nodes that a run for the state `φ` of the flag comes to, with the values that the variables
have there. At the entry they may have any value. -/
inductive Reaches (b : Body N V) (isFeature : String → Bool) (φ : Bool) : N → (V → Int) → Prop
  | start (σ : V → Int) : Reaches b isFeature φ b.entry σ
  | step {n m : N} {k : EdgeKind} {σ σ₁ σ₂ : V → Int} : Reaches b isFeature φ n σ → n ∈ b.nodes →
      m ∈ b.succsBy k n → (b.stmt n).Takes σ k → (b.stmt n).Marks isFeature φ σ σ₁ →
      (b.stmt n).Defines σ₁ σ₂ → Reaches b isFeature φ m σ₂

/-- What is asked of the statements: their expressions are plain, a node with branch edges has no
effect on variables, and a variable that is defined without a primitive type is neither defined with
one nor the argument of a feature call. -/
structure Regular (b : Body N V) (isFeature : String → Bool) : Prop where
  plain : ∀ n ∈ b.nodes, (b.stmt n).Plain
  branches : ∀ n ∈ b.nodes, b.branch n ≠ [] →
    (b.stmt n).definition = none ∧ (b.stmt n).flagged? isFeature = none
  separate : ∀ n ∈ b.nodes, ∀ m ∈ b.nodes, ∀ v, (b.stmt n).DefinesAs false v →
    ¬ (b.stmt m).DefinesAs true v ∧ (b.stmt m).flagged? isFeature ≠ some v

variable [DecidableEq N] {b : Body N V} {isFeature : String → Bool} {maxVisits : Int}
  {s : Solution N (Env V)} {φ : Bool} {n : N} {σ : V → Int}

variable (b s) in
/-- No fact is one-sided: a fact before a node is there along every edge from a reachable node, and
before the entry, where control comes from outside without any, there are no facts. -/
structure Balanced : Prop where
  entry : ∀ v, ¬ (s.flowsAt b.entry).before.Has v
  edges : ∀ n ∈ b.nodes, ∀ e ∈ b.entering n, b.Reachable e.1 → ∀ v,
    (s.flowsAt n).before.Has v → ((s.flowsAt e.1).out e.2).Has v

omit [DecidableEq N] in
theorem Reaches.reachable (hr : b.Reaches isFeature φ n σ) : b.Reachable n := by
  induction hr with
  | start => exact ⟨[], .nil⟩
  | step _ hn hm _ _ _ ih => exact ih.snoc hn hm

theorem Regular.free (hreg : b.Regular isFeature) (hb : b.PredsAgree)
    (hs : b.analyze isFeature maxVisits = .ok s) (hn : n ∈ b.nodes) {v : V}
    (hv : (b.stmt n).DefinesAs false v) :
    ¬ (s.flowsAt n).before.Has v ∧ (b.stmt n).flagged? isFeature ≠ some v := by
  refine ⟨fun hhas => ?_, (hreg.separate n hn n hn v hv).2⟩
  obtain ⟨m, hm, h | h⟩ := tracked_of_has hb hs hn hhas
  · exact (hreg.separate n hn m hm v hv).2 h
  · exact (hreg.separate n hn m hm v hv).1 h

/-! ## The simulation -/

theorem describes_before (hs : b.analyze isFeature maxVisits = .ok s) (hc : s.converged = true)
    (hn : n ∈ b.nodes) {t : Env V} (ht : t ∈ b.arriving isFeature s n) (hd : t.Describes φ σ)
    (hall : ∀ v, (s.flowsAt n).before.Has v → t.Has v) :
    (s.flowsAt n).before.Describes φ σ := by
  refine (before_agrees hs hc hn).describes ?_
  have hfacts : ∀ u ∈ b.arriving isFeature s n, ∀ v, u.Has v → t.Has v := fun u hu v hv =>
    hall v ((has_before_iff hs hc hn v).mpr ⟨u, hu, hv⟩)
  cases harr : b.arriving isFeature s n with
  | nil =>
    rw [harr] at ht
    cases ht
  | cons u us =>
    rw [harr] at ht hfacts
    exact Env.Describes.foldl_merge_of_mem ht hd hfacts

/-- **A step of a run.** What is known along the edge that the run takes holds after it. -/
theorem describes_out (hb : b.PredsAgree) (hreg : b.Regular isFeature)
    (hs : b.analyze isFeature maxVisits = .ok s) (hc : s.converged = true) (hn : n ∈ b.nodes)
    {k : EdgeKind} (hk : b.succsBy k n ≠ []) {σ₁ σ₂ : V → Int}
    (hd : (s.flowsAt n).before.Describes φ σ) (htakes : (b.stmt n).Takes σ k)
    (hmarks : (b.stmt n).Marks isFeature φ σ σ₁) (hdefines : (b.stmt n).Defines σ₁ σ₂) :
    ((s.flowsAt n).out k).Describes φ σ₂ := by
  cases k with
  | fall =>
    change (s.flowsAt n).fall.Describes φ σ₂
    rw [fall_eq hs hc hn]
    exact Stmt.describes_transfer_fst (hreg.plain n hn) (fun v hv => hreg.free hb hs hn hv) hd htakes
      hmarks hdefines
  | branch =>
    -- a node with branch edges changes no variable
    obtain ⟨hdef, hflag⟩ := hreg.branches n hn hk
    have h₁ : σ₁ = σ := by simpa [Stmt.Marks, hflag] using hmarks
    have h₂ : σ₂ = σ₁ := by simpa [Stmt.Defines, hdef] using hdefines
    subst h₁ h₂
    change (s.flowsAt n).branch.Describes φ σ₂
    rw [branch_eq hs hc hn]
    exact Stmt.describes_transfer_snd (hreg.plain n hn) hd htakes

theorem describes_of_reaches (hb : b.PredsAgree) (hreg : b.Regular isFeature)
    (hs : b.analyze isFeature maxVisits = .ok s) (hc : s.converged = true) (hbal : b.Balanced s)
    (hr : b.Reaches isFeature φ n σ) (hn : n ∈ b.nodes) : (s.flowsAt n).before.Describes φ σ := by
  induction hr with
  | start σ =>
    refine describes_before hs hc hn (mem_arriving.mpr (.inr ⟨rfl, rfl⟩)) ⟨trivial, ?_⟩ ?_
    · exact fun v x hx => by cases hx
    · exact fun v hv => absurd hv (hbal.entry v)
  | @step n m k σ σ₁ σ₂ hr hn' hm htakes hmarks hdefines ih =>
    have he : (n, k) ∈ b.entering m := (hb.mem_entering hn).mpr ⟨hn', hm⟩
    have hout : ((s.flowsAt n).out k).Describes φ σ₂ :=
      describes_out hb hreg hs hc hn' (List.ne_nil_of_mem hm) (ih hn') htakes hmarks hdefines
    exact describes_before hs hc hn (mem_arriving.mpr (.inl ⟨(n, k), he, rfl⟩)) hout
      (hbal.edges m hn (n, k) he hr.reachable)

/-- **Soundness.** If no fact is one-sided, a complete analysis describes every run. -/
theorem analysis_sound (hb : b.PredsAgree) (hreg : b.Regular isFeature)
    (hs : b.analyze isFeature maxVisits = .ok s) (hc : s.converged = true) (hbal : b.Balanced s)
    (hr : b.Reaches isFeature φ n σ) (hn : n ∈ b.nodes) :
    (s.flowsAt n).before.Describes φ σ ∧
      ∀ x, (n, x) ∈ b.flagBranches s → ∀ c i, (b.stmt n).condition = some c → c.Value σ i →
        x.Admits φ i := by
  have hd := describes_of_reaches hb hreg hs hc hbal hr hn
  refine ⟨hd, fun x hx c i hcond hi => ?_⟩
  have hfall := ((mem_flagBranches hs).mp hx).2
  simp only [Stmt.fallPath?, hcond] at hfall
  split at hfall
  · cases hfall
    exact Expr.eval_admits ((hreg.plain n hn).condition c hcond) hd hi
  · cases hfall

theorem regular_toggle : toggle.Regular (fun _ => true) where
  plain n _ := by
    fin_cases n
    · exact ⟨nofun, nofun⟩
    · exact ⟨fun c hc => Option.some.inj hc ▸ .var 0, nofun⟩
    · exact ⟨nofun, fun d hd => Option.some.inj hd ▸ .const 1⟩
    · exact ⟨nofun, fun d hd => Option.some.inj hd ▸ .const 0⟩
    · exact ⟨fun c hc => Option.some.inj hc ▸ .equal (.var 1) (.const 0), nofun⟩
    · exact ⟨nofun, nofun⟩
    · exact ⟨nofun, nofun⟩
  branches n _ hn := by
    fin_cases n
    · exact absurd rfl hn
    · exact ⟨rfl, rfl⟩
    · exact absurd rfl hn
    · exact absurd rfl hn
    · exact ⟨rfl, rfl⟩
    · exact absurd rfl hn
    · exact absurd rfl hn
  separate n _ m _ v := by
    rintro ⟨d, hd, -, hprim⟩
    fin_cases n <;> cases hd <;> cases hprim

theorem reaches_toggle : toggle.Reaches (fun _ => true) false 5 (fun _ => 0) := by
  have h0 : toggle.Reaches (fun _ => true) false 0 (fun _ => 0) := .start _
  have h1 : toggle.Reaches (fun _ => true) false 1 (fun _ => 0) :=
    h0.step (k := .fall) (by decide) (by decide) trivial
      ⟨0, by decide, (Function.update_eq_self (0 : Fin 2) fun _ => (0 : Int)).symm⟩ rfl
  have h3 : toggle.Reaches (fun _ => true) false 3 (fun _ => 0) :=
    h1.step (k := .branch) (by decide) (by decide) ⟨0, .var rfl, by decide⟩ rfl rfl
  have h4 : toggle.Reaches (fun _ => true) false 4 (fun _ => 0) :=
    h3.step (k := .fall) (by decide) (by decide) trivial rfl
      ⟨0, .const rfl, (Function.update_eq_self (1 : Fin 2) fun _ => (0 : Int)).symm⟩
  exact h4.step (k := .fall) (by decide) (by decide)
    ⟨_, .equal rfl (.var (v := 1) rfl) (.const (i := 0) rfl), by decide⟩ rfl rfl

theorem analysis_sound_toggle :
    toggle.PredsAgree ∧ toggle.Regular (fun _ => true) ∧
      toggle.Reaches (fun _ => true) false 5 (fun _ => 0) ∧
      ∃ s, toggle.analyze (fun _ => true) 0 = .ok s ∧ s.converged = true ∧ toggle.Balanced s ∧
        (s.flowsAt 5).before.path = .notFlag ∧ (s.flowsAt 5).before.find? 1 = some .flag ∧
        (s.flowsAt 5).before.Describes false (fun _ => 0) := by
  obtain ⟨s, hs, hc, hentry, hedges, hpath, hfact⟩ :=
    exists_ok_of_toOption (r := toggle.analyze (fun _ => true) 0)
      (P := fun s => s.converged = true ∧ (∀ v, ¬ (s.flowsAt toggle.entry).before.Has v) ∧
        (∀ n ∈ toggle.nodes, ∀ e ∈ toggle.entering n, ∀ v,
          (s.flowsAt n).before.Has v → ((s.flowsAt e.1).out e.2).Has v) ∧
        (s.flowsAt 5).before.path = .notFlag ∧ (s.flowsAt 5).before.find? 1 = some .flag)
      (by decide)
  have hbal : toggle.Balanced s := ⟨hentry, fun n hn e he _ => hedges n hn e he⟩
  have hsound := analysis_sound predsAgree_toggle regular_toggle hs hc hbal reaches_toggle (by decide)
  exact ⟨predsAgree_toggle, regular_toggle, reaches_toggle, s, hs, hc, hbal, hpath, hfact, hsound.1⟩

end Body

end FlagFlow
