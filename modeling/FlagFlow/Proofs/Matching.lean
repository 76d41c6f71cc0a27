import FlagFlow.Regex.Reach
import Mathlib.Data.Nat.Bitwise

/-!
# What matching computes

Which parts of a text an expression matches is told by recursion on the expression. Matching works
on sets of positions instead, follows a repetition only from positions that are new, and stops after
as many rounds as there are positions. Both agree.

* `Matches`: the expression matches the part of a text between two positions.
* `Steps`: a relation, a number of times.
* `Moves`: a function on sets of positions that follows a relation.
* `Leads`: some steps that avoid a set; `Leads.restart`: steps that do not avoid it can be taken up
  where they left it last.
* `Plan.moves_times`: repetition; `moves_reach_plan`: the plan of an expression.
* **`matchesIn_iff`**: an expression matches in a text if it matches some part of it.
-/

namespace FlagFlow.Regex

/-! ## Parts of a text -/

section

variable {R : Nat → Nat → Prop} {i j k m n : Nat}

/-- A relation, `n` times. -/
def Steps (R : Nat → Nat → Prop) : (n i j : Nat) → Prop
  | 0, i, j => i = j
  | n + 1, i, j => ∃ k, R i k ∧ Steps R n k j

theorem steps_succ_last : Steps R (n + 1) i j ↔ ∃ k, Steps R n i k ∧ R k j := by
  induction n generalizing i with
  | zero => simp [Steps]
  | succ n ih =>
    rw [Steps]
    simp only [ih]
    constructor
    · rintro ⟨a, ha, k, hk, hj⟩
      exact ⟨k, ⟨a, ha, hk⟩, hj⟩
    · rintro ⟨k, ⟨a, ha, hk⟩, hj⟩
      exact ⟨a, ha, k, hk, hj⟩

theorem steps_add : Steps R (m + n) i j ↔ ∃ k, Steps R m i k ∧ Steps R n k j := by
  induction m generalizing i with
  | zero => simp [Steps]
  | succ m ih =>
    rw [Nat.succ_add, Steps]
    simp only [ih]
    constructor
    · rintro ⟨a, ha, k, hk, hj⟩
      exact ⟨k, ⟨a, ha, hk⟩, hj⟩
    · rintro ⟨k, ⟨a, ha, hk⟩, hj⟩
      exact ⟨a, ha, k, hk, hj⟩

end

/-- The expression matches the part of the text from position `i` to position `j`. -/
def Matches (text : Array Char) : Regex → (i j : Nat) → Prop
  | empty, i, j => i = j ∧ i ≤ text.size
  | one s, i, j => i + 1 = j ∧ after text s i = true
  | anchor a, i, j => i = j ∧ i ≤ text.size ∧ a.holds text i = true
  | cat r s, i, j => ∃ k, Matches text r i k ∧ Matches text s k j
  | alt r s, i, j => Matches text r i j ∨ Matches text s i j
  | group _ r, i, j => Matches text r i j
  | rep r min max, i, j => ∃ n, min ≤ n ∧ (∀ m ∈ max, n ≤ m) ∧ Steps (Matches text r) n i j

theorem Matches.bounds {text : Array Char} {r : Regex} {i j : Nat} (h : Matches text r i j) :
    i ≤ j ∧ (j ≤ text.size ∨ j = i) := by
  induction r generalizing i j with
  | empty => exact ⟨by simp [h.1], .inr h.1.symm⟩
  | one s =>
    obtain ⟨rfl, hafter⟩ := h
    refine ⟨Nat.le_succ i, .inl ?_⟩
    by_contra hlt
    rw [after, Array.getElem?_eq_none (by omega)] at hafter
    cases hafter
  | anchor a => exact ⟨by simp [h.1], .inr h.1.symm⟩
  | cat r s ihr ihs =>
    obtain ⟨k, hr, hs⟩ := h
    have := ihr hr
    have := ihs hs
    omega
  | alt r s ihr ihs => exact h.elim ihr ihs
  | group c r ih => exact ih h
  | rep r min max ih =>
    obtain ⟨n, -, -, hsteps⟩ := h
    induction n generalizing i with
    | zero => exact ⟨by simp [show i = j from hsteps], .inr (Eq.symm hsteps)⟩
    | succ n ihn =>
      obtain ⟨k, hk, hsteps⟩ := hsteps
      have := ih hk
      have := ihn hsteps
      omega

/-! ## Steps that avoid a set -/

section

variable {R : Nat → Nat → Prop} {A B : Nat → Prop} {i j k m n : Nat}

/-- From one to `n` steps, where no position between the first and the last one is in `A`. -/
def Leads (R : Nat → Nat → Prop) (A : Nat → Prop) : (n i j : Nat) → Prop
  | 0, _, _ => False
  | n + 1, i, j => R i j ∨ ∃ k, R i k ∧ ¬ A k ∧ Leads R A n k j

theorem Leads.mono (h : Leads R A n i j) (hnm : n ≤ m) : Leads R A m i j := by
  induction n generalizing i m with
  | zero => exact h.elim
  | succ n ih =>
    obtain ⟨m, rfl⟩ : ∃ m', m = m' + 1 := ⟨m - 1, by omega⟩
    exact h.imp_right fun ⟨k, hk, hA, h⟩ => ⟨k, hk, hA, ih h (by omega)⟩

theorem Leads.anti (h : Leads R B n i j) (hAB : ∀ k, A k → B k) : Leads R A n i j := by
  induction n generalizing i with
  | zero => exact h
  | succ n ih => exact h.imp_right fun ⟨k, hk, hB, h⟩ => ⟨k, hk, fun hA => hB (hAB k hA), ih h⟩

/-- **Starting again.** Steps that avoid `A` avoid `B` from the last position in `B` on. -/
theorem Leads.restart (h : Leads R A n i j) :
    Leads R (fun k => A k ∨ B k) n i j ∨ ∃ k, B k ∧ Leads R (fun k => A k ∨ B k) n k j := by
  induction n generalizing i with
  | zero => exact h.elim
  | succ n ih =>
    obtain h | ⟨k, hk, hA, h⟩ := h
    · exact .inl (.inl h)
    · obtain h | ⟨l, hl, h⟩ := ih h
      · by_cases hB : B k
        · exact .inr ⟨k, hB, h.mono (Nat.le_succ n)⟩
        · exact .inl (.inr ⟨k, hk, fun hAB => hAB.elim hA hB, h⟩)
      · exact .inr ⟨l, hl, h.mono (Nat.le_succ n)⟩

theorem leads_iff_steps : Leads R (fun _ => False) n i j ↔ ∃ m, 1 ≤ m ∧ m ≤ n ∧ Steps R m i j := by
  induction n generalizing i with
  | zero => exact ⟨fun h => h.elim, fun ⟨m, hm, hm', _⟩ => by omega⟩
  | succ n ih =>
    constructor
    · rintro (h | ⟨k, hk, -, h⟩)
      · exact ⟨1, by omega, by omega, j, h, rfl⟩
      · obtain ⟨m, -, hmn, h⟩ := ih.mp h
        exact ⟨m + 1, by omega, by omega, k, hk, h⟩
    · rintro ⟨m, hm, hmn, h⟩
      obtain ⟨m, rfl⟩ : ∃ m', m = m' + 1 := ⟨m - 1, by omega⟩
      obtain ⟨k, hk, h⟩ := h
      cases m with
      | zero =>
        cases h
        exact .inl hk
      | succ m => exact .inr ⟨k, hk, not_false, ih.mpr ⟨m + 1, by omega, by omega, h⟩⟩

/-- Steps that never go back need not be more than the positions between the ends. -/
theorem Leads.shorten (hR : ∀ i j, R i j → i ≤ j) (h : Leads R A n i j) :
    i ≤ j ∧ Leads R A (j - i + 1) i j := by
  induction n generalizing i with
  | zero => exact h.elim
  | succ n ih =>
    obtain h | ⟨k, hk, hA, h⟩ := h
    · exact ⟨hR i j h, .inl h⟩
    · obtain ⟨hkj, h⟩ := ih h
      have hik := hR i k hk
      refine ⟨hik.trans hkj, ?_⟩
      obtain rfl | hlt := Nat.eq_or_lt_of_le hik
      · exact h
      · exact .inr ⟨k, hk, hA, h.mono (by omega)⟩

end

/-! ## Sets of positions -/

theorem testBit_positions (p : Nat → Bool) (n i : Nat) :
    (positions p n).testBit i = true ↔ i < n ∧ p i = true := by
  induction n with
  | zero => simp [positions]
  | succ n ih =>
    rw [positions]
    split
    · rename_i hp
      rw [Nat.testBit_or, Bool.or_eq_true, ih, Nat.one_shiftLeft, Nat.testBit_two_pow,
        decide_eq_true_iff]
      constructor
      · rintro (⟨hi, h⟩ | rfl)
        · exact ⟨by omega, h⟩
        · exact ⟨by omega, hp⟩
      · rintro ⟨hi, h⟩
        exact (Nat.lt_or_eq_of_le (Nat.le_of_lt_succ hi)).imp (fun hi => ⟨hi, h⟩) Eq.symm
    · rename_i hp
      rw [ih]
      refine ⟨fun ⟨hi, h⟩ => ⟨by omega, h⟩, fun ⟨hi, h⟩ => ⟨?_, h⟩⟩
      obtain hi | rfl := Nat.lt_or_eq_of_le (Nat.le_of_lt_succ hi)
      · exact hi
      · exact absurd h hp

theorem testBit_without (s t i : Nat) :
    (without s t).testBit i = true ↔ s.testBit i = true ∧ ¬ t.testBit i = true := by
  rw [without, Nat.testBit_xor, Nat.testBit_and]
  cases s.testBit i <;> cases t.testBit i <;> simp

theorem ne_zero_iff_exists_testBit {s : Nat} : s ≠ 0 ↔ ∃ i, s.testBit i = true := by
  refine ⟨fun h => ?_, fun ⟨i, hi⟩ h => by simp [h] at hi⟩
  by_contra hnone
  exact h (Nat.eq_of_testBit_eq fun i => by simpa using fun hi => hnone ⟨i, hi⟩)

/-- The function takes a set of positions to the positions that the relation leads to. -/
def Moves (step : Nat → Nat) (R : Nat → Nat → Prop) : Prop :=
  ∀ s j, (step s).testBit j = true ↔ ∃ i, s.testBit i = true ∧ R i j

namespace Plan

variable {step : Nat → Nat} {R : Nat → Nat → Prop}

/-- **Following a relation** may skip the positions that were seen before. -/
theorem testBit_follow (hstep : Moves step R) (n seen found fresh j : Nat) :
    (follow step n seen found fresh).testBit j = true ↔
      found.testBit j = true ∨ ∃ i, fresh.testBit i = true ∧
      Leads R (fun k => seen.testBit k = true) n i j := by
  induction n generalizing seen found fresh with
  | zero => simp [follow, Leads]
  | succ n ih =>
    -- what is new after one step
    have hnew : ∀ k, (without (step fresh) seen).testBit k = true ↔
        ∃ i, fresh.testBit i = true ∧ R i k ∧ ¬ seen.testBit k = true := fun k => by
      rw [testBit_without, hstep]
      exact ⟨fun ⟨⟨i, hi, hk⟩, h⟩ => ⟨i, hi, hk, h⟩, fun ⟨i, hi, hk, h⟩ => ⟨⟨i, hi, hk⟩, h⟩⟩
    have hleads :
      (∃ i, fresh.testBit i = true ∧ Leads R (fun k => seen.testBit k = true) (n + 1) i j) ↔
        (step fresh).testBit j = true ∨ ∃ k, (without (step fresh) seen).testBit k = true ∧
          Leads R (fun k => seen.testBit k = true) n k j := by
      simp only [hnew, hstep fresh j, Leads]
      constructor
      · rintro ⟨i, hi, h | ⟨k, hk, hseen, h⟩⟩
        · exact .inl ⟨i, hi, h⟩
        · exact .inr ⟨k, ⟨i, hi, hk, hseen⟩, h⟩
      · rintro (⟨i, hi, h⟩ | ⟨k, ⟨i, hi, hk, hseen⟩, h⟩)
        · exact ⟨i, hi, .inl h⟩
        · exact ⟨i, hi, .inr ⟨k, hk, hseen, h⟩⟩
    rw [hleads, follow]
    split
    · rename_i hzero
      rw [Nat.testBit_or, Bool.or_eq_true]
      refine or_congr_right ⟨.inl, fun h => h.resolve_right ?_⟩
      rintro ⟨k, hk, -⟩
      rw [hzero, Nat.zero_testBit] at hk
      cases hk
    · rw [ih, Nat.testBit_or, Bool.or_eq_true, or_assoc]
      refine or_congr_right (or_congr_right ⟨fun ⟨k, hk, h⟩ => ⟨k, hk, h.anti fun l hl => ?_⟩, ?_⟩)
      · rw [Nat.testBit_or, hl, Bool.true_or]
      · rintro ⟨k, hk, h⟩
        have hseen : (fun l => (seen ||| without (step fresh) seen).testBit l = true) =
            fun l => seen.testBit l = true ∨ (without (step fresh) seen).testBit l = true := by
          funext l
          rw [Nat.testBit_or, Bool.or_eq_true]
        rw [hseen]
        exact h.restart.elim (fun h => ⟨k, hk, h⟩) fun ⟨l, hl, h⟩ => ⟨l, hl, h⟩

theorem testBit_follow_start (hstep : Moves step R) (n s j : Nat) :
    (follow step n s 0 s).testBit j = true ↔
      ∃ i, s.testBit i = true ∧ ∃ m, 1 ≤ m ∧ m ≤ n ∧ Steps R m i j := by
  rw [testBit_follow hstep, Nat.zero_testBit]
  simp only [← leads_iff_steps, Bool.false_eq_true, false_or]
  constructor
  · rintro ⟨i, hi, h⟩
    exact ⟨i, hi, h.anti fun _ => False.elim⟩
  · rintro ⟨i, hi, h⟩
    have hset : (fun k => False ∨ s.testBit k = true) = fun k => s.testBit k = true := by
      funext k
      rw [false_or]
    obtain h | ⟨k, hk, h⟩ := h.restart (B := fun k => s.testBit k = true)
    · exact ⟨i, hi, hset ▸ h⟩
    · exact ⟨k, hk, hset ▸ h⟩

theorem moves_repeat (hstep : Moves step R) (n : Nat) : Moves (n.repeat step) (Steps R n) := by
  induction n with
  | zero => exact fun s j => ⟨fun h => ⟨j, h, rfl⟩, fun ⟨i, hi, h⟩ => h ▸ hi⟩
  | succ n ih =>
    intro s j
    rw [Nat.repeat, hstep]
    simp only [ih s, steps_succ_last]
    exact ⟨fun ⟨k, ⟨i, hi, hk⟩, h⟩ => ⟨i, hi, k, hk, h⟩, fun ⟨i, hi, k, hk, h⟩ => ⟨k, ⟨i, hi, hk⟩, h⟩⟩

theorem moves_times (hstep : Moves step R) (min max : Nat) :
    Moves (times step min max) fun i j => ∃ m, min ≤ m ∧ m ≤ max ∧ Steps R m i j := by
  intro s j
  cases min with
  | zero =>
    rw [times, Nat.testBit_or, Bool.or_eq_true, testBit_follow_start hstep]
    constructor
    · rintro (h | ⟨i, hi, m, -, hm, h⟩)
      · exact ⟨j, h, 0, Nat.le_refl 0, Nat.zero_le max, rfl⟩
      · exact ⟨i, hi, m, Nat.zero_le m, hm, h⟩
    · rintro ⟨i, hi, m, -, hm, h⟩
      cases m with
      | zero =>
        cases h
        exact .inl hi
      | succ m => exact .inr ⟨i, hi, m + 1, Nat.succ_pos m, hm, h⟩
  | succ min =>
    rw [times, testBit_follow_start hstep]
    simp only [moves_repeat hstep min s]
    constructor
    · rintro ⟨k, ⟨i, hi, hk⟩, m, hm, hle, h⟩
      exact ⟨i, hi, min + m, by omega, by omega, steps_add.mpr ⟨k, hk, h⟩⟩
    · rintro ⟨i, hi, m, hm, hle, h⟩
      obtain ⟨l, rfl⟩ : ∃ l, m = min + l := ⟨m - min, by omega⟩
      obtain ⟨k, hk, h⟩ := steps_add.mp h
      exact ⟨k, ⟨i, hi, hk⟩, l, by omega, by omega, h⟩

end Plan

/-! ## Expressions -/

theorem mem_conditions (c : Condition) (r : Regex) (cs : List Condition) :
    c ∈ r.conditions cs ↔ c ∈ r.conditions [] ∨ c ∈ cs := by
  induction r generalizing cs with
  | empty => simp [conditions]
  | one s => simp [conditions]
  | anchor a => simp [conditions]
  | cat r s ihr ihs | alt r s ihr ihs =>
    rw [conditions, ihs, ihr, conditions, ihs (r.conditions []), or_assoc]
  | group b r ih => exact ih cs
  | rep r min max ih => exact ih cs

/-- **The plan of an expression.** It needs to know where the conditions of the expression hold. -/
theorem moves_reach_plan (text : Array Char) (here : Condition → Nat) (r : Regex)
    (hhere : ∀ c ∈ r.conditions [], here c = positions (c.holds text) (text.size + 1)) :
    Moves (r.plan text.size (positions (fun _ => true) (text.size + 1)) here).reach
      (Matches text r) := by
  induction r with
  | empty =>
    intro s j
    rw [plan, Plan.reach, Nat.testBit_and, Bool.and_eq_true, testBit_positions]
    constructor
    · rintro ⟨h, hj, -⟩
      exact ⟨j, h, rfl, Nat.le_of_lt_succ hj⟩
    · rintro ⟨i, hi, rfl, hle⟩
      exact ⟨hi, Nat.lt_succ_of_le hle, rfl⟩
  | one t =>
    intro s j
    rw [plan, Plan.reach, hhere (.next t) (by simp [conditions]), Nat.testBit_shiftLeft,
      Bool.and_eq_true, decide_eq_true_iff, Nat.testBit_and, Bool.and_eq_true, testBit_positions]
    constructor
    · rintro ⟨hj, h, -, hafter⟩
      exact ⟨j - 1, h, by omega, hafter⟩
    · rintro ⟨i, hi, rfl, hafter⟩
      have hlt : i < text.size + 1 := by
        have := (Matches.bounds (r := .one t) ⟨rfl, hafter⟩).2
        omega
      exact ⟨Nat.succ_pos i, hi, hlt, hafter⟩
  | anchor a =>
    intro s j
    rw [plan, Plan.reach, hhere (.anchor a) (by simp [conditions]), Nat.testBit_and, Bool.and_eq_true,
      testBit_positions]
    constructor
    · rintro ⟨h, hj, hholds⟩
      exact ⟨j, h, rfl, Nat.le_of_lt_succ hj, hholds⟩
    · rintro ⟨i, hi, rfl, hle, hholds⟩
      exact ⟨hi, Nat.lt_succ_of_le hle, hholds⟩
  | cat r t ihr iht =>
    have hr := ihr fun c hc => hhere c ((mem_conditions c t _).mpr (.inr hc))
    have ht := iht fun c hc => hhere c ((mem_conditions c t _).mpr (.inl hc))
    intro s j
    rw [plan, Plan.reach, ht]
    simp only [hr s]
    exact ⟨fun ⟨k, ⟨i, hi, hk⟩, h⟩ => ⟨i, hi, k, hk, h⟩, fun ⟨i, hi, k, hk, h⟩ => ⟨k, ⟨i, hi, hk⟩, h⟩⟩
  | alt r t ihr iht =>
    have hr := ihr fun c hc => hhere c ((mem_conditions c t _).mpr (.inr hc))
    have ht := iht fun c hc => hhere c ((mem_conditions c t _).mpr (.inl hc))
    intro s j
    rw [plan, Plan.reach, Nat.testBit_or, Bool.or_eq_true, hr, ht, ← exists_or]
    exact exists_congr fun i => and_or_left.symm
  | group b r ih => exact ih hhere
  | rep r min max ih =>
    intro s j
    rw [plan, Plan.reach, Plan.moves_times (ih hhere)]
    refine exists_congr fun i => and_congr_right fun _ => ?_
    cases max with
    | some max => simp [Matches]
    | none =>
      rw [Matches, Option.getD_none]
      constructor
      · rintro ⟨n, hmin, -, h⟩
        exact ⟨n, hmin, by simp, h⟩
      · rintro ⟨n, hmin, -, h⟩
        -- the steps beyond the least number can be shortened
        obtain ⟨l, rfl⟩ : ∃ l, n = min + l := ⟨n - min, by omega⟩
        obtain ⟨k, hk, h⟩ := steps_add.mp h
        cases l with
        | zero => exact ⟨min, Nat.le_refl min, by omega, steps_add.mpr ⟨k, hk, h⟩⟩
        | succ l =>
          have hbounds := (Matches.bounds (r := .rep r 0 none) ⟨l + 1, Nat.zero_le _, by simp, h⟩).2
          have hleads : Leads (Matches text r) (fun _ => False) (l + 1) k j :=
            leads_iff_steps.mpr ⟨l + 1, by omega, Nat.le_refl _, h⟩
          obtain ⟨m, -, hm, h⟩ := leads_iff_steps.mp (hleads.shorten fun i j h => h.bounds.1).2
          exact ⟨min + m, by omega, by omega, steps_add.mpr ⟨k, hk, h⟩⟩

/-- **Matching.** An expression matches in a text if it matches some part of the text. -/
theorem matchesIn_iff {r : Regex} {text : String} :
    r.matchesIn text = true ↔ ∃ i j, i ≤ text.toList.toArray.size ∧
    Matches text.toList.toArray r i j := by
  unfold matchesIn
  rw [bne_iff_ne, ne_zero_iff_exists_testBit]
  rw [exists_comm]
  refine exists_congr fun j => ?_
  rw [moves_reach_plan]
  · simp only [testBit_positions, and_true, Nat.lt_succ_iff]
  · intro c hc
    have hlookup : ∀ cs : List Condition, c ∈ cs →
        (cs.map fun c =>
          (c, positions (c.holds text.toList.toArray) (text.toList.toArray.size + 1))).lookup c =
          some (positions (c.holds text.toList.toArray) (text.toList.toArray.size + 1)) := by
      intro cs hcs
      induction cs with
      | nil => cases hcs
      | cons d cs ih =>
        rw [List.map_cons, List.lookup_cons]
        by_cases hd : c = d
        · subst hd
          simp
        · rw [beq_false_of_ne hd]
          exact ih ((List.mem_cons.mp hcs).resolve_left hd)
    rw [hlookup _ hc, Option.getD_some]

end FlagFlow.Regex
