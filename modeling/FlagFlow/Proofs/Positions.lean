import FlagFlow.Source.Tree
import Mathlib.Data.String.Basic

/-!
# The order of positions

Positions are ordered by file, line and column, the spots of one file by line and column.

* `Spot.before_iff`, `Spot.before_asymm`: the order of spots is strict.
* `Position.le_trans`, `Position.le_total`, `Position.le_antisymm`: the order of positions is
  linear.
* `Position.Inside`: a position between the braces of a block.
-/

namespace FlagFlow

/-! ## Spots -/

namespace Spot

variable {a b : Spot}

theorem before_iff : Spot.before a b = true ↔ a.1 < b.1 ∨ a.1 = b.1 ∧ a.2 < b.2 := by
  simp [before]

theorem before_asymm (hab : Spot.before a b = true) : ¬ Spot.before b a = true := by
  rw [before_iff] at *
  omega

end Spot

/-! ## Positions -/

namespace Position

variable {p q r : Position}

/-- The spot of a position in its file. -/
def spot (p : Position) : Spot := (p.line, p.column)

theorem precedes_iff : p.precedes q = true ↔ Spot.before p.spot q.spot = true := Iff.rfl

theorem precedes_asymm (h : p.precedes q = true) : ¬ q.precedes p = true :=
  Spot.before_asymm (precedes_iff.mp h)

theorem not_precedes_self (p : Position) : ¬ p.precedes p = true := fun h => precedes_asymm h h

theorem le_iff : p.le q = true ↔ p.file < q.file ∨ p.file = q.file ∧
    ¬ Spot.before q.spot p.spot = true := by
  simp [le, ← precedes_iff]

theorem le_trans (hpq : p.le q = true) (hqr : q.le r = true) : p.le r = true := by
  rw [le_iff] at *
  obtain hpq | ⟨hpq, hspots⟩ := hpq <;> obtain hqr | ⟨hqr, hspots'⟩ := hqr
  · exact .inl (String.lt_trans hpq hqr)
  · exact .inl (hqr ▸ hpq)
  · exact .inl (hpq ▸ hqr)
  · refine .inr ⟨hpq.trans hqr, ?_⟩
    rw [Spot.before_iff] at *
    omega

theorem le_total (p q : Position) : (p.le q || q.le p) = true := by
  rw [Bool.or_eq_true, le_iff, le_iff]
  by_cases hfile : p.file = q.file
  · by_cases hspots : Spot.before q.spot p.spot = true
    · exact .inr (.inr ⟨hfile.symm, Spot.before_asymm hspots⟩)
    · exact .inl (.inr ⟨hfile, hspots⟩)
  · by_cases hlt : p.file < q.file
    · exact .inl (.inl hlt)
    · refine .inr (.inl (String.not_le.mp fun hle => hfile ?_))
      exact String.le_antisymm hle (String.not_lt.mp hlt)

theorem le_antisymm (hpq : p.le q = true) (hqp : q.le p = true) : p = q := by
  rw [le_iff] at *
  obtain hpq | ⟨hpq, hspots⟩ := hpq <;> obtain hqp | ⟨hqp, hspots'⟩ := hqp
  · exact absurd hqp (String.lt_asymm hpq)
  · exact absurd hpq (hqp ▸ String.lt_irrefl _)
  · exact absurd hqp (hpq ▸ String.lt_irrefl _)
  · rw [Spot.before_iff] at *
    obtain ⟨file, line, column⟩ := p
    obtain ⟨file', line', column'⟩ := q
    simp only [spot, mk.injEq] at *
    exact ⟨hpq, by omega⟩

/-- A position is between the braces of a block of a file. -/
def Inside (p : Position) (file : String) (b : BlockSpan) : Prop :=
  p.file = file ∧ Spot.before b.opening p.spot = true ∧ Spot.before p.spot b.closing = true

instance (p : Position) (file : String) (b : BlockSpan) : Decidable (p.Inside file b) :=
  inferInstanceAs (Decidable (_ ∧ _))

end Position

end FlagFlow
