import FlagFlow.Annotate
import FlagFlow.Proofs.Positions
import Mathlib.Data.List.Nodup

/-!
# The condition of a block

The conditions at the instructions of all functions are put into one list, sorted by position, and
the first one after the opening brace of a block is found by halving. This gives what a look at
every instruction gives: the condition at the first instruction between the braces. Of several
instructions at one position the first one counts, in the order of the functions and of the
instructions in them, because the sort keeps their order.

* `searchFirst_spec`: halving finds the first number that satisfies a condition.
* `inBlock?_eq_find?`: halving in a sorted list finds what a scan of the list finds.
* `pairwise_mergeSort_stable`: sorting keeps the order of entries that compare as equal.
* `IsReached`, `numberedConditions`: the conditions at the instructions, by function and
  instruction.
* **`inBlock?_conditions`**: the condition of a block.
-/

namespace FlagFlow

/-! ## Halving -/

theorem searchBetween_spec {p : Nat → Bool} {fuel lo hi : Nat} (hle : lo ≤ hi) (hfuel : hi - lo ≤ fuel)
    (hmono : ∀ i j, i ≤ j → j < hi → p i = true → p j = true) :
    lo ≤ searchBetween p fuel lo hi ∧ searchBetween p fuel lo hi ≤ hi ∧
      (∀ i, lo ≤ i → i < searchBetween p fuel lo hi → p i = false) ∧
      ∀ i, searchBetween p fuel lo hi ≤ i → i < hi → p i = true := by
  fun_induction searchBetween p fuel lo hi with
  | case1 lo hi => exact ⟨le_refl _, hle, fun i _ _ => by omega, fun i _ _ => by omega⟩
  | case2 fuel lo hi hlt mid hmid ih =>
    obtain ⟨hlo, hhi, hbelow, habove⟩ :=
      ih (by omega) (by omega) fun i j hij hj => hmono i j hij (by omega)
    refine ⟨hlo, by omega, hbelow, fun i hi' hi'' => ?_⟩
    by_cases h : i < mid
    · exact habove i hi' h
    · exact hmono mid i (by omega) hi'' hmid
  | case3 fuel lo hi hlt mid hmid ih =>
    obtain ⟨hlo, hhi, hbelow, habove⟩ := ih (by omega) (by omega) hmono
    refine ⟨by omega, hhi, fun i hi' hi'' => ?_, habove⟩
    by_cases h : mid < i
    · exact hbelow i h hi''
    · -- what does not hold in the middle does not hold before it
      refine Bool.eq_false_iff.mpr fun hi => hmid (hmono i mid (by omega) (by omega) hi)
  | case4 fuel lo hi hlt => exact ⟨le_refl _, hle, fun i _ _ => by omega, fun i _ _ => by omega⟩

/-- **Halving finds the first number** that satisfies a condition which greater numbers keep. -/
theorem searchFirst_spec {p : Nat → Bool} {n : Nat}
    (hmono : ∀ i j, i ≤ j → j < n → p i = true → p j = true) :
    searchFirst n p ≤ n ∧ (∀ i < searchFirst n p, p i = false) ∧ ∀ i, searchFirst n p ≤ i → i < n →
    p i = true := by
  obtain ⟨-, hle, hbelow, habove⟩ := searchBetween_spec (Nat.zero_le n) (Nat.le_refl _) hmono
  exact ⟨hle, fun i hi => hbelow i (Nat.zero_le i) hi, habove⟩

/-- Halving finds the first entry that satisfies a condition which later entries keep. -/
theorem getElem?_searchFirst {α : Type} {xs : List α} {q : α → Bool}
    (hmono : xs.Pairwise fun a b => q a = true → q b = true) :
    xs[searchFirst xs.length fun i => (xs[i]?).elim true q]? = xs.find? q := by
  obtain ⟨hle, hbelow, habove⟩ :=
    searchFirst_spec (n := xs.length) (p := fun i => (xs[i]?).elim true q) (by
    intro i j hij hj hi
    obtain rfl | hlt := Nat.eq_or_lt_of_le hij
    · exact hi
    · have hi' : i < xs.length := by omega
      simp only [List.getElem?_eq_getElem hi', List.getElem?_eq_getElem hj, Option.elim_some] at hi ⊢
      exact List.pairwise_iff_getElem.mp hmono i j hi' hj hlt hi)
  generalize searchFirst xs.length (fun i => (xs[i]?).elim true q) = k at hle hbelow habove ⊢
  have htake : ∀ a ∈ xs.take k, q a = false := by
    intro a ha
    obtain ⟨i, hi, rfl⟩ := List.mem_take_iff_getElem.mp ha
    have := hbelow i (by omega)
    rwa [List.getElem?_eq_getElem (by omega), Option.elim_some] at this
  have hsplit : xs.find? q = (xs.drop k).find? q := by
    conv_lhs => rw [← List.take_append_drop k xs, List.find?_append]
    rw [List.find?_eq_none.mpr fun a ha => by simp [htake a ha], Option.none_or]
  rw [hsplit]
  obtain rfl | hlt := Nat.eq_or_lt_of_le hle
  · simp
  · have hk := habove k (Nat.le_refl k) hlt
    rw [List.getElem?_eq_getElem hlt, Option.elim_some] at hk
    rw [List.drop_eq_getElem_cons hlt, List.find?_cons_of_pos hk, List.getElem?_eq_getElem hlt]

/-! ## A sorted list -/

variable {file : String} {b : BlockSpan}

namespace Position

variable {p q : Position} {opening : Spot}

theorem isAfter_iff :
    p.isAfter file opening = true ↔ file < p.file ∨ p.file = file ∧
    Spot.before opening p.spot = true := by
  simp [isAfter, spot]

theorem isAfter_of_le (hpq : p.le q = true) (hp : p.isAfter file opening = true) :
    q.isAfter file opening = true := by
  rw [isAfter_iff] at *
  rw [le_iff] at hpq
  obtain hp | ⟨hp, hspot⟩ := hp <;> obtain hpq | ⟨hpq, hspots⟩ := hpq
  · exact .inl (String.lt_trans hp hpq)
  · exact .inl (hpq ▸ hp)
  · exact .inl (hp ▸ hpq)
  · refine .inr ⟨hpq ▸ hp, ?_⟩
    rw [Spot.before_iff] at *
    omega

theorem inside_iff_of_isAfter (hp : p.isAfter file b.opening = true) :
    p.Inside file b ↔ p.file = file ∧ Spot.before p.spot b.closing = true := by
  refine ⟨fun h => ⟨h.1, h.2.2⟩, fun ⟨hfile, hclosing⟩ => ⟨hfile, ?_, hclosing⟩⟩
  obtain hlt | ⟨-, hspot⟩ := isAfter_iff.mp hp
  · exact absurd hlt (hfile ▸ String.lt_irrefl _)
  · exact hspot

theorem Inside.isAfter (hp : p.Inside file b) : p.isAfter file b.opening = true :=
  isAfter_iff.mpr (.inr ⟨hp.1, hp.2.1⟩)

theorem Inside.of_le (hq : q.Inside file b) (hp : p.isAfter file b.opening = true)
    (hle : p.le q = true) :
    p.Inside file b := by
  obtain ⟨rfl, -, hclosing⟩ := hq
  rw [inside_iff_of_isAfter hp]
  obtain hlt | ⟨hfile, hspots⟩ := le_iff.mp hle
  · obtain hafter | ⟨hfile, -⟩ := isAfter_iff.mp hp
    · exact absurd hlt (String.lt_asymm hafter)
    · exact absurd hlt (hfile ▸ String.lt_irrefl _)
  · refine ⟨hfile, ?_⟩
    rw [Spot.before_iff] at *
    omega

end Position

theorem find?_isAfter_bind {points : List ConditionPoint}
    (h : points.Pairwise fun c d => c.position.le d.position = true) :
    (points.find? fun c => c.position.isAfter file b.opening).filter
      (fun c => c.position.Inside file b) =
      points.find? fun c => c.position.Inside file b := by
  induction points with
  | nil => rfl
  | cons c points ih =>
    obtain ⟨hc, hpoints⟩ := List.pairwise_cons.mp h
    by_cases hinside : c.position.Inside file b
    · simp [hinside, hinside.isAfter]
    · by_cases hafter : c.position.isAfter file b.opening = true
      · -- nothing that follows is inside, because the first one after the brace is not
        have hnone : points.find? (fun c => c.position.Inside file b) = none := by
          rw [List.find?_eq_none]
          intro d hd hin
          exact hinside ((of_decide_eq_true hin).of_le hafter (hc d hd))
        simp [hinside, hafter, hnone]
      · simp [hinside, hafter, ih hpoints]

/-- **Halving finds what a scan finds** in a sorted list. -/
theorem inBlock?_eq_find? {points : List ConditionPoint}
    (h : points.Pairwise fun c d => c.position.le d.position = true) :
    inBlock? points.toArray file b =
      (points.find? fun c => c.position.Inside file b).map ConditionPoint.condition := by
  have hfirst := getElem?_searchFirst
    (q := fun c : ConditionPoint => c.position.isAfter file b.opening)
    (h.imp fun hle => Position.isAfter_of_le hle)
  rw [← find?_isAfter_bind h]
  unfold inBlock?
  simp only [List.size_toArray, List.getElem?_toArray, hfirst]
  cases hc : points.find? (fun c => c.position.isAfter file b.opening) with
  | none => rfl
  | some c =>
    have hafter : c.position.isAfter file b.opening = true :=
      List.find?_some (p := fun c : ConditionPoint => c.position.isAfter file b.opening) hc
    have hinside := Position.inside_iff_of_isAfter hafter
    by_cases hin : c.position.Inside file b
    · obtain ⟨hfile, hclosing⟩ := hinside.mp hin
      have hclosing : Spot.before (c.position.line, c.position.column) b.closing = true := hclosing
      simp [Option.filter_some, hin, hfile, hclosing]
    · have hout : ¬ (c.position.file = file ∧ Spot.before (c.position.line,
          c.position.column) b.closing = true) :=
        fun h => hin (hinside.mpr h)
      simpa [Option.filter_some, hin] using hout

/-! ## Sorting -/

theorem pairwise_zipIdx {α : Type} (l : List α) : l.zipIdx.Pairwise fun a b => a.2 < b.2 := by
  rw [← List.pairwise_map (f := Prod.snd), List.zipIdx_map_snd]
  exact List.pairwise_lt_range'

/-- **Sorting is stable.** Entries that compare as equal keep their order. -/
theorem pairwise_mergeSort_stable {α : Type} {le : α → α → Bool} {R : α → α → Prop} {l : List α}
    (htrans : ∀ a b c, le a b = true → le b c = true → le a c = true)
    (htotal : ∀ a b, (le a b || le b a) = true) (hR : l.Pairwise R) :
    (l.mergeSort le).Pairwise fun a b => le a b = true ∧ (le b a = true → R a b) := by
  rw [← List.mergeSort_zipIdx, List.pairwise_map]
  have hperm := List.mergeSort_perm l.zipIdx (List.zipIdxLE le)
  have hnodup : (l.zipIdx.mergeSort (List.zipIdxLE le)).Nodup := by
    rw [hperm.nodup_iff]
    exact (pairwise_zipIdx l).imp fun {a b} hlt heq => by simp [heq] at hlt
  have hsorted := List.pairwise_mergeSort (List.zipIdxLE_trans htrans)
    (List.zipIdxLE_total htotal) l.zipIdx
  refine (hsorted.and hnodup).imp_of_mem fun {a b} ha hb hab => ?_
  obtain ⟨hle, hne⟩ := hab
  have ha' := List.mem_zipIdx_iff_getElem?.mp (hperm.mem_iff.mp ha)
  have hb' := List.mem_zipIdx_iff_getElem?.mp (hperm.mem_iff.mp hb)
  unfold List.zipIdxLE at hle
  split at hle
  · rename_i hab
    refine ⟨hab, fun hba => ?_⟩
    rw [if_pos hba, decide_eq_true_iff] at hle
    have hlt : a.2 < b.2 := by
      refine Nat.lt_of_le_of_ne hle fun heq => hne ?_
      rw [heq, hb'] at ha'
      exact Prod.ext (Option.some.inj ha').symm heq
    obtain ⟨hi, hget⟩ := List.getElem?_eq_some_iff.mp ha'
    obtain ⟨hj, hget'⟩ := List.getElem?_eq_some_iff.mp hb'
    rw [← hget, ← hget']
    exact List.pairwise_iff_getElem.mp hR _ _ hi hj hlt
  · cases hle

/-! ## The instructions of a program -/

/-- The condition of `c` holds before instruction `i` of function `j`, which is at the position of
`c`; the function was analysed without error. -/
def IsReached (rs : List Findings) (j i : Nat) (c : ConditionPoint) : Prop :=
  ∃ r g s I, rs[j]? = some r ∧ r.states = some (g, s) ∧ r.error = none ∧ r.func.code[i]? = some I ∧
    I.position = some c.position ∧ (s.flowsAt i).before.path = c.condition

/-- The conditions at the instructions of a function, with the numbers of the instructions. -/
def Findings.numberedConditions (r : Findings) : List (Nat × ConditionPoint) :=
  match r.states, r.error with
  | some (_, s), none =>
    r.func.code.zipIdx.filterMap fun e =>
      e.1.position.map fun p => (e.2, ⟨p, (s.flowsAt e.2).before.path⟩)
  | _, _ => []

/-- The conditions at the instructions of functions, with the numbers of the functions and
instructions. -/
def numberedConditions (rs : List Findings) : List ((Nat × Nat) × ConditionPoint) :=
  rs.zipIdx.flatMap fun r => r.1.numberedConditions.map fun e => ((r.2, e.1), e.2)

/-- The order of instructions: by function, and in a function by their numbers. -/
def InstrBefore (k l : Nat × Nat) : Prop := k.1 < l.1 ∨ k.1 = l.1 ∧ k.2 < l.2

namespace Findings

variable {r : Findings}

theorem map_numberedConditions : r.numberedConditions.map Prod.snd = r.conditionPoints := by
  unfold numberedConditions conditionPoints
  cases r.states with
  | none => rfl
  | some g =>
    cases r.error with
    | none => simp [List.map_filterMap, Function.comp_def]
    | some e => rfl

theorem mem_numberedConditions {i : Nat} {c : ConditionPoint} : (i, c) ∈ r.numberedConditions ↔
    ∃ g s I, r.states = some (g, s) ∧ r.error = none ∧ r.func.code[i]? = some I ∧
      I.position = some c.position ∧ (s.flowsAt i).before.path = c.condition := by
  obtain ⟨p, x⟩ := c
  unfold numberedConditions
  split
  · rename_i g s hstates herror
    simp only [List.mem_filterMap, Option.map_eq_some_iff, Prod.mk.injEq, ConditionPoint.mk.injEq]
    constructor
    · rintro ⟨⟨I, i⟩, hI, p, hp, rfl, rfl, rfl⟩
      exact ⟨g, s, I, hstates, herror, List.mk_mem_zipIdx_iff_getElem?.mp hI, hp, rfl⟩
    · rintro ⟨g, s, I, hstates', -, hI, hp, rfl⟩
      obtain ⟨-, rfl⟩ := Prod.mk.inj (Option.some.inj (hstates.symm.trans hstates'))
      exact ⟨(I, i), List.mk_mem_zipIdx_iff_getElem?.mpr hI, p, hp, rfl, rfl, rfl⟩
  · rename_i hneither
    constructor
    · intro h
      cases h
    · rintro ⟨g, s, -, hstates, herror, -⟩
      exact absurd herror (hneither g s hstates)

theorem pairwise_numberedConditions : r.numberedConditions.Pairwise fun e f => e.1 < f.1 := by
  unfold numberedConditions
  split
  · rw [List.pairwise_filterMap]
    refine (pairwise_zipIdx _).imp fun {e f} hlt a ha b hb => ?_
    obtain ⟨p, -, rfl⟩ := Option.map_eq_some_iff.mp ha
    obtain ⟨q, -, rfl⟩ := Option.map_eq_some_iff.mp hb
    exact hlt
  · exact .nil

end Findings

variable {rs : List Findings}

theorem map_numberedConditions : (numberedConditions rs).map Prod.snd =
    rs.flatMap Findings.conditionPoints := by
  simp only [numberedConditions, List.map_flatMap, List.map_map, Function.comp_def]
  simp only [Findings.map_numberedConditions]
  rw [← List.flatMap_map, List.zipIdx_map_fst]

theorem mem_numberedConditions {j i : Nat} {c : ConditionPoint} :
    ((j, i), c) ∈ numberedConditions rs ↔ IsReached rs j i c := by
  simp only [numberedConditions, List.mem_flatMap, List.mem_map, Prod.mk.injEq]
  constructor
  · rintro ⟨⟨r, j⟩, hr, ⟨i, c⟩, he, ⟨rfl, rfl⟩, rfl⟩
    obtain ⟨g, s, I, h⟩ := Findings.mem_numberedConditions.mp he
    exact ⟨r, g, s, I, List.mk_mem_zipIdx_iff_getElem?.mp hr, h⟩
  · rintro ⟨r, g, s, I, hr, h⟩
    exact ⟨(r, j), List.mk_mem_zipIdx_iff_getElem?.mpr hr, (i, c),
      Findings.mem_numberedConditions.mpr ⟨g, s, I, h⟩,
      ⟨rfl, rfl⟩, rfl⟩

theorem pairwise_numberedConditions : (numberedConditions rs).Pairwise fun e f =>
    InstrBefore e.1 f.1 := by
  rw [numberedConditions, List.pairwise_flatMap]
  constructor
  · intro r hr
    rw [List.pairwise_map]
    exact Findings.pairwise_numberedConditions.imp fun hlt => .inr ⟨rfl, hlt⟩
  · refine (pairwise_zipIdx rs).imp fun {r q} hlt e he f hf => ?_
    obtain ⟨e, -, rfl⟩ := List.mem_map.mp he
    obtain ⟨f, -, rfl⟩ := List.mem_map.mp hf
    exact .inl hlt

/-! ## The condition of a block -/

/-- The conditions at the instructions, sorted by position. -/
def sortedConditions (rs : List Findings) : List ((Nat × Nat) × ConditionPoint) :=
  (numberedConditions rs).mergeSort fun e f => e.2.position.le f.2.position

theorem map_sortedConditions : (sortedConditions rs).map Prod.snd = conditions rs := by
  rw [sortedConditions, conditions, ← map_numberedConditions]
  exact List.map_mergeSort fun _ _ _ _ => rfl

theorem mem_sortedConditions {j i : Nat} {c : ConditionPoint} :
    ((j, i), c) ∈ sortedConditions rs ↔ IsReached rs j i c := by
  rw [sortedConditions, List.mem_mergeSort, mem_numberedConditions]

theorem pairwise_sortedConditions : (sortedConditions rs).Pairwise fun e f =>
    e.2.position.le f.2.position = true ∧ (f.2.position.le e.2.position = true →
      InstrBefore e.1 f.1) :=
  pairwise_mergeSort_stable (fun _ _ _ => Position.le_trans) (fun _ _ => Position.le_total _ _)
    pairwise_numberedConditions

theorem inBlock?_eq_find?_sortedConditions : inBlock? (conditions rs).toArray file b =
    ((sortedConditions rs).find? fun e => e.2.position.Inside file b).map fun e => e.2.condition := by
  have hsorted : (conditions rs).Pairwise fun c d => c.position.le d.position = true := by
    rw [← map_sortedConditions, List.pairwise_map]
    exact pairwise_sortedConditions.imp And.left
  rw [inBlock?_eq_find? hsorted, ← map_sortedConditions, List.find?_map, Option.map_map]
  rfl

/-- Instruction `i` of function `j` comes first of those in a block, and the condition of `c` holds
before it. -/
structure IsFirst (rs : List Findings) (file : String) (b : BlockSpan) (j i : Nat)
    (c : ConditionPoint) : Prop where
  reached : IsReached rs j i c
  inside : c.position.Inside file b
  first : ∀ j' i' c', IsReached rs j' i' c' → c'.position.Inside file b →
    c.position.precedes c'.position = true ∨ c.position = c'.position ∧ (j < j' ∨ j = j' ∧ i ≤ i')

theorem isFirst_of_find? {j i : Nat} {c : ConditionPoint}
    (h : (sortedConditions rs).find? (fun e => e.2.position.Inside file b) = some ((j, i), c)) :
    IsFirst rs file b j i c := by
  obtain ⟨hinside, before, after, hsplit, hbefore⟩ := List.find?_eq_some_iff_append.mp h
  refine ⟨mem_sortedConditions.mp (List.mem_of_find?_eq_some h), of_decide_eq_true hinside, ?_⟩
  intro j' i' c' hreached hinside'
  have hmem := mem_sortedConditions.mpr hreached
  have hpairs : (sortedConditions rs).Pairwise _ := pairwise_sortedConditions
  rw [hsplit] at hmem hpairs
  obtain hmem | hmem := List.mem_append.mp hmem
  · simpa [hinside'] using hbefore _ hmem
  · obtain heq | hmem := List.mem_cons.mp hmem
    · cases heq
      exact .inr ⟨rfl, .inr ⟨rfl, Nat.le_refl _⟩⟩
    · obtain ⟨hle, htie⟩ := (List.pairwise_cons.mp (List.pairwise_append.mp hpairs).2.1).1 _ hmem
      by_cases hge : c'.position.le c.position = true
      · refine .inr ⟨Position.le_antisymm hle hge, ?_⟩
        obtain hlt | ⟨heq, hlt⟩ := htie hge
        · exact .inl hlt
        · exact .inr ⟨heq, Nat.le_of_lt hlt⟩
      · -- positions in one file that are not the other way round are strictly ordered
        left
        rw [Position.le_iff, not_or, not_and_not_right] at hge
        exact hge.2 (hinside'.1.trans (of_decide_eq_true hinside : c.position.Inside file b).1.symm)

theorem IsReached.unique {j i : Nat} {c c' : ConditionPoint} (h : IsReached rs j i c)
    (h' : IsReached rs j i c') :
    c = c' := by
  obtain ⟨r, g, s, I, hr, hs, -, hI, hpos, hpath⟩ := h
  obtain ⟨r', g', s', I', hr', hs', -, hI', hpos', hpath'⟩ := h'
  obtain rfl := Option.some.inj (hr.symm.trans hr')
  obtain ⟨-, rfl⟩ := Prod.mk.inj (Option.some.inj (hs.symm.trans hs'))
  obtain rfl := Option.some.inj (hI.symm.trans hI')
  obtain ⟨p, x⟩ := c
  obtain ⟨p', x'⟩ := c'
  obtain rfl : p = p' := Option.some.inj (hpos.symm.trans hpos')
  obtain rfl : x = x' := hpath.symm.trans hpath'
  rfl

theorem IsFirst.unique {j i j' i' : Nat} {c c' : ConditionPoint} (h : IsFirst rs file b j i c)
    (h' : IsFirst rs file b j' i' c') : c = c' := by
  obtain hlt | ⟨heq, hle⟩ := h.first j' i' c' h'.reached h'.inside
  · obtain hgt | ⟨heq, -⟩ := h'.first j i c h.reached h.inside
    · exact absurd hgt (Position.precedes_asymm hlt)
    · exact absurd hlt (heq ▸ Position.not_precedes_self _)
  · obtain hgt | ⟨-, hge⟩ := h'.first j i c h.reached h.inside
    · exact absurd hgt (heq ▸ Position.not_precedes_self _)
    · obtain rfl : j = j' := by omega
      obtain rfl : i = i' := by omega
      exact h.reached.unique h'.reached

/-- **The condition of a block** is the path condition before the first instruction reached between
its braces. -/
theorem inBlock?_conditions (rs : List Findings) (file : String) (b : BlockSpan) :
    (inBlock? (conditions rs).toArray file b = none ↔
        ∀ j i c, IsReached rs j i c → ¬ c.position.Inside file b) ∧
      ∀ x, inBlock? (conditions rs).toArray file b = some x ↔ ∃ j i c, IsFirst rs file b j i c ∧
      c.condition = x := by
  rw [inBlock?_eq_find?_sortedConditions]
  cases hfind : (sortedConditions rs).find? fun e => e.2.position.Inside file b with
  | none =>
    have hnone : ∀ j i c, IsReached rs j i c → ¬ c.position.Inside file b := by
      intro j i c hreached hinside
      exact List.find?_eq_none.mp hfind _ (mem_sortedConditions.mpr hreached) (decide_eq_true hinside)
    refine ⟨by simpa using hnone, fun x => ⟨fun h => (Option.some_ne_none x h.symm).elim, ?_⟩⟩
    rintro ⟨j, i, c, hfirst, -⟩
    exact absurd hfirst.inside (hnone j i c hfirst.reached)
  | some e =>
    obtain ⟨⟨j, i⟩, c⟩ := e
    have hfirst := isFirst_of_find? hfind
    refine ⟨⟨fun h => (Option.some_ne_none _ h).elim,
      fun h => absurd hfirst.inside (h j i c hfirst.reached)⟩, ?_⟩
    intro x
    rw [Option.map_some, Option.some.injEq]
    constructor
    · intro hx
      exact ⟨j, i, c, hfirst, hx⟩
    · rintro ⟨j', i', c', hfirst', rfl⟩
      rw [hfirst.unique hfirst']

end FlagFlow
