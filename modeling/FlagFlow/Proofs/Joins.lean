import FlagFlow.Proofs.Env
import Mathlib.Data.List.Forall2

/-!
# Joins of many paths

Where many paths meet, their environments are merged one after the other. Two constants on the two
sides of the flag make the flag, so the grouping matters in general. Away from this rule it does
not: a join is described by the set of merged environments alone. The rule itself looks at two
environments, and the first of them may be the result of earlier merges; still, it makes the flag
only of environments each of which is on one side of the flag with the constant of that side.

* `FlagValue.agreed?`: the common value of a list; `FlagValue.agreed?_append`,
  `FlagValue.agreed?_congr`.
* `Env.mergeAll`: environments merged from left to right.
* `Env.OneSided`: no two environments are on different sides of the flag.
* `Env.Joins`: the path condition and the facts are the common ones of a list; `Env.Joins.merge`
  merges two groups, `Env.Joins.foldl_merge` any number of them.
* **`Env.merge_outside_toggle`**: joins on one side of the flag, in any order, repetition and
  grouping.
* `Env.TogglesBetween`: a constant on each side of the flag; `Env.mem_or_togglesBetween`.
* **`Env.toggle_at_join`**: the flag at a join comes from one of the paths or from such constants.
-/

namespace FlagFlow

namespace FlagValue

/-- The value where two values meet. -/
def join (x y : FlagValue) : FlagValue := if x = y then x else unknown

/-- The common value of a list, `unknown` if the values differ. Without values there is none. -/
def agreed? : List FlagValue → Option FlagValue
  | [] => none
  | x :: xs => some (if ∀ y ∈ xs, y = x then x else unknown)

variable {x : FlagValue} {xs ys : List FlagValue}

@[simp]
theorem agreed?_singleton (x : FlagValue) : agreed? [x] = some x := by simp [agreed?]

theorem agreed?_append (xs ys : List FlagValue) :
    agreed? (xs ++ ys) = (agreed? xs).merge join (agreed? ys) := by
  cases xs with
  | nil => simp [agreed?]
  | cons x xs =>
    cases ys with
    | nil => simp [agreed?]
    | cons y ys =>
      simp only [agreed?, List.cons_append, Option.merge_some_some, Option.some.injEq, join]
      have hall : (∀ z ∈ xs ++ y :: ys, z = x) ↔ (∀ z ∈ xs, z = x) ∧ y = x ∧ ∀ z ∈ ys, z = y := by
        rw [List.forall_mem_append, List.forall_mem_cons]
        exact and_congr_right' (and_congr_right fun hxy => by rw [hxy])
      rw [if_congr hall rfl rfl]
      by_cases hx : ∀ z ∈ xs, z = x
      · by_cases hy : ∀ z ∈ ys, z = y
        · rw [if_pos hx, if_pos hy]
          exact if_congr ⟨fun h => h.2.1.symm, fun h => ⟨hx, h.symm, hy⟩⟩ rfl rfl
        · rw [if_neg fun h => hy h.2.2, if_pos hx, if_neg hy]
          split
          · rename_i h
            exact h.symm
          · rfl
      · rw [if_neg fun h => hx h.1, if_neg hx, ite_self]

theorem agreed?_eq_some_iff :
    agreed? xs = some x ↔
      xs ≠ [] ∧ ((∀ y ∈ xs, y = x) ∨ x = unknown ∧ ∀ y, ∃ z ∈ xs, z ≠ y) := by
  cases xs with
  | nil => simp [agreed?]
  | cons y ys =>
    simp only [agreed?, Option.some.injEq, ne_eq, reduceCtorEq, not_false_eq_true, true_and]
    split
    · rename_i h
      constructor
      · rintro rfl
        exact .inl (by simpa using h)
      · rintro (hall | ⟨-, hdiffer⟩)
        · exact hall y List.mem_cons_self
        · obtain ⟨z, hz, hne⟩ := hdiffer y
          rcases List.mem_cons.mp hz with rfl | hz
          · exact absurd rfl hne
          · exact absurd (h z hz) hne
    · rename_i h
      constructor
      · rintro rfl
        refine .inr ⟨rfl, fun w => ?_⟩
        by_contra hcommon
        push Not at hcommon
        have hy := hcommon y List.mem_cons_self
        exact h fun z hz => (hcommon z (List.mem_cons_of_mem _ hz)).trans hy.symm
      · rintro (hall | ⟨rfl, -⟩)
        · have hy := hall y List.mem_cons_self
          exact absurd (fun z hz => (hall z (List.mem_cons_of_mem _ hz)).trans hy.symm) h
        · rfl

theorem agreed?_congr (h : ∀ x, x ∈ xs ↔ x ∈ ys) : agreed? xs = agreed? ys := by
  have hnil : xs = [] ↔ ys = [] := by simp only [List.eq_nil_iff_forall_not_mem, h]
  refine Option.ext fun x => ?_
  simp only [agreed?_eq_some_iff, ne_eq, hnil, h]

theorem mem_of_agreed? (h : agreed? xs = some x) (hx : x ≠ unknown) : x ∈ xs := by
  obtain ⟨hne, hall | ⟨hu, -⟩⟩ := agreed?_eq_some_iff.mp h
  · obtain ⟨y, hy⟩ := List.exists_mem_of_ne_nil _ hne
    exact hall y hy ▸ hy
  · exact absurd hu hx

end FlagValue

open FlagValue (agreed? join)

namespace Env

variable {V : Type} [DecidableEq V] {s t : Env V} {ts us ws : List (Env V)} {v : V}
  {c c' x x' y y' : FlagValue}

/-- Environments merged from left to right, as at a node where the paths meet. Without any, nothing
has been computed. -/
def mergeAll : List (Env V) → Env V
  | [] => unreached
  | s :: ts => ts.foldl merge s

theorem mergeAll_problem {N : Type} (b : Body N V) (isFeature : String → Bool) :
    (b.problem isFeature).mergeAll ts = mergeAll ts := by
  cases ts <;> rfl

theorem has_mergeAll : (mergeAll ts).Has v ↔ ∃ t ∈ ts, t.Has v := by
  cases ts with
  | nil => simp [mergeAll, unreached, Has]
  | cons t ts => rw [mergeAll, has_foldl_merge, List.exists_mem_cons_iff]

/-! ## One side of the flag -/

/-- No environment on the side of the flag comes together with one on the other side. -/
def OneSided (ts : List (Env V)) : Prop := ∀ s ∈ ts, ∀ t ∈ ts, s.path = .flag → t.path ≠ .notFlag

instance : DecidablePred (OneSided (V := V)) := fun ts =>
  inferInstanceAs (Decidable (∀ s ∈ ts, ∀ t ∈ ts, s.path = .flag → t.path ≠ .notFlag))

omit [DecidableEq V] in
theorem OneSided.subset (h : OneSided us) (hts : ts ⊆ us) : OneSided ts := fun s hs t ht =>
  h s (hts hs) t (hts ht)

omit [DecidableEq V] in
theorem oneSided_singleton (s : Env V) : OneSided [s] := by
  intro t ht u hu hflag
  rw [List.mem_singleton.mp hu, ← List.mem_singleton.mp ht, hflag]
  decide

theorem mergeValue_eq_join (h : ¬ (c = .flag ∧ c' = .notFlag)) (h' : ¬ (c = .notFlag ∧ c' = .flag)) :
    mergeValue c c' x x' = join x x' := by
  unfold mergeValue join
  split
  · rfl
  · split
    · exact absurd ⟨rfl, rfl⟩ h
    · exact absurd ⟨rfl, rfl⟩ h'
    · exact absurd ⟨rfl, rfl⟩ h
    · exact absurd ⟨rfl, rfl⟩ h'
    · rfl

/-- The path condition is the common one of a list, and a variable has the common value of its
facts. -/
structure Joins (ts : List (Env V)) (s : Env V) : Prop where
  path : some s.path = agreed? (ts.map Env.path)
  facts : ∀ v, s.find? v = agreed? (ts.filterMap (·.find? v))

theorem joins_singleton (s : Env V) : Joins [s] s where
  path := (FlagValue.agreed?_singleton s.path).symm
  facts v := by cases hv : s.find? v <;> simp [hv, agreed?]

theorem Joins.exists_of_path (h : Joins ts s) (hc : s.path = c) (hne : c ≠ .unknown) :
    ∃ t ∈ ts, t.path = c :=
  List.mem_map.mp (FlagValue.mem_of_agreed? (h.path.symm.trans (congrArg some hc)) hne)

/-- **Two groups.** On one side of the flag, merging two joins gives the join of all. -/
theorem Joins.merge (hs : Joins us s) (ht : Joins ws t) (hside : OneSided (us ++ ws)) :
    Joins (us ++ ws) (s.merge t) where
  path := by
    rw [List.map_append, FlagValue.agreed?_append, ← hs.path, ← ht.path]
    rfl
  facts v := by
    -- The toggle rule needs a side for each group, and then some environment of the group is on it.
    have hone : ¬ (s.path = .flag ∧ t.path = .notFlag) := by
      rintro ⟨hflag, hnot⟩
      obtain ⟨u, hu, huflag⟩ := hs.exists_of_path hflag (by decide)
      obtain ⟨w, hw, hwnot⟩ := ht.exists_of_path hnot (by decide)
      exact hside u (List.mem_append_left _ hu) w (List.mem_append_right _ hw) huflag hwnot
    have htwo : ¬ (s.path = .notFlag ∧ t.path = .flag) := by
      rintro ⟨hnot, hflag⟩
      obtain ⟨u, hu, hunot⟩ := hs.exists_of_path hnot (by decide)
      obtain ⟨w, hw, hwflag⟩ := ht.exists_of_path hflag (by decide)
      exact hside w (List.mem_append_right _ hw) u (List.mem_append_left _ hu) hwflag hunot
    have hjoin : mergeValue s.path t.path = join :=
      funext fun x => funext fun y => mergeValue_eq_join hone htwo
    rw [find?_merge, hjoin, hs.facts, ht.facts, List.filterMap_append, FlagValue.agreed?_append]

/-- **Any number of groups**, merged one after the other. -/
theorem Joins.foldl_merge {gs : List (List (Env V))} (hgs : List.Forall₂ Joins gs ts) (hs : Joins us s)
    (hside : OneSided (us ++ gs.flatten)) : Joins (us ++ gs.flatten) (ts.foldl Env.merge s) := by
  induction hgs generalizing us s with
  | nil => simpa using hs
  | @cons g t gs ts hg _ ih =>
    rw [List.flatten_cons, ← List.append_assoc] at hside ⊢
    exact ih (hs.merge hg (hside.subset (List.subset_append_left _ _))) hside

theorem joins_mergeAll_groups {gs : List (List (Env V))} (hne : gs ≠ [])
    (hgs : List.Forall₂ Joins gs ts) (hside : OneSided gs.flatten) :
    Joins gs.flatten (mergeAll ts) := by
  cases hgs with
  | nil => exact absurd rfl hne
  | cons hg hgs => exact Joins.foldl_merge hgs hg hside

/-- The result of merging environments one by one is their join. -/
theorem joins_mergeAll (hne : ts ≠ []) (hside : OneSided ts) : Joins ts (mergeAll ts) := by
  have hflatten : (ts.map fun t => [t]).flatten = ts := by simp [← List.flatMap_def]
  have hgs : List.Forall₂ Joins (ts.map fun t => [t]) ts :=
    List.forall₂_map_left_iff.mpr (List.forall₂_same.mpr fun t _ => joins_singleton t)
  have hjoins := joins_mergeAll_groups (by simpa using hne) hgs (hflatten.symm ▸ hside)
  rwa [hflatten] at hjoins

/-- **A join is determined by the set of environments.** -/
theorem Joins.agrees (hs : Joins us s) (ht : Joins ws t) (h : ∀ r, r ∈ us ↔ r ∈ ws) : s.Agrees t where
  path := by
    refine Option.some.inj ?_
    rw [hs.path, ht.path]
    exact FlagValue.agreed?_congr fun x => by simp only [List.mem_map, h]
  facts v := by
    rw [hs.facts, ht.facts]
    exact FlagValue.agreed?_congr fun x => by simp only [List.mem_filterMap, h]

/-- **Joins on one side of the flag** keep what all environments agree on, so that neither order nor
repetition nor grouping matters. -/
theorem merge_outside_toggle :
    (∀ ts : List (Env V), ts ≠ [] → OneSided ts →
        some (mergeAll ts).path = agreed? (ts.map Env.path) ∧
        (∀ v, (mergeAll ts).Has v ↔ ∃ t ∈ ts, t.Has v) ∧
        (∀ v, (mergeAll ts).find? v = agreed? (ts.filterMap (·.find? v))) ∧
        (∀ us, us.Perm ts → (mergeAll us).same (mergeAll ts) = true) ∧
        (∀ us, (∀ t, t ∈ us ↔ t ∈ ts) → (mergeAll us).same (mergeAll ts) = true) ∧
        ∀ gs : List (List (Env V)), [] ∉ gs → gs.flatten = ts →
          (mergeAll (gs.map mergeAll)).same (mergeAll ts) = true) ∧
      ∀ s : Env V, (s.merge s).same s = true := by
  have hsame : ∀ {us ts : List (Env V)}, ts ≠ [] → OneSided ts → (∀ t, t ∈ us ↔ t ∈ ts) →
      (mergeAll us).same (mergeAll ts) = true := by
    intro us ts hne hside hmem
    have hne' : us ≠ [] := by
      obtain ⟨t, ht⟩ := List.exists_mem_of_ne_nil _ hne
      exact List.ne_nil_of_mem ((hmem t).mpr ht)
    have hside' : OneSided us := hside.subset fun t ht => (hmem t).mp ht
    exact same_iff.mpr ((joins_mergeAll hne' hside').agrees (joins_mergeAll hne hside) hmem)
  refine ⟨fun ts hne hside => ?_, fun s => ?_⟩
  · have hjoins := joins_mergeAll hne hside
    refine ⟨hjoins.path, fun v => has_mergeAll, hjoins.facts,
      fun us hus => hsame hne hside fun t => hus.mem_iff, fun us => hsame hne hside,
      fun gs hgs hts => ?_⟩
    subst hts
    have hgs' : gs ≠ [] := by
      rintro rfl
      exact hne rfl
    have hgroups : List.Forall₂ Joins gs (gs.map mergeAll) := by
      refine List.forall₂_map_right_iff.mpr (List.forall₂_same.mpr fun g hg => ?_)
      refine joins_mergeAll (fun hnil => hgs (hnil ▸ hg)) (hside.subset fun t ht => ?_)
      exact List.mem_flatten.mpr ⟨g, hg, ht⟩
    exact same_iff.mpr ((joins_mergeAll_groups hgs' hgroups hside).agrees hjoins fun _ => Iff.rfl)
  · have htwice : (mergeAll [s, s]).same (mergeAll [s]) = true :=
      hsame (List.cons_ne_nil _ _) (oneSided_singleton s) (by simp)
    exact htwice

/-- Three paths, two of them on the side of the flag. They agree on the variable `0`, where they
know it, and differ on the variable `1`. -/
def flagSideJoin : List (Env Nat) :=
  [(ofPath .external).set 0 .one, ((ofPath .flag).set 0 .one).set 1 .zero, (ofPath .flag).set 1 .one]

theorem merge_outside_toggle_flagSideJoin :
    OneSided flagSideJoin ∧ (mergeAll flagSideJoin).path = .unknown ∧
      (mergeAll flagSideJoin).find? 0 = some .one ∧ (mergeAll flagSideJoin).find? 1 = some .unknown ∧
      ¬ (mergeAll flagSideJoin).Has 2 ∧
      (mergeAll (flagSideJoin ++ flagSideJoin.reverse)).same (mergeAll flagSideJoin) = true ∧
      (mergeAll ([flagSideJoin.take 1, flagSideJoin.drop 1].map mergeAll)).same
        (mergeAll flagSideJoin) = true := by
  have hside : OneSided flagSideJoin := by decide
  obtain ⟨hpath, hhas, hfacts, -, hset, hgroups⟩ :=
    merge_outside_toggle.1 flagSideJoin (List.cons_ne_nil _ _) hside
  refine ⟨hside, Option.some.inj hpath, hfacts 0, hfacts 1, ?_, hset _ (by simp), hgroups _ ?_ rfl⟩
  · rw [hhas]
    decide
  · simp [flagSideJoin]

/-! ## The two sides of the flag -/

/-- A variable that is `x` on the side of the flag and `y` on the other side is `c`. -/
inductive Toggle : (c x y : FlagValue) → Prop
  | flag : Toggle .flag .one .zero
  | notFlag : Toggle .notFlag .zero .one

/-- The path condition is `c`, and the fact about `v` is `x`. -/
structure OnSide (v : V) (c x : FlagValue) (t : Env V) : Prop where
  path : t.path = c
  fact : t.find? v = some x

/-- Every environment with a fact about `v` is on the side of the flag, where the fact is `x`, or on
the other side, where it is `y`; and both occur. -/
structure TogglesBetween (v : V) (x y : FlagValue) (ts : List (Env V)) : Prop where
  sides : ∀ t ∈ ts, t.Has v → t.OnSide v .flag x ∨ t.OnSide v .notFlag y
  on : ∃ t ∈ ts, t.OnSide v .flag x
  off : ∃ t ∈ ts, t.OnSide v .notFlag y

theorem eq_of_mergeValue_eq (hy : y ≠ .unknown) (hflag : y.dependsOnFlag = false)
    (h : mergeValue c c' x x' = y) : x = y ∧ x' = y := by
  unfold mergeValue at h
  split at h
  · rename_i hx
    exact ⟨h, hx ▸ h⟩
  · split at h <;> subst h
    · cases hflag
    · cases hflag
    · cases hflag
    · cases hflag
    · exact absurd rfl hy

theorem Toggle.of_mergeValue_eq {z : FlagValue} (ht : Toggle z x y) {a a' : FlagValue}
    (h : mergeValue c c' a a' = z) :
    (a = z ∧ a' = z) ∨ (c = .flag ∧ c' = .notFlag ∧ a = x ∧ a' = y) ∨
      (c = .notFlag ∧ c' = .flag ∧ a = y ∧ a' = x) := by
  unfold mergeValue at h
  split at h
  · rename_i ha
    exact .inl ⟨h, ha ▸ h⟩
  · split at h <;> cases ht <;> simp_all

theorem find?_mergeAll_concat (ts : List (Env V)) (t : Env V) (v : V) :
    (mergeAll (ts ++ [t])).find? v =
      ((mergeAll ts).find? v).merge (mergeValue (mergeAll ts).path t.path) (t.find? v) := by
  cases ts with
  | nil => simp [mergeAll, unreached]
  | cons s ts =>
    rw [← find?_merge]
    simp [mergeAll, List.foldl_append]

theorem find?_mergeAll_concat_cases {z : FlagValue} (h : (mergeAll (ts ++ [t])).find? v = some z) :
    ((mergeAll ts).find? v = none ∧ t.find? v = some z) ∨
      ((mergeAll ts).find? v = some z ∧ t.find? v = none) ∨
      ∃ a a', (mergeAll ts).find? v = some a ∧ t.find? v = some a' ∧
        mergeValue (mergeAll ts).path t.path a a' = z := by
  rw [find?_mergeAll_concat] at h
  cases hs : (mergeAll ts).find? v with
  | none => exact .inl ⟨rfl, by simpa [hs] using h⟩
  | some a =>
    cases ht : t.find? v with
    | none => exact .inr (.inl ⟨by simpa [hs, ht] using h, rfl⟩)
    | some a' => exact .inr (.inr ⟨a, a', rfl, rfl, by simpa [hs, ht] using h⟩)

theorem forall_path_of_mergeAll (hc : c ≠ .unknown) (h : (mergeAll ts).path = c) :
    ∀ t ∈ ts, t.path = c := by
  cases ts with
  | nil => simp
  | cons s ts => simpa using (path_foldl_merge_eq_iff hc ts s).mp h

/-- A constant at a join is that of every environment with a fact about the variable. -/
theorem forall_fact_of_mergeAll (hx : x ≠ .unknown) (hflag : x.dependsOnFlag = false)
    (h : (mergeAll ts).find? v = some x) :
    (∃ t ∈ ts, t.find? v = some x) ∧ ∀ t ∈ ts, t.Has v → t.find? v = some x := by
  induction ts using List.reverseRecOn with
  | nil => cases h
  | append_singleton ts t ih =>
    simp only [List.mem_append, List.mem_singleton]
    rcases find?_mergeAll_concat_cases h with ⟨hs, ht⟩ | ⟨hs, ht⟩ | ⟨a, a', hs, ht, hmerge⟩
    · refine ⟨⟨t, .inr rfl, ht⟩, ?_⟩
      rintro u (hu | rfl) hhas
      · have : (mergeAll ts).Has v := has_mergeAll.mpr ⟨u, hu, hhas⟩
        rw [Has, hs] at this
        cases this
      · exact ht
    · obtain ⟨⟨u, hu, hux⟩, hall⟩ := ih hs
      refine ⟨⟨u, .inl hu, hux⟩, ?_⟩
      rintro w (hw | rfl) hhas
      · exact hall w hw hhas
      · rw [Has, ht] at hhas
        cases hhas
    · obtain ⟨rfl, rfl⟩ := eq_of_mergeValue_eq hx hflag hmerge
      refine ⟨⟨t, .inr rfl, ht⟩, ?_⟩
      rintro w (hw | rfl) hhas
      · exact (ih hs).2 w hw hhas
      · exact ht

theorem forall_onSide_of_mergeAll (hc : c ≠ .unknown) (hx : x ≠ .unknown)
    (hflag : x.dependsOnFlag = false) (h : (mergeAll ts).OnSide v c x) :
    (∃ t ∈ ts, t.OnSide v c x) ∧ ∀ t ∈ ts, t.Has v → t.OnSide v c x := by
  have hpath := forall_path_of_mergeAll hc h.path
  obtain ⟨⟨t, ht, hfact⟩, hall⟩ := forall_fact_of_mergeAll hx hflag h.fact
  exact ⟨⟨t, ht, hpath t ht, hfact⟩, fun u hu hhas => ⟨hpath u hu, hall u hu hhas⟩⟩

theorem TogglesBetween.concat (h : TogglesBetween v x y ts) (ht : t.find? v = none) :
    TogglesBetween v x y (ts ++ [t]) where
  sides u hu hhas := by
    rcases List.mem_append.mp hu with hu | hu
    · exact h.sides u hu hhas
    · rw [Has, List.mem_singleton.mp hu, ht] at hhas
      cases hhas
  on := h.on.imp fun _ hu => ⟨List.mem_append_left _ hu.1, hu.2⟩
  off := h.off.imp fun _ hu => ⟨List.mem_append_left _ hu.1, hu.2⟩

theorem sides_concat (hc : c ≠ .unknown) (hx : x ≠ .unknown) (hflag : x.dependsOnFlag = false)
    (hs : (mergeAll ts).OnSide v c x) (ht : t.OnSide v c' y) :
    (∀ u ∈ ts ++ [t], u.Has v → u.OnSide v c x ∨ u.OnSide v c' y) ∧
      (∃ u ∈ ts ++ [t], u.OnSide v c x) ∧ ∃ u ∈ ts ++ [t], u.OnSide v c' y := by
  obtain ⟨⟨w, hw, hside⟩, hall⟩ := forall_onSide_of_mergeAll hc hx hflag hs
  refine ⟨fun u hu hhas => ?_, ⟨w, List.mem_append_left _ hw, hside⟩, ⟨t, by simp, ht⟩⟩
  rcases List.mem_append.mp hu with hu | hu
  · exact .inl (hall u hu hhas)
  · exact .inr (List.mem_singleton.mp hu ▸ ht)

theorem togglesBetween_concat {z : FlagValue} (hz : Toggle z x y)
    (h : ((mergeAll ts).OnSide v .flag x ∧ t.OnSide v .notFlag y) ∨
      ((mergeAll ts).OnSide v .notFlag y ∧ t.OnSide v .flag x)) :
    TogglesBetween v x y (ts ++ [t]) := by
  have hx : x ≠ .unknown ∧ x.dependsOnFlag = false := by cases hz <;> decide
  have hy : y ≠ .unknown ∧ y.dependsOnFlag = false := by cases hz <;> decide
  rcases h with ⟨hs, ht⟩ | ⟨hs, ht⟩
  · obtain ⟨hall, hon, hoff⟩ := sides_concat (by decide) hx.1 hx.2 hs ht
    exact ⟨hall, hon, hoff⟩
  · obtain ⟨hall, hoff, hon⟩ := sides_concat (by decide) hy.1 hy.2 hs ht
    exact ⟨fun u hu hhas => (hall u hu hhas).symm, hon, hoff⟩

/-- **The flag at a join** is that of one of the environments, or they toggle. -/
theorem mem_or_togglesBetween {z : FlagValue} (hz : Toggle z x y)
    (h : (mergeAll ts).find? v = some z) :
    (∃ t ∈ ts, t.find? v = some z) ∨ TogglesBetween v x y ts := by
  -- as long as the path condition is known all environments are on one side of the flag, and after
  -- the toggle it is unknown for good
  induction ts using List.reverseRecOn with
  | nil => cases h
  | append_singleton ts t ih =>
    have hlast : t.find? v = some z → ∃ u ∈ ts ++ [t], u.find? v = some z := fun ht => ⟨t, by simp, ht⟩
    rcases find?_mergeAll_concat_cases h with ⟨-, ht⟩ | ⟨hs, ht⟩ | ⟨a, a', hs, ht, hmerge⟩
    · exact .inl (hlast ht)
    · rcases ih hs with ⟨u, hu, huz⟩ | htoggles
      · exact .inl ⟨u, List.mem_append_left _ hu, huz⟩
      · exact .inr (htoggles.concat ht)
    · rcases hz.of_mergeValue_eq hmerge with ⟨-, rfl⟩ | ⟨hc, hc', rfl, rfl⟩ | ⟨hc, hc', rfl, rfl⟩
      · exact .inl (hlast ht)
      · exact .inr (togglesBetween_concat hz (.inl ⟨⟨hc, hs⟩, hc', ht⟩))
      · exact .inr (togglesBetween_concat hz (.inr ⟨⟨hc, hs⟩, hc', ht⟩))

/-- **The toggle rule never fires by accident**: if it does, both sides of the flag meet, with
constants that fit. -/
theorem toggle_at_join (ts : List (Env V)) (v : V) :
    ((mergeAll ts).find? v = some .flag → (∀ t ∈ ts, t.find? v ≠ some .flag) →
        TogglesBetween v .one .zero ts) ∧
      ((mergeAll ts).find? v = some .notFlag → (∀ t ∈ ts, t.find? v ≠ some .notFlag) →
        TogglesBetween v .zero .one ts) := by
  have htoggles : ∀ {z x y : FlagValue}, Toggle z x y → (mergeAll ts).find? v = some z →
      (∀ t ∈ ts, t.find? v ≠ some z) → TogglesBetween v x y ts := by
    intro z x y hz h hnone
    refine (mem_or_togglesBetween hz h).resolve_left ?_
    rintro ⟨t, ht, hfact⟩
    exact hnone t ht hfact
  exact ⟨htoggles .flag, htoggles .notFlag⟩

/-- Four paths on both sides of the flag, of which two do not know the variables. The last one is on
no side. -/
def toggleJoin : List (Env Nat) :=
  [ofPath .flag, ((ofPath .flag).set 0 .one).set 1 .zero, ((ofPath .notFlag).set 0 .zero).set 1 .one,
    ofPath .external]

/-- The variable `0` is the flag at the join, and the variable `1` its negation. -/
theorem toggle_at_join_toggleJoin :
    (mergeAll toggleJoin).find? 0 = some .flag ∧ (∀ t ∈ toggleJoin, t.find? 0 ≠ some .flag) ∧
      TogglesBetween 0 .one .zero toggleJoin ∧
      (mergeAll toggleJoin).find? 1 = some .notFlag ∧ (∀ t ∈ toggleJoin, t.find? 1 ≠ some .notFlag) ∧
      TogglesBetween 1 .zero .one toggleJoin := by
  have hflag : (mergeAll toggleJoin).find? 0 = some .flag := by decide
  have hflag' : ∀ t ∈ toggleJoin, t.find? 0 ≠ some .flag := by decide
  have hnot : (mergeAll toggleJoin).find? 1 = some .notFlag := by decide
  have hnot' : ∀ t ∈ toggleJoin, t.find? 1 ≠ some .notFlag := by decide
  exact ⟨hflag, hflag', (toggle_at_join toggleJoin 0).1 hflag hflag', hnot, hnot',
    (toggle_at_join toggleJoin 1).2 hnot hnot'⟩

end Env

end FlagFlow
