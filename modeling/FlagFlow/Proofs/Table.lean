import FlagFlow.Table
import Mathlib.Data.List.Perm.Basic

/-!
# Look-ups in tables

A table is read through `find?`, so every operation is described by what it does to look-ups.

* `find?_set`, `getD_set`: setting a key changes the answer for that key only.
* `find?_merge`: the answer of a merged table from the answers of its parts.
* `agree_iff`: two tables agree if they give the same answer for every key.
* `entries_ofList`, `filter_entries`: a table as a list of entries.
-/

namespace FlagFlow

namespace Table

variable {K V : Type} [DecidableEq K]

theorem lookup_cons (e : K × V) (es : List (K × V)) (k : K) :
    (e :: es).lookup k = if k = e.1 then some e.2 else es.lookup k := by
  rw [List.lookup_cons]
  by_cases h : k = e.1
  · simp [h]
  · have hne : (k == e.1) = false := by simpa using h
    rw [hne, if_neg h]

theorem find?_eq_some_iff {t : Table K V} {k : K} {v : V} :
    t.find? k = some v ↔ (k, v) ∈ t.entries := by
  obtain ⟨es, hes⟩ := t
  simp only [find?]
  induction es with
  | nil => simp
  | cons e es ih =>
    obtain ⟨a, b⟩ := e
    simp only [List.map_cons, List.nodup_cons] at hes
    rw [lookup_cons]
    by_cases h : k = a
    · subst h
      -- the key is not in the rest of the list, so the first entry is the only one for it
      have hk : (k, v) ∉ es := fun hm => hes.1 (List.mem_map_of_mem hm)
      simp [hk, eq_comm]
    · simp [h, ih hes.2]

theorem find?_isSome_iff {t : Table K V} {k : K} : (t.find? k).isSome = true ↔ k ∈ t.keys := by
  simp only [Option.isSome_iff_exists, find?_eq_some_iff, keys, List.mem_map]
  constructor
  · rintro ⟨v, h⟩
    exact ⟨(k, v), h, rfl⟩
  · rintro ⟨⟨_, v⟩, h, rfl⟩
    exact ⟨v, h⟩

theorem find?_eq_none_iff {t : Table K V} {k : K} : t.find? k = none ↔ k ∉ t.keys := by
  rw [← find?_isSome_iff, Option.isSome_iff_ne_none, not_not]

@[simp]
theorem find?_empty (k : K) : (empty : Table K V).find? k = none := rfl

theorem lookup_setEntry (k k' : K) (v : V) (es : List (K × V)) :
    (setEntry k v es).lookup k' = if k' = k then some v else es.lookup k' := by
  induction es with
  | nil => simp [setEntry, lookup_cons]
  | cons e es ih =>
    by_cases he : e.1 = k
    · subst he
      by_cases h : k' = e.1 <;> simp [setEntry, lookup_cons, h]
    · simp only [setEntry, if_neg he, lookup_cons, ih]
      by_cases h : k' = e.1
      · simp [h, he]
      · simp [h]

theorem find?_set (t : Table K V) (k k' : K) (v : V) :
    (t.set k v).find? k' = if k' = k then some v else t.find? k' :=
  lookup_setEntry k k' v t.entries

theorem getD_set (t : Table K V) (k k' : K) (v d : V) :
    (t.set k v).getD k' d = if k' = k then v else t.getD k' d := by
  simp only [getD, find?_set]
  split <;> rfl

theorem lookup_map_mergeEntry (f : V → V → V) (t : Table K V) (es : List (K × V)) (k : K) :
    (es.map (mergeEntry f t)).lookup k =
      (es.lookup k).map fun x => (t.find? k).elim x (f x) := by
  induction es with
  | nil => rfl
  | cons e es ih =>
    rw [List.map_cons, lookup_cons, lookup_cons, fst_mergeEntry, ih]
    by_cases h : k = e.1
    · subst h
      cases ht : t.find? e.1 <;> simp [mergeEntry, ht]
    · simp [h]

theorem lookup_filter_not_contains (s : Table K V) (es : List (K × V)) {k : K}
    (hk : s.find? k = none) : (es.filter fun e => !s.contains e.1).lookup k = es.lookup k := by
  induction es with
  | nil => rfl
  | cons e es ih =>
    by_cases hc : s.contains e.1 = true
    · have hne : k ≠ e.1 := by
        rintro rfl
        exact find?_eq_none_iff.mp hk (by simpa [contains] using hc)
      simp [hc, ih, lookup_cons, hne]
    · simp [hc, ih, lookup_cons]

/-- **Look-up in a merged table.** Where both tables have the key, `f` decides. -/
theorem find?_merge (f : V → V → V) (s t : Table K V) (k : K) :
    (s.merge f t).find? k = (s.find? k).merge f (t.find? k) := by
  have hs := lookup_map_mergeEntry f t s.entries k
  change (s.entries.map (mergeEntry f t) ++ _).lookup k = _
  rw [List.lookup_append, hs]
  cases h : s.find? k with
  | none =>
    rw [lookup_filter_not_contains s t.entries h]
    simp only [find?] at h ⊢
    simp [h]
  | some x =>
    simp only [find?] at h ⊢
    cases t.entries.lookup k <;> simp [h]

/-- **Agreement is equality of all look-ups.** -/
theorem agree_iff [DecidableEq V] {s t : Table K V} :
    s.agree t = true ↔ ∀ k, s.find? k = t.find? k := by
  have hall : (s.entries.all fun e => t.find? e.1 == some e.2) = true ↔
      ∀ k v, s.find? k = some v → t.find? k = some v := by
    simp only [List.all_eq_true, beq_iff_eq, Prod.forall, find?_eq_some_iff]
  rw [agree, Bool.and_eq_true, hall, beq_iff_eq]
  have hkeys : (∀ k v, s.find? k = some v → t.find? k = some v) → s.keys ⊆ t.keys := by
    intro h k hk
    obtain ⟨v, hv⟩ := Option.isSome_iff_exists.mp (find?_isSome_iff.mpr hk)
    exact find?_isSome_iff.mp (by rw [h k v hv]; rfl)
  have hlen : ∀ u : Table K V, u.keys.length = u.size := fun u => by simp [keys, size]
  constructor
  · rintro ⟨hsize, h⟩ k
    cases hk : s.find? k with
    | some v => exact (h k v hk).symm
    | none =>
      -- as many keys, none of them lost: the second table has no key of its own
      have hperm : s.keys.Perm t.keys :=
        (List.subperm_of_subset s.distinct (hkeys h)).perm_of_length_le
          (by rw [hlen t, ← hsize, ← hlen s]; exact Nat.le_refl _)
      rw [find?_eq_none_iff, hperm.mem_iff] at hk
      exact (find?_eq_none_iff.mpr hk).symm
  · intro h
    refine ⟨?_, fun k v hk => by rw [← h k, hk]⟩
    have hst : s.keys ⊆ t.keys := hkeys fun k v hk => by rw [← h k, hk]
    have hts : t.keys ⊆ s.keys := fun k hk => by
      rw [← find?_isSome_iff, h k, find?_isSome_iff]
      exact hk
    have h1 := (List.subperm_of_subset s.distinct hst).length_le
    have h2 := (List.subperm_of_subset t.distinct hts).length_le
    rw [← hlen s, ← hlen t]
    exact Nat.le_antisymm h1 h2

theorem find?_ofList_const (ks : List K) (v : V) (k : K) :
    (ofList (ks.map (·, v))).find? k = if k ∈ ks then some v else none := by
  have hfold : ∀ (ks : List K) (t : Table K V),
      ((ks.map (·, v)).foldl (fun t e => t.set e.1 e.2) t).find? k =
        if k ∈ ks then some v else t.find? k := by
    intro ks
    induction ks with
    | nil => simp
    | cons a ks ih =>
      intro t
      rw [List.map_cons, List.foldl_cons, ih, find?_set]
      by_cases hks : k ∈ ks <;> by_cases ha : k = a <;> simp [hks, ha]
  exact hfold ks empty

/-! ## Entries -/

theorem setEntry_of_not_mem {k : K} (v : V) {es : List (K × V)} (h : k ∉ es.map Prod.fst) :
    setEntry k v es = es ++ [(k, v)] := by
  induction es with
  | nil => rfl
  | cons e es ih =>
    rw [List.map_cons, List.mem_cons, not_or] at h
    rw [setEntry, if_neg (Ne.symm h.1), ih h.2, List.cons_append]

/-- A table of distinct keys has the entries from which it was made. -/
theorem entries_ofList {es : List (K × V)} (h : (es.map Prod.fst).Nodup) :
    (ofList es).entries = es := by
  have hfold : ∀ (es : List (K × V)) (t : Table K V), ((t.entries ++ es).map Prod.fst).Nodup →
      (es.foldl (fun t e => t.set e.1 e.2) t).entries = t.entries ++ es := by
    intro es
    induction es with
    | nil => exact fun t _ => (List.append_nil _).symm
    | cons e es ih =>
      intro t ht
      have hset : (t.set e.1 e.2).entries = t.entries ++ [e] := by
        refine setEntry_of_not_mem e.2 fun hmem => ?_
        rw [List.map_append, List.map_cons, List.nodup_append] at ht
        exact ht.2.2 _ hmem _ List.mem_cons_self rfl
      rw [List.foldl_cons, ih, hset, List.append_assoc, List.singleton_append]
      rwa [hset, List.append_assoc, List.singleton_append]
  exact hfold es empty h

theorem filter_entries (t : Table K V) (k : K) :
    t.entries.filter (fun e => e.1 = k) = (t.find? k).toList.map (k, ·) := by
  obtain ⟨es, hes⟩ := t
  simp only [find?]
  induction es with
  | nil => rfl
  | cons e es ih =>
    rw [List.map_cons, List.nodup_cons] at hes
    rw [lookup_cons]
    by_cases h : k = e.1
    · -- no other entry has the key
      have hnone : es.filter (fun e' => e'.1 = k) = [] := by
        refine List.filter_eq_nil_iff.mpr fun e' he' hk => hes.1 ?_
        rw [← h, ← of_decide_eq_true hk]
        exact List.mem_map_of_mem he'
      rw [List.filter_cons, hnone, if_pos (decide_eq_true h.symm), if_pos h, h]
      rfl
    · rw [List.filter_cons, if_neg fun hk => h (of_decide_eq_true hk).symm, if_neg h, ih hes.2]

end Table

end FlagFlow
