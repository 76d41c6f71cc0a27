/-!
# Tables

A finite map, kept as the list of its entries in the order in which the keys were first set. The
keys are distinct, so a table is read through `Table.find?` alone; the order of the entries never
decides an answer.

* `Table.find?`, `Table.getD`: the value of a key.
* `Table.set`: sets the value of a key.
* `Table.merge`: all keys of two tables, with a rule for the keys that both have.
* `Table.agree`: as many entries, and every entry of the one is in the other.
-/

namespace FlagFlow

/-- A finite map from `K` to `V`: keys with their values, no key twice. -/
structure Table (K V : Type) where
  entries : List (K × V)
  distinct : (entries.map Prod.fst).Nodup

namespace Table

variable {K V : Type}

def empty : Table K V := ⟨[], List.nodup_nil⟩

instance : Inhabited (Table K V) := ⟨empty⟩

/-- The keys in the order in which they were first set. -/
def keys (t : Table K V) : List K := t.entries.map Prod.fst

def size (t : Table K V) : Nat := t.entries.length

variable [DecidableEq K]

def find? (t : Table K V) (k : K) : Option V := t.entries.lookup k

/-- The value of a key, or `fallback` for a key that has none. -/
def getD (t : Table K V) (k : K) (fallback : V) : V := (t.find? k).getD fallback

def contains (t : Table K V) (k : K) : Bool := decide (k ∈ t.keys)

/-- Sets the value of `k` in a list of entries: in its place, or at the end. -/
def setEntry (k : K) (v : V) : List (K × V) → List (K × V)
  | [] => [(k, v)]
  | e :: es => if e.1 = k then (k, v) :: es else e :: setEntry k v es

theorem map_fst_setEntry_of_mem {k : K} (v : V) {es : List (K × V)} (h : k ∈ es.map Prod.fst) :
    (setEntry k v es).map Prod.fst = es.map Prod.fst := by
  induction es with
  | nil => simp at h
  | cons e es ih =>
    by_cases he : e.1 = k
    · simp [setEntry, he]
    · have : k ∈ es.map Prod.fst := by
        rcases List.mem_cons.mp h with h | h
        · exact absurd h.symm he
        · exact h
      simp [setEntry, he, ih this]

theorem map_fst_setEntry_of_not_mem {k : K} (v : V) {es : List (K × V)}
    (h : k ∉ es.map Prod.fst) :
    (setEntry k v es).map Prod.fst = es.map Prod.fst ++ [k] := by
  induction es with
  | nil => rfl
  | cons e es ih =>
    have he : e.1 ≠ k := fun he => h (by simp [he])
    have hes : k ∉ es.map Prod.fst := fun hk => h (List.mem_cons_of_mem _ hk)
    simp [setEntry, he, ih hes]

theorem nodup_setEntry (k : K) (v : V) {es : List (K × V)} (h : (es.map Prod.fst).Nodup) :
    ((setEntry k v es).map Prod.fst).Nodup := by
  by_cases hk : k ∈ es.map Prod.fst
  · rw [map_fst_setEntry_of_mem v hk]
    exact h
  · rw [map_fst_setEntry_of_not_mem v hk, List.nodup_append]
    refine ⟨h, by simp, ?_⟩
    intro a ha b hb hab
    simp only [List.mem_singleton] at hb
    exact hk (hb ▸ hab ▸ ha)

/-- The table in which `k` has the value `v` and every other key is as before. -/
def set (t : Table K V) (k : K) (v : V) : Table K V :=
  ⟨setEntry k v t.entries, nodup_setEntry k v t.distinct⟩

/-- The entry of `s` at its place in the merged table: `f` decides where `t` has the key too. -/
def mergeEntry (f : V → V → V) (t : Table K V) (e : K × V) : K × V :=
  match t.find? e.1 with
  | some y => (e.1, f e.2 y)
  | none => e

theorem fst_mergeEntry (f : V → V → V) (t : Table K V) (e : K × V) :
    (mergeEntry f t e).1 = e.1 := by
  unfold mergeEntry
  split <;> rfl

/-- The keys of both tables. A key of one table keeps its value; a key of both has the value
`f x y`, where `x` is its value in the first and `y` its value in the second table. -/
def merge (f : V → V → V) (s t : Table K V) : Table K V where
  entries := s.entries.map (mergeEntry f t) ++ t.entries.filter fun e => !s.contains e.1
  distinct := by
    have hs : (s.entries.map (mergeEntry f t)).map Prod.fst = s.keys := by
      simp [keys, Function.comp_def, fst_mergeEntry]
    rw [List.map_append, hs, List.nodup_append]
    refine ⟨s.distinct, ?_, ?_⟩
    · exact (List.filter_sublist.map Prod.fst).nodup t.distinct
    · intro a ha b hb hab
      obtain ⟨e, he, rfl⟩ := List.mem_map.mp hb
      have := (List.mem_filter.mp he).2
      simp only [contains, Bool.not_eq_true', decide_eq_false_iff_not] at this
      exact this (hab ▸ ha)

/-- Whether two tables have the same number of keys and every key of the first has the same value
in the second. -/
def agree [DecidableEq V] (s t : Table K V) : Bool :=
  s.size == t.size && s.entries.all fun e => t.find? e.1 == some e.2

/-- The table that maps `e.1` to `e.2` for the entries of a list, a later entry winning. -/
def ofList (es : List (K × V)) : Table K V := es.foldl (fun t e => t.set e.1 e.2) empty

end Table

end FlagFlow
