import FlagFlow.Findings
import FlagFlow.Proofs.BreadthFirst
import FlagFlow.Proofs.Flattening

/-!
# Loops

The loops of a graph are its strong components that have a cycle. A component with several places
has one, a component with a single place only if the place has an edge to itself. A node that is
listed several times has edges from all its places, but edges lead to the last one only, so the
places on a cycle are last places.

* `IndexGraph.IsComponents`: the largest sets of places of which each can be reached from each, in
  any order.
* `IndexGraph.isComponents_components`: the components are gathered place by place
  (`Gathered.step`).
* `IndexGraph.IsComponents.isTrivial_iff`: which components have no cycle.
* `IndexGraph.transGen_places_iff`: paths between places are paths between nodes.
* `FlowGraph.acyclic_iff`: a graph without cycles has no path from a node to itself.
* **`loops_are_cyclic_components`**: what the loops of a graph are, and when the analysis of a
  function counts none.
-/

namespace FlagFlow

open Relation

/-- There is a path with an edge from `a` to `b`, and one back. -/
def Mutual {A : Type} (r : A → A → Prop) (a b : A) : Prop := TransGen r a b ∧ TransGen r b a

/-- Each of `a` and `b` can be reached from the other. -/
def Together {A : Type} (r : A → A → Prop) (a b : A) : Prop := ReflTransGen r a b ∧ ReflTransGen r b a

section Together

variable {A : Type} {r : A → A → Prop} {a b c : A}

theorem Together.refl (a : A) : Together r a a := ⟨.refl, .refl⟩

theorem Together.symm (h : Together r a b) : Together r b a := ⟨h.2, h.1⟩

theorem Together.trans (h : Together r a b) (h' : Together r b c) : Together r a c :=
  ⟨h.1.trans h'.1, h'.2.trans h.2⟩

theorem Mutual.together (h : Mutual r a b) : Together r a b :=
  ⟨h.1.to_reflTransGen, h.2.to_reflTransGen⟩

theorem Together.mutual (h : Together r a b) (ha : TransGen r a a) : Mutual r a b :=
  ⟨ha.trans_left h.1, .trans_right h.2 ha⟩

theorem Together.transGen_self (h : Together r a b) (hne : a ≠ b) : TransGen r a a := by
  rcases reflTransGen_iff_eq_or_transGen.mp h.1 with rfl | hab
  · exact absurd rfl hne
  · exact hab.trans_left h.2

end Together

namespace IndexGraph

variable {N : Type}

/-! ## Edges between places -/

/-- An edge between two places. -/
def Edge (g : IndexGraph N) (i j : Nat) : Prop := j ∈ g.succsAt i

/-- Every place has distinct successors, and only places of the list have edges. -/
structure Proper (g : IndexGraph N) : Prop where
  nodup : ∀ i, (g.succsAt i).Nodup
  within : ∀ i j, g.Edge i j → i < g.order ∧ j < g.order

section Places

variable {g : IndexGraph N} {i j : Nat}

theorem hasSelfEdge_iff : g.hasSelfEdge i = true ↔ g.Edge i i := by
  simp [hasSelfEdge, Edge]

theorem Proper.succsAt (hg : g.Proper) : ∀ i ∈ List.range g.order,
    (g.succsAt i).Nodup ∧ ∀ j ∈ g.succsAt i, j ∈ List.range g.order :=
  fun i _ => ⟨hg.nodup i, fun j hj => List.mem_range.mpr (hg.within i j hj).2⟩

theorem Proper.lt_of_reflTransGen (hg : g.Proper) (hi : i < g.order) (h : ReflTransGen g.Edge i j) :
    j < g.order := by
  rcases ReflTransGen.cases_tail h with rfl | ⟨k, -, hk⟩
  · exact hi
  · exact (hg.within k j hk).2

theorem getD_reach (hi : i < g.order) : g.reach.getD i [] = g.reachFrom [i] := by
  simp [reach, List.getD_eq_getElem?_getD, List.getElem?_range hi]

theorem searching_reachFrom (hg : g.Proper) (hi : i < g.order) :
    Searching g.succsAt (List.range g.order) (g.reachFrom [i]) [] :=
  (searching_start (List.mem_range.mpr hi)).explore hg.succsAt (by simp)

theorem mem_reach (hg : g.Proper) (hi : i < g.order) :
    j ∈ g.reach.getD i [] ↔ ReflTransGen g.Edge i j := by
  rw [getD_reach hi, reachFrom, (searching_start (List.mem_range.mpr hi)).mem_explore
    hg.succsAt (by simp)]
  simp only [List.nil_append, List.mem_singleton, exists_eq_left]
  rfl

theorem mem_componentAt (hg : g.Proper) (hi : i < g.order) :
    j ∈ componentAt g.reach i ↔ Together g.Edge i j := by
  rw [componentAt, List.mem_filter, List.contains_iff_mem, mem_reach hg hi, Together]
  exact and_congr_right fun hij => mem_reach hg (hg.lt_of_reflTransGen hi hij)

theorem nodup_componentAt (hg : g.Proper) (hi : i < g.order) : (componentAt g.reach i).Nodup := by
  have hnodup := (searching_reachFrom hg hi).nodup
  rw [List.append_nil] at hnodup
  rw [componentAt, getD_reach hi]
  exact hnodup.filter _

/-! ## Gathering the components -/

/-- The components with that of a place, unless it is among them. -/
def gather (g : IndexGraph N) (cs : List (List Nat)) (i : Nat) : List (List Nat) :=
  if cs.any (·.contains i) then cs else cs ++ [componentAt g.reach i]

theorem components_eq (g : IndexGraph N) : g.components = (List.range g.order).foldl g.gather [] := rfl

/-- Some of the strong components, each once, those of the places `seen` among them. -/
structure Gathered (g : IndexGraph N) (seen : List Nat) (cs : List (List Nat)) : Prop where
  component : ∀ c ∈ cs, c.Nodup ∧ ∃ i ∈ c, i < g.order ∧ ∀ j, j ∈ c ↔ Together g.Edge i j
  disjoint : cs.Pairwise List.Disjoint
  covers : ∀ i ∈ seen, ∃ c ∈ cs, i ∈ c

namespace Gathered

variable {seen c : List Nat} {cs : List (List Nat)}

theorem mem_of_together (h : g.Gathered seen cs) (hc : c ∈ cs) (hi : i ∈ c)
    (hij : Together g.Edge i j) :
    j ∈ c := by
  obtain ⟨-, k, -, -, hk⟩ := h.component c hc
  exact (hk j).mpr (((hk i).mp hi).trans hij)

theorem together_of_mem (h : g.Gathered seen cs) (hc : c ∈ cs) (hi : i ∈ c) (hj : j ∈ c) :
    Together g.Edge i j := by
  obtain ⟨-, k, -, -, hk⟩ := h.component c hc
  exact ((hk i).mp hi).symm.trans ((hk j).mp hj)

theorem lt_of_mem (hg : g.Proper) (h : g.Gathered seen cs) (hc : c ∈ cs) (hi : i ∈ c) :
    i < g.order := by
  obtain ⟨-, k, -, hlt, hk⟩ := h.component c hc
  exact hg.lt_of_reflTransGen hlt ((hk i).mp hi).1

/-- **A step of the gathering** adds the component of a place that is in none yet. -/
theorem step (hg : g.Proper) (h : g.Gathered seen cs) (hi : i < g.order) :
    g.Gathered (seen ++ [i]) (g.gather cs i) := by
  have hany : cs.any (·.contains i) = true ↔ ∃ c ∈ cs, i ∈ c := by simp
  unfold gather
  split
  next hcond =>
    refine ⟨h.component, h.disjoint, fun k hk => ?_⟩
    rcases List.mem_append.mp hk with hk | hk
    · exact h.covers k hk
    · obtain rfl := List.mem_singleton.mp hk
      exact hany.mp hcond
  next hcond =>
    rw [hany] at hcond
    refine ⟨fun c hc => ?_, ?_, fun k hk => ?_⟩
    · rcases List.mem_append.mp hc with hc | hc
      · exact h.component c hc
      · obtain rfl := List.mem_singleton.mp hc
        exact ⟨nodup_componentAt hg hi, i, (mem_componentAt hg hi).mpr (.refl i), hi,
          fun j => mem_componentAt hg hi⟩
    · rw [List.pairwise_append]
      refine ⟨h.disjoint, List.pairwise_singleton _ _, fun c hc c' hc' k hk hk' => ?_⟩
      obtain rfl := List.mem_singleton.mp hc'
      -- a place of both would put `i` into the old component
      exact hcond ⟨c, hc, h.mem_of_together hc hk ((mem_componentAt hg hi).mp hk').symm⟩
    · rcases List.mem_append.mp hk with hk | hk
      · obtain ⟨c, hc, hkc⟩ := h.covers k hk
        exact ⟨c, List.mem_append_left _ hc, hkc⟩
      · obtain rfl := List.mem_singleton.mp hk
        exact ⟨_, List.mem_append_right _ (List.mem_singleton_self _),
          (mem_componentAt hg hi).mpr (.refl k)⟩

theorem foldl (hg : g.Proper) (h : g.Gathered seen cs) {is : List Nat} (his : ∀ i ∈ is, i < g.order) :
    g.Gathered (seen ++ is) (is.foldl g.gather cs) := by
  induction is generalizing seen cs with
  | nil => rwa [List.append_nil]
  | cons i is ih =>
    rw [List.foldl_cons, ← List.singleton_append, ← List.append_assoc]
    exact ih (h.step hg (his i List.mem_cons_self)) fun k hk => his k (List.mem_cons_of_mem _ hk)

end Gathered

theorem gathered_components (hg : g.Proper) : g.Gathered (List.range g.order) g.components := by
  have hnone : g.Gathered [] [] :=
    ⟨fun _ h => absurd h List.not_mem_nil, .nil, fun _ h => absurd h List.not_mem_nil⟩
  rw [components_eq]
  exact hnone.foldl hg fun _ hi => List.mem_range.mp hi

/-! ## Components with a cycle -/

/-- The strong components of a graph, in some order: disjoint lists of places without repetition,
where two places are in the same list if each can be reached from the other. -/
structure IsComponents (g : IndexGraph N) (cs : List (List Nat)) : Prop where
  ne_nil : ∀ c ∈ cs, c ≠ []
  nodup : ∀ c ∈ cs, c.Nodup
  disjoint : cs.Pairwise List.Disjoint
  same_iff : ∀ i j, (∃ c ∈ cs, i ∈ c ∧ j ∈ c) ↔ i < g.order ∧ j < g.order ∧ Together g.Edge i j

/-- **The components are the strong components.** -/
theorem isComponents_components (hg : g.Proper) : g.IsComponents g.components := by
  have h := gathered_components hg
  refine ⟨fun c hc => ?_, fun c hc => (h.component c hc).1, h.disjoint, fun i j => ⟨?_, ?_⟩⟩
  · obtain ⟨-, i, hi, -⟩ := h.component c hc
    exact List.ne_nil_of_mem hi
  · rintro ⟨c, hc, hi, hj⟩
    exact ⟨h.lt_of_mem hg hc hi, h.lt_of_mem hg hc hj, h.together_of_mem hc hi hj⟩
  · rintro ⟨hi, -, hij⟩
    obtain ⟨c, hc, hic⟩ := h.covers i (List.mem_range.mpr hi)
    exact ⟨c, hc, hic, h.mem_of_together hc hic hij⟩

namespace IsComponents

variable {c : List Nat} {cs : List (List Nat)}

theorem together (h : g.IsComponents cs) (hc : c ∈ cs) (hi : i ∈ c) (hj : j ∈ c) :
    Together g.Edge i j :=
  ((h.same_iff i j).mp ⟨c, hc, hi, hj⟩).2.2

theorem mem_of_together (h : g.IsComponents cs) (hg : g.Proper) (hc : c ∈ cs) (hi : i ∈ c)
    (hij : Together g.Edge i j) : j ∈ c := by
  have hlt : i < g.order := ((h.same_iff i i).mp ⟨c, hc, hi, hi⟩).1
  obtain ⟨d, hd, hid, hjd⟩ := (h.same_iff i j).mpr ⟨hlt, hg.lt_of_reflTransGen hlt hij.1, hij⟩
  -- disjoint lists that share a place are the same
  by_contra hjc
  have hne : c ≠ d := fun heq => hjc (heq ▸ hjd)
  have hdisjoint : List.Disjoint c d := by
    have hsymm : Std.Symm (List.Disjoint (α := Nat)) := ⟨fun _ _ h => h.symm⟩
    exact h.disjoint.forall hc hd hne
  exact hdisjoint hi hid

/-- **Which components have no cycle.** -/
theorem isTrivial_iff (h : g.IsComponents cs) (hg : g.Proper) (hc : c ∈ cs) (hi : i ∈ c) :
    g.isTrivial c = true ↔ ¬ TransGen g.Edge i i := by
  by_cases hlen : c.length = 1
  · obtain ⟨v, rfl⟩ := List.length_eq_one_iff.mp hlen
    obtain rfl := List.mem_singleton.mp hi
    simp only [isTrivial, List.length_singleton, decide_true, List.head?_cons, Option.any_some,
      Bool.true_and, Bool.not_eq_true', ← Bool.not_eq_true, hasSelfEdge_iff]
    refine not_congr ⟨.single, fun hcycle => ?_⟩
    obtain ⟨w, hw, hback⟩ := TransGen.head'_iff.mp hcycle
    obtain rfl := List.mem_singleton.mp (h.mem_of_together hg hc hi ⟨.single hw, hback⟩)
    exact hw
  · have hfalse : g.isTrivial c = false := by simp [isTrivial, hlen]
    rw [hfalse]
    obtain ⟨j, hj, hne⟩ : ∃ j ∈ c, i ≠ j := by
      by_contra hall
      simp only [not_exists, not_and, not_not] at hall
      have hrep : c = List.replicate c.length i :=
        List.eq_replicate_iff.mpr ⟨rfl, fun j hj => (hall j hj).symm⟩
      have hnodup := h.nodup c hc
      rw [hrep, List.nodup_replicate] at hnodup
      have hpos := List.length_pos_of_mem hi
      omega
    simpa using (h.together hc hi hj).transGen_self hne

/-- The components with a cycle. -/
def cyclic (g : IndexGraph N) (cs : List (List Nat)) : List (List Nat) :=
  cs.filter fun c => !g.isTrivial c

theorem exists_cyclic_iff (h : g.IsComponents cs) (hg : g.Proper) :
    (∃ c ∈ cyclic g cs, i ∈ c ∧ j ∈ c) ↔ Mutual g.Edge i j := by
  simp only [cyclic, List.mem_filter, Bool.not_eq_true']
  constructor
  · rintro ⟨c, ⟨hc, hcycle⟩, hi, hj⟩
    rw [← Bool.not_eq_true, h.isTrivial_iff hg hc hi, not_not] at hcycle
    exact (h.together hc hi hj).mutual hcycle
  · intro hij
    obtain ⟨k, hk, -⟩ := TransGen.head'_iff.mp hij.1
    have hi := (hg.within i k hk).1
    obtain ⟨c, hc, hic, hjc⟩ := (h.same_iff i j).mpr
      ⟨hi, hg.lt_of_reflTransGen hi hij.together.1, hij.together⟩
    refine ⟨c, ⟨hc, ?_⟩, hic, hjc⟩
    rw [← Bool.not_eq_true, h.isTrivial_iff hg hc hic, not_not]
    exact hij.1.trans hij.2

end IsComponents

end Places

/-! ## Places and nodes -/

section Nodes

variable [DecidableEq N] {nodes : List N} {successors : N → List N} {n m : N} {i j : Nat}

theorem edge_ofNodes_iff : (ofNodes nodes successors).Edge i j ↔
    ∃ n, nodes[i]? = some n ∧ ∃ m ∈ successors n, lastPlace? nodes m = some j := by
  cases hi : nodes[i]? with
  | none => simp [Edge, succsAt, ofNodes, List.getD_eq_getElem?_getD, List.getElem?_map, hi]
  | some n => simp [Edge, succsAt_ofNodes hi, List.mem_eraseDups, List.mem_filterMap]

theorem proper_ofNodes (nodes : List N) (successors : N → List N) :
    (ofNodes nodes successors).Proper where
  nodup i := by
    cases hi : nodes[i]? with
    | none => simp [succsAt, ofNodes, List.getD_eq_getElem?_getD, List.getElem?_map, hi]
    | some n =>
      rw [succsAt_ofNodes hi]
      exact nodup_eraseDups _
  within i j h := by
    obtain ⟨n, hn, m, -, hm⟩ := edge_ofNodes_iff.mp h
    exact ⟨(List.getElem?_eq_some_iff.mp hn).1,
      (List.getElem?_eq_some_iff.mp (lastPlace?_eq_some hm)).1⟩

theorem edge_places_iff (hn : lastPlace? nodes n = some i) (hm : lastPlace? nodes m = some j) :
    (ofNodes nodes successors).Edge i j ↔ Leads nodes successors n m := by
  have hi := lastPlace?_eq_some hn
  rw [edge_ofNodes_iff, Leads, hi, and_iff_right (List.mem_of_getElem? hi),
    and_iff_right (List.mem_of_getElem? (lastPlace?_eq_some hm))]
  constructor
  · rintro ⟨n', hn', m', hsucc, hm'⟩
    obtain rfl := Option.some.inj hn'
    exact lastPlace?_injective hm' hm ▸ hsucc
  · exact fun hsucc => ⟨n, rfl, m, hsucc, hm⟩

theorem exists_node_of_transGen (h : TransGen (ofNodes nodes successors).Edge i j) :
    ∃ m, lastPlace? nodes m = some j := by
  obtain ⟨k, -, hk⟩ := TransGen.tail'_iff.mp h
  obtain ⟨-, -, m, -, hm⟩ := edge_ofNodes_iff.mp hk
  exact ⟨m, hm⟩

/-- **Paths between places are paths between nodes.** -/
theorem transGen_places_iff (hn : lastPlace? nodes n = some i) (hm : lastPlace? nodes m = some j) :
    TransGen (ofNodes nodes successors).Edge i j ↔
      TransGen (Leads nodes successors) n m := by
  constructor
  · intro h
    induction h generalizing m with
    | single h => exact .single ((edge_places_iff hn hm).mp h)
    | tail hpath h ih =>
      obtain ⟨p, hp⟩ := exists_node_of_transGen hpath
      exact (ih hp).tail ((edge_places_iff hp hm).mp h)
  · intro h
    induction h generalizing j with
    | single h => exact .single ((edge_places_iff hn hm).mpr h)
    | tail _ h ih =>
      obtain ⟨k, hk⟩ := exists_lastPlace? h.1
      exact (ih hk).tail ((edge_places_iff hk hm).mpr h)

theorem mutual_places_iff (hn : lastPlace? nodes n = some i) (hm : lastPlace? nodes m = some j) :
    Mutual (ofNodes nodes successors).Edge i j ↔ Mutual (Leads nodes successors) n m :=
  and_congr (transGen_places_iff hn hm) (transGen_places_iff hm hn)

end Nodes

/-! ## Loops of nodes -/

/-- Lists of nodes that are the strong components with a cycle: they are disjoint and list their
nodes once. A node is in one of them if it has a path to itself, and two nodes are in the same one
if each has a path to the other. -/
structure CyclicComponents (nodes : List N) (successors : N → List N) (loops : List (List N)) :
    Prop where
  disjoint : loops.Pairwise List.Disjoint
  ne_nil : ∀ l ∈ loops, l ≠ []
  nodup : ∀ l ∈ loops, l.Nodup
  mem_iff : ∀ n, (∃ l ∈ loops, n ∈ l) ↔ TransGen (Leads nodes successors) n n
  same_iff : ∀ n m, (∃ l ∈ loops, n ∈ l ∧ m ∈ l) ↔
    TransGen (Leads nodes successors) n m ∧ TransGen (Leads nodes successors) m n

section Nodes

variable [DecidableEq N] {nodes : List N} {successors : N → List N} {n m : N} {i : Nat} {c : List Nat}
  {cs : List (List Nat)}

namespace IsComponents

variable (h : (ofNodes nodes successors).IsComponents cs)

include h

theorem exists_node (hc : c ∈ cyclic (ofNodes nodes successors) cs) (hi : i ∈ c) :
    ∃ n, lastPlace? nodes n = some i :=
  exists_node_of_transGen
    ((h.exists_cyclic_iff (proper_ofNodes nodes successors)).mp ⟨c, hc, hi, hi⟩).1

theorem lastPlace?_of_mem (hc : c ∈ cyclic (ofNodes nodes successors) cs) (hi : i ∈ c)
    (hn : nodes[i]? = some n) : lastPlace? nodes n = some i := by
  obtain ⟨m, hm⟩ := h.exists_node hc hi
  obtain rfl : m = n := Option.some.inj ((lastPlace?_eq_some hm).symm.trans hn)
  exact hm

theorem mem_nodesAt_iff (hc : c ∈ cyclic (ofNodes nodes successors) cs) :
    n ∈ (ofNodes nodes successors).nodesAt c ↔ ∃ i ∈ c, lastPlace? nodes n = some i := by
  rw [nodesAt, List.mem_filterMap]
  exact exists_congr fun i => and_congr_right fun hi => ⟨h.lastPlace?_of_mem hc hi, lastPlace?_eq_some⟩

theorem nodup_nodesAt (hc : c ∈ cyclic (ofNodes nodes successors) cs) :
    ((ofNodes nodes successors).nodesAt c).Nodup := by
  have hnodup := h.nodup c (List.mem_of_mem_filter hc)
  refine List.pairwise_filterMap.mpr (hnodup.imp_of_mem fun {i j} hi hj hij n hn m hm hnm => hij ?_)
  have hi' := h.lastPlace?_of_mem hc hi hn
  have hj' := h.lastPlace?_of_mem hc hj hm
  exact Option.some.inj (hi'.symm.trans (hnm ▸ hj'))

/-- **Two nodes are in one loop if each has a path to the other.** -/
theorem exists_loop_iff : (∃ l ∈ (ofNodes nodes successors).loopsAmong cs, n ∈ l ∧ m ∈ l) ↔
    Mutual (Leads nodes successors) n m := by
  have hplaces := fun i j => h.exists_cyclic_iff (proper_ofNodes nodes successors) (i := i) (j := j)
  change (∃ l ∈ (cyclic (ofNodes nodes successors) cs).map _, n ∈ l ∧ m ∈ l) ↔ _
  simp only [List.mem_map, exists_exists_and_eq_and]
  constructor
  · rintro ⟨c, hc, hn, hm⟩
    obtain ⟨i, hi, hni⟩ := (h.mem_nodesAt_iff hc).mp hn
    obtain ⟨j, hj, hmj⟩ := (h.mem_nodesAt_iff hc).mp hm
    exact (mutual_places_iff hni hmj).mp ((hplaces i j).mp ⟨c, hc, hi, hj⟩)
  · intro hnm
    obtain ⟨_, hleads, -⟩ := TransGen.head'_iff.mp hnm.1
    obtain ⟨_, hleads', -⟩ := TransGen.head'_iff.mp hnm.2
    obtain ⟨i, hi⟩ := exists_lastPlace? hleads.1
    obtain ⟨j, hj⟩ := exists_lastPlace? hleads'.1
    obtain ⟨c, hc, hic, hjc⟩ := (hplaces i j).mpr ((mutual_places_iff hi hj).mpr hnm)
    exact ⟨c, hc, (h.mem_nodesAt_iff hc).mpr ⟨i, hic, hi⟩, (h.mem_nodesAt_iff hc).mpr ⟨j, hjc, hj⟩⟩

theorem pairwise_disjoint : ((ofNodes nodes successors).loopsAmong cs).Pairwise List.Disjoint := by
  rw [loopsAmong, List.pairwise_map]
  refine (h.disjoint.filter _).imp_of_mem fun {c d} hc hd hdisjoint n hn hn' => ?_
  obtain ⟨i, hi, hni⟩ := (h.mem_nodesAt_iff hc).mp hn
  obtain ⟨j, hj, hnj⟩ := (h.mem_nodesAt_iff hd).mp hn'
  obtain rfl : i = j := Option.some.inj (hni.symm.trans hnj)
  exact hdisjoint hi hj

/-- **The loops among the strong components.** -/
theorem cyclicComponents : CyclicComponents nodes successors
    ((ofNodes nodes successors).loopsAmong cs) := by
  refine ⟨h.pairwise_disjoint, fun l hl => ?_, fun l hl => ?_, fun n => ?_,
    fun n m => h.exists_loop_iff⟩
  · obtain ⟨c, hc, rfl⟩ := List.mem_map.mp hl
    obtain ⟨i, hi⟩ := List.exists_mem_of_ne_nil c (h.ne_nil c (List.mem_of_mem_filter hc))
    obtain ⟨n, hn⟩ := h.exists_node hc hi
    exact List.ne_nil_of_mem ((h.mem_nodesAt_iff hc).mpr ⟨i, hi, hn⟩)
  · obtain ⟨c, hc, rfl⟩ := List.mem_map.mp hl
    exact h.nodup_nodesAt hc
  · simpa only [and_self, Mutual] using h.exists_loop_iff (n := n) (m := n)

end IsComponents

theorem cyclicComponents_loops (nodes : List N) (successors : N → List N) :
    CyclicComponents nodes successors (ofNodes nodes successors).loops :=
  (isComponents_components (proper_ofNodes nodes successors)).cyclicComponents

theorem loops_eq_nil_iff :
    (ofNodes nodes successors).loops = [] ↔ ∀ n, ¬ TransGen (Leads nodes successors) n n := by
  have h := cyclicComponents_loops nodes successors
  simp only [← h.mem_iff]
  constructor
  · rintro hnil n ⟨l, hl, -⟩
    rw [hnil] at hl
    exact absurd hl List.not_mem_nil
  · refine fun hnone => List.eq_nil_iff_forall_not_mem.mpr fun l hl => ?_
    obtain ⟨n, hn⟩ := List.exists_mem_of_ne_nil l (h.ne_nil l hl)
    exact hnone n ⟨l, hl, hn⟩

end Nodes

end IndexGraph

/-! ## Functions -/

namespace FlowGraph

variable {N : Type} {g : FlowGraph N}

open IndexGraph

theorem exists_path_of_transGen {a n : N} (h : TransGen (Leads g.nodes g.succs) a n) :
    ∃ es, es ≠ [] ∧ g.Path a es n := by
  induction h with
  | single h =>
    obtain ⟨k, hk⟩ := mem_succs_iff.mp h.2.2
    exact ⟨_, List.cons_ne_nil _ _, .edge h.1 hk⟩
  | tail _ h ih =>
    obtain ⟨es, -, hes⟩ := ih
    obtain ⟨k, hk⟩ := mem_succs_iff.mp h.2.2
    exact ⟨_, by simp, .snoc hes h.1 hk⟩

/-- **A graph without cycles** has no path from a node to itself. -/
theorem acyclic_iff : g.Acyclic ↔ ∀ n, ¬ TransGen (Leads g.nodes g.succs) n n := by
  constructor
  · intro h n hn
    obtain ⟨es, hne, hes⟩ := exists_path_of_transGen hn
    exact hne (h n es hes)
  · intro h n es hes
    cases hes with
    | nil => rfl
    | snoc hes hp hk =>
      have hn := hes.start_mem hp
      have hlast : Leads g.nodes g.succs _ n := ⟨hp, hn, mem_succs_iff.mpr ⟨_, hk⟩⟩
      exact absurd (.tail' (reflTransGen_of_path hes hp) hlast) (h n)

theorem loopCount_eq_zero_iff {g : FlowGraph Nat} : g.loopCount = 0 ↔ g.Acyclic := by
  rw [loopCount, List.length_eq_zero_iff, loops_eq_nil_iff, acyclic_iff]

end FlowGraph

namespace Func

variable (f : Func) (name : String) (o : Options)

theorem loops_analyze :
    (f.analyze name o).loops = if (f.analyze name o).error.isSome then 0 else f.graph.loopCount := by
  cases hb : f.body? with
  | none => simp [analyze, hb]
  | some b =>
    cases hs : b.analyze o.isFeature o.maxVisits with
    | error e => simp [analyze, hb, hs]
    | ok s => cases he : b.shortfall? o.maxVisits s <;> simp [analyze, hb, hs, he, body?_eq_some hb]

theorem loops_analyze_eq_zero_iff :
    (f.analyze name o).loops = 0 ↔ (f.analyze name o).error.isSome = true ∨ f.graph.Acyclic := by
  rw [loops_analyze, ← FlowGraph.loopCount_eq_zero_iff]
  cases (f.analyze name o).error <;> simp

end Func

/-- **The loops of a graph are its cyclic strong components**, and a failed analysis counts none. -/
theorem loops_are_cyclic_components {N : Type} [DecidableEq N] (nodes : List N)
    (successors : N → List N) :
    (∀ cs, (IndexGraph.ofNodes nodes successors).IsComponents cs →
        IndexGraph.CyclicComponents nodes successors
          ((IndexGraph.ofNodes nodes successors).loopsAmong cs)) ∧
      (IndexGraph.ofNodes nodes successors).IsComponents
        (IndexGraph.ofNodes nodes successors).components ∧
      IndexGraph.CyclicComponents nodes successors (IndexGraph.ofNodes nodes successors).loops ∧
      ∀ (f : Func) (name : String) (o : Options),
        (f.analyze name o).loops = 0 ↔ (f.analyze name o).error.isSome = true ∨ f.graph.Acyclic :=
  ⟨fun _ h => h.cyclicComponents,
    IndexGraph.isComponents_components (IndexGraph.proper_ofNodes nodes successors),
    IndexGraph.cyclicComponents_loops nodes successors, Func.loops_analyze_eq_zero_iff⟩

/-- Two nodes in a ring, one of them listed twice, and after it a node that leads to itself. -/
def ringSuccessors (n : Nat) : List Nat := [[1], [2, 2], [1, 3, 7], [3, 4]].getD n []

theorem loops_are_cyclic_components_ring :
    [2, 1] ∈ (IndexGraph.ofNodes [0, 1, 2, 3, 4, 1] ringSuccessors).loops ∧ [2, 1].Nodup ∧
      TransGen (IndexGraph.Leads [0, 1, 2, 3, 4, 1] ringSuccessors) 1 2 ∧
      TransGen (IndexGraph.Leads [0, 1, 2, 3, 4, 1] ringSuccessors) 3 3 ∧
      ¬ TransGen (IndexGraph.Leads [0, 1, 2, 3, 4, 1] ringSuccessors) 0 0 := by
  have hloops : (IndexGraph.ofNodes [0, 1, 2, 3, 4, 1] ringSuccessors).loops = [[2, 1], [3]] := by
    decide
  obtain ⟨-, -, h, -⟩ := loops_are_cyclic_components [0, 1, 2, 3, 4, 1] ringSuccessors
  rw [hloops] at h ⊢
  refine ⟨by decide, h.nodup [2, 1] (by decide), ((h.same_iff 1 2).mp (by decide)).1,
    (h.mem_iff 3).mp (by decide), ?_⟩
  rw [← h.mem_iff]
  decide

/-- A function that does not end. -/
def Func.endless : Func where
  blocks := [
    { succs := [1], instrs := [{ kind := .jump }] },
    { succs := [1], preds := [0, 1], instrs := [{ kind := .jump }] }]

/-- With a single visit its analysis fails, and its loop is not counted. -/
theorem Func.failed_analysis_counts_no_loop :
    (endless.analyze "p.endless" ⟨(· == defaultCallee), 1⟩).loops = 0 ∧ ¬ endless.graph.Acyclic := by
  have hedge : endless.graph.Path 1 [(1, .fall)] 1 := .edge (by decide) (by decide)
  exact ⟨by decide, fun h => List.cons_ne_nil _ _ (h 1 _ hedge)⟩

end FlagFlow
