import FlagFlow.Proofs.Paths
import Mathlib.Data.List.Nodup
import Mathlib.Logic.Relation

/-!
# The order of a breadth-first search

Nodes are searched by their places in the list of nodes. What is found is kept in the order in which
it was found, so the order of the first visits can be told from the successor lists. A search on
places is a search on the nodes at them, and one that has enough steps finds what can be reached,
each node once.

* `IndexGraph.lastPlace?_eq_some`, `IndexGraph.nodesAt_places`: places stand for the nodes at them.
* `IndexGraph.explore_eq_of_closed`: a search ends where all successors have been found;
  `IndexGraph.reachFrom_of_closed`: one that ends after its first place.
* `IndexGraph.Searching`: what is known in the middle of a search; `IndexGraph.Searching.step` keeps
  it, and `IndexGraph.Searching.explore_induction` carries it and whatever else the steps keep to
  the end.
* `IndexGraph.Searching.mem_explore`: what a search finds; `IndexGraph.Searching.explore_congr`: on
  what it depends.
* `IndexGraph.explore_filterMap`, `IndexGraph.breadthFirst?_ofNodes`: a search on places is one on
  nodes.
* **`FlowGraph.visitOrder_of_succs_entry`**: an entry that leads to all other nodes is visited
  first, and the others in the order of its successor lists.
* **`FlowGraph.mem_reached`**, `FlowGraph.mem_unreachable`: the reachable and the unreachable nodes;
  `FlowGraph.nodup_visitOrder`: distinct nodes are listed once.
-/

namespace FlagFlow

namespace IndexGraph

variable {N : Type} [DecidableEq N] {nodes ns : List N} {n : N} {i : Nat}

/-! ## Places -/

theorem lastPlace?_eq_some (h : lastPlace? nodes n = some i) : nodes[i]? = some n := by
  obtain ⟨j, hj, rfl⟩ := Option.map_eq_some_iff.mp h
  obtain ⟨hlt, hn, -⟩ := List.findIdx?_eq_some_iff_getElem.mp hj
  rw [List.length_reverse] at hlt
  rw [decide_eq_true_eq, List.getElem_reverse] at hn
  rw [List.getElem?_eq_getElem (by omega), hn]

theorem exists_lastPlace? (hn : n ∈ nodes) : ∃ i, lastPlace? nodes n = some i := by
  have hsome : (nodes.reverse.findIdx? (· = n)).isSome = true := by
    rw [List.findIdx?_isSome, List.any_eq_true]
    exact ⟨n, List.mem_reverse.mpr hn, by simp⟩
  obtain ⟨j, hj⟩ := Option.isSome_iff_exists.mp hsome
  exact ⟨_, by rw [lastPlace?, hj]; rfl⟩

theorem lastPlace?_injective {m : N} (hn : lastPlace? nodes n = some i)
    (hm : lastPlace? nodes m = some i) : n = m := by
  have hn' := lastPlace?_eq_some hn
  rw [lastPlace?_eq_some hm] at hn'
  exact (Option.some.inj hn').symm

theorem nodup_places (hns : ns.Nodup) : (ns.filterMap (lastPlace? nodes)).Nodup :=
  hns.filterMap fun _ _ _ hn hm => lastPlace?_injective hn hm

theorem nodesAt_places {g : IndexGraph N} (hns : ∀ n ∈ ns, n ∈ g.nodes) :
    g.nodesAt (ns.filterMap (lastPlace? g.nodes)) = ns := by
  rw [nodesAt, List.filterMap_filterMap]
  refine (List.filterMap_congr fun n hn => ?_).trans List.filterMap_some
  obtain ⟨i, hi⟩ := exists_lastPlace? (hns n hn)
  rw [hi, Option.bind_some, lastPlace?_eq_some hi]

theorem eraseDups_of_nodup {l : List Nat} (h : l.Nodup) : l.eraseDups = l := by
  induction l with
  | nil => rfl
  | cons a l ih =>
    rw [List.nodup_cons] at h
    have hfilter : l.filter (fun b => !b == a) = l :=
      List.filter_eq_self.mpr fun b hb => by
        have hne : b ≠ a := fun heq => h.1 (heq ▸ hb)
        simp [hne]
    rw [List.eraseDups_cons, hfilter, ih h.2]

theorem succsAt_ofNodes {successors : N → List N} (h : nodes[i]? = some n) :
    (ofNodes nodes successors).succsAt i =
      ((successors n).filterMap (lastPlace? nodes)).eraseDups := by
  simp [succsAt, ofNodes, List.getD_eq_getElem?_getD, List.getElem?_map, h]

/-! ## Search -/

/-- **The end of a search.** Where all successors have been found nothing is added. -/
theorem explore_eq_of_closed {succ : Nat → List Nat} {queue : List Nat} (fuel : Nat) (done : List Nat)
    (h : ∀ v ∈ queue, ∀ w ∈ succ v, w ∈ done ++ queue) :
    explore succ fuel done queue = done ++ queue := by
  induction fuel generalizing done queue with
  | zero => rfl
  | succ fuel ih =>
    cases queue with
    | nil => simp [explore]
    | cons v queue =>
      have hfresh : (succ v).filter (fun w => !(done ++ v :: queue).contains w) = [] :=
        List.filter_eq_nil_iff.mpr fun w hw => by
          rw [List.contains_iff_mem.mpr (h v List.mem_cons_self w hw)]
          simp
      have hclosed : ∀ u ∈ queue, ∀ w ∈ succ u, w ∈ (done ++ [v]) ++ queue := by
        intro u hu w hw
        simpa using h u (List.mem_cons_of_mem _ hu) w hw
      simp only [explore, hfresh, List.append_nil]
      rw [ih _ hclosed, List.append_assoc, List.singleton_append]

omit [DecidableEq N] in
theorem reachFrom_of_closed {g : IndexGraph N} {r : Nat} (horder : 0 < g.order)
    (hnodup : (r :: g.succsAt r).Nodup)
    (h : ∀ v ∈ g.succsAt r, ∀ w ∈ g.succsAt v, w ∈ r :: g.succsAt r) :
    g.reachFrom [r] = r :: g.succsAt r := by
  obtain ⟨fuel, hfuel⟩ : ∃ fuel, g.order = fuel + 1 := ⟨g.order - 1, by omega⟩
  have hfresh : (g.succsAt r).filter (fun w => !([r].contains w)) = g.succsAt r :=
    List.filter_eq_self.mpr fun w hw => by
      have hne : w ≠ r := fun heq => (List.nodup_cons.mp hnodup).1 (heq ▸ hw)
      simpa using hne
  simp only [reachFrom, hfuel, explore, List.nil_append]
  rw [hfresh]
  exact explore_eq_of_closed fuel [r] h

/-! ## What a search finds -/

section Searching

variable {A B : Type} [BEq A] [LawfulBEq A] [BEq B] [LawfulBEq B] {succ succ' : A → List A}
  {U done queue : List A} {v x : A} {fuel : Nat}

omit [LawfulBEq A] in
theorem explore_nil (succ : A → List A) (fuel : Nat) (done : List A) :
    explore succ fuel done [] = done := by
  cases fuel with
  | zero => exact List.append_nil done
  | succ fuel => rfl

omit [LawfulBEq A] in
theorem explore_cons (succ : A → List A) (fuel : Nat) (done queue : List A) (v : A) :
    explore succ (fuel + 1) done (v :: queue) =
      explore succ fuel (done ++ [v])
        (queue ++ (succ v).filter fun w => !(done ++ v :: queue).contains w) := rfl

/-- The middle of a search within the list `U`: what has been found is distinct and in `U`, and all
that follows what has been left is found. -/
structure Searching (succ : A → List A) (U done queue : List A) : Prop where
  nodup : (done ++ queue).Nodup
  within : ∀ v ∈ done ++ queue, v ∈ U
  left : ∀ v ∈ done, ∀ w ∈ succ v, w ∈ done ++ queue

omit [BEq A] [LawfulBEq A] in
theorem searching_start (hv : v ∈ U) : Searching succ U [] [v] where
  nodup := List.nodup_singleton v
  within _ hw := List.mem_singleton.mp hw ▸ hv
  left _ hw := absurd hw List.not_mem_nil

namespace Searching

omit [BEq A] [LawfulBEq A] in
theorem queue_eq_nil (h : Searching succ U done queue) (hle : U.length ≤ done.length) :
    queue = [] := by
  have hlen := (List.subperm_of_subset h.nodup h.within).length_le
  rw [List.length_append] at hlen
  exact List.length_eq_zero_iff.mp (by omega)

/-- **A step of a search** leaves a place and finds what follows it. -/
theorem step (hU : ∀ v ∈ U, (succ v).Nodup ∧ ∀ w ∈ succ v, w ∈ U)
    (h : Searching succ U done (v :: queue)) :
    Searching succ U (done ++ [v])
      (queue ++ (succ v).filter fun w => !(done ++ v :: queue).contains w) := by
  have hfound : ∀ fresh : List A,
      (done ++ [v]) ++ (queue ++ fresh) = (done ++ v :: queue) ++ fresh := by simp
  have hv : v ∈ U := h.within v (by simp)
  have hfresh : ∀ w, w ∈ (succ v).filter (fun w => !(done ++ v :: queue).contains w) ↔
      w ∈ succ v ∧ w ∉ done ++ v :: queue := by
    intro w
    rw [List.mem_filter, Bool.not_eq_true', ← Bool.not_eq_true, List.contains_iff_mem]
  refine ⟨?_, ?_, ?_⟩
  · rw [hfound, List.nodup_append]
    refine ⟨h.nodup, (hU v hv).1.filter _, fun a ha b hb hab => ?_⟩
    exact ((hfresh b).mp hb).2 (hab ▸ ha)
  · intro w hw
    rw [hfound, List.mem_append] at hw
    rcases hw with hw | hw
    · exact h.within w hw
    · exact (hU v hv).2 w ((hfresh w).mp hw).1
  · intro u hu w hw
    rw [hfound, List.mem_append]
    by_cases hmem : w ∈ done ++ v :: queue
    · exact .inl hmem
    · rcases List.mem_append.mp hu with hu | hu
      · exact .inl (h.left u hu w hw)
      · exact .inr ((hfresh w).mpr ⟨List.mem_singleton.mp hu ▸ hw, hmem⟩)

/-- **What every step of a search keeps** holds at its end, if it has enough steps. -/
theorem explore_induction {P : List A → List A → Prop}
    (hU : ∀ v ∈ U, (succ v).Nodup ∧ ∀ w ∈ succ v, w ∈ U)
    (hstep : ∀ {done queue : List A} {v : A}, Searching succ U done (v :: queue) →
    P done (v :: queue) →
      P (done ++ [v]) (queue ++ (succ v).filter fun w => !(done ++ v :: queue).contains w))
    (h : Searching succ U done queue) (hP : P done queue) (hfuel : U.length ≤ done.length + fuel) :
    Searching succ U (explore succ fuel done queue) [] ∧ P (explore succ fuel done queue) [] := by
  induction fuel generalizing done queue with
  | zero =>
    obtain rfl := h.queue_eq_nil hfuel
    rw [explore_nil]
    exact ⟨h, hP⟩
  | succ fuel ih =>
    cases queue with
    | nil =>
      rw [explore_nil]
      exact ⟨h, hP⟩
    | cons v queue =>
      rw [explore_cons]
      refine ih (h.step hU) (hstep h hP) ?_
      rw [List.length_append, List.length_singleton]
      omega

/-- **A search that has enough steps** ends with all that follows what it has found. -/
theorem explore (hU : ∀ v ∈ U, (succ v).Nodup ∧ ∀ w ∈ succ v, w ∈ U)
    (h : Searching succ U done queue) (hfuel : U.length ≤ done.length + fuel) :
    Searching succ U (explore succ fuel done queue) [] :=
  (h.explore_induction (P := fun _ _ => True) hU (fun _ _ => trivial) trivial hfuel).1

end Searching

omit [LawfulBEq A] in
theorem mem_explore_of_mem (hx : x ∈ done ++ queue) : x ∈ explore succ fuel done queue := by
  induction fuel generalizing done queue with
  | zero => exact hx
  | succ fuel ih =>
    cases queue with
    | nil => rwa [explore_nil, ← List.append_nil done]
    | cons v queue =>
      rw [explore_cons]
      refine ih ?_
      rw [← List.append_assoc, List.append_assoc done, List.singleton_append]
      exact List.mem_append_left _ hx

omit [LawfulBEq A] in
theorem exists_start_of_mem_explore (hx : x ∈ explore succ fuel done queue) :
    ∃ v ∈ done ++ queue, Relation.ReflTransGen (fun a b => b ∈ succ a) v x := by
  induction fuel generalizing done queue with
  | zero => exact ⟨x, hx, .refl⟩
  | succ fuel ih =>
    cases queue with
    | nil =>
      rw [explore_nil] at hx
      exact ⟨x, List.mem_append_left _ hx, .refl⟩
    | cons v queue =>
      rw [explore_cons] at hx
      obtain ⟨u, hu, hux⟩ := ih hx
      rw [← List.append_assoc, List.append_assoc done, List.singleton_append,
        List.mem_append] at hu
      rcases hu with hu | hu
      · exact ⟨u, hu, hux⟩
      · exact ⟨v, by simp, .head (List.mem_filter.mp hu).1 hux⟩

namespace Searching

/-- **What a search finds** is what can be reached from where it is. -/
theorem mem_explore (hU : ∀ v ∈ U, (succ v).Nodup ∧ ∀ w ∈ succ v, w ∈ U)
    (h : Searching succ U done queue) (hfuel : U.length ≤ done.length + fuel) :
    x ∈ IndexGraph.explore succ fuel done queue ↔
      ∃ v ∈ done ++ queue, Relation.ReflTransGen (fun a b => b ∈ succ a) v x := by
  refine ⟨exists_start_of_mem_explore, ?_⟩
  rintro ⟨v, hv, hvx⟩
  induction hvx with
  | refl => exact mem_explore_of_mem hv
  | tail _ hw ih =>
    have hmem := (h.explore hU hfuel).left _ ih _ hw
    rwa [List.append_nil] at hmem

/-- **A search depends only on the successors of what it finds.** -/
theorem explore_congr (hU : ∀ v ∈ U, (succ v).Nodup ∧ ∀ w ∈ succ v, w ∈ U)
    (hsucc : ∀ v ∈ U, succ' v = succ v) (h : Searching succ U done queue)
    (hfuel : U.length ≤ done.length + fuel) {fuel' : Nat} (hle : fuel ≤ fuel') :
    IndexGraph.explore succ' fuel' done queue = IndexGraph.explore succ fuel done queue := by
  induction fuel generalizing done queue fuel' with
  | zero =>
    obtain rfl := h.queue_eq_nil hfuel
    rw [explore_nil, explore_nil]
  | succ fuel ih =>
    cases queue with
    | nil => rw [explore_nil, explore_nil]
    | cons v queue =>
      obtain ⟨l, rfl⟩ : ∃ l, fuel' = l + 1 := ⟨fuel' - 1, by omega⟩
      rw [explore_cons, explore_cons, hsucc v (h.within v (by simp))]
      refine ih (h.step hU) ?_ (by omega)
      rw [List.length_append, List.length_singleton]
      omega

end Searching

/-! ## Places and nodes -/

theorem filterMap_filter_not_contains {f : A → Option B}
    (hf : ∀ {a b i}, f a = some i → f b = some i → a = b) (found l : List A) :
    (l.filter fun a => !found.contains a).filterMap f =
      (l.filterMap f).filter fun i => !(found.filterMap f).contains i := by
  rw [List.filterMap_filter, List.filter_filterMap]
  refine List.filterMap_congr fun a _ => ?_
  cases ha : f a with
  | none => simp
  | some i =>
    have hmem : i ∈ found.filterMap f ↔ a ∈ found := by
      rw [List.mem_filterMap]
      constructor
      · rintro ⟨b, hb, hbi⟩
        exact hf hbi ha ▸ hb
      · exact fun hmem => ⟨a, hmem, ha⟩
    by_cases hfound : a ∈ found <;> simp [Option.filter, hmem, hfound]

/-- **A search on other names** finds the names of what is found. -/
theorem explore_filterMap {f : A → Option B} (hf : ∀ {a b i}, f a = some i → f b = some i → a = b)
    (hU : ∀ v ∈ U, (succ v).Nodup ∧ ∀ w ∈ succ v, w ∈ U) (hsome : ∀ v ∈ U, ∃ i, f v = some i)
    {next : B → List B} (hnext : ∀ v ∈ U, ∀ i, f v = some i → next i = (succ v).filterMap f)
    (h : Searching succ U done queue) :
    explore next fuel (done.filterMap f) (queue.filterMap f) =
      (explore succ fuel done queue).filterMap f := by
  induction fuel generalizing done queue with
  | zero => exact List.filterMap_append.symm
  | succ fuel ih =>
    cases queue with
    | nil => rw [List.filterMap_nil, explore_nil, explore_nil]
    | cons v queue =>
      have hv : v ∈ U := h.within v (by simp)
      obtain ⟨i, hi⟩ := hsome v hv
      have hfound : done.filterMap f ++ i :: queue.filterMap f = (done ++ v :: queue).filterMap f := by
        rw [List.filterMap_append, List.filterMap_cons_some hi]
      rw [List.filterMap_cons_some hi, explore_cons, explore_cons, ← ih (h.step hU), hnext v hv i hi,
        hfound, ← filterMap_filter_not_contains hf, List.filterMap_append, List.filterMap_append,
        List.filterMap_cons_some hi, List.filterMap_nil]

theorem nodup_eraseDups (l : List A) : l.eraseDups.Nodup := by
  induction hlen : l.length using Nat.strong_induction_on generalizing l with
  | _ k ih =>
    cases l with
    | nil => exact List.nodup_nil
    | cons a l =>
      have hlt : (l.filter fun b => !b == a).length < k := by
        have := List.length_filter_le (fun b => !b == a) l
        rw [List.length_cons] at hlen
        omega
      rw [List.eraseDups_cons, List.nodup_cons, List.mem_eraseDups, List.mem_filter]
      exact ⟨by simp, ih _ hlt _ rfl⟩

theorem eraseDups_filterMap {f : A → Option B} (hf : ∀ {a b i}, f a = some i → f b = some i → a = b)
    (l : List A) (hl : ∀ a ∈ l, ∃ i, f a = some i) :
    (l.filterMap f).eraseDups = l.eraseDups.filterMap f := by
  induction hlen : l.length using Nat.strong_induction_on generalizing l with
  | _ k ih =>
    cases l with
    | nil => rfl
    | cons a l =>
      obtain ⟨i, hi⟩ := hl a List.mem_cons_self
      have hlt : (l.filter fun b => !b == a).length < k := by
        have := List.length_filter_le (fun b => !b == a) l
        rw [List.length_cons] at hlen
        omega
      have hrest : (l.filterMap f).filter (fun j => !j == i) =
          (l.filter fun b => !b == a).filterMap f := by
        have := filterMap_filter_not_contains hf [a] l
        rw [List.filterMap_cons_some hi, List.filterMap_nil] at this
        simpa using this.symm
      rw [List.filterMap_cons_some hi, List.eraseDups_cons, List.eraseDups_cons,
        List.filterMap_cons_some hi, hrest, ih _ hlt _ (fun b hb => ?_) rfl]
      exact hl b (List.mem_cons_of_mem _ (List.mem_filter.mp hb).1)

end Searching

/-- The successors of a node that are in the list of nodes, each once. -/
def listed (nodes : List N) (successors : N → List N) (n : N) : List N :=
  ((successors n).filter (· ∈ nodes)).eraseDups

theorem mem_listed {successors : N → List N} {m : N} :
    m ∈ listed nodes successors n ↔ m ∈ successors n ∧ m ∈ nodes := by
  rw [listed, List.mem_eraseDups, List.mem_filter, decide_eq_true_eq]

theorem listed_within (nodes : List N) (successors : N → List N) :
    ∀ n ∈ nodes, (listed nodes successors n).Nodup ∧ ∀ m ∈ listed nodes successors n, m ∈ nodes :=
  fun _ _ => ⟨nodup_eraseDups _, fun _ hm => (mem_listed.mp hm).2⟩

/-- An edge between two nodes of the list. -/
def Leads (nodes : List N) (successors : N → List N) (n m : N) : Prop :=
  n ∈ nodes ∧ m ∈ nodes ∧ m ∈ successors n

theorem leads_iff {successors : N → List N} {m : N} (hn : n ∈ nodes) :
    Leads nodes successors n m ↔ m ∈ listed nodes successors n := by
  rw [Leads, mem_listed, and_iff_right hn, and_comm]

theorem lastPlace?_eq_none (hn : n ∉ nodes) : lastPlace? nodes n = none := by
  cases h : lastPlace? nodes n with
  | none => rfl
  | some i => exact absurd (List.mem_of_getElem? (lastPlace?_eq_some h)) hn

theorem succsAt_eq_listed {successors : N → List N} (hi : lastPlace? nodes n = some i) :
    (ofNodes nodes successors).succsAt i =
      (listed nodes successors n).filterMap (lastPlace? nodes) := by
  have hfilter : (successors n).filterMap (lastPlace? nodes) =
      ((successors n).filter (· ∈ nodes)).filterMap (lastPlace? nodes) := by
    rw [List.filterMap_filter]
    refine List.filterMap_congr fun m _ => ?_
    by_cases hm : m ∈ nodes
    · simp [hm]
    · simp [hm, lastPlace?_eq_none hm]
  rw [succsAt_ofNodes (lastPlace?_eq_some hi), hfilter, listed]
  exact eraseDups_filterMap lastPlace?_injective _ fun m hm =>
    exists_lastPlace? (of_decide_eq_true (List.mem_filter.mp hm).2)

theorem searching_explore (successors : N → List N) {root : N} (hroot : root ∈ nodes) :
    Searching (listed nodes successors) nodes
      (explore (listed nodes successors) nodes.length [] [root]) [] :=
  (searching_start hroot).explore (listed_within nodes successors) (by simp)

/-- **The order of a breadth-first search** is that of a search on the nodes. -/
theorem breadthFirst?_ofNodes {successors : N → List N} {root : N} (hroot : root ∈ nodes) :
    (ofNodes nodes successors).breadthFirst? root =
      some (explore (listed nodes successors) nodes.length [] [root]) := by
  obtain ⟨r, hr⟩ := exists_lastPlace? hroot
  have hplaces : (ofNodes nodes successors).reachFrom [r] =
      (explore (listed nodes successors) nodes.length [] [root]).filterMap (lastPlace? nodes) := by
    rw [← explore_filterMap lastPlace?_injective (listed_within nodes successors)
      (fun _ hn => exists_lastPlace? hn) (fun n _ i hi => succsAt_eq_listed hi)
      (searching_start hroot), List.filterMap_cons_some hr]
    rfl
  have hindex : (ofNodes nodes successors).index? root = some r := hr
  have hwithin := (searching_explore successors hroot).within
  rw [List.append_nil] at hwithin
  rw [breadthFirst?, hindex, Option.map_some, hplaces]
  exact congrArg some (nodesAt_places (g := ofNodes nodes successors) hwithin)

theorem breadthFirst?_eq_none {successors : N → List N} {root : N} (hroot : root ∉ nodes) :
    (ofNodes nodes successors).breadthFirst? root = none := by
  have hindex : (ofNodes nodes successors).index? root = none := lastPlace?_eq_none hroot
  rw [breadthFirst?, hindex, Option.map_none]

end IndexGraph

namespace FlowGraph

open IndexGraph

variable {N : Type} [DecidableEq N] {g : FlowGraph N}

/-- **An entry that leads to all other nodes** comes first, and its successors follow in their
order. -/
theorem visitOrder_of_succs_entry (hentry : g.entry ∈ g.nodes)
    (hnodup : (g.entry :: g.succs g.entry).Nodup)
    (hnodes : ∀ n, n ∈ g.nodes ↔ n ∈ g.entry :: g.succs g.entry) :
    g.visitOrder = g.entry :: g.succs g.entry := by
  let places := (g.succs g.entry).filterMap (lastPlace? g.nodes)
  obtain ⟨r, hr⟩ := exists_lastPlace? hentry
  have hcons : (g.entry :: g.succs g.entry).filterMap (lastPlace? g.nodes) = r :: places :=
    List.filterMap_cons_some hr
  have hplaces : (r :: places).Nodup := hcons ▸ nodup_places hnodup
  have hsucc : g.indexed.succsAt r = places := by
    rw [indexed, succsAt_ofNodes (lastPlace?_eq_some hr)]
    exact eraseDups_of_nodup (List.nodup_cons.mp hplaces).2
  -- every successor of a node is the entry or one of its successors, so it is found by the first
  -- step
  have hclosed : ∀ v ∈ places, ∀ w ∈ g.indexed.succsAt v, w ∈ r :: places := by
    intro v hv w hw
    obtain ⟨n, -, hn⟩ := List.mem_filterMap.mp hv
    rw [indexed, succsAt_ofNodes (lastPlace?_eq_some hn), List.mem_eraseDups] at hw
    obtain ⟨m, -, hm⟩ := List.mem_filterMap.mp hw
    have hmem : m ∈ g.nodes := List.mem_of_getElem? (lastPlace?_eq_some hm)
    rw [← hcons]
    exact List.mem_filterMap.mpr ⟨m, (hnodes m).mp hmem, hm⟩
  have hreach : g.indexed.reachFrom [r] = r :: places := by
    rw [← hsucc] at hplaces hclosed ⊢
    exact reachFrom_of_closed (List.length_pos_of_mem hentry) hplaces hclosed
  have horder : g.indexed.breadthFirst? g.entry = some (g.entry :: g.succs g.entry) := by
    have hindex : g.indexed.index? g.entry = some r := hr
    rw [breadthFirst?, hindex, Option.map_some, hreach, ← hcons]
    exact congrArg some (nodesAt_places (g := g.indexed) fun n hn => (hnodes n).mpr hn)
  have hnone : g.unreachable = [] := by
    rw [unreachable, IndexGraph.unreachable, horder, List.filter_eq_nil_iff]
    intro n hn
    rw [Option.getD_some, List.contains_iff_mem.mpr ((hnodes n).mp hn)]
    simp
  rw [visitOrder, horder, hnone, Option.getD_some, List.append_nil]

/-! ## Reachable nodes -/

/-- The nodes that a search from the entry finds, in their order. -/
def reached (g : FlowGraph N) : List N :=
  explore (listed g.nodes g.succs) g.nodes.length [] [g.entry]

theorem breadthFirst?_entry (hentry : g.entry ∈ g.nodes) :
    g.indexed.breadthFirst? g.entry = some g.reached := breadthFirst?_ofNodes hentry

theorem unreachable_eq (hentry : g.entry ∈ g.nodes) :
    g.unreachable = g.nodes.filter fun n => !g.reached.contains n := by
  rw [unreachable, IndexGraph.unreachable, breadthFirst?_entry hentry]
  rfl

theorem visitOrder_eq (hentry : g.entry ∈ g.nodes) : g.visitOrder = g.reached ++ g.unreachable := by
  rw [visitOrder, breadthFirst?_entry hentry, Option.getD_some]

theorem nodup_reached (hentry : g.entry ∈ g.nodes) : g.reached.Nodup := by
  have h := (searching_explore g.succs hentry).nodup
  rwa [List.append_nil] at h

omit [DecidableEq N] in
theorem reflTransGen_of_path {a n : N} {es : List (N × EdgeKind)} (hes : g.Path a es n)
    (hn : n ∈ g.nodes) :
    Relation.ReflTransGen (Leads g.nodes g.succs) a n := by
  induction hes with
  | nil => exact .refl
  | snoc _ hp hk ih => exact (ih hp).tail ⟨hp, hn, mem_succs_iff.mpr ⟨_, hk⟩⟩

/-- **A search from the entry finds the reachable nodes.** -/
theorem mem_reached (hentry : g.entry ∈ g.nodes) {n : N} :
    n ∈ g.reached ↔ n ∈ g.nodes ∧ g.Reachable n := by
  rw [reached, (searching_start hentry).mem_explore (listed_within g.nodes g.succs) (by simp)]
  constructor
  · rintro ⟨v, hv, hvn⟩
    obtain rfl : v = g.entry := List.mem_singleton.mp hv
    induction hvn with
    | refl => exact ⟨hentry, [], .nil⟩
    | tail _ hm ih =>
      obtain ⟨hsucc, hmem⟩ := mem_listed.mp hm
      obtain ⟨k, hk⟩ := mem_succs_iff.mp hsucc
      exact ⟨hmem, ih.2.snoc ih.1 hk⟩
  · rintro ⟨hn, es, hes⟩
    exact ⟨g.entry, List.mem_singleton_self _,
      Relation.ReflTransGen.mono (fun _ _ h => (leads_iff h.1).mp h) _ _ (reflTransGen_of_path hes hn)⟩

/-- **The nodes that are listed as unreachable**, also of a graph whose entry is not a node. -/
theorem mem_unreachable {n : N} : n ∈ g.unreachable ↔ n ∈ g.nodes ∧ ¬ g.Reachable n := by
  by_cases hentry : g.entry ∈ g.nodes
  · rw [unreachable_eq hentry, List.mem_filter, Bool.not_eq_true', ← Bool.not_eq_true,
      List.contains_iff_mem, mem_reached hentry]
    constructor
    · exact fun h => ⟨h.1, fun hr => h.2 ⟨h.1, hr⟩⟩
    · exact fun h => ⟨h.1, fun hr => h.2 hr.2⟩
  · have hnone : g.indexed.breadthFirst? g.entry = none := breadthFirst?_eq_none hentry
    have hnot : n ∈ g.nodes → ¬ g.Reachable n := by
      rintro hn ⟨es, hes⟩
      exact hentry (hes.start_mem hn)
    rw [unreachable, IndexGraph.unreachable, hnone, List.mem_filter]
    exact ⟨fun h => ⟨h.1, hnot h.1⟩, fun h => ⟨h.1, rfl⟩⟩

/-- **Distinct nodes are listed once.** -/
theorem nodup_visitOrder (hnodup : g.nodes.Nodup) : g.visitOrder.Nodup := by
  by_cases hentry : g.entry ∈ g.nodes
  · rw [visitOrder_eq hentry, List.nodup_append]
    refine ⟨nodup_reached hentry, ?_, fun n hn m hm hnm => ?_⟩
    · rw [unreachable_eq hentry]
      exact hnodup.filter _
    · exact (mem_unreachable.mp hm).2 (hnm ▸ ((mem_reached hentry).mp hn).2)
  · have hnone : g.indexed.breadthFirst? g.entry = none := breadthFirst?_eq_none hentry
    rw [visitOrder, hnone, Option.getD_none, List.nil_append, unreachable, IndexGraph.unreachable]
    exact hnodup.filter _

end FlowGraph

end FlagFlow
