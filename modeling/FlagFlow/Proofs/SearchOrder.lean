import FlagFlow.Proofs.BreadthFirst
import Mathlib.Order.Lattice.Nat

/-!
# Where a search finds the nodes

A search leaves the nodes in the order in which it found them. Each node is found when its first
predecessor is left, after all that was found before, and with the other successors of that
predecessor in their order. Nearer nodes have earlier first predecessors, so they are found earlier:
the search is breadth-first.

* `IndexGraph.LeadsIn`, `IndexGraph.distance`: paths with a number of edges, and the least such
  number.
* `IndexGraph.foundAt`: the place of the first predecessor and the place among its successors.
* `IndexGraph.FoundInOrder`: what is known of these in the middle of a search;
  `IndexGraph.FoundInOrder.step` keeps it.
* `IndexGraph.idxOf_lt_of_distance_lt`: nearer nodes stand before farther ones.
* **`IndexGraph.breadthFirst?_order`**: the order of a search, and the nodes that it does not find.
-/

namespace FlagFlow

namespace IndexGraph

variable {N : Type} [DecidableEq N] {nodes : List N} {successors : N → List N} {root n m : N}

/-! ## Distances -/

/-- The nodes that a path of a number of edges leads to from `a`. -/
inductive LeadsIn (nodes : List N) (successors : N → List N) (a : N) : Nat → N → Prop
  | zero : LeadsIn nodes successors a 0 a
  | succ {k : Nat} {n m : N} :
      LeadsIn nodes successors a k n → Leads nodes successors n m →
      LeadsIn nodes successors a (k + 1) m

/-- The number of edges of a shortest path. -/
noncomputable def distance (nodes : List N) (successors : N → List N) (a n : N) : Nat :=
  sInf {k | LeadsIn nodes successors a k n}

omit [DecidableEq N] in
theorem exists_leadsIn_iff :
    (∃ k, LeadsIn nodes successors root k n) ↔
      Relation.ReflTransGen (Leads nodes successors) root n := by
  constructor
  · rintro ⟨k, h⟩
    induction h with
    | zero => exact .refl
    | succ _ hm ih => exact ih.tail hm
  · intro h
    induction h with
    | refl => exact ⟨0, .zero⟩
    | tail _ hm ih => exact ih.elim fun k hk => ⟨k + 1, .succ hk hm⟩

omit [DecidableEq N] in
theorem distance_le {k : Nat} (h : LeadsIn nodes successors root k n) :
    distance nodes successors root n ≤ k := Nat.sInf_le h

omit [DecidableEq N] in
theorem leadsIn_distance (h : Relation.ReflTransGen (Leads nodes successors) root n) :
    LeadsIn nodes successors root (distance nodes successors root n) n :=
  Nat.sInf_mem (exists_leadsIn_iff.mpr h)

omit [DecidableEq N] in
theorem distance_le_succ (h : Relation.ReflTransGen (Leads nodes successors) root n)
    (hm : Leads nodes successors n m) :
    distance nodes successors root m ≤ distance nodes successors root n + 1 :=
  distance_le ((leadsIn_distance h).succ hm)

omit [DecidableEq N] in
theorem exists_nearer (h : Relation.ReflTransGen (Leads nodes successors) root n) (hne : n ≠ root) :
    ∃ p, Relation.ReflTransGen (Leads nodes successors) root p ∧ Leads nodes successors p n ∧
      distance nodes successors root p < distance nodes successors root n := by
  have hk := leadsIn_distance h
  generalize hd : distance nodes successors root n = d at hk
  cases hk with
  | zero => exact absurd rfl hne
  | succ hp hn => exact ⟨_, exists_leadsIn_iff.mp ⟨_, hp⟩, hn, Nat.lt_succ_of_le (distance_le hp)⟩

omit [DecidableEq N] in
theorem mem_of_reflTransGen (hroot : root ∈ nodes)
    (h : Relation.ReflTransGen (Leads nodes successors) root n) : n ∈ nodes := by
  cases h with
  | refl => exact hroot
  | tail _ hn => exact hn.2.1

theorem reflTransGen_listed_iff (hroot : root ∈ nodes) :
    Relation.ReflTransGen (fun a b => b ∈ listed nodes successors a) root n ↔
      Relation.ReflTransGen (Leads nodes successors) root n := by
  constructor
  · intro h
    induction h with
    | refl => exact .refl
    | tail _ hm ih => exact ih.tail ((leads_iff (mem_of_reflTransGen hroot ih)).mpr hm)
  · exact Relation.ReflTransGen.mono (fun _ _ hab => (leads_iff hab.1).mp hab) _ _

/-! ## Where nodes are found -/

/-- Where a node is found: the place of its first predecessor in an order, and its own place among
the successors of that predecessor. -/
def foundAt (successors : N → List N) (order : List N) (n : N) : Nat × Nat :=
  (order.findIdx fun p => n ∈ successors p,
    ((order.find? fun p => n ∈ successors p).elim [] successors).idxOf n)

/-- One node is found before another one. -/
def FoundBefore (successors : N → List N) (order : List N) (n m : N) : Prop :=
  Prod.Lex (· < ·) (· < ·) (foundAt successors order n) (foundAt successors order m)

theorem foundAt_append {order : List N} (h : ∃ p ∈ order, n ∈ successors p) (ps : List N) :
    foundAt successors (order ++ ps) n = foundAt successors order n := by
  obtain ⟨p, hp, hn⟩ := h
  have hlt : (order.findIdx fun p => n ∈ successors p) < order.length :=
    List.findIdx_lt_length_of_exists ⟨p, hp, decide_eq_true hn⟩
  have hsome : (order.find? fun p => n ∈ successors p).isSome = true :=
    List.find?_isSome.mpr ⟨p, hp, decide_eq_true hn⟩
  obtain ⟨q, hq⟩ := Option.isSome_iff_exists.mp hsome
  rw [foundAt, foundAt, List.findIdx_append, if_pos hlt, List.find?_append, hq, Option.some_or]

theorem foundAt_append_singleton {order : List N} {v : N} (h : ∀ p ∈ order, n ∉ successors p)
    (hn : n ∈ successors v) :
    foundAt successors (order ++ [v]) n = (order.length, (successors v).idxOf n) := by
  have hnone : (order.find? fun p => n ∈ successors p) = none :=
    List.find?_eq_none.mpr fun p hp => by simpa using h p hp
  have hlen : (order.findIdx fun p => n ∈ successors p) = order.length :=
    List.findIdx_eq_length.mpr fun p hp => by simpa using h p hp
  rw [foundAt, List.findIdx_append, List.find?_append, hnone, hlen, if_neg (Nat.lt_irrefl _)]
  simp [hn]

theorem pairwise_idxOf_eraseDups (l : List N) (keep : N → Bool) :
    (l.filter keep).eraseDups.Pairwise fun a b => l.idxOf a < l.idxOf b := by
  induction l generalizing keep with
  | nil => exact .nil
  | cons a l ih =>
    -- what comes after the first node differs from it, so its places are those in the rest, moved
    -- by one
    have hmove : ∀ keep' : N → Bool, (∀ b, keep' b = true → b ≠ a) →
        (l.filter keep').eraseDups.Pairwise fun b c => (a :: l).idxOf b < (a :: l).idxOf c := by
      intro keep' hkeep
      have hidx : ∀ b ∈ (l.filter keep').eraseDups, (a :: l).idxOf b = l.idxOf b + 1 := fun b hb =>
        List.idxOf_cons_ne _ (hkeep b (List.mem_filter.mp (List.mem_eraseDups.mp hb)).2).symm
      refine (ih keep').imp_of_mem fun {b c} hb hc hlt => ?_
      rw [hidx b hb, hidx c hc]
      exact Nat.succ_lt_succ hlt
    by_cases ha : keep a = true
    · have hne : ∀ b, ((!b == a) && keep b) = true → b ≠ a := by
        rintro b hb rfl
        simp at hb
      rw [List.filter_cons_of_pos ha, List.eraseDups_cons, List.filter_filter, List.pairwise_cons]
      refine ⟨fun b hb => ?_, hmove _ hne⟩
      have hba := hne b (List.mem_filter.mp (List.mem_eraseDups.mp hb)).2
      rw [List.idxOf_cons_self, List.idxOf_cons_ne _ hba.symm]
      exact Nat.succ_pos _
    · rw [List.filter_cons_of_neg ha]
      exact hmove keep fun b hb hba => ha (hba ▸ hb)

/-! ## The search -/

/-- The middle of a search from `root`: every other node that has been found has a predecessor that
has been left, and they stand in the order in which they are found. -/
structure FoundInOrder (successors : N → List N) (root : N) (done queue : List N) : Prop where
  starts : (done ++ queue).head? = some root
  preceded : ∀ n ∈ (done ++ queue).tail, ∃ p ∈ done, n ∈ successors p
  sorted : (done ++ queue).tail.Pairwise (FoundBefore successors done)

theorem foundInOrder_start : FoundInOrder successors root [] [root] where
  starts := rfl
  preceded _ h := absurd h List.not_mem_nil
  sorted := .nil

namespace FoundInOrder

variable {done queue : List N} {v : N}

/-- **A step of a search** finds nodes in the order of a successor list. -/
theorem step (hs : Searching (listed nodes successors) nodes done (v :: queue))
    (h : FoundInOrder successors root done (v :: queue)) :
    FoundInOrder successors root (done ++ [v])
      (queue ++ (listed nodes successors v).filter fun w => !(done ++ v :: queue).contains w) := by
  generalize hfresh : (listed nodes successors v).filter
    (fun w => !(done ++ v :: queue).contains w) = fresh
  have hmem : ∀ w ∈ fresh, w ∈ successors v ∧ w ∈ nodes ∧ w ∉ done ++ v :: queue := by
    intro w hw
    rw [← hfresh, List.mem_filter, Bool.not_eq_true', ← Bool.not_eq_true, List.contains_iff_mem,
      mem_listed, and_assoc] at hw
    exact hw
  -- a fresh node follows nothing that was left before, for then it would have been found
  have hat : ∀ w ∈ fresh, foundAt successors (done ++ [v]) w =
      (done.length, (successors v).idxOf w) := by
    intro w hw
    refine foundAt_append_singleton (fun p hp hwp => ?_) (hmem w hw).1
    exact (hmem w hw).2.2 (hs.left p hp w (mem_listed.mpr ⟨hwp, (hmem w hw).2.1⟩))
  have hold : ∀ n ∈ (done ++ v :: queue).tail,
      foundAt successors (done ++ [v]) n = foundAt successors done n :=
    fun n hn => foundAt_append (h.preceded n hn) [v]
  have hne : done ++ v :: queue ≠ [] := by simp
  have hfound : (done ++ [v]) ++ (queue ++ fresh) = (done ++ v :: queue) ++ fresh := by simp
  refine ⟨?_, fun n hn => ?_, ?_⟩
  · rw [hfound, List.head?_append_of_ne_nil _ hne, h.starts]
  · rw [hfound, List.tail_append_of_ne_nil hne, List.mem_append] at hn
    rcases hn with hn | hn
    · obtain ⟨p, hp, hnp⟩ := h.preceded n hn
      exact ⟨p, List.mem_append_left _ hp, hnp⟩
    · exact ⟨v, by simp, (hmem n hn).1⟩
  · rw [hfound, List.tail_append_of_ne_nil hne, List.pairwise_append]
    refine ⟨h.sorted.imp_of_mem fun {a b} ha hb hab => ?_, ?_, fun a ha b hb => ?_⟩
    · rwa [FoundBefore, hold a ha, hold b hb]
    · have hsorted : fresh.Pairwise fun a b => (successors v).idxOf a < (successors v).idxOf b :=
        hfresh ▸ (pairwise_idxOf_eraseDups (successors v) _).sublist List.filter_sublist
      refine hsorted.imp_of_mem fun {a b} ha hb hab => ?_
      rw [FoundBefore, hat a ha, hat b hb]
      exact .right _ hab
    · obtain ⟨p, hp, hap⟩ := h.preceded a ha
      rw [FoundBefore, hold a ha, hat b hb]
      exact .left _ _ (List.findIdx_lt_length_of_exists ⟨p, hp, decide_eq_true hap⟩)

/-- **A search that has enough steps** lists its nodes in the order in which they are found. -/
theorem explore {fuel : Nat} (hs : Searching (listed nodes successors) nodes done queue)
    (h : FoundInOrder successors root done queue) (hfuel : nodes.length ≤ done.length + fuel) :
    FoundInOrder successors root (explore (listed nodes successors) fuel done queue) [] :=
  (hs.explore_induction (listed_within nodes successors) (fun hs h => step hs h) h hfuel).2

end FoundInOrder

/-! ## Nearer nodes first -/

section Order

variable {order : List N}

theorem idxOf_lt_of_foundBefore (hnodup : order.Nodup)
    (hsorted : order.tail.Pairwise (FoundBefore successors order))
    (hn : n ∈ order.tail) (hm : m ∈ order.tail)
    (h : FoundBefore successors order n m) : order.idxOf n < order.idxOf m := by
  obtain ⟨i, hi, rfl⟩ := List.getElem_of_mem hn
  obtain ⟨j, hj, rfl⟩ := List.getElem_of_mem hm
  rw [List.length_tail] at hi hj
  have hlt : i < j := by
    by_contra hle
    rcases Nat.lt_or_eq_of_le (Nat.le_of_not_lt hle) with hji | rfl
    · have hback := List.pairwise_iff_getElem.mp hsorted j i (by simpa using hj)
        (by simpa using hi) hji
      rw [FoundBefore, Prod.lex_iff] at h hback
      omega
    · rw [FoundBefore, Prod.lex_iff] at h
      omega
  rw [List.getElem_tail, List.getElem_tail, hnodup.idxOf_getElem _ (by omega),
    hnodup.idxOf_getElem _ (by omega)]
  omega

theorem findIdx_le_idxOf {p : N} (hn : n ∈ successors p) (hp : p ∈ order) :
    (order.findIdx fun q => n ∈ successors q) ≤ order.idxOf p := by
  refine Nat.le_of_not_lt fun hlt => ?_
  have hnot := List.not_of_lt_findIdx hlt
  rw [List.getElem_idxOf (List.idxOf_lt_length_of_mem hp), decide_eq_false_iff_not] at hnot
  exact hnot hn

theorem exists_first {p : N} (hnodup : order.Nodup) (hn : n ∈ successors p) (hp : p ∈ order) :
    ∃ q ∈ order, n ∈ successors q ∧ order.idxOf q = order.findIdx fun q => n ∈ successors q := by
  have hlt : (order.findIdx fun q => n ∈ successors q) < order.length :=
    List.findIdx_lt_length_of_exists ⟨p, hp, decide_eq_true hn⟩
  refine ⟨_, List.getElem_mem hlt, ?_, hnodup.idxOf_getElem _ hlt⟩
  exact of_decide_eq_true (List.findIdx_getElem (w := hlt))

/-- **Nearer nodes stand before farther ones.** -/
theorem idxOf_lt_of_distance_lt (hroot : root ∈ nodes) (hstarts : order.head? = some root)
    (hnodup : order.Nodup)
    (hmem : ∀ n, n ∈ order ↔ Relation.ReflTransGen (Leads nodes successors) root n)
    (hsorted : order.tail.Pairwise (FoundBefore successors order)) (hn : n ∈ order) (hm : m ∈ order)
    (h : distance nodes successors root n < distance nodes successors root m) :
    order.idxOf n < order.idxOf m := by
  obtain ⟨rest, rfl⟩ : ∃ rest, order = root :: rest := List.head?_eq_some_iff.mp hstarts
  -- the nearer node has a predecessor that is nearer than all predecessors of the other one
  induction hd : distance nodes successors root n using Nat.strong_induction_on generalizing n m with
  | _ d ih =>
    have hmroot : m ≠ root := by
      rintro rfl
      exact absurd (Nat.lt_of_lt_of_le h (distance_le .zero)) (Nat.not_lt_zero _)
    by_cases hnroot : n = root
    · rw [hnroot, List.idxOf_cons_self, List.idxOf_cons_ne _ hmroot.symm]
      exact Nat.succ_pos _
    obtain ⟨u, hu, hun, hlt⟩ := exists_nearer ((hmem n).mp hn) hnroot
    obtain ⟨p, hp, hpm, -⟩ := exists_nearer ((hmem m).mp hm) hmroot
    obtain ⟨q, hq, hqm, hfirst⟩ := exists_first hnodup hpm.2.2 ((hmem p).mpr hp)
    have hreach := (hmem q).mp hq
    have hfar := distance_le_succ hreach ⟨mem_of_reflTransGen hroot hreach, hpm.2.1, hqm⟩
    have hbefore : (root :: rest).idxOf u < (root :: rest).idxOf q :=
      ih _ (hd ▸ hlt) (by omega) ((hmem u).mpr hu) hq rfl
    refine idxOf_lt_of_foundBefore hnodup hsorted (List.mem_of_ne_of_mem hnroot hn)
      (List.mem_of_ne_of_mem hmroot hm) (Prod.lex_iff.mpr (.inl ?_))
    calc (foundAt successors (root :: rest) n).1 ≤ (root :: rest).idxOf u :=
          findIdx_le_idxOf hun.2.2 ((hmem u).mpr hu)
      _ < (root :: rest).idxOf q := hbefore
      _ = (foundAt successors (root :: rest) m).1 := hfirst

end Order

/-! ## The order of a search -/

/-- The nodes that can be reached from a root, each once and the nearest first. They are sorted by
their first predecessors, and those with the same one by its list of successors. -/
structure IsBreadthFirst (nodes : List N) (successors : N → List N) (root : N) (order : List N) :
    Prop where
  starts : order.head? = some root
  nodup : order.Nodup
  mem_iff : ∀ n, n ∈ order ↔ Relation.ReflTransGen (Leads nodes successors) root n
  nearer : order.Pairwise fun n m =>
    distance nodes successors root n ≤ distance nodes successors root m
  preceded : ∀ n ∈ order.tail, ∃ p ∈ order, n ∈ successors p
  sorted : order.tail.Pairwise (FoundBefore successors order)

theorem isBreadthFirst_explore (hroot : root ∈ nodes) :
    IsBreadthFirst nodes successors root
      (explore (listed nodes successors) nodes.length [] [root]) := by
  have hsearch := searching_explore successors hroot
  have hfound : FoundInOrder successors root _ [] :=
    foundInOrder_start.explore (searching_start hroot) (Nat.le_add_left nodes.length 0)
  have hmem : ∀ n, n ∈ explore (listed nodes successors) nodes.length [] [root] ↔
      Relation.ReflTransGen (Leads nodes successors) root n := by
    intro n
    rw [(searching_start hroot).mem_explore (listed_within nodes successors) (by simp),
      ← reflTransGen_listed_iff hroot]
    simp only [List.nil_append, List.mem_singleton, exists_eq_left]
  generalize explore (listed nodes successors) nodes.length [] [root] = order at hsearch hfound hmem ⊢
  have hnodup := hsearch.nodup
  have hstarts := hfound.starts
  have hpreceded := hfound.preceded
  have hsorted := hfound.sorted
  rw [List.append_nil] at hnodup hstarts hpreceded hsorted
  refine ⟨hstarts, hnodup, hmem, List.pairwise_iff_getElem.mpr fun i j hi hj hij => ?_,
    hpreceded, hsorted⟩
  refine Nat.le_of_not_lt fun hlt => ?_
  have hback := idxOf_lt_of_distance_lt hroot hstarts hnodup hmem hsorted (List.getElem_mem hj)
    (List.getElem_mem hi) hlt
  rw [hnodup.idxOf_getElem _ hi, hnodup.idxOf_getElem _ hj] at hback
  omega

/-- **Breadth-first search** gives the nodes with a path from the root, in its order; the others are
unreachable. -/
theorem breadthFirst?_order (successors : N → List N) (hroot : root ∈ nodes) :
    ∃ order, (ofNodes nodes successors).breadthFirst? root = some order ∧
      IsBreadthFirst nodes successors root order ∧
      (ofNodes nodes successors).unreachable root = nodes.filter (· ∉ order) := by
  refine ⟨_, breadthFirst?_ofNodes hroot, isBreadthFirst_explore hroot, ?_⟩
  rw [unreachable, breadthFirst?_ofNodes hroot, Option.getD_some]
  refine List.filter_congr fun n _ => ?_
  simp

/-- Successors with a repetition, a way back and one that is not listed below. -/
def forkSuccessors (n : Nat) : List Nat := [[2, 1, 2], [3], [3, 9], [0], [5]].getD n []

/-- The search in a list with a repeated node. -/
theorem breadthFirst?_order_fork :
    0 ∈ [0, 1, 2, 3, 2, 4, 5, 4] ∧
      (ofNodes [0, 1, 2, 3, 2, 4, 5, 4] forkSuccessors).breadthFirst? 0 = some [0, 2, 1, 3] ∧
      IsBreadthFirst [0, 1, 2, 3, 2, 4, 5, 4] forkSuccessors 0 [0, 2, 1, 3] ∧
      (ofNodes [0, 1, 2, 3, 2, 4, 5, 4] forkSuccessors).unreachable 0 = [4, 5, 4] := by
  have hroot : 0 ∈ [0, 1, 2, 3, 2, 4, 5, 4] := by decide
  have hsearch : (ofNodes [0, 1, 2, 3, 2, 4, 5, 4] forkSuccessors).breadthFirst? 0 =
      some [0, 2, 1, 3] := by
    decide
  obtain ⟨order, horder, hbreadth, hothers⟩ := breadthFirst?_order forkSuccessors hroot
  obtain rfl : order = [0, 2, 1, 3] := Option.some.inj (horder.symm.trans hsearch)
  exact ⟨hroot, horder, hbreadth, hothers⟩

end IndexGraph

end FlagFlow
