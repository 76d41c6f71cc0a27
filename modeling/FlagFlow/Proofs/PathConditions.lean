import FlagFlow.Proofs.Transfer
import Mathlib.Tactic.FinCases

/-!
# Path conditions and paths

The path condition before a node is a local value of a fixpoint. It nevertheless speaks about all
paths from the entry to the node: if it is the flag or its negation, every path has passed a branch
on the flag, and on the last one that it passed it has taken that side. Without cycles and
unreachable nodes the converse holds as well.

* `Body.IsFlagBranch`: the nodes that `flagBranches` lists.
* `Body.LastSplit`: the last edge of a path that leaves such a node has a given path condition.
* `Body.out_path_of_not_isFlagBranch`: every other node hands its path condition on.
* `Body.before_path_eq_iff_arriving`: a path condition that is known comes with all that arrives;
  `Body.before_path_eq_iff`: one about the flag comes along all edges.
* **`Body.path_condition_iff_last_split`**: path conditions and paths.
-/

namespace FlagFlow

namespace Body

variable {N V : Type} [DecidableEq N] [DecidableEq V] {b : Body N V} {isFeature : String → Bool}
  {maxVisits : Int} {s : Solution N (Env V)} {x : FlagValue} {n : N}

variable (b s) in
/-- A node that is listed as a branch on the flag. -/
def IsFlagBranch (n : N) : Prop := n ∈ (b.flagBranches s).map Prod.fst

instance : DecidablePred (b.IsFlagBranch s) := fun _ => inferInstanceAs (Decidable (_ ∈ _))

variable (b s) in
/-- The path has an edge that leaves a branch on the flag, and the last such edge is of the kind
along which the path condition is `x`. -/
def LastSplit (x : FlagValue) (es : List (N × EdgeKind)) : Prop :=
  ∃ e, (es.filter fun e => decide (b.IsFlagBranch s e.1)).getLast? = some e ∧
    ((s.flowsAt e.1).out e.2).path = x

/-! ## Branches on the flag -/

theorem flagBranches_eq (b : Body N V) (s : Solution N (Env V)) :
    b.flagBranches s =
      s.order.filterMap fun n => ((b.stmt n).fallPath? (s.flowsAt n).before).map (n, ·) := by
  refine List.filterMap_congr fun n _ => ?_
  unfold Stmt.fallPath?
  cases (b.stmt n).condition with
  | none => rfl
  | some c => by_cases h : (c.eval (s.flowsAt n).before).dependsOnFlag = true <;> simp [h]

theorem mem_flagBranches (hs : b.analyze isFeature maxVisits = .ok s) :
    (n, x) ∈ b.flagBranches s ↔
      n ∈ b.nodes ∧ (b.stmt n).fallPath? (s.flowsAt n).before = some x := by
  simp only [flagBranches_eq, order_of_analyze hs, List.mem_filterMap, FlowGraph.mem_visitOrder,
    Option.map_eq_some_iff, Prod.mk.injEq]
  constructor
  · rintro ⟨m, hm, y, hy, rfl, rfl⟩
    exact ⟨hm, hy⟩
  · rintro ⟨hn, hx⟩
    exact ⟨n, hn, x, hx, rfl, rfl⟩

theorem isFlagBranch_iff (hs : b.analyze isFeature maxVisits = .ok s) :
    b.IsFlagBranch s n ↔
      n ∈ b.nodes ∧ ∃ x, (b.stmt n).fallPath? (s.flowsAt n).before = some x := by
  simp [IsFlagBranch, mem_flagBranches hs]

theorem out_path_of_not_isFlagBranch (hs : b.analyze isFeature maxVisits = .ok s)
    (hc : s.converged = true) (hn : n ∈ b.nodes) (hnot : ¬ b.IsFlagBranch s n) (k : EdgeKind) :
    ((s.flowsAt n).out k).path = (s.flowsAt n).before.path := by
  have hnone : (b.stmt n).fallPath? (s.flowsAt n).before = none := by
    rw [isFlagBranch_iff hs] at hnot
    exact Option.eq_none_iff_forall_ne_some.mpr fun x hx => hnot ⟨hn, x, hx⟩
  cases k with
  | fall =>
    change (s.flowsAt n).fall.path = _
    rw [fall_eq hs hc hn, Stmt.path_transfer_fst, hnone, Option.getD_none]
  | branch =>
    change (s.flowsAt n).branch.path = _
    rw [branch_eq hs hc hn, Stmt.path_transfer_snd, hnone, Option.map_none, Option.getD_none]

/-- A path condition that is known comes with everything that arrives at the node. -/
theorem before_path_eq_iff_arriving (hs : b.analyze isFeature maxVisits = .ok s)
    (hc : s.converged = true) (hx : x ≠ .unknown) (hn : n ∈ b.nodes) :
    (s.flowsAt n).before.path = x ↔
      (b.arriving isFeature s n = [] → x = .bottom) ∧
        ∀ t ∈ b.arriving isFeature s n, t.path = x := by
  rw [(before_agrees hs hc hn).path]
  cases b.arriving isFeature s n with
  | nil =>
    change FlagValue.bottom = x ↔ _
    simp [eq_comm]
  | cons t ts =>
    change (ts.foldl Env.merge t).path = x ↔ _
    rw [Env.path_foldl_merge_eq_iff hx, List.forall_mem_cons]
    simp

/-- A path condition about the flag comes along all edges that enter the node. -/
theorem before_path_eq_iff (hs : b.analyze isFeature maxVisits = .ok s) (hc : s.converged = true)
    (hx : x.dependsOnFlag = true) (hn : n ∈ b.nodes) :
    (s.flowsAt n).before.path = x ↔
      n ≠ b.entry ∧ b.entering n ≠ [] ∧ ∀ e ∈ b.entering n, ((s.flowsAt e.1).out e.2).path = x := by
  have hunknown : x ≠ .unknown := by rintro rfl; cases hx
  have hbottom : x ≠ .bottom := by rintro rfl; cases hx
  have hall : (s.flowsAt n).before.path = x ↔
      b.arriving isFeature s n ≠ [] ∧ ∀ t ∈ b.arriving isFeature s n, t.path = x := by
    rw [before_path_eq_iff_arriving hs hc hunknown hn]
    exact and_congr_left' ⟨fun h hnil => hbottom (h hnil), fun h hnil => absurd hnil h⟩
  rw [hall]
  constructor
  · rintro ⟨hne, h⟩
    have hentry : n ≠ b.entry := by
      intro he
      have : x = .external := (h _ (mem_arriving.mpr (.inr ⟨he, rfl⟩))).symm
      subst this
      cases hx
    refine ⟨hentry, fun hnil => hne ?_, fun e he => h _ (mem_arriving.mpr (.inl ⟨e, he, rfl⟩))⟩
    simp [arriving, Problem.arriving, hnil, hentry]
  · rintro ⟨hentry, hne, h⟩
    obtain ⟨e, he⟩ := List.exists_mem_of_ne_nil _ hne
    refine ⟨List.ne_nil_of_mem (mem_arriving.mpr (.inl ⟨e, he, rfl⟩)), fun t ht => ?_⟩
    rcases mem_arriving.mp ht with ⟨e, he, rfl⟩ | ⟨he, _⟩
    · exact h e he
    · exact absurd he hentry

/-! ## Paths -/

theorem not_lastSplit_nil : ¬ b.LastSplit s x [] := by
  rintro ⟨e, he, _⟩
  cases he

theorem lastSplit_snoc_of_isFlagBranch {es : List (N × EdgeKind)} {p : N} {k : EdgeKind}
    (hp : b.IsFlagBranch s p) :
    b.LastSplit s x (es ++ [(p, k)]) ↔ ((s.flowsAt p).out k).path = x := by
  simp [LastSplit, List.filter_append, hp]

theorem lastSplit_snoc_of_not_isFlagBranch {es : List (N × EdgeKind)} {p : N} {k : EdgeKind}
    (hp : ¬ b.IsFlagBranch s p) : b.LastSplit s x (es ++ [(p, k)]) ↔ b.LastSplit s x es := by
  simp [LastSplit, List.filter_append, hp]

theorem lastSplit_of_path (hb : b.PredsAgree) (hs : b.analyze isFeature maxVisits = .ok s)
    (hc : s.converged = true) (hx : x.dependsOnFlag = true) {es : List (N × EdgeKind)}
    (hes : b.Path b.entry es n) (hn : n ∈ b.nodes) (hpath : (s.flowsAt n).before.path = x) :
    b.LastSplit s x es := by
  induction hes with
  | nil => exact absurd rfl ((before_path_eq_iff hs hc hx hn).mp hpath).1
  | @snoc es p n k _ hp hk ih =>
    have hout : ((s.flowsAt p).out k).path = x :=
      ((before_path_eq_iff hs hc hx hn).mp hpath).2.2 (p, k) ((hb.mem_entering hn).mpr ⟨hp, hk⟩)
    -- either the last edge splits the path condition, or it was the same one node earlier
    by_cases hbr : b.IsFlagBranch s p
    · exact (lastSplit_snoc_of_isFlagBranch hbr).mpr hout
    · rw [lastSplit_snoc_of_not_isFlagBranch hbr]
      rw [out_path_of_not_isFlagBranch hs hc hp hbr] at hout
      exact ih hp hout

theorem path_of_lastSplit (hb : b.PredsAgree) (hs : b.analyze isFeature maxVisits = .ok s)
    (hc : s.converged = true) (hx : x.dependsOnFlag = true) (hacyclic : b.Acyclic)
    (hreach : ∀ n ∈ b.nodes, b.Reachable n) (hn : n ∈ b.nodes)
    (hsplit : ∀ es, b.Path b.entry es n → b.LastSplit s x es) :
    (s.flowsAt n).before.path = x := by
  -- by induction along the paths: a node before `n` that does not split has the property too
  suffices h : ∀ m : {m // m ∈ b.nodes}, (∀ es, b.Path b.entry es m.1 → b.LastSplit s x es) →
      (s.flowsAt m.1).before.path = x from h ⟨n, hn⟩ hsplit
  intro m
  induction m using hacyclic.wellFounded.induction with
  | h m ih =>
    obtain ⟨n, hn⟩ := m
    intro hsplit
    have hentry : n ≠ b.entry := by
      rintro rfl
      exact not_lastSplit_nil (hsplit [] .nil)
    rw [before_path_eq_iff hs hc hx hn]
    refine ⟨hentry, ?_, fun e he => ?_⟩
    · obtain ⟨es, hes⟩ := hreach n hn
      cases hes with
      | nil => exact absurd rfl hentry
      | @snoc _ p _ k _ hp hk =>
        exact List.ne_nil_of_mem (a := (p, k)) ((hb.mem_entering hn).mpr ⟨hp, hk⟩)
    · obtain ⟨hp, hk⟩ := (hb.mem_entering hn).mp he
      by_cases hbr : b.IsFlagBranch s e.1
      · obtain ⟨es, hes⟩ := hreach e.1 hp
        exact (lastSplit_snoc_of_isFlagBranch hbr).mp (hsplit _ (.snoc hes hp hk))
      · rw [out_path_of_not_isFlagBranch hs hc hp hbr]
        refine ih ⟨e.1, hp⟩ ⟨_, List.cons_ne_nil _ _, .edge hp hk⟩ fun es hes => ?_
        exact (lastSplit_snoc_of_not_isFlagBranch hbr).mp (hsplit _ (.snoc hes hp hk))

/-- **Path conditions speak about all paths**: each of them left its last branch on the flag on that
side. -/
theorem path_condition_iff_last_split (hb : b.PredsAgree)
    (hs : b.analyze isFeature maxVisits = .ok s) (hc : s.converged = true)
    (hx : x.dependsOnFlag = true) :
    (∀ n ∈ b.nodes, (s.flowsAt n).before.path = x →
        ∀ es, b.Path b.entry es n → b.LastSplit s x es) ∧
      (b.Acyclic → (∀ n ∈ b.nodes, b.Reachable n) →
        ∀ n ∈ b.nodes, (∀ es, b.Path b.entry es n → b.LastSplit s x es) →
          (s.flowsAt n).before.path = x) :=
  ⟨fun _ hn hpath _ hes => lastSplit_of_path hb hs hc hx hes hn hpath,
    fun hacyclic hreach _ hn hsplit => path_of_lastSplit hb hs hc hx hacyclic hreach hn hsplit⟩

/-- A toggle: the variable `0` carries the flag, a branch on it sets the variable `1` to one or to
zero, and a later branch compares that variable with zero. -/
def toggle : Body (Fin 7) (Fin 2) where
  toFlowGraph := .ofEntries 0 [⟨0, [1], [], none⟩, ⟨1, [2], [3], none⟩, ⟨2, [4], [], none⟩,
    ⟨3, [4], [], none⟩, ⟨4, [5], [6], none⟩, ⟨5, [6], [], none⟩, ⟨6, [], [], none⟩]
  stmt
    | 0 => { call := some ⟨defaultCallee, [.ofVar 0]⟩ }
    | 1 => { condition := some (.ofVar 0) }
    | 2 => { definition := some ⟨some 1, .const 1, true⟩ }
    | 3 => { definition := some ⟨some 1, .const 0, true⟩ }
    | 4 => { condition := some (.equal (.ofVar 1) (.const 0)) }
    | _ => .skip

theorem predsAgree_toggle : toggle.PredsAgree := by
  unfold FlowGraph.PredsAgree
  decide

theorem reachable_toggle : ∀ n ∈ toggle.nodes, toggle.Reachable n := by
  have h0 : toggle.Reachable 0 := ⟨[], .nil⟩
  have h1 : toggle.Reachable 1 := h0.snoc (k := .fall) (by decide) (by decide)
  have h2 : toggle.Reachable 2 := h1.snoc (k := .fall) (by decide) (by decide)
  have h3 : toggle.Reachable 3 := h1.snoc (k := .branch) (by decide) (by decide)
  have h4 : toggle.Reachable 4 := h2.snoc (k := .fall) (by decide) (by decide)
  have h5 : toggle.Reachable 5 := h4.snoc (k := .fall) (by decide) (by decide)
  have h6 : toggle.Reachable 6 := h4.snoc (k := .branch) (by decide) (by decide)
  intro n _
  fin_cases n <;> assumption

theorem exists_ok_of_toOption {ε α : Type} {r : Except ε α} {P : α → Prop}
    (h : ∃ s ∈ r.toOption, P s) : ∃ s, r = .ok s ∧ P s := by
  obtain ⟨s, hs, hP⟩ := h
  cases r with
  | error e => cases hs
  | ok t =>
    cases hs
    exact ⟨s, rfl, hP⟩

/-- The second branch is on the negation of the flag, though its variable was only ever a
constant. -/
theorem path_condition_iff_last_split_toggle :
    toggle.PredsAgree ∧ toggle.Acyclic ∧ (∀ n ∈ toggle.nodes, toggle.Reachable n) ∧
      ∃ s, toggle.analyze (fun _ => true) 0 = .ok s ∧ s.converged = true ∧
        (s.flowsAt 5).before.path = .notFlag ∧
        ∀ n ∈ toggle.nodes, (s.flowsAt n).before.path = .notFlag ↔
          ∀ es, toggle.Path toggle.entry es n → toggle.LastSplit s .notFlag es := by
  have hacyclic : toggle.Acyclic := FlowGraph.acyclic_of_rank Fin.val (by decide)
  obtain ⟨s, hs, hc, h5⟩ := exists_ok_of_toOption (r := toggle.analyze (fun _ => true) 0)
    (P := fun s => s.converged = true ∧ (s.flowsAt 5).before.path = .notFlag) (by decide)
  obtain ⟨hforward, hback⟩ := path_condition_iff_last_split predsAgree_toggle hs hc
    (show FlagValue.notFlag.dependsOnFlag = true from rfl)
  exact ⟨predsAgree_toggle, hacyclic, reachable_toggle, s, hs, hc, h5, fun n hn =>
    ⟨hforward n hn, hback hacyclic reachable_toggle n hn⟩⟩

end Body

end FlagFlow
