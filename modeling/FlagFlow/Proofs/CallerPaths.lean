import FlagFlow.Proofs.FlagCalls
import FlagFlow.Proofs.Values

/-!
# Path conditions without the flag

Without feature calls no path condition is about the flag. What is left tells how control comes to a
node: not at all, or from the caller along paths that all begin at the entry and pass no cycle, or
in another way, for which the path condition is unknown. A join with code that is never reached is
of the last kind, since what has not been computed differs from the path condition of the caller.

* `FlowGraph.FromEntryOnly`: control comes from the entry alone, and not around a cycle;
  `FlowGraph.rooted_iff`: all ways back end at the entry.
* `Body.Unflagged`: nothing about the flag is known, and where control does not come nothing at all;
  `Body.unflagged_invariant` shows that every flow of a run is of this kind.
* `Body.path_before_of_rooted`: rooted nodes keep the path condition of the caller.
* **`Body.path_condition_without_flag`**: the path conditions of a body without feature calls.
-/

namespace FlagFlow

variable {N V : Type} [DecidableEq N] [DecidableEq V]

namespace FlowGraph

variable {g : FlowGraph N} {n : N}

/-- Control comes to the node, every node with a path to it is reachable too, and no cycle has a
path to it. -/
structure FromEntryOnly (g : FlowGraph N) (n : N) : Prop where
  reachable : g.Reachable n
  upstream : ∀ m es, g.Path m es n → g.Reachable m
  no_cycle : ∀ m es fs, g.Path m es m → es ≠ [] → ¬ g.Path m fs n

theorem FromEntryOnly.rooted (hg : g.PredsAgree) (hn : n ∈ g.nodes) (h : g.FromEntryOnly n) :
    g.Rooted n := by
  have hwf := g.wellFounded_of_not_on_cycle (fun m => ∃ fs, g.Path m fs n) fun m ⟨fs, hfs⟩ es hes => by
    by_contra hne
    exact h.no_cycle m es fs hes hne hfs
  suffices hall : ∀ m : {m // m ∈ g.nodes ∧ ∃ fs, g.Path m fs n}, g.Rooted m.1 from
    hall ⟨n, hn, [], .nil⟩
  intro m
  induction m using hwf.induction with
  | h m ih =>
    obtain ⟨m, hm, fs, hfs⟩ := m
    refine .intro ?_ fun e he => ?_
    · obtain ⟨es, hes⟩ := h.upstream m fs hfs
      cases hes with
      | nil => exact .inl rfl
      | @snoc _ p _ k _ hp hk =>
        exact .inr (List.ne_nil_of_mem (a := (p, k)) ((hg.mem_entering hm).mpr ⟨hp, hk⟩))
    · obtain ⟨hp, hk⟩ := (hg.mem_entering hm).mp he
      have hedge := Path.edge hp hk
      exact ih ⟨e.1, hp, _, hedge.append hfs⟩ ⟨_, List.cons_ne_nil _ _, hedge⟩

/-- **Rooted nodes** are those to which control comes from the entry alone. -/
theorem rooted_iff (hg : g.PredsAgree) (hn : n ∈ g.nodes) : g.Rooted n ↔ g.FromEntryOnly n := by
  refine ⟨fun h => ⟨h.reachable hg hn, fun m es hes => ?_, fun m es fs hcycle hne => ?_⟩,
    fun h => h.rooted hg hn⟩
  · exact (h.of_path hg hn hes).reachable hg (hes.start_mem hn)
  · exact h.not_path_of_cycle hg hn hcycle hne

end FlowGraph

namespace Body

variable {b : Body N V} {isFeature : String → Bool} {maxVisits : Int} {s : Solution N (Env V)} {n : N}

/-! ## What flows without feature calls -/

variable (b) in
/-- Nothing about the flag is known, and where control does not come nothing at all. -/
structure Unflagged (n : N) (t : Env V) : Prop where
  flag : ¬ t.MentionsFlag
  dead : ¬ b.Reachable n → t.path = .bottom

omit [DecidableEq N] in
theorem unflagged_atEntry : b.Unflagged b.entry .atEntry :=
  ⟨Env.not_mentionsFlag_ofPath rfl, fun hdead => absurd ⟨[], .nil⟩ hdead⟩

omit [DecidableEq N] in
theorem unflagged_unreached (n : N) : b.Unflagged n .unreached :=
  ⟨Env.not_mentionsFlag_ofPath rfl, fun _ => rfl⟩

omit [DecidableEq N] in
/-- **A node without a feature call** makes no mention of the flag and splits nothing. -/
theorem Unflagged.out {t : Env V} (ht : b.Unflagged n t)
    (hnone : (b.stmt n).flagged? isFeature = none) (k : EdgeKind) :
    b.Unflagged n ((b.problem isFeature).out t n k) := by
  have hfall : (b.stmt n).fallPath? t = none :=
    Option.eq_none_iff_forall_ne_some.mpr fun x hx => ht.flag (Stmt.mentionsFlag_of_fallPath hx)
  cases k with
  | fall =>
    refine ⟨fun h => ?_, fun hdead => ?_⟩
    · rcases Stmt.mentionsFlag_of_transfer_fst h with h | ⟨v, hv⟩
      · exact ht.flag h
      · rw [hnone] at hv
        cases hv
    · change ((b.stmt n).transfer isFeature t).1.path = .bottom
      rw [Stmt.path_transfer_fst, hfall, Option.getD_none]
      exact ht.dead hdead
  | branch =>
    refine ⟨fun h => ht.flag (Stmt.mentionsFlag_of_transfer_snd h), fun hdead => ?_⟩
    change ((b.stmt n).transfer isFeature t).2.path = .bottom
    rw [Stmt.path_transfer_snd, hfall, Option.map_none, Option.getD_none]
    exact ht.dead hdead

/-- **No flow at the nodes is about the flag**, in every state of a run. -/
theorem unflagged_invariant (hb : b.PredsAgree)
    (hnone : ∀ n ∈ b.nodes, (b.stmt n).flagged? isFeature = none) :
    FlowInvariant b.toFlowGraph (b.problem isFeature) (fun n t => n ∈ b.nodes → b.Unflagged n t)
      (fun n _ t => n ∈ b.nodes → b.Unflagged n t) where
  start n hn := by
    rw [flowsAt_initialRun]
    split
    · rename_i hentry
      exact hentry ▸ unflagged_atEntry
    · exact unflagged_unreached n
  startOut n k hn := by
    rw [flowsAt_initialRun]
    split
    · cases k <;> exact unflagged_unreached n
    · cases k <;> exact unflagged_unreached n
  entry _ := unflagged_atEntry
  edge {n e x} he hx hn := by
    obtain ⟨hp, hk⟩ := (hb.mem_entering hn).mp he
    exact ⟨(hx hp).flag, fun hdead => (hx hp).dead fun hreach => hdead (hreach.snoc hp hk)⟩
  merge hx hy hn :=
    ⟨fun h => h.of_merge.elim (hx hn).flag (hy hn).flag,
      fun hdead => (Env.path_merge_eq_iff (by decide)).mpr ⟨(hx hn).dead hdead, (hy hn).dead hdead⟩⟩
  node hx k hn := (hx hn).out (hnone _ hn) k

theorem unflagged_before (hb : b.PredsAgree)
    (hnone : ∀ n ∈ b.nodes, (b.stmt n).flagged? isFeature = none)
    (hs : b.analyze isFeature maxVisits = .ok s) (hn : n ∈ b.nodes) :
    b.Unflagged n (s.flowsAt n).before := by
  rw [flowsAt_of_solve? (solve?_of_analyze hs)]
  exact ((unflagged_invariant hb hnone).after _).1 n hn

/-! ## Path conditions -/

/-- **Rooted nodes keep the path condition of the caller.** -/
theorem path_before_of_rooted (hb : b.PredsAgree)
    (hnone : ∀ n ∈ b.nodes, (b.stmt n).flagged? isFeature = none)
    (hs : b.analyze isFeature maxVisits = .ok s) (hc : s.converged = true) (h : b.Rooted n)
    (hn : n ∈ b.nodes) : (s.flowsAt n).before.path = .external := by
  induction h with
  | @intro n hstart _ ih =>
    rw [before_path_eq_iff_arriving hs hc (by decide) hn]
    refine ⟨fun hnil => ?_, fun t ht => ?_⟩
    · have harrives : ∃ t, t ∈ b.arriving isFeature s n := by
        rcases hstart with hentry | hne
        · exact ⟨_, mem_arriving.mpr (.inr ⟨hentry, rfl⟩)⟩
        · obtain ⟨e, he⟩ := List.exists_mem_of_ne_nil _ hne
          exact ⟨_, mem_arriving.mpr (.inl ⟨e, he, rfl⟩)⟩
      obtain ⟨t, ht⟩ := harrives
      rw [hnil] at ht
      cases ht
    · rcases mem_arriving.mp ht with ⟨e, he, rfl⟩ | ⟨-, rfl⟩
      · obtain ⟨hp, -⟩ := (hb.mem_entering hn).mp he
        have hsplit : ¬ b.IsFlagBranch s e.1 := by
          rw [isFlagBranch_iff hs]
          rintro ⟨-, x, hx⟩
          exact (unflagged_before hb hnone hs hp).flag (Stmt.mentionsFlag_of_fallPath hx)
        rw [out_path_of_not_isFlagBranch hs hc hp hsplit]
        exact ih e he hp
      · rfl

theorem path_before_cases (hb : b.PredsAgree)
    (hnone : ∀ n ∈ b.nodes, (b.stmt n).flagged? isFeature = none)
    (hs : b.analyze isFeature maxVisits = .ok s) (hn : n ∈ b.nodes) :
    (s.flowsAt n).before.path = .bottom ∨ (s.flowsAt n).before.path = .external ∨
      (s.flowsAt n).before.path = .unknown := by
  have hflag := (unflagged_before hb hnone hs hn).flag
  have hordinary : (s.flowsAt n).before.Ordinary := by
    rw [flowsAt_of_solve? (solve?_of_analyze hs)]
    exact ((ordinary_invariant b isFeature).after _).1 n
  have hdepends : ¬ (s.flowsAt n).before.path.dependsOnFlag = true := fun h => hflag (.inl h)
  have hpath := hordinary.path
  revert hpath hdepends
  generalize (s.flowsAt n).before.path = c
  cases c <;> decide

/-- **Path conditions without the flag.** Unreachable nodes have none, rooted nodes keep that of the
caller, and all others have an unknown one. -/
theorem path_condition_without_flag (hb : b.PredsAgree)
    (hnone : ∀ n ∈ b.nodes, (b.stmt n).flagged? isFeature = none)
    (hs : b.analyze isFeature maxVisits = .ok s) (hc : s.converged = true) (hn : n ∈ b.nodes) :
    ((s.flowsAt n).before.path = .bottom ↔ ¬ b.Reachable n) ∧
      ((s.flowsAt n).before.path = .external ↔ b.FromEntryOnly n) ∧
      (b.Reachable n → ¬ b.FromEntryOnly n → (s.flowsAt n).before.path = .unknown) := by
  have hbottom : (s.flowsAt n).before.path = .bottom ↔ ¬ b.Reachable n := by
    refine ⟨fun h ⟨es, hes⟩ => ?_, (unflagged_before hb hnone hs hn).dead⟩
    exact path_before_ne_bottom hb hs hc hes hn h
  have hexternal : (s.flowsAt n).before.path = .external ↔ b.FromEntryOnly n := by
    rw [← FlowGraph.rooted_iff hb hn]
    exact ⟨rooted_of_path_before hs hc hn, fun h => path_before_of_rooted hb hnone hs hc h hn⟩
  refine ⟨hbottom, hexternal, fun hreach hnot => ?_⟩
  rcases path_before_cases hb hnone hs hn with h | h | h
  · exact absurd hreach (hbottom.mp h)
  · exact absurd (hexternal.mp h) hnot
  · exact h

/-- The node `2` follows itself, the node `4` has a predecessor that is not reachable, and the nodes
`5` and `6` lead to each other only. -/
def sideways : Body Nat Nat where
  toFlowGraph := .ofEntries 0 [⟨0, [1], [], none⟩, ⟨1, [2], [4], none⟩, ⟨2, [2], [3], none⟩,
    ⟨3, [], [], none⟩, ⟨4, [], [], none⟩, ⟨5, [6], [4], none⟩, ⟨6, [5], [], none⟩]
  stmt
    | 0 => { call := some ⟨"log", [.ofVar 0]⟩ }
    | 1 => { condition := some (.equal (.ofVar 0) (.const 0)) }
    | 2 => { definition := some ⟨some 0, .const 1, true⟩ }
    | _ => .skip

theorem path_condition_without_flag_sideways :
    sideways.PredsAgree ∧
      (∀ n ∈ sideways.nodes, (sideways.stmt n).flagged? (· == defaultCallee) = none) ∧
      ∃ s, sideways.analyze (· == defaultCallee) 0 = .ok s ∧ s.converged = true ∧
        ((s.flowsAt 1).before.path = .external ∧ sideways.FromEntryOnly 1) ∧
        ((s.flowsAt 3).before.path = .unknown ∧ sideways.Reachable 3 ∧ ¬ sideways.FromEntryOnly 3) ∧
        ((s.flowsAt 4).before.path = .unknown ∧ sideways.Reachable 4 ∧ ¬ sideways.FromEntryOnly 4) ∧
        (s.flowsAt 6).before.path = .bottom ∧ ¬ sideways.Reachable 6 := by
  have hb : sideways.PredsAgree := FlowGraph.predsAgree_ofEntries 0 (by decide) (by decide)
  have hnone : ∀ n ∈ sideways.nodes, (sideways.stmt n).flagged? (· == defaultCallee) = none := by
    decide
  obtain ⟨s, hs, hc, h1, h3, h4, h6⟩ :=
    exists_ok_of_toOption (r := sideways.analyze (· == defaultCallee) 0)
      (P := fun s => s.converged = true ∧ (s.flowsAt 1).before.path = .external ∧
        (s.flowsAt 3).before.path = .unknown ∧ (s.flowsAt 4).before.path = .unknown ∧
        (s.flowsAt 6).before.path = .bottom) (by decide)
  have hother : ∀ n ∈ sideways.nodes, (s.flowsAt n).before.path = .unknown →
      (s.flowsAt n).before.path = .unknown ∧ sideways.Reachable n ∧ ¬ sideways.FromEntryOnly n := by
    intro n hn h
    obtain ⟨hbottom, hexternal, hunknown⟩ := path_condition_without_flag hb hnone hs hc hn
    rw [h] at hbottom hexternal
    have hreach : sideways.Reachable n := by
      by_contra hdead
      cases hbottom.mpr hdead
    have hnot : ¬ sideways.FromEntryOnly n := fun hfrom => by cases hexternal.mpr hfrom
    exact ⟨hunknown hreach hnot, hreach, hnot⟩
  exact ⟨hb, hnone, s, hs, hc,
    ⟨h1, (path_condition_without_flag hb hnone hs hc (by decide)).2.1.mp h1⟩,
    hother 3 (by decide) h3, hother 4 (by decide) h4,
    h6, (path_condition_without_flag hb hnone hs hc (by decide)).1.mp h6⟩

end Body

end FlagFlow
