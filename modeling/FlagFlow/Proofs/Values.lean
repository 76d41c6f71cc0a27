import FlagFlow.Proofs.PathConditions
import FlagFlow.Proofs.Truncation

/-!
# The values that occur

Of the seven values some never become facts and some never become path conditions, at any point of
any run. In a complete result a path condition also tells how its node lies in the graph: before a
reachable node something has been computed, and the path condition of the caller is kept only up to
the first cycle. A node that a cycle leads to never gets it, since the first visit of a node on the
cycle sees an edge along which nothing has been computed, and then no later visit sees the caller's
path condition along all edges.

* `FlagValue.factValues`, `FlagValue.pathValues`: the values of facts and of path conditions.
* `Env.Ordinary`: an environment with such values; `Env.Ordinary.merge` and `Stmt.ordinary_transfer`
  keep it.
* `FlowGraph.Rooted`: all ways back from a node end at the entry; `FlowGraph.Rooted.reachable` and
  `FlowGraph.Rooted.not_path_of_cycle` say what this means for paths.
* `Run.CallerRooted`: only rooted nodes hand on the path condition of the caller;
  `Run.CallerRooted.step`.
* **`Body.occurring_values`**: the values of all states of a run, and what path conditions tell.
-/

namespace FlagFlow

/-! ## Values of facts and of path conditions -/

namespace FlagValue

/-- The values that facts have. -/
def factValues : List FlagValue := [flag, notFlag, one, zero, unknown]

/-- The values that path conditions have. -/
def pathValues : List FlagValue := [bottom, external, flag, notFlag, unknown]

theorem negate_mem_factValues (x : FlagValue) : x.negate ∈ factValues := by cases x <;> decide

theorem negate_mem_pathValues (x : FlagValue) : x.negate ∈ pathValues := by cases x <;> decide

theorem mem_pathValues_of_dependsOnFlag {x : FlagValue} (hx : x.dependsOnFlag = true) :
    x ∈ pathValues := by
  cases x with
  | flag | notFlag => decide
  | _ => cases hx

end FlagValue

open FlagValue (factValues pathValues)

variable {V : Type} [DecidableEq V]

namespace Env

/-- The path condition and the facts have only the values that they should have. -/
structure Ordinary (s : Env V) : Prop where
  path : s.path ∈ pathValues
  facts : ∀ v x, s.find? v = some x → x ∈ factValues

variable {s t : Env V} {x : FlagValue}

theorem ordinary_ofPath (hx : x ∈ pathValues) : (ofPath x : Env V).Ordinary := ⟨hx, nofun⟩

theorem Ordinary.withPath (hs : s.Ordinary) (hx : x ∈ pathValues) : (s.withPath x).Ordinary :=
  ⟨hx, hs.facts⟩

theorem Ordinary.set (hs : s.Ordinary) (v : V) (hx : x ∈ factValues) : (s.set v x).Ordinary where
  path := hs.path
  facts w y hy := by
    rw [find?_set] at hy
    split at hy
    · cases hy
      exact hx
    · exact hs.facts w y hy

theorem Ordinary.get (hs : s.Ordinary) (v : V) : s.get v ∈ factValues := by
  unfold Env.get
  cases hv : s.find? v with
  | none => decide
  | some x => exact hs.facts v x hv

omit [DecidableEq V] in
theorem mergeValue_mem {c c' x x' : FlagValue} (hx : x ∈ factValues) :
    mergeValue c c' x x' ∈ factValues := by
  unfold mergeValue
  split
  · exact hx
  · split <;> decide

theorem Ordinary.merge (hs : s.Ordinary) (ht : t.Ordinary) : (s.merge t).Ordinary where
  path := by
    simp only [Env.merge]
    split
    · exact hs.path
    · decide
  facts v x hx := by
    rw [find?_merge] at hx
    cases hsv : s.find? v with
    | none =>
      rw [hsv, Option.merge_none_left] at hx
      exact ht.facts v x hx
    | some y =>
      have hy := hs.facts v y hsv
      cases htv : t.find? v with
      | none =>
        rw [hsv, htv, Option.merge_none_right] at hx
        cases hx
        exact hy
      | some z =>
        rw [hsv, htv] at hx
        cases hx
        exact mergeValue_mem hy

end Env

variable {s : Env V}

theorem Expr.evalEqual_mem (x y : Expr V) (s : Env V) : evalEqual x y s ∈ factValues := by
  unfold evalEqual
  split
  · split
    · exact FlagValue.negate_mem_factValues _
    · decide
  · decide

theorem Expr.eval_mem (hs : s.Ordinary) (e : Expr V) : e.eval s ∈ factValues := by
  unfold eval
  split
  · exact evalEqual_mem _ _ s
  · split
    · split <;> decide
    · split
      · exact hs.get _
      · decide

namespace Stmt

variable {stmt : Stmt V} {isFeature : String → Bool}

theorem ordinary_markFlag (hs : s.Ordinary) : (stmt.markFlag isFeature s).Ordinary := by
  unfold markFlag
  split
  · exact hs.set _ (by decide)
  · exact hs

theorem ordinary_define (hs : s.Ordinary) : (stmt.define s).Ordinary := by
  unfold define
  split
  · split
    · split
      · exact hs.set _ (Expr.eval_mem hs _)
      · exact hs
    · exact hs
  · exact hs

/-- **A statement makes no other values**, along either kind of edges. -/
theorem ordinary_transfer (hs : s.Ordinary) :
    (stmt.transfer isFeature s).1.Ordinary ∧ (stmt.transfer isFeature s).2.Ordinary := by
  unfold transfer split
  cases hx : stmt.fallPath? s with
  | none => exact ⟨ordinary_define (ordinary_markFlag hs), hs⟩
  | some x =>
    have hpath := FlagValue.mem_pathValues_of_dependsOnFlag (dependsOnFlag_of_fallPath hx)
    exact ⟨ordinary_define ((ordinary_markFlag hs).withPath hpath),
      hs.withPath x.negate_mem_pathValues⟩

theorem path_of_path_transfer_fst {c : FlagValue} (hc : c.dependsOnFlag = false)
    (h : (stmt.transfer isFeature s).1.path = c) : s.path = c := by
  rw [path_transfer_fst] at h
  cases hx : stmt.fallPath? s with
  | none => rwa [hx] at h
  | some x =>
    rw [hx, Option.getD_some] at h
    rw [← h, dependsOnFlag_of_fallPath hx] at hc
    cases hc

theorem path_of_path_transfer_snd {c : FlagValue} (hc : c.dependsOnFlag = false)
    (h : (stmt.transfer isFeature s).2.path = c) : s.path = c := by
  rw [path_transfer_snd] at h
  cases hx : stmt.fallPath? s with
  | none => rwa [hx] at h
  | some x =>
    rw [hx, Option.map_some, Option.getD_some] at h
    rw [← h, FlagValue.dependsOnFlag_negate, dependsOnFlag_of_fallPath hx] at hc
    cases hc

end Stmt

/-! ## Ways back to the entry -/

variable {N : Type} [DecidableEq N]

namespace FlowGraph

/-- All ways back from the node end, and they end at the entry: a node that no edge enters is the
entry, and the edges that enter the node come from nodes of the same kind. -/
inductive Rooted (g : FlowGraph N) : N → Prop
  | intro {n : N} : (n = g.entry ∨ g.entering n ≠ []) → (∀ e ∈ g.entering n, Rooted g e.1) → Rooted g n

variable {g : FlowGraph N} {n m : N} {es fs : List (N × EdgeKind)}

theorem Rooted.reachable (hg : g.PredsAgree) (hn : n ∈ g.nodes) (h : g.Rooted n) : g.Reachable n := by
  induction h with
  | @intro n hstart _ ih =>
    rcases hstart with rfl | hne
    · exact ⟨[], .nil⟩
    · obtain ⟨e, he⟩ := List.exists_mem_of_ne_nil _ hne
      obtain ⟨hp, hk⟩ := (hg.mem_entering hn).mp he
      exact (ih e he hp).snoc hp hk

theorem Rooted.of_path (hg : g.PredsAgree) (hn : n ∈ g.nodes) (h : g.Rooted n)
    (hes : g.Path m es n) : g.Rooted m := by
  induction hes with
  | nil => exact h
  | @snoc es p n k _ hp hk ih =>
    obtain ⟨-, hedges⟩ := h
    exact ih hp (hedges (p, k) ((hg.mem_entering hn).mpr ⟨hp, hk⟩))

/-- A rooted node is on no cycle. -/
theorem Rooted.eq_nil_of_cycle (hg : g.PredsAgree) (hn : n ∈ g.nodes) (h : g.Rooted n)
    (hes : g.Path n es n) : es = [] := by
  induction h generalizing es with
  | @intro n _ _ ih =>
    generalize hm : n = m at hes
    cases hes with
    | nil => rfl
    | @snoc es p _ k hes hp hk =>
      subst hm
      -- Turned by one edge, the cycle starts at the node before.
      have he : (p, k) ∈ g.entering n := (hg.mem_entering hn).mpr ⟨hp, hk⟩
      have hcycle : g.Path p ([(p, k)] ++ es) p := (Path.edge hp hk).append hes
      cases ih (p, k) he hp hcycle

/-- **No cycle leads to a rooted node.** -/
theorem Rooted.not_path_of_cycle (hg : g.PredsAgree) (hn : n ∈ g.nodes) (h : g.Rooted n)
    (hcycle : g.Path m es m) (hne : es ≠ []) : ¬ g.Path m fs n := fun hfs =>
  hne ((h.of_path hg hn hfs).eq_nil_of_cycle hg (hfs.start_mem hn) hcycle)

end FlowGraph

/-! ## The path condition of the caller -/

variable {b : Body N V} {isFeature : String → Bool} {c : FlagValue} {n : N}

namespace Body

omit [DecidableEq N] in
theorem path_of_path_out {t : Env V} {k : EdgeKind} (hc : c.dependsOnFlag = false)
    (h : ((b.problem isFeature).out t n k).path = c) : t.path = c := by
  cases k with
  | fall => exact Stmt.path_of_path_transfer_fst hc h
  | branch => exact Stmt.path_of_path_transfer_snd hc h

theorem path_of_path_flowBefore {r : Run N (Env V)} (hc : c ≠ .unknown)
    (h : (r.flowBefore b.toFlowGraph (b.problem isFeature) n).path = c) :
    (b.entering n = [] → n = b.entry ∨ (r.flowsAt n).before.path = c) ∧
      ∀ e ∈ b.entering n, (r.along e).path = c := by
  unfold Run.flowBefore at h
  cases hes : b.entering n with
  | nil =>
    rw [hes] at h
    refine ⟨fun _ => ?_, by simp⟩
    by_cases hn : n = b.entry
    · exact .inl hn
    · simp only [if_neg hn] at h
      exact .inr h
  | cons e es =>
    rw [hes] at h
    -- At the entry one more environment is merged, which a known path condition agrees with.
    have hfold : (es.foldl (fun flow e => Env.merge flow (r.along e)) (r.along e)).path = c := by
      simp only [problem] at h
      split at h
      · exact ((Env.path_merge_eq_iff hc).mp h).1
      · exact h
    rw [← List.foldl_map, Env.path_foldl_merge_eq_iff hc] at hfold
    refine ⟨fun hnil => absurd hnil (List.cons_ne_nil e es), fun e' he' => ?_⟩
    rcases List.mem_cons.mp he' with rfl | he'
    · exact hfold.1
    · exact hfold.2 _ (List.mem_map_of_mem he')

end Body

variable (b) in
/-- Only rooted nodes hand on the path condition of the caller, and of the nodes that no edge enters
only the entry has it. -/
structure Run.CallerRooted (r : Run N (Env V)) : Prop where
  out : ∀ n k, ((r.flowsAt n).out k).path = .external → b.Rooted n
  idle : ∀ n, n ≠ b.entry → b.entering n = [] → (r.flowsAt n).before.path ≠ .external

/-- **A visit keeps this**: the path condition of the caller comes from rooted nodes only. -/
theorem Run.CallerRooted.step {r : Run N (Env V)} {rest : List N} (h : r.CallerRooted b)
    (hw : r.worklist = n :: rest) :
    (r.step b.toFlowGraph (b.problem isFeature)).CallerRooted b where
  out m k hm := by
    rw [flowsAt_step hw] at hm
    split at hm
    · rename_i hmn
      subst hmn
      rw [visited_out] at hm
      obtain ⟨hnone, hedges⟩ :=
        Body.path_of_path_flowBefore (by decide) (Body.path_of_path_out rfl hm)
      refine .intro ?_ fun e he => h.out e.1 e.2 (hedges e he)
      by_cases hm : m = b.entry
      · exact .inl hm
      · exact .inr fun hnil => ((hnone hnil).elim hm (h.idle m hm hnil))
    · exact h.out m k hm
  idle m hm hnil := by
    rw [flowsAt_step hw]
    split
    · rename_i hmn
      subst hmn
      change (r.flowBefore b.toFlowGraph (b.problem isFeature) m).path ≠ _
      rw [flowBefore, hnil]
      simp only [if_neg hm]
      exact h.idle m hm hnil
    · exact h.idle m hm hnil

theorem initialRun_callerRooted :
    (initialRun b.toFlowGraph (b.problem isFeature)).CallerRooted b where
  out m k hm := by
    rw [flowsAt_initialRun] at hm
    split at hm
    · cases k <;> cases hm
    · split at hm <;> cases k <;> cases hm
  idle m hm _ := by
    rw [flowsAt_initialRun, if_neg hm]
    split <;> exact nofun

/-! ## Results -/

namespace Body

variable {maxVisits : Int} {s : Solution N (Env V)} {es : List (N × EdgeKind)}

theorem ordinary_invariant (b : Body N V) (isFeature : String → Bool) :
    FlowInvariant b.toFlowGraph (b.problem isFeature) (fun _ t => t.Ordinary)
      (fun _ _ t => t.Ordinary) where
  start n := by
    rw [flowsAt_initialRun]
    split
    · exact Env.ordinary_ofPath (by decide)
    · split <;> exact Env.ordinary_ofPath (by decide)
  startOut n k := by
    rw [flowsAt_initialRun]
    split
    · cases k <;> exact Env.ordinary_ofPath (by decide)
    · split <;> cases k <;> exact Env.ordinary_ofPath (by decide)
  entry := Env.ordinary_ofPath (by decide)
  edge _ hx := hx
  merge hx hy := hx.merge hy
  node hx k := by
    cases k with
    | fall => exact (Stmt.ordinary_transfer hx).1
    | branch => exact (Stmt.ordinary_transfer hx).2

/-- **Before a reachable node something has been computed.** -/
theorem path_before_ne_bottom (hb : b.PredsAgree) (hs : b.analyze isFeature maxVisits = .ok s)
    (hc : s.converged = true) (hes : b.Path b.entry es n) (hn : n ∈ b.nodes) :
    (s.flowsAt n).before.path ≠ .bottom := by
  induction hes with
  | nil =>
    intro h
    have harrive := ((before_path_eq_iff_arriving hs hc (by decide) hn).mp h).2
    cases harrive _ (mem_arriving.mpr (.inr ⟨rfl, rfl⟩))
  | @snoc es p n k _ hp hk ih =>
    intro h
    have he : (p, k) ∈ b.entering n := (hb.mem_entering hn).mpr ⟨hp, hk⟩
    have hout := ((before_path_eq_iff_arriving hs hc (by decide) hn).mp h).2 _
      (mem_arriving.mpr (.inl ⟨(p, k), he, rfl⟩))
    rw [out_eq hs hc hp] at hout
    exact ih hp (path_of_path_out rfl hout)

/-- **The path condition of the caller** is kept at rooted nodes only. -/
theorem rooted_of_path_before (hs : b.analyze isFeature maxVisits = .ok s) (hc : s.converged = true)
    (hn : n ∈ b.nodes) (h : (s.flowsAt n).before.path = .external) : b.Rooted n := by
  obtain ⟨hnone, hall⟩ := (before_path_eq_iff_arriving hs hc (by decide) hn).mp h
  -- The equations of the result do not suffice: on a cycle that only rooted nodes lead to, they
  -- also hold with the path condition of the caller all around. How the result was computed
  -- excludes it.
  have hrun : (Run.after b.toFlowGraph (b.problem isFeature) (b.budget maxVisits)
      (initialRun b.toFlowGraph (b.problem isFeature))).CallerRooted b :=
    Run.after_induction (fun r => r.CallerRooted b) (fun _ _ _ hw hr => hr.step hw) _
      initialRun_callerRooted
  refine .intro ?_ fun e he => hrun.out e.1 e.2 ?_
  · by_cases hentry : n = b.entry
    · exact .inl hentry
    · refine .inr fun hnil => ?_
      have harrive : b.arriving isFeature s n = [] := by
        simp [arriving, Problem.arriving, hnil, hentry]
      cases hnone harrive
  · rw [← flowsAt_of_solve? (solve?_of_analyze hs)]
    exact hall _ (mem_arriving.mpr (.inl ⟨e, he, rfl⟩))

/-- **The values that occur.** Facts are never `bottom` or `external`, path conditions never `one`
or `zero`, and that of the caller stays off cycles. -/
theorem occurring_values (b : Body N V) (isFeature : String → Bool) :
    (∀ ns r, (initialRun b.toFlowGraph (b.problem isFeature)).Visiting b.toFlowGraph
        (b.problem isFeature) ns r →
        ∀ n, (r.flowsAt n).before.Ordinary ∧ ∀ k, ((r.flowsAt n).out k).Ordinary) ∧
      (∀ maxVisits s, b.analyze isFeature maxVisits = .ok s →
        ∀ n, (s.flowsAt n).before.Ordinary ∧ ∀ k, ((s.flowsAt n).out k).Ordinary) ∧
      (b.PredsAgree → ∀ maxVisits s, b.analyze isFeature maxVisits = .ok s → s.converged = true →
        ∀ n ∈ b.nodes,
          (b.Reachable n → (s.flowsAt n).before.path ≠ .bottom) ∧
          ((s.flowsAt n).before.path = .external → b.Reachable n ∧
            ∀ m es fs, b.Path m es m → es ≠ [] → ¬ b.Path m fs n)) := by
  have hrun := (ordinary_invariant b isFeature).after
  refine ⟨fun ns r hns n => ?_, fun maxVisits s hs n => ?_,
    fun hb maxVisits s hs hc n hn => ⟨?_, fun h => ?_⟩⟩
  · rw [hns.eq_after]
    exact ⟨(hrun ns.length).1 n, (hrun ns.length).2 n⟩
  · rw [flowsAt_of_solve? (solve?_of_analyze hs)]
    exact ⟨(hrun _).1 n, (hrun _).2 n⟩
  · rintro ⟨es, hes⟩
    exact path_before_ne_bottom hb hs hc hes hn
  · have hrooted := rooted_of_path_before hs hc hn h
    exact ⟨hrooted.reachable hb hn, fun m es fs hcycle hne => hrooted.not_path_of_cycle hb
      hn hcycle hne⟩

/-- A loop of the nodes `2` and `3`, which is left to `4`. The node `5` cannot be reached. -/
def lateLoop : Body Nat Nat where
  toFlowGraph := .ofEntries 0 [⟨0, [1], [], none⟩, ⟨1, [2], [], none⟩, ⟨2, [3], [4], none⟩,
    ⟨3, [2], [], none⟩, ⟨4, [], [], none⟩, ⟨5, [4], [], none⟩]
  stmt
    | 0 => { call := some ⟨defaultCallee, [.ofVar 0]⟩ }
    | 2 => { condition := some .other }
    | 3 => { definition := some ⟨some 1, .ofVar 0, true⟩ }
    | _ => .skip

/-- The path condition of the caller is kept up to the loop. -/
theorem occurring_values_lateLoop :
    lateLoop.PredsAgree ∧
      ∃ s, lateLoop.analyze (fun _ => true) 0 = .ok s ∧ s.converged = true ∧
        (s.flowsAt 1).before.path = .external ∧ lateLoop.Reachable 1 ∧
        (∀ m es fs, lateLoop.Path m es m → es ≠ [] → ¬ lateLoop.Path m fs 1) ∧
        lateLoop.Reachable 3 ∧ (s.flowsAt 3).before.path ≠ .bottom ∧
        (s.flowsAt 5).before.path = .bottom ∧ (s.flowsAt 3).before.Ordinary ∧
        ∃ ns r, (initialRun lateLoop.toFlowGraph (lateLoop.problem fun _ => true)).Visiting
          lateLoop.toFlowGraph (lateLoop.problem fun _ => true) ns r ∧ ns.length ≤ 4 ∧
          (r.flowsAt 3).before.Ordinary := by
  have hb : lateLoop.PredsAgree := FlowGraph.predsAgree_ofEntries 0 (by decide) (by decide)
  obtain ⟨s, hs, hc, h1, h5⟩ := exists_ok_of_toOption (r := lateLoop.analyze (fun _ => true) 0)
    (P := fun s => s.converged = true ∧ (s.flowsAt 1).before.path = .external ∧
      (s.flowsAt 5).before.path = .bottom) (by decide)
  obtain ⟨hvalues, hstored, hresult⟩ := occurring_values lateLoop fun _ => true
  have hone := (hresult hb 0 s hs hc 1 (by decide)).2 h1
  have h2 : lateLoop.Reachable 2 := hone.1.snoc (k := .fall) (by decide) (by decide)
  have h3 : lateLoop.Reachable 3 := h2.snoc (k := .fall) (by decide) (by decide)
  obtain ⟨ns, hns, hlen, -⟩ := Run.exists_visiting_after lateLoop.toFlowGraph
    (lateLoop.problem fun _ => true) (initialRun lateLoop.toFlowGraph
      (lateLoop.problem fun _ => true)) 4
  exact ⟨hb, s, hs, hc, h1, hone.1, hone.2, h3, (hresult hb 0 s hs hc 3 (by decide)).1 h3, h5,
    (hstored 0 s hs 3).1, ns, _, hns, hlen, (hvalues ns _ hns 3).1⟩

end Body

end FlagFlow
