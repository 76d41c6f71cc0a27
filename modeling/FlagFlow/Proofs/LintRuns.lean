import FlagFlow.Lint
import FlagFlow.Program
import FlagFlow.Proofs.Budget
import FlagFlow.Proofs.Copies
import FlagFlow.Proofs.Predecessors

/-!
# What the linter reports

The linter and the analysis of a program select, order and analyse functions on their own. The
linter goes on where there is no code and stops where an analysis fails, while the analysis of a
program keeps the failure with the function. They agree on the branches: the linter reports those
that the analysis of a program finds in the same functions, by position, up to the first function
for which the visits do not suffice.

* `Func.analyze_cases`: the analysis of a function finds no code, or ends, or runs out of visits. No
  instruction reads as a feature call without its first argument, so nothing else goes wrong.
* `Analyzer.runOn_append`, `Analyzer.runOn_cases`: the linter on functions one after the other.
* `Analyzer.functions_eq`: there is one order by position.
* `Analyzer.Reports`: what is to be reported about functions with given findings.
* `Analyzer.reports_run`, **`Analyzer.run_reports_findings`**: this is what is reported.
-/

namespace FlagFlow

/-! ## The analysis of a function -/

namespace Func

variable {f : Func}

theorem expr_ne_absent (t : Term) : t.expr ≠ .absent := by
  cases t <;> simp [Term.expr, Expr.equal, Expr.const, Expr.ofVar, Expr.convert, Expr.other]

theorem lacksArgument_stmtAt (f : Func) (isFeature : String → Bool) (n : Nat) :
    (f.stmtAt n).lacksArgument isFeature = false := by
  cases hI : f.code[n]? with
  | none => rw [stmtAt_of_getElem?_eq_none hI]; rfl
  | some I =>
    rw [stmtAt_of_getElem? hI, Stmt.lacksArgument]
    split
    · rename_i harg
      unfold Stmt.flagArgument? at harg
      split at harg
      · rename_i callee arg args hcall
        obtain ⟨c, -, hc⟩ := Option.map_eq_some_iff.mp hcall
        obtain ⟨t, -, -, ht, -⟩ := List.map_eq_cons_iff.mp (congrArg Call.args hc)
        split at harg
        · exact absurd (ht.trans (Option.some.inj harg)) (expr_ne_absent t)
        · cases harg
      · cases harg
    · rfl

theorem exists_analyze_eq_ok {b : Body Nat Slot} (hb : f.body? = some b) (isFeature : String → Bool)
    (maxVisits : Int) : ∃ s, b.analyze isFeature maxVisits = .ok s := by
  have hcode : f.hasCode = true := by
    by_contra hcode
    simp [body?, hcode] at hb
  have hgraph : b.toFlowGraph.Consistent := by
    rw [body?_eq_some hb]
    exact consistent_graph hcode
  refine ⟨_, Body.analyze_of_solve? (fun n _ m hm => hgraph.succs_mem n m hm) (fun n _ => ?_)
    (solve?_eq_some_iff.mpr ⟨hgraph.entry_mem, rfl⟩)⟩
  rw [stmt_body? hb]
  exact f.lacksArgument_stmtAt isFeature n

/-- **The outcomes of an analysis**: there is no code, or it ends, or the visits do not suffice. -/
theorem analyze_cases (f : Func) (name : String) (o : Options) :
    f.body? = none ∧ f.analyze name o = { name, func := f, error := some .noBody } ∨
      ∃ b s, f.body? = some b ∧ b.analyze o.isFeature o.maxVisits = .ok s ∧
        (b.shortfall? o.maxVisits s = none ∧
            f.analyze name o =
              { name, func := f, states := some (b, s), branches := b.flagBranches s
                loops := b.toFlowGraph.loopCount } ∨
          b.shortfall? o.maxVisits s = some (.solver (.noFixpoint (b.budget o.maxVisits))) ∧
            f.analyze name o =
              { name, func := f, states := some (b, s)
                error := some (.analysis (.solver (.noFixpoint (b.budget o.maxVisits)))) }) := by
  unfold analyze
  cases hb : f.body? with
  | none => exact .inl ⟨rfl, rfl⟩
  | some b =>
    obtain ⟨s, hs⟩ := exists_analyze_eq_ok hb o.isFeature o.maxVisits
    refine .inr ⟨b, s, rfl, hs, ?_⟩
    simp only [hs]
    unfold Body.shortfall?
    cases s.converged with
    | true => exact .inl ⟨rfl, rfl⟩
    | false => exact .inr ⟨rfl, rfl⟩

end Func

namespace Findings

/-- Whether the visits did not suffice. -/
def isExhausted (r : Findings) : Bool :=
  match r.error with
  | some (.analysis (.solver (.noFixpoint _))) => true
  | _ => false

/-- What is to be reported about the branches that were found. -/
def diagnostics (r : Findings) : List Diagnostic := r.branches.map (Analyzer.diagnostic r.func)

end Findings

/-! ## Functions one after the other -/

namespace Analyzer

variable {o : Options} {f : Func} {fs gs : List Func} {name : Func → String}

theorem runOn_cons_of_isExhausted (fs : List Func) (h : (f.analyze (name f) o).isExhausted = true) :
    ∃ e, (f.analyze (name f) o).error = some (.analysis e) ∧ runOn o (f :: fs) = ([], some e) := by
  obtain ⟨hb, hr⟩ | ⟨b, s, hb, hs, ⟨he, hr⟩ | ⟨he, hr⟩⟩ := f.analyze_cases (name f) o
  · rw [hr] at h
    cases h
  · rw [hr] at h
    cases h
  · exact ⟨_, by rw [hr], by simp [runOn, hb, hs, he]⟩

theorem runOn_cons_of_not_isExhausted (h : (f.analyze (name f) o).isExhausted = false) :
    runOn o (f :: fs) = ((f.analyze (name f) o).diagnostics ++ (runOn o fs).1, (runOn o fs).2) := by
  obtain ⟨hb, hr⟩ | ⟨b, s, hb, hs, ⟨he, hr⟩ | ⟨he, hr⟩⟩ := f.analyze_cases (name f) o
  · simp [runOn, hb, hr, Findings.diagnostics]
  · simp [runOn, hb, hs, he, hr, Findings.diagnostics]
  · rw [hr] at h
    cases h

theorem diagnostics_eq_nil_of_noBody (h : (f.analyze (name f) o).error = some .noBody) :
    (f.analyze (name f) o).diagnostics = [] := by
  obtain ⟨-, hr⟩ | ⟨b, s, -, -, ⟨-, hr⟩ | ⟨-, hr⟩⟩ := f.analyze_cases (name f) o <;> rw [hr] at h ⊢
  · rfl
  · cases h
  · cases h

/-- **After functions whose analysis did not run out of visits** the linter goes on. -/
theorem runOn_append (h : ∀ f ∈ fs, (f.analyze (name f) o).isExhausted = false) :
    runOn o (fs ++ gs) =
      ((fs.map fun f => f.analyze (name f) o).flatMap Findings.diagnostics ++ (runOn o gs).1,
      (runOn o gs).2) := by
  induction fs with
  | nil => rfl
  | cons f fs ih =>
    rw [List.cons_append, runOn_cons_of_not_isExhausted (h f List.mem_cons_self),
      ih fun f hf => h f (List.mem_cons_of_mem _ hf)]
    simp

/-- **The linter on a list of functions** stops at the first one that needs too many visits. -/
theorem runOn_cases (o : Options) (fs : List Func) (name : Func → String) :
    (∀ f ∈ fs, (f.analyze (name f) o).isExhausted = false) ∧
        runOn o fs = ((fs.map fun f => f.analyze (name f) o).flatMap Findings.diagnostics, none) ∨
      ∃ before f after e, fs = before ++ f :: after ∧
        (∀ g ∈ before, (g.analyze (name g) o).isExhausted = false) ∧
        (f.analyze (name f) o).isExhausted = true ∧ (f.analyze (name f) o).error = some (.analysis e) ∧
        runOn o fs = ((before.map fun f => f.analyze (name f) o).flatMap Findings.diagnostics,
        some e) := by
  cases hfirst : fs.find? fun f => (f.analyze (name f) o).isExhausted with
  | none =>
    have hall : ∀ f ∈ fs, (f.analyze (name f) o).isExhausted = false :=
      fun f hf => Bool.eq_false_iff.mpr (List.find?_eq_none.mp hfirst f hf)
    refine .inl ⟨hall, ?_⟩
    rw [← fs.append_nil, runOn_append hall]
    simp [runOn]
  | some f =>
    obtain ⟨hf, before, after, rfl, hbefore⟩ := List.find?_eq_some_iff_append.mp hfirst
    have hbefore : ∀ g ∈ before, (g.analyze (name g) o).isExhausted = false :=
      fun g hg => by simpa using hbefore g hg
    obtain ⟨e, he, hend⟩ := runOn_cons_of_isExhausted after hf
    refine .inr ⟨before, f, after, e, rfl, hbefore, hf, he, ?_⟩
    rw [runOn_append hbefore, hend, List.append_nil]

/-! ## The order of functions -/

theorem standsBefore_iff {f g : Func} : standsBefore f g = true ↔ f.pos ≤ g.pos := decide_eq_true_iff

theorem standsBefore_trans (f g h : Func) (hfg : standsBefore f g = true)
    (hgh : standsBefore g h = true) : standsBefore f h = true := by
  rw [standsBefore_iff] at *
  omega

theorem standsBefore_total (f g : Func) : (standsBefore f g || standsBefore g f) = true := by
  rw [Bool.or_eq_true, standsBefore_iff, standsBefore_iff]
  omega

/-- **There is one order by position** of functions at distinct positions. -/
theorem functions_eq (hgs : gs.Perm (fs.filter fun f => !f.blocks.isEmpty && !f.synthetic))
    (hsorted : gs.Pairwise fun f g => standsBefore f g = true) (hdistinct : (gs.map Func.pos).Nodup) :
    functions fs = gs := by
  have hperm : (functions fs).Perm gs := (List.mergeSort_perm _ _).trans hgs.symm
  have hsorted' : (functions fs).Pairwise fun f g => standsBefore f g = true :=
    List.pairwise_mergeSort standsBefore_trans standsBefore_total _
  refine List.Perm.eq_of_pairwise (fun f g hf hg hfg hgf => ?_) hsorted' hsorted hperm
  rw [standsBefore_iff] at hfg hgf
  exact List.inj_on_of_nodup_map hdistinct (hperm.mem_iff.mp hf) hg (by omega)

/-! ## The diagnostics -/

/-- What the linter is to report about functions with given findings. If the visits suffice for all
of them, these are the branches of all of them, one function after the other; a function without
code has none. Otherwise it ends with the error of the first function for which they do not suffice,
after the branches of the functions before. -/
def Reports (results : List Findings) (outcome : List Diagnostic × Option AnalysisError) : Prop :=
  (∀ r ∈ results, r.error = some .noBody → r.diagnostics = []) ∧
    ((∀ r ∈ results, r.isExhausted = false) ∧ outcome = (results.flatMap Findings.diagnostics, none) ∨
      ∃ before r after e, results = before ++ r :: after ∧ (∀ q ∈ before, q.isExhausted = false) ∧
        r.isExhausted = true ∧ r.error = some (.analysis e) ∧
        outcome = (before.flatMap Findings.diagnostics, some e))

theorem reports_runOn (o : Options) (gs : List Func) (name : Func → String) :
    Reports (gs.map fun f => f.analyze (name f) o) (runOn o gs) := by
  refine ⟨fun r hr hnone => ?_, ?_⟩
  · obtain ⟨f, -, rfl⟩ := List.mem_map.mp hr
    exact diagnostics_eq_nil_of_noBody hnone
  obtain ⟨hall, hend⟩ | ⟨before, f, after, e, rfl, hbefore, hf, he, hend⟩ := runOn_cases o gs name
  · refine .inl ⟨fun r hr => ?_, hend⟩
    obtain ⟨f, hf, rfl⟩ := List.mem_map.mp hr
    exact hall f hf
  · refine .inr ⟨_, _, _, e, List.map_append.trans (congrArg _ List.map_cons), fun q hq => ?_, hf, he,
      hend⟩
    obtain ⟨g, hg, rfl⟩ := List.mem_map.mp hq
    exact hbefore g hg

/-- **Any linter reports what the analysis finds** with the callees between its commas. -/
theorem reports_run (a : Analyzer) {fs gs : List Func}
    (hgs : gs.Perm (fs.filter fun f => !f.blocks.isEmpty && !f.synthetic))
    (hsorted : gs.Pairwise fun f g => standsBefore f g = true) (hdistinct : (gs.map Func.pos).Nodup)
    (name : Func → String) :
    Reports (gs.map fun f => f.analyze (name f)
      (({} : Settings).withCallees (Text.splitCommas a.callees)).options) (a.run fs) := by
  rw [run, functions_eq hgs hsorted hdistinct]
  exact reports_runOn _ gs name

/-- **The linter reports what the analysis finds** in the functions with blocks, by position. -/
theorem run_reports_findings {a : Analyzer} {callees : List String}
    (hcallees : a.settings = ({} : Settings).withCallees callees) {fs gs : List Func}
    (hgs : gs.Perm (fs.filter fun f => !f.blocks.isEmpty && !f.synthetic))
    (hsorted : gs.Pairwise fun f g => standsBefore f g = true) (hdistinct : (gs.map Func.pos).Nodup)
    (name : Func → String) :
    Reports (gs.map fun f => f.analyze (name f) (({} : Settings).withCallees callees).options)
      (a.run fs) := by
  rw [← hcallees]
  exact reports_run a hgs hsorted hdistinct name

/-- A function that branches on a variable, or on its negation, after the variable got the flag. -/
def switch (line : Nat) (negated : Bool) : Func where
  name := "switch"
  position := some ⟨"p.go", line, 6⟩
  pos := line
  blocks := [
    { succs := [1, 2]
      instrs := [
        Func.boolCell 0 "on",
        { kind := .call { callee := .func { name := "Enable", pkg := "lib" }, args := [.register 0] }
          register := 1 },
        { kind := .unary "*" (.register 0) false, register := 2, type := .basic "bool" },
        { kind := .unary "!" (.register 2) false, register := 3, type := .basic "bool"
          position := some ⟨"p.go", line + 2, 5⟩ },
        { kind := .branch (.register (if negated then 3 else 2)) }] },
    { instrs := [{ kind := .leave [] }] },
    { instrs := [{ kind := .leave [] }] }]

/-- A function whose first block is empty. -/
def hollow : Func where
  name := "hollow"
  position := some ⟨"p.go", 6, 6⟩
  pos := 6
  blocks := [{}]

/-- Functions of a package in no order, one of which is made by the compiler. -/
def switches : List Func :=
  [switch 9 true, hollow, { switch 1 false with synthetic := true }, switch 3 false]

theorem run_reports_findings_switches :
    (ofSettings ["Enable"]).settings = ({} : Settings).withCallees ["Enable"] ∧
      [switch 3 false, hollow, switch 9 true].Perm
        (switches.filter fun f => !f.blocks.isEmpty && !f.synthetic) ∧
      [switch 3 false, hollow, switch 9 true].Pairwise (fun f g => standsBefore f g = true) ∧
      ([switch 3 false, hollow, switch 9 true].map Func.pos).Nodup ∧
      (ofSettings ["Enable"]).run switches =
        ([⟨some ⟨"p.go", 3, 6⟩, "branch on feature flag (A)"⟩,
        ⟨some ⟨"p.go", 11, 5⟩, "branch on feature flag (!A)"⟩],
          none) := by
  have hcallees : (ofSettings ["Enable"]).settings = ({} : Settings).withCallees ["Enable"] := rfl
  have hperm : [switch 3 false, hollow, switch 9 true].Perm
      (switches.filter fun f => !f.blocks.isEmpty && !f.synthetic) :=
    List.reverse_perm [switch 9 true, hollow, switch 3 false]
  have hsorted : [switch 3 false, hollow, switch 9 true].Pairwise fun f g =>
    standsBefore f g = true := by
    decide +kernel
  have hdistinct : ([switch 3 false, hollow, switch 9 true].map Func.pos).Nodup := by decide +kernel
  refine ⟨hcallees, hperm, hsorted, hdistinct, ?_⟩
  have hsuffice : ∀ r ∈ [switch 3 false, hollow, switch 9 true].map fun f =>
      f.analyze f.name (({} : Settings).withCallees ["Enable"]).options, r.isExhausted = false := by
    decide +kernel
  obtain ⟨-, ⟨-, hrun⟩ | ⟨before, r, after, e, hsplit, -, hr, -⟩⟩ :=
    run_reports_findings hcallees hperm hsorted hdistinct Func.name
  · rw [hrun]
    decide +kernel
  · rw [hsuffice r (hsplit ▸ List.mem_append_right _ List.mem_cons_self)] at hr
    cases hr

end Analyzer

end FlagFlow
