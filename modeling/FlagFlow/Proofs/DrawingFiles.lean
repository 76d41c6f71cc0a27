import FlagFlow.Program
import FlagFlow.Proofs.Files
import FlagFlow.Report.Output
import Mathlib.Data.List.Induction
import Mathlib.Data.List.Pairwise

/-!
# The files of drawings

The name of a function says where its drawing goes. Some characters cannot stand in the name of a
file, so two functions can share one.

* `Alike`: names that differ in such characters only.
* **`drawingFile_eq_iff`**: two drawings go to the same file if and only if the names are alike.
* `Drawn.Shows`: what stands in the files after some drawings, kept by every drawing
  (`Drawn.Shows.concat`).
* `Drawn.exists_splits`: the drawings of a run, up to one whose file cannot be made.
* **`drawAll_files_nodup_iff`**: the files are pairwise different if and only if no two names are
  alike; a file holds the drawing of the last function that goes to it.
-/

namespace FlagFlow

/-! ## Names that are alike -/

/-- The characters that look like an underscore in the name of a file. -/
def joiners : List Char := ['/', ' ', '$', ':', '_']

/-- The characters that are not in the name of a file. -/
def droppedChars : List Char := ['*', '(', ')']

/-- Two names are the same up to parentheses and stars, and up to the choice between the characters
that look like an underscore. -/
inductive Alike : List Char → List Char → Prop
  | nil : Alike [] []
  | same {s t : List Char} (c : Char) : Alike s t → Alike (c :: s) (c :: t)
  | joiner {s t : List Char} {c d : Char} :
    c ∈ joiners → d ∈ joiners → Alike s t → Alike (c :: s) (d :: t)
  | dropLeft {s t : List Char} {c : Char} : c ∈ droppedChars → Alike s t → Alike (c :: s) t
  | dropRight {s t : List Char} {d : Char} : d ∈ droppedChars → Alike s t → Alike s (d :: t)

theorem fileNameChar_of_dropped {c : Char} (h : c ∈ droppedChars) : fileNameChar c = [] := by
  simp only [droppedChars, List.mem_cons, List.not_mem_nil, or_false] at h
  rcases h with rfl | rfl | rfl <;> decide

theorem fileNameChar_of_joiner {c : Char} (h : c ∈ joiners) : fileNameChar c = ['_'] := by
  simp only [joiners, List.mem_cons, List.not_mem_nil, or_false] at h
  rcases h with rfl | rfl | rfl | rfl | rfl <;> decide

theorem fileNameChar_of_other {c : Char} (hc : c ∉ joiners) (hd : c ∉ droppedChars) :
    fileNameChar c = [c] := by
  simp only [joiners, droppedChars, List.mem_cons, List.not_mem_nil, or_false, not_or] at hc hd
  simp [fileNameChar, hc, hd]

theorem alike_cons {c d : Char} (hc : c ∉ droppedChars) (hd : d ∉ droppedChars)
    (h : fileNameChar c = fileNameChar d) {s t : List Char} (hst : Alike s t) :
    Alike (c :: s) (d :: t) := by
  by_cases hcj : c ∈ joiners
  · by_cases hdj : d ∈ joiners
    · exact .joiner hcj hdj hst
    · rw [fileNameChar_of_joiner hcj, fileNameChar_of_other hdj hd, List.cons.injEq] at h
      exact absurd (h.1 ▸ by decide) hdj
  · by_cases hdj : d ∈ joiners
    · rw [fileNameChar_of_other hcj hc, fileNameChar_of_joiner hdj, List.cons.injEq] at h
      exact absurd (h.1 ▸ by decide) hcj
    · rw [fileNameChar_of_other hcj hc, fileNameChar_of_other hdj hd, List.cons.injEq] at h
      exact h.1 ▸ .same c hst

theorem exists_fileNameChar {c : Char} (hc : c ∉ droppedChars) : ∃ m, fileNameChar c = [m] := by
  by_cases hj : c ∈ joiners
  · exact ⟨'_', fileNameChar_of_joiner hj⟩
  · exact ⟨c, fileNameChar_of_other hj hc⟩

theorem Alike.flatMap_eq {s t : List Char} (h : Alike s t) :
    s.flatMap fileNameChar = t.flatMap fileNameChar := by
  induction h with
  | nil => rfl
  | same c _ ih => rw [List.flatMap_cons, List.flatMap_cons, ih]
  | joiner hc hd _ ih =>
    rw [List.flatMap_cons, List.flatMap_cons, fileNameChar_of_joiner hc, fileNameChar_of_joiner hd, ih]
  | dropLeft hc _ ih => rw [List.flatMap_cons, fileNameChar_of_dropped hc, ih, List.nil_append]
  | dropRight hd _ ih => rw [List.flatMap_cons, fileNameChar_of_dropped hd, ih, List.nil_append]

theorem alike_of_flatMap_eq {s t : List Char} (h : s.flatMap fileNameChar = t.flatMap fileNameChar) :
    Alike s t := by
  -- the first character of either name that stays decides, so those that do not are taken off first
  induction s generalizing t with
  | nil =>
    induction t with
    | nil => exact .nil
    | cons d t ih =>
      by_cases hd : d ∈ droppedChars
      · rw [List.flatMap_cons, fileNameChar_of_dropped hd] at h
        exact .dropRight hd (ih h)
      · obtain ⟨m, hm⟩ := exists_fileNameChar hd
        rw [List.flatMap_cons, hm] at h
        cases h
  | cons c s ih =>
    by_cases hc : c ∈ droppedChars
    · rw [List.flatMap_cons, fileNameChar_of_dropped hc] at h
      exact .dropLeft hc (ih h)
    · obtain ⟨m, hm⟩ := exists_fileNameChar hc
      induction t with
      | nil =>
        rw [List.flatMap_cons, hm] at h
        cases h
      | cons d t iht =>
        by_cases hd : d ∈ droppedChars
        · rw [List.flatMap_cons (x := d), fileNameChar_of_dropped hd] at h
          exact .dropRight hd (iht h)
        · obtain ⟨n, hn⟩ := exists_fileNameChar hd
          rw [List.flatMap_cons, List.flatMap_cons, hm, hn] at h
          obtain ⟨rfl, hst⟩ := List.cons.inj h
          exact alike_cons hc hd (hm.trans hn.symm) (ih hst)

theorem toList_drawingFile (name : String) :
    (drawingFile name).toList = name.toList.flatMap fileNameChar ++ ['.', 'd', 'o', 't'] := by
  rw [drawingFile, String.toList_append, String.toList_ofList]
  rfl

/-- **Two drawings go to the same file if and only if the names of the functions are alike.** -/
theorem drawingFile_eq_iff {a b : String} :
    drawingFile a = drawingFile b ↔ Alike a.toList b.toList := by
  rw [← String.toList_inj, toList_drawingFile, toList_drawingFile, List.append_left_inj]
  exact ⟨alike_of_flatMap_eq, Alike.flatMap_eq⟩

theorem slash_not_mem_fileNameChar (c : Char) : '/' ∉ fileNameChar c := by
  by_cases hd : c ∈ droppedChars
  · rw [fileNameChar_of_dropped hd]
    exact List.not_mem_nil
  by_cases hj : c ∈ joiners
  · rw [fileNameChar_of_joiner hj]
    decide
  · rw [fileNameChar_of_other hj hd, List.mem_singleton]
    rintro rfl
    exact hj (by decide)

theorem isName_drawingFile (name : String) : Path.IsName (drawingFile name) := by
  -- a text that ends in these four characters is none of the three that are not names
  have hne : ∀ u : List Char, u.length < 4 → (drawingFile name).toList ≠ u := by
    rintro u hu rfl
    rw [toList_drawingFile, List.length_append] at hu
    exact absurd hu (Nat.not_lt.mpr (Nat.le_add_left 4 _))
  refine ⟨fun h => hne [] (by decide) (congrArg String.toList h),
    fun h => hne ['.'] (by decide) (congrArg String.toList h),
    fun h => hne ['.', '.'] (by decide) (congrArg String.toList h), ?_⟩
  rw [toList_drawingFile, List.mem_append, List.mem_flatMap]
  rintro (⟨c, -, hc⟩ | h)
  · exact slash_not_mem_fileNameChar c hc
  · exact absurd h (by decide)

theorem join_drawingFile_eq_iff {dir a b : String} :
    Path.join [dir, drawingFile a] = Path.join [dir, drawingFile b] ↔ Alike a.toList b.toList :=
  (Path.join_inj (isName_drawingFile a) (isName_drawingFile b)).trans drawingFile_eq_iff

/-! ## Drawing one function after another -/

theorem Findings.isSome_drawing? (r : Findings) : r.drawing?.isSome = r.states.isSome := by
  simp [drawing?, sketch?]

theorem Findings.name_of_drawing? {r : Findings} {d : Dot.Drawing} (h : r.drawing? = some d) :
    d.name = r.name := by
  obtain ⟨g, -, rfl⟩ := Option.map_eq_some_iff.mp h
  rfl

/-- What stands in the files of a directory after functions were drawn there, in a tree that was
`start` before: for every function that no later one overwrites, its drawing. -/
structure Drawn.Shows (dir : String) (start : FileTree) (drawn : List Findings) (w : Drawn) :
    Prop where
  files : w.files = drawn.map fun r => Path.join [dir, drawingFile r.name]
  writable : ∀ r ∈ drawn, start.Writable (Path.join [dir, drawingFile r.name])
  same_writable : ∀ path, w.tree.Writable path ↔ start.Writable path
  read : ∀ before r after, drawn = before ++ r :: after →
    (∀ a ∈ after, ¬ Alike r.name.toList a.name.toList) →
    ∃ d, r.drawing? = some d ∧ w.tree.read (Path.join [dir, drawingFile r.name]) = .ok (.text d.render)

theorem Drawn.shows_nil (dir : String) (t : FileTree) : Drawn.Shows dir t [] ⟨[], none, t⟩ where
  files := rfl
  writable _ h := absurd h List.not_mem_nil
  same_writable _ := Iff.rfl
  read before r after h := by simp at h

/-- **One more drawing** is read, and so are those before it whose names are not alike. -/
theorem Drawn.Shows.concat {dir : String} {start : FileTree} {drawn : List Findings} {w : Drawn}
    (hw : w.Shows dir start drawn) {r : Findings} {d : Dot.Drawing}
    (hd : r.drawing? = some d) {t : FileTree}
    (ht : w.tree.write (Path.join [dir, drawingFile r.name]) (.text d.render) = .ok t) :
    Drawn.Shows dir start (drawn ++ [r])
      { w with files := w.files ++ [Path.join [dir, drawingFile r.name]], tree := t } where
  files := by rw [hw.files, List.map_append, List.map_singleton]
  writable g hg := by
    rcases List.mem_append.mp hg with hg | hg
    · exact hw.writable g hg
    · obtain rfl := List.mem_singleton.mp hg
      exact (hw.same_writable _).mp (FileTree.exists_write_eq_ok_iff.mp ⟨t, ht⟩)
  same_writable path := (FileTree.writable_write ht path).trans (hw.same_writable path)
  read before g after hsplit hafter := by
    rcases List.eq_nil_or_concat after with rfl | ⟨after, a, rfl⟩
    · obtain rfl : r = g := (List.cons.inj (List.append_inj' hsplit rfl).2).1
      exact ⟨d, hd, FileTree.read_write_same ht⟩
    · rw [List.concat_eq_append, ← List.cons_append, ← List.append_assoc] at hsplit
      obtain ⟨hdrawn, hlast⟩ := List.append_inj' hsplit rfl
      obtain rfl : r = a := (List.cons.inj hlast).1
      obtain ⟨e, he, hread⟩ := hw.read before g after hdrawn fun a ha => hafter a (by simp [ha])
      have hne : drawingFile g.name ≠ drawingFile r.name :=
        fun h => hafter r (by simp) (drawingFile_eq_iff.mp h)
      exact ⟨e, he, FileTree.read_write_other (isName_drawingFile _) (isName_drawingFile _)
        hne ht hread⟩

theorem drawOne_cases (dir : String) (w : Drawn) (d : Dot.Drawing) :
    (w.error ≠ none ∧ drawOne dir w d = w) ∨
    (w.error = none ∧ ¬ w.tree.Writable (Path.join [dir, drawingFile d.name]) ∧
      ∃ e, drawOne dir w d = { w with error := some e }) ∨
    (w.error = none ∧ ∃ t,
      w.tree.write (Path.join [dir, drawingFile d.name]) (.text d.render) = .ok t ∧
      drawOne dir w d =
        { w with files := w.files ++ [Path.join [dir, drawingFile d.name]], tree := t }) := by
  rw [drawOne]
  cases herror : w.error with
  | some e => exact .inl ⟨Option.some_ne_none e, rfl⟩
  | none =>
    simp only [Option.isSome_none, Bool.false_eq_true, if_false]
    cases hwrite : w.tree.write (Path.join [dir, drawingFile d.name]) (.text d.render) with
    | error e =>
      refine .inr (.inl ⟨trivial, fun hw => ?_, _, rfl⟩)
      obtain ⟨t, ht⟩ := FileTree.exists_write_eq_ok_iff.mpr hw
      exact nomatch hwrite.symm.trans ht
    | ok t => exact .inr (.inr ⟨trivial, t, rfl, rfl⟩)

/-- The functions with a graph, of which the first ones are drawn. Without an error there are no
others, and with one the file of another cannot be made. -/
structure Drawn.Splits (dir : String) (start : FileTree) (drawn rest : List Findings) (w : Drawn) :
    Prop where
  shows : w.Shows dir start drawn
  rest_eq_nil : w.error = none → rest = []
  exists_unwritable : w.error ≠ none → ∃ r ∈ rest,
    ¬ start.Writable (Path.join [dir, drawingFile r.name])

/-- **All drawings, up to an error.** -/
theorem Drawn.exists_splits (dir : String) (start : FileTree) (rs : List Findings) :
    ∃ drawn rest, rs.filter (·.states.isSome) = drawn ++ rest ∧
      ((rs.filterMap Findings.drawing?).foldl (drawOne dir) ⟨[], none, start⟩).Splits dir start
        drawn rest := by
  induction rs using List.reverseRecOn with
  | nil => exact ⟨[], [], rfl, shows_nil dir start, fun _ => rfl, fun h => absurd rfl h⟩
  | append_singleton rs r ih =>
    obtain ⟨drawn, rest, hfilter, hsplits⟩ := ih
    cases hd : r.drawing? with
    | none =>
      have hstates : r.states.isSome = false := by rw [← r.isSome_drawing?, hd]; rfl
      refine ⟨drawn, rest, ?_, ?_⟩
      · simp [hstates, hfilter]
      · simpa [hd] using hsplits
    | some d =>
      have hstates : r.states.isSome = true := by rw [← r.isSome_drawing?, hd]; rfl
      have hconcat : (rs ++ [r]).filter (·.states.isSome) = drawn ++ rest ++ [r] := by
        simp [hstates, hfilter]
      rw [List.filterMap_append, List.filterMap_cons_some hd, List.filterMap_nil,
        List.foldl_concat, hconcat]
      generalize (rs.filterMap Findings.drawing?).foldl (drawOne dir) ⟨[], none, start⟩ = w
        at hsplits ⊢
      obtain ⟨hshows, hrest, hbad⟩ := hsplits
      rcases drawOne_cases dir w d with ⟨herror, hw⟩ | ⟨herror, hpath, e, hw⟩ | ⟨herror, t, ht, hw⟩
      · rw [hw]
        refine ⟨drawn, rest ++ [r], List.append_assoc .., hshows, fun h => absurd h herror,
          fun _ => ?_⟩
        obtain ⟨g, hg, hpath⟩ := hbad herror
        exact ⟨g, List.mem_append_left _ hg, hpath⟩
      · rw [Findings.name_of_drawing? hd, hshows.same_writable] at hpath
        rw [hw]
        have hshows' : Drawn.Shows dir start drawn { w with error := some e } :=
          ⟨hshows.files, hshows.writable, hshows.same_writable, hshows.read⟩
        refine ⟨drawn, rest ++ [r], List.append_assoc .., hshows',
          fun h => absurd h (Option.some_ne_none e), fun _ => ?_⟩
        exact ⟨r, List.mem_append_right _ (List.mem_singleton_self r), hpath⟩
      · obtain rfl := hrest herror
        rw [Findings.name_of_drawing? hd] at ht hw
        rw [hw, List.append_nil]
        exact ⟨drawn ++ [r], [], (List.append_nil _).symm, hshows.concat hd ht, fun _ => rfl,
          fun h => absurd herror h⟩

theorem Drawn.Splits.error_eq_none_iff {dir : String} {start : FileTree}
    {drawn rest : List Findings} {w : Drawn} (h : w.Splits dir start drawn rest) :
    w.error = none ↔ ∀ r ∈ drawn ++ rest, start.Writable (Path.join [dir, drawingFile r.name]) := by
  constructor
  · intro herror
    rw [h.rest_eq_nil herror, List.append_nil]
    exact h.shows.writable
  · intro hall
    by_contra herror
    obtain ⟨r, hr, hpath⟩ := h.exists_unwritable herror
    exact hpath (hall r (List.mem_append_right _ hr))

/-- **Drawings overwrite each other if and only if names are alike.** A file holds the drawing of
the last function that goes to it. -/
theorem drawAll_files_nodup_iff (rs : List Findings) (dir : String) (t : FileTree) :
    ∃ drawn rest, rs.filter (·.states.isSome) = drawn ++ rest ∧
      ((drawAll rs dir t).error = none ↔ ∃ start, t.makeDirectories dir = .ok start ∧
        ∀ r ∈ drawn ++ rest, start.Writable (Path.join [dir, drawingFile r.name])) ∧
      ((drawAll rs dir t).error = none → rest = []) ∧
      (drawAll rs dir t).files = drawn.map (fun r => Path.join [dir, drawingFile r.name]) ∧
      ((drawAll rs dir t).files.Nodup ↔
        drawn.Pairwise fun a b => ¬ Alike a.name.toList b.name.toList) ∧
      ∀ before r after, drawn = before ++ r :: after →
      (∀ a ∈ after, ¬ Alike r.name.toList a.name.toList) →
        ∃ d, r.drawing? = some d ∧
          (drawAll rs dir t).tree.read (Path.join [dir, drawingFile r.name]) =
          .ok (.text d.render) := by
  rw [drawAll]
  cases t.makeDirectories dir with
  | error e =>
    exact ⟨[], _, rfl, by simp, fun h => absurd h (Option.some_ne_none _), rfl, by simp, by simp⟩
  | ok start =>
    obtain ⟨drawn, rest, hfilter, hsplits⟩ := Drawn.exists_splits dir start rs
    refine ⟨drawn, rest, hfilter, ?_, hsplits.rest_eq_nil, hsplits.shows.files, ?_, hsplits.shows.read⟩
    · rw [hsplits.error_eq_none_iff]
      simp
    · rw [hsplits.shows.files, List.Nodup, List.pairwise_map]
      exact List.Pairwise.iff fun a b => not_congr join_drawingFile_eq_iff

/-- A function, a function literal in it, and a function with the name that the literal seems to
have. -/
def clashing : Program where
  packages := [⟨"p", []⟩]
  functions := [
    { name := "f", pkg := "p", blocks := [{ instrs := [{ kind := .leave [] }] }] },
    { name := "f$1", pkg := "p", parent := some 0, blocks := [{ instrs := [{ kind := .leave [] }] }] },
    { name := "f_1", pkg := "p", blocks := [{ instrs := [{ kind := .leave [] }] }] }]

theorem selected_clashing :
    clashing.selected {} = ["p.f", "p.f$1", "p.f_1"].zip clashing.functions := by
  have hnames : fullNames clashing.functions = ["p.f", "p.f$1", "p.f_1"] := by decide +kernel
  have hall : ∀ e ∈ ["p.f", "p.f$1", "p.f_1"].zip clashing.functions,
      clashing.selects {} e.2 = true := by
    decide +kernel
  rw [Program.selected, hnames, List.filter_eq_self.mpr hall]
  exact List.mergeSort_of_pairwise (by decide +kernel)

theorem closure_drawing_overwritten :
    (clashing.analyze {}).map Findings.name = ["p.f", "p.f$1", "p.f_1"] ∧
      (drawAll (clashing.analyze {}) "graphs" .empty).error = none ∧
      (drawAll (clashing.analyze {}) "graphs" .empty).files =
        ["graphs/p.f.dot", "graphs/p.f_1.dot", "graphs/p.f_1.dot"] := by
  rw [Program.analyze, selected_clashing]
  decide +kernel

end FlagFlow
