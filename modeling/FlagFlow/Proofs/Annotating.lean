import FlagFlow.Proofs.AnnotationOrder
import FlagFlow.Proofs.BlockConditions
import Mathlib.Data.List.Forall2

/-!
# What annotating does

Annotating a file adds one comment to each block that is due, and nothing else: statements and
braces, the comments before statements and the comments of all other blocks stay as they are. A
block that has been annotated is not due any more, so annotating a file again adds nothing.

* `Tree.bare`: a tree without the comments of its blocks.
* `Arm.IsDue`, `Arm.Gains`: a block is to be annotated; what a block gains.
* `arms_annotateTree`: the blocks after annotating a tree.
* `annotateTree_eq_self`: a tree without a block that is due stays as it is.
* `Annotated`: what annotating a file does.
* **`annotateAll_idempotent`**: annotating files adds what is due and nothing else, and once is
  enough.
-/

namespace FlagFlow

namespace Source

/-- A tree without the comments of its blocks. -/
def Tree.bare : Tree → Tree
  | done text => done text
  | code start text next => code start text next.bare
  | branch head body inner link otherwise rest next =>
    branch head.bare { body with notes := [] } inner.bare link
      (otherwise.map fun b => { b with notes := [] }) rest.bare next.bare

namespace Arm

/-- A block is to be annotated with a condition: the first place inside it has this condition,
which depends on the flag, and no comment after its brace or before its first statement is an
annotation. -/
def IsDue (points : List ConditionPoint) (file : String) (b : Arm) (x : FlagValue) : Prop :=
  (points.find? fun c => c.position.Inside file b.braces.span).map ConditionPoint.condition = some x ∧
    (x = .flag ∨ x = .notFlag) ∧
    ∀ c ∈ b.braces.notes ++ b.start, ¬ c.text.startsWith annotationMark = true

/-- What a block gains: a comment after its brace if it is due, and nothing otherwise. -/
inductive Gains (points : List ConditionPoint) (file : String) : Arm → Arm → Prop where
  | comment {b : Arm} {x : FlagValue} (hdue : b.IsDue points file x) :
      Gains points file b ⟨b.braces.addNote (annotationMark ++ x.text), b.start⟩
  | nothing {b : Arm} (hdue : ∀ x, ¬ b.IsDue points file x) : Gains points file b b

end Arm

end Source

open Source

/-! ## One block -/

/-- A block after it was visited. -/
def annotateArm (points : Array ConditionPoint) (file : String) (b : Arm) : Arm :=
  ⟨(annotateBlock points file b.braces b.start).2, b.start⟩

theorem startsWith_annotationText (x : FlagValue) :
    (annotationText x).startsWith annotationMark = true := by
  rw [String.startsWith_string_iff, annotationText, String.toList_append]
  exact List.prefix_append _ _

theorem isAnnotated_addNote (b : Braces) (start : List Note) (x : FlagValue) :
    isAnnotated (b.addNote (annotationText x)) start = true := by
  simp [isAnnotated, Braces.addNote, startsWith_annotationText]

theorem dueCondition?_eq_some_iff {points : List ConditionPoint} {file : String} {b : Arm}
    {x : FlagValue} (hpoints : points.Pairwise fun c d => c.position.le d.position = true) :
    dueCondition? points.toArray file b.braces b.start = some x ↔ b.IsDue points file x := by
  have hdepends : x.dependsOnFlag = true ↔ x = .flag ∨ x = .notFlag := by
    cases x <;> simp [FlagValue.dependsOnFlag]
  have hannotated : (!isAnnotated b.braces b.start) = true ↔
      ∀ c ∈ b.braces.notes ++ b.start, ¬ c.text.startsWith annotationMark = true := by
    rw [Bool.not_eq_true', isAnnotated, List.any_eq_false]
  rw [dueCondition?, inBlock?_eq_find? hpoints, Option.filter_eq_some_iff, Bool.and_eq_true, hdepends,
    hannotated, Arm.IsDue]

section

variable {points : Array ConditionPoint} {file : String}

theorem annotateBlock_of_not_due {b : Braces} {start : List Note}
    (h : dueCondition? points file b start = none) : annotateBlock points file b start = ([], b) := by
  rw [annotateBlock, h]

theorem annotateArm_of_not_due {b : Arm} (h : dueCondition? points file b.braces b.start = none) :
    annotateArm points file b = b := by
  rw [annotateArm, annotateBlock_of_not_due h]

theorem annotateArm_of_due {b : Arm} {x : FlagValue}
    (h : dueCondition? points file b.braces b.start = some x) :
    annotateArm points file b = ⟨b.braces.addNote (annotationText x), b.start⟩ := by
  rw [annotateArm, annotateBlock, h]

/-- **A block that was visited is not due.** -/
theorem dueCondition?_annotateArm (b : Arm) :
    dueCondition? points file (annotateArm points file b).braces (annotateArm points file b).start =
      none := by
  cases h : dueCondition? points file b.braces b.start with
  | none => rwa [annotateArm_of_not_due h]
  | some x =>
    rw [annotateArm_of_due h, dueCondition?, isAnnotated_addNote]
    simp

/-! ## The blocks of a tree -/

theorem first?_annotateTree (t : Tree) : (annotateTree points file t).2.first? = t.first? := by
  induction t with
  | done | code => rfl
  | branch head body inner link otherwise rest next ihh =>
    simp only [annotateTree, Tree.first?, ihh]

theorem start_annotateTree (t : Tree) : (annotateTree points file t).2.start = t.start := by
  rw [Tree.start, first?_annotateTree, Tree.start]

theorem bare_annotateTree (t : Tree) : (annotateTree points file t).2.bare = t.bare := by
  have hblock : ∀ b start,
      { (annotateBlock points file b start).2 with notes := [] } = { b with notes := [] } := by
    intro b start
    unfold annotateBlock
    cases dueCondition? points file b start <;> rfl
  induction t with
  | done => rfl
  | code _ _ _ ih => simp only [annotateTree, Tree.bare, ih]
  | branch head body inner link otherwise rest next ihh ihi ihr ihn =>
    simp only [annotateTree, Tree.bare, ihh, ihi, ihr, ihn, hblock, Option.map_map, Function.comp_def]

/-- **Each block is visited once**, with the comments that the file has. -/
theorem arms_annotateTree (t : Tree) :
    (annotateTree points file t).2.arms = t.arms.map (annotateArm points file) := by
  induction t with
  | done => rfl
  | code _ _ _ ih => exact ih
  | branch head body inner link otherwise rest next ihh ihi ihr ihn =>
    simp only [annotateTree, Tree.arms, elseArm, start_annotateTree, ihh, ihi, ihr, ihn,
      List.map_append, List.map_cons, Option.map_map]
    cases otherwise <;> rfl

/-- **A tree without a block that is due stays as it is.** -/
theorem annotateTree_eq_self {t : Tree}
    (h : ∀ b ∈ t.arms, dueCondition? points file b.braces b.start = none) :
    annotateTree points file t = ([], t) := by
  induction t with
  | done => rfl
  | code _ _ _ ih => rw [annotateTree, ih h]
  | branch head body inner link otherwise rest next ihh ihi ihr ihn =>
    simp only [Tree.arms, List.mem_append, List.mem_cons, or_imp, forall_and, forall_eq] at h
    obtain ⟨hhead, hbody, hinner, hotherwise, hrest, hnext⟩ := h
    rw [annotateTree, ihh hhead, ihi hinner, ihr hrest, ihn hnext,
      annotateBlock_of_not_due hbody]
    cases otherwise with
    | none => rfl
    | some e =>
      have he : dueCondition? points file e rest.start = none :=
        hotherwise ⟨e, rest.start⟩ (by simp [elseArm])
      simp [annotateBlock_of_not_due he]

end

/-! ## Files -/

/-- What annotating a file does: `src` becomes `src'`, with the annotations `remarks`. -/
structure Annotated (points : List ConditionPoint) (src src' : SourceTree) (remarks : List Remark) :
    Prop where
  file_eq : src'.file = src.file
  bare_eq : src'.tree.bare = src.tree.bare
  gains : List.Forall₂ (Arm.Gains points src.file) src.tree.arms src'.tree.arms
  mem_iff : ∀ r, r ∈ remarks ↔
    ∃ b ∈ src.tree.arms, b.opening = r.spot ∧ b.IsDue points src.file r.condition

variable {points : List ConditionPoint}

theorem gains_annotateArm (hpoints : points.Pairwise fun c d => c.position.le d.position = true)
    (file : String) (b : Arm) : b.Gains points file (annotateArm points.toArray file b) := by
  cases h : dueCondition? points.toArray file b.braces b.start with
  | none =>
    have hdue : ∀ x, ¬ b.IsDue points file x := fun x hx => by
      rw [← dueCondition?_eq_some_iff hpoints, h] at hx
      cases hx
    rw [annotateArm_of_not_due h]
    exact .nothing hdue
  | some x =>
    rw [annotateArm_of_due h]
    exact .comment ((dueCondition?_eq_some_iff hpoints).mp h)

theorem annotated_annotate (hpoints : points.Pairwise fun c d => c.position.le d.position = true)
    (src : SourceTree) : Annotated points src (annotate points src).2 (annotate points src).1 where
  file_eq := rfl
  bare_eq := bare_annotateTree src.tree
  gains := by
    unfold annotate
    dsimp only
    rw [arms_annotateTree, List.forall₂_map_right_iff, List.forall₂_same]
    exact fun b _ => gains_annotateArm hpoints src.file b
  mem_iff r := by
    rw [fst_annotate]
    simp only [List.mem_filterMap, Tree.mem_visited, remark?, Option.map_eq_some_iff,
      dueCondition?_eq_some_iff hpoints]
    constructor
    · rintro ⟨b, hb, x, hx, rfl⟩
      exact ⟨b, hb, rfl, hx⟩
    · rintro ⟨b, hb, hopening, hx⟩
      exact ⟨b, hb, r.condition, hx, by rw [hopening]⟩

/-- **Annotating again adds nothing.** -/
theorem annotate_again (points : List ConditionPoint) (src : SourceTree) :
    annotate points (annotate points src).2 = ([], (annotate points src).2) := by
  have htree : annotateTree points.toArray src.file (annotateTree points.toArray src.file src.tree).2 =
      ([], (annotateTree points.toArray src.file src.tree).2) := by
    refine annotateTree_eq_self fun b hb => ?_
    rw [arms_annotateTree] at hb
    obtain ⟨c, -, rfl⟩ := List.mem_map.mp hb
    exact dueCondition?_annotateArm c
  simp only [annotate, htree]

/-- **Annotating adds what is due, changes nothing else, and is idempotent.** -/
theorem annotateAll_idempotent (hpoints : points.Pairwise fun c d => c.position.le d.position = true)
    (files : List SourceTree) :
    (∀ src ∈ files, Annotated points src (annotate points src).2 (annotate points src).1 ∧
      annotate points (annotate points src).2 = ([], (annotate points src).2)) ∧
      annotateAll points (files.map fun src => (annotate points src).2) = [] := by
  refine ⟨fun src _ => ⟨annotated_annotate hpoints src, annotate_again points src⟩, ?_⟩
  rw [annotateAll, List.filter_eq_nil_iff]
  intro e he
  simp only [List.map_map, List.mem_map, Function.comp_apply, annotate_again] at he
  obtain ⟨src, -, rfl⟩ := he
  simp

/-- A file with a comment after a brace, a block on one line, and a block that is annotated
already. -/
def noted : SourceTree :=
  .ofText "p.go"
    ("package p\n\nfunc f() \x7b\n\tif on \x7b // why\n\t\tx()\n\t\x7d else \x7b y() \x7d\n" ++
      "\tif on \x7b\n\t\t// feature: A\n\t\tz()\n\t\x7d\n\x7d\n")
    [⟨⟨(4, 8), (6, 2)⟩, some ⟨(6, 9), (6, 15)⟩⟩, ⟨⟨(7, 8), (10, 2)⟩, none⟩]

/-- Conditions in its three blocks. -/
def notedPoints : List ConditionPoint :=
  [⟨⟨"p.go", 5, 3⟩, .flag⟩, ⟨⟨"p.go", 6, 11⟩, .notFlag⟩, ⟨⟨"p.go", 9, 3⟩, .flag⟩]

theorem annotateAll_idempotent_noted :
    notedPoints.Pairwise (fun c d => c.position.le d.position = true) ∧
      noted.tree.arms.length = 3 ∧
      (annotate notedPoints noted).1 = [⟨(4, 8), .flag⟩, ⟨(6, 9), .notFlag⟩] ∧
      (annotate notedPoints noted).2.tree.print = "package p\n\nfunc f() \x7b\n" ++
        "\tif on \x7b // why\n\t\t// feature: A\n\t\tx()\n\t\x7d else \x7b // feature: !A\n y() \x7d\n" ++
        "\tif on \x7b\n\t\t// feature: A\n\t\tz()\n\t\x7d\n\x7d\n" ∧
      annotateAll notedPoints [(annotate notedPoints noted).2] = [] := by
  have hpoints : notedPoints.Pairwise (fun c d => c.position.le d.position = true) := by decide
  refine ⟨hpoints, by decide +kernel, by decide +kernel, by decide +kernel, ?_⟩
  exact (annotateAll_idempotent hpoints [noted]).2

end FlagFlow
