import FlagFlow.Annotate
import FlagFlow.Proofs.SourceTrees
import Mathlib.Data.List.Nodup

/-!
# The order of annotations

The blocks of a conditional statement are annotated when the statement is visited, before the
statements nested in it. Annotations therefore do not always come in the order of the source: the
one of an `else` block comes before those inside the block that runs if the condition holds, and the
annotations of both blocks come before those inside function literals of the condition. These are
the only exceptions.

* `Tree.visited`: the blocks of a tree as they are visited.
* `fst_annotateTree`: the annotations are those of the blocks that are due, as they are visited.
* `Tree.Late`: some block is visited too late.
* `Tree.pairwise_visited_iff`: blocks are visited in the order of the source unless one is late.
* **`annotations_in_source_order_iff`**: annotations come in the order of the source unless one is
  late.
* **`nested_annotation_late`**: one is.
-/

namespace FlagFlow

/-! ## The order of the visits -/

namespace Source

theorem Arm.Before.asymm {b c : Arm} (h : b.Before c) : ¬ c.Before b := Spot.before_asymm h

namespace Tree

/-- The blocks of the conditional statements, in the order in which they are visited. -/
def visited : Tree → List Arm
  | done _ => []
  | code _ _ next => next.visited
  | branch head body inner _ otherwise rest next =>
    ⟨body, inner.start⟩ :: (elseArm otherwise rest ++
      (head.visited ++ (inner.visited ++ (rest.visited ++ next.visited))))

/-- Of the blocks that satisfy `p` one in a condition comes after a block of its statement, or one
in the block that runs if the condition holds comes after the `else` block. -/
def Late (p : Arm → Prop) : Tree → Prop
  | done _ => False
  | code _ _ next => next.Late p
  | branch head body inner _ otherwise rest next =>
    ((∃ c ∈ head.arms, p c) ∧ ∃ d ∈ ⟨body, inner.start⟩ :: elseArm otherwise rest, p d) ∨
      ((∃ c ∈ inner.arms, p c) ∧ ∃ d ∈ elseArm otherwise rest, p d) ∨
      head.Late p ∨ inner.Late p ∨ rest.Late p ∨ next.Late p

theorem visited_perm (t : Tree) : t.visited.Perm t.arms := by
  induction t with
  | done => rfl
  | code _ _ _ ih => exact ih
  | branch head body inner link otherwise rest next ihh ihi ihr ihn =>
    classical
    rw [List.perm_iff_count] at *
    intro b
    simp only [visited, arms, List.count_cons, List.count_append, ihh b, ihi b, ihr b, ihn b]
    omega

theorem mem_visited {t : Tree} {b : Arm} : b ∈ t.visited ↔ b ∈ t.arms := t.visited_perm.mem_iff

/-- **Blocks are visited in the order of the source** unless one of them is late. -/
theorem pairwise_visited_iff {t : Tree} (h : t.Placed) (p : Arm → Bool) :
    (t.visited.filter p).Pairwise Arm.Before ↔ ¬ t.Late (p · = true) := by
  rw [List.pairwise_filter]
  induction t with
  | done => simp [visited, Late]
  | code _ _ _ ih => exact ih h
  | branch head body inner link otherwise rest next ihh ihi ihr ihn =>
    simp only [Placed, arms, List.pairwise_append, List.pairwise_cons, List.mem_append,
      List.mem_cons] at h
    obtain ⟨hhead, ⟨hbody, hinner, ⟨hotherwise, ⟨hrest, hnext, hrn⟩, hor⟩, hio⟩, hh⟩ := h
    simp only [visited, List.pairwise_cons, List.pairwise_append, List.mem_append, mem_visited, Late,
      ihh hhead, ihi hinner, ihr hrest, ihn hnext, List.mem_cons]
    constructor
    · rintro ⟨hvbody, -, ⟨hvhead, ⟨hvinner, ⟨hvrest, hvnext, -⟩, -⟩, -⟩, hvelse⟩
      rintro (⟨⟨c, hc, hpc⟩, d, rfl | hd, hpd⟩ | ⟨⟨c, hc, hpc⟩, d, hd, hpd⟩ | h | h | h | h)
      · exact (hh c hc _ (.inl rfl)).asymm (hvbody c (.inr (.inl hc)) hpd hpc)
      · exact (hh c hc d (.inr (.inr (.inl hd)))).asymm (hvelse d hd c (.inl hc) hpd hpc)
      · exact (hio c hc d (.inl hd)).asymm (hvelse d hd c (.inr (.inl hc)) hpd hpc)
      · exact hvhead h
      · exact hvinner h
      · exact hvrest h
      · exact hvnext h
    · intro hlate
      simp only [not_or] at hlate
      obtain ⟨hinhead, hininner, hlhead, hlinner, hlrest, hlnext⟩ := hlate
      refine ⟨?_, hotherwise.imp fun hbc _ _ => hbc, ⟨hlhead, ⟨hlinner, ⟨hlrest, hlnext,
        fun c hc d hd _ _ => hrn c hc d hd⟩, fun c hc d hd _ _ => ?_⟩, fun c hc d hd _ _ => ?_⟩, ?_⟩
      · rintro c (hc | hc | hc | hc | hc) hpb hpc
        · exact hbody c (.inr (.inl hc))
        · exact absurd ⟨⟨c, hc, hpc⟩, _, .inl rfl, hpb⟩ hinhead
        · exact hbody c (.inl hc)
        · exact hbody c (.inr (.inr (.inl hc)))
        · exact hbody c (.inr (.inr (.inr hc)))
      · exact hio c hc d (.inr hd)
      · exact hh c hc d (.inr (hd.imp_right .inr))
      · rintro c hc d (hd | hd | hd | hd) hpc hpd
        · exact absurd ⟨⟨d, hd, hpd⟩, c, .inr hc, hpc⟩ hinhead
        · exact absurd ⟨⟨d, hd, hpd⟩, c, hc, hpc⟩ hininner
        · exact hor c hc d (.inl hd)
        · exact hor c hc d (.inr hd)

theorem late_congr {t : Tree} {p q : Arm → Prop} (h : ∀ b ∈ t.arms, p b ↔ q b) :
    t.Late p ↔ t.Late q := by
  have hexists : ∀ {l : List Arm}, (∀ b ∈ l, p b ↔ q b) → ((∃ b ∈ l, p b) ↔ ∃ b ∈ l, q b) :=
    fun hl => exists_congr fun b => and_congr_right (hl b)
  induction t with
  | done => rfl
  | code _ _ _ ih => exact ih h
  | branch head body inner link otherwise rest next ihh ihi ihr ihn =>
    simp only [arms, List.mem_append, List.mem_cons, or_imp, forall_and, forall_eq] at h
    obtain ⟨hhead, hbody, hinner, hotherwise, hrest, hnext⟩ := h
    have hblocks : ∀ b ∈ ⟨body, inner.start⟩ :: elseArm otherwise rest, p b ↔ q b :=
      List.forall_mem_cons.mpr ⟨hbody, hotherwise⟩
    simp only [Late, ihh hhead, ihi hinner, ihr hrest, ihn hnext, hexists hhead, hexists hinner,
      hexists hotherwise, hexists hblocks]

theorem Placed.nodup_openings {t : Tree} (h : t.Placed) : (t.arms.map Arm.opening).Nodup := by
  rw [List.Nodup, List.pairwise_map]
  refine h.imp fun {b c} hbc heq => ?_
  unfold Arm.Before at hbc
  rw [heq] at hbc
  exact Spot.before_asymm hbc hbc

end Tree

end Source

/-! ## Annotations -/

open Source

/-- The annotation of a block, if it is to be annotated. -/
def remark? (points : Array ConditionPoint) (file : String) (b : Arm) : Option Remark :=
  (dueCondition? points file b.braces b.start).map (Remark.mk b.opening)

section

variable {points : Array ConditionPoint} {file : String}

theorem fst_annotateBlock (b : Braces) (start : List Note) :
    (annotateBlock points file b start).1 = [⟨b, start⟩].filterMap (remark? points file) := by
  unfold annotateBlock
  cases h : dueCondition? points file b start <;> simp [remark?, h, Arm.opening]

/-- **The annotations are those of the blocks that are due**, in the order of the visits. -/
theorem fst_annotateTree (t : Tree) :
    (annotateTree points file t).1 = t.visited.filterMap (remark? points file) := by
  induction t with
  | done => rfl
  | code _ _ _ ih => exact ih
  | branch head body inner link otherwise rest next ihh ihi ihr ihn =>
    have helse :
      ((otherwise.map fun e => annotateBlock points file e rest.start).map Prod.fst).getD [] =
        (elseArm otherwise rest).filterMap (remark? points file) := by
      cases otherwise with
      | none => rfl
      | some e => exact fst_annotateBlock e rest.start
    rw [annotateTree, Tree.visited, ← List.singleton_append]
    simp only [List.filterMap_append, ← ihh, ← ihi, ← ihr, ← ihn, ← helse, ← fst_annotateBlock]

end

variable {points : List ConditionPoint} {src : SourceTree}

theorem fst_annotate : (annotate points src).1 =
    src.tree.visited.filterMap (remark? points.toArray src.file) :=
  fst_annotateTree src.tree

theorem pairwise_annotate_iff :
    (annotate points src).1.Pairwise (fun r s => Spot.before r.spot s.spot = true) ↔
      (src.tree.visited.filter fun b => (remark? points.toArray src.file b).isSome).Pairwise
        Arm.Before := by
  rw [fst_annotate, List.pairwise_filterMap, List.pairwise_filter]
  refine iff_of_eq (congrArg (List.Pairwise · _) ?_)
  funext b c
  unfold remark?
  cases dueCondition? points.toArray src.file b.braces b.start <;>
    cases dueCondition? points.toArray src.file c.braces c.start <;> simp [Arm.Before]

theorem mem_spots_annotate_iff (hplaced : src.tree.Placed) {b : Arm} (hb : b ∈ src.tree.arms) :
    b.opening ∈ (annotate points src).1.map Remark.spot ↔
      (remark? points.toArray src.file b).isSome = true := by
  simp only [fst_annotate, List.mem_map, List.mem_filterMap, Tree.mem_visited, remark?,
    Option.map_eq_some_iff, Option.isSome_map, Option.isSome_iff_exists]
  constructor
  · rintro ⟨r, ⟨c, hc, x, hx, rfl⟩, hopening⟩
    obtain rfl := List.inj_on_of_nodup_map hplaced.nodup_openings hc hb hopening
    exact ⟨x, hx⟩
  · rintro ⟨x, hx⟩
    exact ⟨_, ⟨b, hb, x, hx, rfl⟩, rfl⟩

/-- **Annotations come in the order of the source if and only if none is late.** -/
theorem annotations_in_source_order_iff (hplaced : src.tree.Placed) (points : List ConditionPoint) :
    (annotate points src).1.Pairwise (fun r s => Spot.before r.spot s.spot = true) ↔
      ¬ src.tree.Late fun b => b.opening ∈ (annotate points src).1.map Remark.spot := by
  rw [pairwise_annotate_iff, Tree.pairwise_visited_iff hplaced,
    Tree.late_congr fun b hb => mem_spots_annotate_iff hplaced hb]

/-- A file with a conditional statement in an `else` block. -/
def nestedLast : SourceTree :=
  .ofText "p.go" ("package p\n\nfunc f() \x7b\n\tif on \x7b\n\t\tx()\n\t\x7d else \x7b\n" ++
      "\t\tif b \x7b\n\t\t\ty()\n\t\t\x7d\n\t\x7d\n\x7d\n")
    [⟨⟨(4, 8), (6, 2)⟩, some ⟨(6, 9), (10, 2)⟩⟩, ⟨⟨(7, 8), (9, 3)⟩, none⟩]

theorem annotations_in_source_order_iff_nestedLast :
    nestedLast.tree.Placed ∧
      (annotate [⟨⟨"p.go", 5, 3⟩, .flag⟩, ⟨⟨"p.go", 8, 4⟩, .notFlag⟩] nestedLast).1 =
        [⟨(4, 8), .flag⟩, ⟨(6, 9), .notFlag⟩, ⟨(7, 8), .notFlag⟩] ∧
      ¬ nestedLast.tree.Late fun b => b.opening ∈
        (annotate [⟨⟨"p.go", 5, 3⟩, .flag⟩, ⟨⟨"p.go", 8, 4⟩, .notFlag⟩] nestedLast).1.map
          Remark.spot := by
  have hplaced : nestedLast.tree.Placed := Tree.placed_ofText _ _
  have hremarks : (annotate [⟨⟨"p.go", 5, 3⟩, .flag⟩, ⟨⟨"p.go", 8, 4⟩, .notFlag⟩] nestedLast).1 =
      [⟨(4, 8), .flag⟩, ⟨(6, 9), .notFlag⟩, ⟨(7, 8), .notFlag⟩] := by decide +kernel
  refine ⟨hplaced, hremarks, (annotations_in_source_order_iff hplaced _).mp ?_⟩
  rw [hremarks]
  decide

/-- A file with a conditional statement in the block before an `else` block. -/
def nestedFirst : SourceTree :=
  .ofText "p.go" ("package p\n\nfunc f() \x7b\n\tif on \x7b\n\t\tif b \x7b\n\t\t\tx()\n\t\t\x7d\n" ++
      "\t\x7d else \x7b\n\t\ty()\n\t\x7d\n\x7d\n")
    [⟨⟨(4, 8), (8, 2)⟩, some ⟨(8, 9), (10, 2)⟩⟩, ⟨⟨(5, 8), (7, 3)⟩, none⟩]

/-- **The annotation of a nested block can be late.** -/
theorem nested_annotation_late :
    (annotate [⟨⟨"p.go", 6, 4⟩, .flag⟩, ⟨⟨"p.go", 9, 3⟩, .notFlag⟩] nestedFirst).1 =
        [⟨(4, 8), .flag⟩, ⟨(8, 9), .notFlag⟩, ⟨(5, 8), .flag⟩] ∧
      ¬ (annotate [⟨⟨"p.go", 6, 4⟩, .flag⟩, ⟨⟨"p.go", 9, 3⟩, .notFlag⟩] nestedFirst).1.Pairwise
        fun r s => Spot.before r.spot s.spot = true := by
  decide +kernel

end FlagFlow
