import FlagFlow.Proofs.Enclosing
import FlagFlow.Proofs.Matching
import FlagFlow.Settings

/-!
# What the names of feature callees cover

A name is meant to be a regular expression for the whole of a callee, or just a name if it is no
valid expression. It is read between anchors, in parentheses. For names that stay inside the
parentheses this is the same. A name that closes them itself, or that quotes their end, covers other
callees.

* `Regex.anchored`: an expression between anchors; `Regex.matchesIn_anchored`: it matches whole
  texts.
* `Regex.Shape.between`: its shape, which is not much larger.
* `Regex.Enclosable`: a name that can stand between anchors; **`Regex.parse?_anchored`**: how it is
  read there.
* `CalleeSpec.Meant`: what a name is meant to cover.
* **`Settings.isFeature_withCallees_iff`**: the feature callees are those that the names are meant
  to cover.
* `Settings.callees_beyond_the_end`: names for which they are not.
-/

namespace FlagFlow

namespace Regex

/-! ## Expressions between anchors -/

/-- An expression in parentheses, which are not kept where they have no effect. -/
def bracketed : Regex → Regex
  | cat r s => group false (cat r s)
  | alt r s => group false (alt r s)
  | r => r

/-- An expression between the start and the end of a text. -/
def anchored (e : Regex) : Regex := cat (cat (anchor .textStart) (bracketed e)) (anchor .textEnd)

theorem toRegex_eq_bracketed {g : Group} (h : g.captures = false) : g.toRegex = bracketed g.inner := by
  unfold Group.toRegex bracketed
  rw [h]
  cases g.inner <;> rfl

theorem shape_bracketed (e : Regex) : (bracketed e).shape = e.shape := by
  cases e <;> rfl

/-- The expression matches the whole of a text. -/
def MatchesWhole (e : Regex) (text : String) : Prop :=
  Matches text.toList.toArray e 0 text.toList.toArray.size

theorem matches_bracketed (text : Array Char) (e : Regex) (i j : Nat) :
    Matches text (bracketed e) i j ↔ Matches text e i j := by
  cases e <;> exact Iff.rfl

theorem matches_anchored (text : Array Char) (e : Regex) (i j : Nat) :
    Matches text (anchored e) i j ↔ i = 0 ∧ j = text.size ∧ Matches text e 0 text.size := by
  simp only [anchored, Matches, matches_bracketed, Anchor.holds, beq_iff_eq]
  constructor
  · rintro ⟨k, ⟨l, ⟨rfl, -, rfl⟩, h⟩, rfl, -, rfl⟩
    exact ⟨rfl, rfl, h⟩
  · rintro ⟨rfl, rfl, h⟩
    exact ⟨text.size, ⟨0, ⟨rfl, Nat.zero_le _, rfl⟩, h⟩, rfl, Nat.le_refl _, rfl⟩

/-- **Anchors.** An expression between anchors matches in a text if it matches the whole text. -/
theorem matchesIn_anchored (e : Regex) (text : String) :
    (anchored e).matchesIn text = true ↔ e.MatchesWhole text := by
  rw [matchesIn_iff, MatchesWhole]
  simp only [matches_anchored]
  constructor
  · rintro ⟨i, j, -, -, -, h⟩
    exact h
  · intro h
    exact ⟨0, text.toList.toArray.size, Nat.zero_le _, rfl, rfl, h⟩

/-! ## The size of an expression between anchors -/

namespace Shape

theorem height_pos (s : Shape) : 1 ≤ s.height := by
  cases s <;> simp [height]

theorem heights_append (ss ts : List Shape) : heights (ss ++ ts) = max (heights ss) (heights ts) := by
  induction ss with
  | nil => simp [heights]
  | cons s ss ih => rw [List.cons_append, heights, heights, ih, Nat.max_assoc]

theorem nodesOf_append (ss ts : List Shape) : nodesOf (ss ++ ts) = nodesOf ss + nodesOf ts := by
  induction ss with
  | nil => simp [nodesOf]
  | cons s ss ih => rw [List.cons_append, nodesOf, nodesOf, ih, Nat.add_assoc]

theorem extents_append (ss ts : List Shape) : extents (ss ++ ts) = extents ss + extents ts := by
  induction ss with
  | nil => simp [extents]
  | cons s ss ih => rw [List.cons_append, extents, extents, ih, Nat.add_assoc]

/-- A row between two anchors. -/
def between (s : Shape) : Shape := sequence (anchor :: (s.row ++ [anchor]))

theorem height_between (s : Shape) :
    s.height ≤ s.between.height ∧ s.between.height ≤ s.height + 1 := by
  have hpos := s.height_pos
  have hrow : s.height ≤ heights s.row + 1 ∧ heights s.row ≤ s.height := by
    cases s <;> simp [row, heights, height]
  simp only [between, height, heights, heights_append]
  omega

theorem nodes_between (s : Shape) : s.nodes ≤ s.between.nodes := by
  have hrow : s.nodes ≤ nodesOf s.row + 1 := by
    cases s <;> simp [row, nodesOf, nodes]
  simp only [between, nodes, nodesOf, nodesOf_append]
  omega

theorem extent_between (s : Shape) : s.between.extent = s.extent + 2 := by
  have hrow : extents s.row = s.extent := by
    cases s <;> simp [row, extents, extent]
  simp only [between, extent, extents, extents_append, hrow]
  omega

theorem fits_between {s : Shape} (hheight : s.height < maxHeight) (hextent : s.extent + 2 ≤ maxExtent)
    (counts : Nat) : s.between.fits counts = true := by
  have := s.height_between
  simp only [fits, extent_between, Bool.and_eq_true, Bool.or_eq_true, decide_eq_true_iff]
  exact ⟨by omega, .inr hextent⟩

theorem fits_of_fits_between {s : Shape} {counts counts' : Nat} (hle : counts ≤ counts')
    (hzero : counts = 0 → counts' = 0) (h : s.between.fits counts' = true) : s.fits counts = true := by
  have hheight := s.height_between
  have hnodes := s.nodes_between
  simp only [fits, extent_between, Bool.and_eq_true, Bool.or_eq_true, decide_eq_true_iff] at h ⊢
  refine ⟨by omega, h.2.imp (fun hlt => ?_) (fun hle => by omega)⟩
  have hdiv : maxExtent / counts' ≤ maxExtent / counts := by
    obtain h0 | hpos := Nat.eq_zero_or_pos counts
    · rw [h0, hzero h0]
    · exact Nat.div_le_div_left hle hpos
  omega

end Shape

theorem shape_anchored (e : Regex) : (anchored e).shape = e.shape.between := by
  have hshape : (anchored e).shape = .sequenceOf [.anchor, (bracketed e).shape, .anchor] := rfl
  have hjoin : Shape.joinLiterals [.anchor, e.shape, .anchor] = [.anchor, e.shape, .anchor] := by
    cases e.shape <;> rfl
  rw [hshape, shape_bracketed, Shape.sequenceOf, hjoin, Shape.between]
  simp only [List.flatMap_cons, List.flatMap_nil, List.append_nil]
  cases e.shape.row <;> rfl

/-! ## Reading an expression between anchors -/

namespace Reader

theorem one_le_countOf (r : Regex) : 1 ≤ countOf r := by
  cases r with
  | rep r min max => exact Nat.le_max_left _ _
  | _ => exact Nat.le_refl 1

theorem counts_count_le (p : Reader) (r : Regex) : (p.count r).counts ≤ maxExtent :=
  Nat.min_le_left _ _

theorem counts_le_count {p : Reader} (h : p.counts ≤ maxExtent) (r : Regex) :
    p.counts ≤ (p.count r).counts :=
  Nat.le_min.mpr ⟨h, Nat.le_mul_of_pos_right _ (one_le_countOf r)⟩

theorem counts_count_eq_zero {p : Reader} (h : p.counts = 0) (r : Regex) : (p.count r).counts = 0 := by
  rw [count, h, Nat.zero_mul]
  rfl

/-- The group before an expression that starts with an anchor. -/
def startGroup : Group := { outer := {}, items := [.anchor .textStart] }

/-- The reader after the end of the group around an expression, and after the anchor there. -/
def sealed (q : Reader) : Reader :=
  { q.countGroup.count q.group.toRegex with
    group := { startGroup with items := [.anchor .textEnd, q.group.toRegex, .anchor .textStart] }
    around := []
    flags := {}
    repeated := false }

theorem counts_le_sealed (q : Reader) : q.countGroup.counts ≤ q.sealed.countGroup.counts := by
  calc q.countGroup.counts ≤ q.sealed.counts := counts_le_count (counts_count_le _ _) q.group.toRegex
    _ ≤ (q.sealed.count (catAll q.sealed.group.items)).counts :=
      counts_le_count (counts_count_le _ _) _
    _ ≤ q.sealed.countGroup.counts := counts_le_count (counts_count_le _ _) _

theorem counts_sealed_eq_zero (q : Reader) (h : q.countGroup.counts = 0) :
    q.sealed.countGroup.counts = 0 :=
  counts_count_eq_zero (counts_count_eq_zero (p := q.sealed)
    (counts_count_eq_zero h q.group.toRegex) _) _

theorem run?_opening (n : Nat) (cs : List Char) :
    run? (n + 2) {} ('^' :: '(' :: '?' :: ':' :: cs) =
      run? n (({} : Reader).under [startGroup]) cs := rfl

theorem run?_closing {q : Reader} (n : Nat) (h : q.around = []) (houter : q.group.outer = {}) :
    run? (n + 2) (q.under [startGroup]) closing = some q.sealed := by
  rw [closing, run?_cons]
  simp only [step?, close?, under_around, h, List.nil_append, Option.map_some, Option.bind_some]
  rw [run?_cons]
  simp only [step?, Option.bind_some, under_group, houter]
  cases n <;> rfl

theorem rejected_closing {q : Reader} (n : Nat) (g : Group) (h : q.around ≠ []) :
    Rejected (run? (n + 2) (q.under [g]) closing) := by
  obtain ⟨g', around, hq⟩ := List.exists_cons_of_ne_nil h
  rw [closing, run?_cons]
  simp only [step?, close?, under_around, hq, List.cons_append, Option.map_some, Option.bind_some]
  intro q' hq'
  cases n <;> cases hq' <;> exact List.append_ne_nil_of_right_ne_nil around (List.cons_ne_nil g [])

/-- The expression that has been read, if all groups are closed and it is not too large. -/
def finish? (p : Reader) : Option Regex :=
  if p.around.isEmpty && p.group.inner.shape.fits p.countGroup.counts then some p.group.inner else none

theorem Rejected.finish? {o : Option Reader} (h : Rejected o) : o.bind finish? = none := by
  refine Option.bind_eq_none_iff.mpr fun q hq => ?_
  have : q.around.isEmpty = false := List.isEmpty_eq_false_iff.mpr (h q hq)
  simp [Reader.finish?, this]

end Reader

theorem parse?_eq (text : String) :
    parse? text = (Reader.run? text.toList.length {} text.toList).bind Reader.finish? := rfl

/-- A name that can stand between anchors: nothing in it reaches beyond its end, and an expression
that is read from it leaves room for the anchors. -/
structure Enclosable (name : String) : Prop where
  inside : ∀ e ∈ Reader.trace name.toList.length {} name.toList, e.1.Inside e.2
  room : ∀ e ∈ parse? name, e.shape.height < maxHeight ∧ e.shape.extent + 2 ≤ maxExtent

instance (name : String) : Decidable (Enclosable name) :=
  decidable_of_iff
    ((∀ e ∈ Reader.trace name.toList.length {} name.toList, e.1.Inside e.2) ∧
      ∀ e ∈ parse? name, e.shape.height < maxHeight ∧ e.shape.extent + 2 ≤ maxExtent)
    ⟨fun h => ⟨h.1, h.2⟩, fun h => ⟨h.inside, h.room⟩⟩

theorem Reader.finish?_sealed {q : Reader} (haround : q.around = [])
    (hcaptures : q.group.captures = false)
    (hroom : ∀ e ∈ q.finish?, e.shape.height < maxHeight ∧ e.shape.extent + 2 ≤ maxExtent) :
    q.sealed.finish? = q.finish?.map anchored := by
  have hinner : q.sealed.group.inner = anchored q.group.inner := by
    rw [anchored, ← toRegex_eq_bracketed hcaptures]
    rfl
  have hsealed : q.sealed.finish? =
      if q.group.inner.shape.between.fits q.sealed.countGroup.counts then some (anchored q.group.inner)
      else none := by
    rw [finish?, hinner, shape_anchored]
    rfl
  have halone : q.finish? = if q.group.inner.shape.fits q.countGroup.counts then
      some q.group.inner else none := by
    simp [finish?, haround]
  rw [hsealed]
  by_cases hfits : q.group.inner.shape.fits q.countGroup.counts = true
  · rw [if_pos hfits] at halone
    obtain ⟨hheight, hextent⟩ := hroom _ halone
    rw [halone, if_pos (Shape.fits_between hheight hextent _)]
    rfl
  · rw [if_neg hfits] at halone
    rw [halone,
      if_neg fun h => hfits (Shape.fits_of_fits_between q.counts_le_sealed q.counts_sealed_eq_zero h)]
    rfl

/-- **A name between anchors** is valid exactly if it is valid alone. -/
theorem parse?_anchored {name : String} (h : Enclosable name) :
    parse? ("^(?:" ++ name ++ ")$") = (parse? name).map anchored := by
  have hlist : ("^(?:" ++ name ++ ")$").toList = '^' :: '(' :: '?' :: ':' ::
      (name.toList ++ closing) := by
    simp [String.toList_append, closing]
  have hlength : ("^(?:" ++ name ++ ")$").toList.length = name.toList.length + 4 + 2 := by
    simp [hlist, closing]
  rw [parse?_eq, parse?_eq, hlength, hlist, Reader.run?_opening]
  obtain ⟨q, k, halone, hgroup⟩ | ⟨halone, hgroup⟩ :=
    Reader.run?_enclosed (g := Reader.startGroup) (Nat.le_refl _)
    (by omega : name.toList.length + 2 ≤ name.toList.length + 4) h.inside
  · rw [hgroup, halone, Option.bind_some]
    by_cases haround : q.around = []
    · have hroot : q.Rooted := Reader.rooted_of_run? (p := {}) rfl halone
      obtain ⟨houter, hcaptures⟩ := hroot.eq_of_around haround
      rw [Reader.run?_closing k haround houter, Option.bind_some]
      refine Reader.finish?_sealed haround hcaptures fun e he => h.room e ?_
      rw [parse?_eq, halone]
      exact he
    · rw [(Reader.rejected_closing k _ haround).finish?]
      have halone : Reader.Rejected (some q) := fun q' hq' => Option.some.inj hq' ▸ haround
      exact (congrArg (Option.map anchored) halone.finish?).symm
  · rw [hgroup.finish?, halone.finish?]
    rfl

end Regex

/-! ## Feature callees -/

namespace CalleeSpec

/-- The name is a valid expression that matches the whole of the callee, or it is not valid and is
the callee. -/
def Meant (name callee : String) : Prop :=
  (∃ e, Regex.parse? name = some e ∧ e.MatchesWhole callee) ∨ Regex.parse? name = none ∧ name = callee

theorem covers_compile {name callee : String} (h : Regex.Enclosable name) :
    (compile name).covers callee = true ↔ Meant name callee := by
  have hregex : (compile name).regex = (Regex.parse? name).map Regex.anchored :=
    Regex.parse?_anchored h
  unfold covers Meant
  rw [hregex]
  cases Regex.parse? name with
  | none =>
    simp only [Option.map_none, reduceCtorEq, false_and, exists_false, true_and, false_or]
    exact decide_eq_true_iff
  | some e => simp [Regex.matchesIn_anchored]

end CalleeSpec

namespace Settings

/-- **Feature callees** are those that a name is meant to cover, if the names can stand between
anchors. -/
theorem isFeature_withCallees_iff (s : Settings) (names : List String) (callee : String)
    (h : ∀ name ∈ CalleeSpec.cleanNames names, Regex.Enclosable name) :
    (s.withCallees names).isFeature callee = true ↔
      ∃ name ∈ CalleeSpec.cleanNames names, CalleeSpec.Meant name callee := by
  have hspecs : (s.withCallees names).isFeature callee =
      ((CalleeSpec.cleanNames names).map CalleeSpec.compile).any fun spec => spec.covers callee := rfl
  rw [hspecs, List.any_map, List.any_eq_true]
  refine exists_congr fun name => and_congr_right fun hname => ?_
  exact CalleeSpec.covers_compile (h name hname)

/-- A valid expression, one with an open group, and one that closes none. -/
theorem isFeature_withCallees_iff_toggles :
    (∀ name ∈ CalleeSpec.cleanNames ["(Enable|Register)[A-Z]\\w*", " feature( ", "old)"],
    Regex.Enclosable name) ∧
      (∃ name ∈ CalleeSpec.cleanNames ["(Enable|Register)[A-Z]\\w*", " feature( ", "old)"],
        CalleeSpec.Meant name "RegisterToggle") ∧
      ¬ ∃ name ∈ CalleeSpec.cleanNames ["(Enable|Register)[A-Z]\\w*", " feature( ", "old)"],
        CalleeSpec.Meant name "feature" := by
  have h : ∀ name ∈ CalleeSpec.cleanNames ["(Enable|Register)[A-Z]\\w*", " feature( ", "old)"],
      Regex.Enclosable name := by decide +kernel
  refine ⟨h, (isFeature_withCallees_iff {} _ _ h).mp (by decide +kernel), fun hmeant => ?_⟩
  exact absurd ((isFeature_withCallees_iff {} _ _ h).mpr hmeant) (by decide +kernel)

/-- An invalid name splits what stands around it, and a valid one quotes the anchor after it. -/
theorem callees_beyond_the_end :
    ((({} : Settings).withCallees ["a)|(?:b"]).isFeature "axyz" = true ∧
        ¬ ∃ name ∈ CalleeSpec.cleanNames ["a)|(?:b"], CalleeSpec.Meant name "axyz") ∧
      (({} : Settings).withCallees ["\\Qa"]).isFeature "a" = false ∧
        ∃ name ∈ CalleeSpec.cleanNames ["\\Qa"], CalleeSpec.Meant name "a" := by
  refine ⟨⟨by decide +kernel, ?_⟩, by decide +kernel, "\\Qa", by decide +kernel, .inl ?_⟩
  · rintro ⟨name, hname, hmeant⟩
    obtain rfl : name = "a)|(?:b" := by
      have hnames : ∀ name ∈ CalleeSpec.cleanNames ["a)|(?:b"], name = "a)|(?:b" := by decide +kernel
      exact hnames name hname
    have hinvalid : Regex.parse? "a)|(?:b" = none := by decide +kernel
    obtain ⟨e, he, -⟩ | ⟨-, heq⟩ := hmeant
    · rw [hinvalid] at he
      cases he
    · exact absurd heq (by decide)
  · have hvalid : (Regex.parse? "\\Qa").isSome = true := by decide +kernel
    have hmatch : ∀ e ∈ Regex.parse? "\\Qa", e.anchored.matchesIn "a" = true := by decide +kernel
    obtain ⟨e, he⟩ := Option.isSome_iff_exists.mp hvalid
    exact ⟨e, he, (Regex.matchesIn_anchored e "a").mp (hmatch e he)⟩

end Settings

end FlagFlow
