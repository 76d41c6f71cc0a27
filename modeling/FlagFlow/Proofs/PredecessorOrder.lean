import FlagFlow.Proofs.Predecessors
import Mathlib.Data.List.Sort

/-!
# The order of predecessors

A block lists the blocks from which control may come. The predecessors of its first instruction are
the last instructions of these blocks, but they are not in the order of that list: whatever the list
is, they come by the numbers of the blocks. At a join of three or more paths the order matters.

* `Func.Full`: a function without blocks that are passed through, each of which knows where control
  comes from.
* `Func.last?`: the last instruction of a block.
* `Func.mem_preds_blockStart`: the predecessors of the first instruction of a block.
* **`Func.preds_by_block_number`**: their order, and when it is the one that the block lists.
-/

namespace FlagFlow

/-- Control can go on to every next block: a branch has at most two, and a return or an abort has
none. -/
def Block.GoesOn (B : Block) : Prop :=
  ∀ I ∈ B.instrs.getLast?,
    (I.isBranch = true → B.succs.length ≤ 2) ∧ (I.exitCount? = some 0 → B.succs = [])

instance : DecidablePred Block.GoesOn := fun B =>
  inferInstanceAs (Decidable (∀ I ∈ B.instrs.getLast?,
    (I.isBranch = true → B.succs.length ≤ 2) ∧ (I.exitCount? = some 0 → B.succs = [])))

namespace Func

variable {f : Func} {a b i j k n : Nat} {A B : Block}

/-- Every block has instructions, control can go on to all its next blocks, and the blocks that it
lists as predecessors are those that have it as a next block. -/
structure Full (f : Func) : Prop where
  instrs_ne_nil : ∀ B ∈ f.blocks, B.instrs ≠ []
  goesOn : ∀ B ∈ f.blocks, B.GoesOn
  mem_preds : ∀ (b : Nat) (B : Block), f.blocks[b]? = some B →
    ∀ a, a ∈ B.preds ↔ ∃ A : Block, f.blocks[a]? = some A ∧ b ∈ A.succs

theorem full_iff : f.Full ↔ (∀ B ∈ f.blocks, B.instrs ≠ []) ∧ (∀ B ∈ f.blocks, B.GoesOn) ∧
    ∀ e ∈ f.blocks.zipIdx, (∀ a ∈ e.1.preds, ∃ A ∈ f.blocks[a]?, e.2 ∈ A.succs) ∧
      ∀ d ∈ f.blocks.zipIdx, e.2 ∈ d.1.succs → d.2 ∈ e.1.preds := by
  constructor
  · intro hf
    refine ⟨hf.instrs_ne_nil, hf.goesOn, fun e he => ⟨fun a ha => ?_, fun d hd hsucc => ?_⟩⟩
    · exact (hf.mem_preds e.2 e.1 (List.mem_zipIdx_iff_getElem?.mp he) a).mp ha
    · exact (hf.mem_preds e.2 e.1 (List.mem_zipIdx_iff_getElem?.mp he) d.2).mpr
        ⟨d.1, List.mem_zipIdx_iff_getElem?.mp hd, hsucc⟩
  · rintro ⟨hne, hgoes, hpreds⟩
    refine ⟨hne, hgoes, fun b B hB a => ?_⟩
    obtain ⟨hleft, hright⟩ := hpreds (B, b) (List.mem_zipIdx_iff_getElem?.mpr hB)
    exact ⟨hleft a, fun ⟨A, hA, hb⟩ => hright (A, a) (List.mem_zipIdx_iff_getElem?.mpr hA) hb⟩

instance : Decidable f.Full := decidable_of_iff _ full_iff.symm

/-- The number of the last instruction of a block. -/
def last? (f : Func) (b : Nat) : Option Nat := (f.numbers b).getLast?

/-! ## Places -/

theorem blockStart_le_of_lt (ha : f.blocks[a]? = some A) (hab : a < b) :
    f.blockStart a + A.instrs.length ≤ f.blockStart b := by
  rw [← blockStart_succ ha]
  have hprefix : f.blocks.take (a + 1) <+: f.blocks.take b := List.take_prefix_take_left (by omega)
  obtain ⟨rest, hrest⟩ := hprefix
  rw [blockStart, blockStart, ← hrest, List.flatMap_append, List.length_append]
  exact Nat.le_add_right _ _

theorem StandsAt.unique {k' : Nat} (h : f.StandsAt i a k A) (h' : f.StandsAt i b k' B) :
    a = b ∧ k = k' := by
  have hi := h.number
  have hi' := h'.number
  have hlt := h.lt
  have hlt' := h'.lt
  obtain hab | rfl | hba := Nat.lt_trichotomy a b
  · have := blockStart_le_of_lt h.block hab
    omega
  · exact ⟨rfl, by omega⟩
  · have := blockStart_le_of_lt h'.block hba
    omega

theorem last?_eq_some_iff (hA : f.blocks[a]? = some A) :
    f.last? a = some i ↔ ∃ k, f.StandsAt i a k A ∧ k + 1 = A.instrs.length := by
  rw [last?, numbers_of_block hA, List.getLast?_range']
  constructor
  · intro h
    split at h
    · cases h
    · cases h
      exact ⟨A.instrs.length - 1, ⟨hA, by omega, by omega⟩, by omega⟩
  · rintro ⟨k, h, hk⟩
    have hi := h.number
    rw [if_neg (by omega)]
    congr 1
    omega

theorem lt_iff_of_last? (hi : f.last? a = some i) (hj : f.last? b = some j) : i < j ↔ a < b := by
  obtain ⟨k, A, h⟩ := standsAt_of_mem_numbers (List.mem_of_getLast? hi)
  obtain ⟨l, B, h'⟩ := standsAt_of_mem_numbers (List.mem_of_getLast? hj)
  have hmono : ∀ {a b i j k l : Nat} {A B : Block},
      f.StandsAt i a k A → f.StandsAt j b l B → a < b → i < j := by
    intro a b i j k l A B h h' hab
    have := blockStart_le_of_lt h.block hab
    have := h.number
    have := h.lt
    have := h'.number
    omega
  refine ⟨fun hij => ?_, hmono h h'⟩
  obtain hab | rfl | hba := Nat.lt_trichotomy a b
  · exact hab
  · cases hi.symm.trans hj
    exact absurd hij (Nat.lt_irrefl i)
  · exact absurd (hmono h' h hba) (by omega)

/-! ## Predecessors -/

theorem Full.leader?_eq (hf : f.Full) (hB : f.blocks[b]? = some B) :
    f.leader? b = some (f.blockStart b) :=
  leader?_eq_some_iff.mpr ⟨b, .here hB (hf.instrs_ne_nil B (List.mem_of_getElem? hB)), rfl⟩

theorem Full.standsAt_blockStart (hf : f.Full) (hB : f.blocks[b]? = some B) :
    f.StandsAt (f.blockStart b) b 0 B :=
  ⟨hB, List.length_pos_iff.mpr (hf.instrs_ne_nil B (List.mem_of_getElem? hB)), rfl⟩

theorem Full.eq_of_leader? (hf : f.Full) (hB : f.blocks[b]? = some B) {s : Nat}
    (hs : f.leader? s = some (f.blockStart b)) : s = b := by
  obtain ⟨d, hd, hstart⟩ := leader?_eq_some_iff.mp hs
  have hdb : d = b := by
    obtain ⟨D, hD, -⟩ := hd.exists_block
    have hD' := hf.standsAt_blockStart hD
    rw [← hstart] at hD'
    exact (hD'.unique (hf.standsAt_blockStart hB)).1
  cases hd with
  | here => exact hdb
  | pass hpass =>
    obtain ⟨S, hS, hnil, -⟩ := hpass
    exact absurd hnil (hf.instrs_ne_nil S (List.mem_of_getElem? hS))

theorem mem_exits_of_goesOn {I : Instr} (hA : A.GoesOn) (hI : I ∈ A.instrs.getLast?) (hb : b ∈ A.succs)
    (hj : f.leader? b = some j) : j ∈ (f.exits A.succs I).1 ∨ j ∈ (f.exits A.succs I).2 := by
  obtain ⟨hbranch, hend⟩ := hA I hI
  unfold exits
  split
  · rename_i x hx
    -- of at most two next blocks each is the first or the second
    have hle : A.succs.length ≤ 2 := hbranch (by rw [Instr.isBranch, hx])
    have hsplit : b ∈ A.succs.take 1 ∨ b ∈ (A.succs.drop 1).take 1 := by
      rw [← List.take_append_drop 1 A.succs, List.mem_append] at hb
      rwa [List.take_of_length_le (i := 1) (l := A.succs.drop 1) (by simp; omega)]
    exact hsplit.imp (fun h => List.mem_filterMap.mpr ⟨b, h, hj⟩) fun h =>
      List.mem_filterMap.mpr ⟨b, h, hj⟩
  · rename_i xs hx
    rw [hend (by simp [Instr.exitCount?, hx])] at hb
    cases hb
  · rename_i x hx
    rw [hend (by simp [Instr.exitCount?, hx])] at hb
    cases hb
  · exact .inl (List.mem_filterMap.mpr ⟨b, hb, hj⟩)

/-- **The predecessors of the first instruction of a block** are the last instructions of its
predecessors. -/
theorem Full.mem_preds_blockStart (hf : f.Full) (hB : f.blocks[b]? = some B) {p : Nat} :
    p ∈ f.graph.preds (f.blockStart b) ↔ ∃ a ∈ B.preds, f.last? a = some p := by
  rw [mem_preds_graph]
  constructor
  · intro h
    obtain ⟨e, he⟩ : ∃ e, f.blockStart b ∈ f.graph.succsBy e p :=
      h.elim (fun h => ⟨.fall, h⟩) fun h => ⟨.branch, h⟩
    obtain ⟨a, k, A, hp⟩ := standsAt_of_mem_succsBy he
    by_cases hk : k + 1 < A.instrs.length
    · obtain ⟨hfall, hbranch⟩ := succsBy_graph_of_lt hp hk
      have hnext : f.StandsAt (f.blockStart b) a (k + 1) A := by
        refine ⟨hp.block, hk, ?_⟩
        have hnumber := hp.number
        have hstart : f.blockStart b = p + 1 := by simpa [hfall, hbranch] using h
        omega
      have := (hnext.unique (hf.standsAt_blockStart hB)).2
      omega
    · have hlast : k + 1 = A.instrs.length := by have := hp.lt; omega
      obtain ⟨hfall, hbranch⟩ := succsBy_graph_of_last hp hlast (List.getElem?_eq_getElem hp.lt)
      rw [hfall, hbranch] at h
      obtain ⟨s, hs, hstart⟩ := exists_leader?_of_mem_exits h
      obtain rfl := hf.eq_of_leader? hB hstart
      exact ⟨a, (hf.mem_preds s B hB a).mpr ⟨A, hp.block, hs⟩,
        (last?_eq_some_iff hp.block).mpr ⟨k, hp, hlast⟩⟩
  · rintro ⟨a, ha, hp⟩
    obtain ⟨A, hA, hb⟩ := (hf.mem_preds b B hB a).mp ha
    obtain ⟨k, hp, hlast⟩ := (last?_eq_some_iff hA).mp hp
    have hI := List.getElem?_eq_getElem hp.lt
    obtain ⟨hfall, hbranch⟩ := succsBy_graph_of_last hp hlast hI
    rw [hfall, hbranch]
    exact mem_exits_of_goesOn (hf.goesOn A (List.mem_of_getElem? hA))
      (mem_getLast?_of_getElem? hlast hI) hb
      (hf.leader?_eq hB)

/-! ## Order -/

theorem Full.exists_last? (hf : f.Full) (hB : f.blocks[b]? = some B) (ha : a ∈ B.preds) :
    ∃ i, f.last? a = some i := by
  obtain ⟨A, hA, -⟩ := (hf.mem_preds b B hB a).mp ha
  have hpos := (hf.standsAt_blockStart hA).lt
  exact ⟨_, (last?_eq_some_iff hA).mpr ⟨A.instrs.length - 1, ⟨hA, by omega, rfl⟩, by omega⟩⟩

theorem pairwise_filterMap_last? {bs : List Nat} (hbs : ∀ b ∈ bs, ∃ i, f.last? b = some i) :
    (bs.filterMap f.last?).Pairwise (· < ·) ↔ bs.Pairwise (· < ·) := by
  rw [List.pairwise_filterMap]
  refine List.Pairwise.iff_of_mem fun {a b} ha hb => ?_
  obtain ⟨i, hi⟩ := hbs a ha
  obtain ⟨j, hj⟩ := hbs b hb
  simp [hi, hj, lt_iff_of_last? hi hj]

theorem pairwise_preds_graph (f : Func) (n : Nat) : (f.graph.preds n).Pairwise (· < ·) := by
  have hnodes : f.graph.nodes.Pairwise (· < ·) := by
    rw [nodes_graph]
    exact List.pairwise_lt_range
  exact hnodes.filter _

/-- **The order of predecessors** is that of the numbers of their blocks, so that of a list which is
increasing. -/
theorem preds_by_block_number (hf : f.Full) (hB : f.blocks[b]? = some B) :
    ∃ g, f.body? = some g ∧
      g.preds (f.blockStart b) =
        ((List.range f.blocks.length).filter (B.preds.contains ·)).filterMap f.last? ∧
      (g.preds (f.blockStart b) = B.preds.eraseDups.filterMap f.last? ↔
        B.preds.eraseDups.Pairwise (· < ·)) := by
  have hsome : f.body?.isSome = true := by
    rw [isSome_body?]
    obtain ⟨C, Cs, hblocks⟩ :=
      List.exists_cons_of_ne_nil (List.ne_nil_of_mem (List.mem_of_getElem? hB))
    exact ⟨C, Cs, hblocks, hf.instrs_ne_nil C (by simp [hblocks])⟩
  obtain ⟨g, hg⟩ := Option.isSome_iff_exists.mp hsome
  refine ⟨g, hg, ?_⟩
  rw [body?_eq_some hg]
  have hmem : ∀ a, a ∈ (List.range f.blocks.length).filter (B.preds.contains ·) ↔ a ∈ B.preds :=
    fun a => by
    rw [List.mem_filter, List.contains_iff_mem, List.mem_range]
    refine and_iff_right_of_imp fun ha => ?_
    obtain ⟨A, hA, -⟩ := (hf.mem_preds b B hB a).mp ha
    exact (List.getElem?_eq_some_iff.mp hA).1
  have hranged : ((List.range f.blocks.length).filter (B.preds.contains ·)).Pairwise (· < ·) :=
    List.pairwise_lt_range.filter _
  have hpreds : f.graph.preds (f.blockStart b) =
      ((List.range f.blocks.length).filter (B.preds.contains ·)).filterMap f.last? := by
    refine (f.pairwise_preds_graph _).eq_of_mem_iff ?_ fun p => ?_
    · exact (pairwise_filterMap_last? fun a ha => hf.exists_last? hB ((hmem a).mp ha)).mpr hranged
    · simp only [hf.mem_preds_blockStart hB, List.mem_filterMap, hmem]
  have hlast : ∀ a ∈ B.preds.eraseDups, ∃ i, f.last? a = some i := fun a ha =>
    hf.exists_last? hB (List.mem_eraseDups.mp ha)
  refine ⟨hpreds, fun h => ?_, fun h => ?_⟩
  · rw [← pairwise_filterMap_last? hlast, ← h]
    exact f.pairwise_preds_graph _
  · rw [hpreds, hranged.eq_of_mem_iff h fun a => by rw [hmem, List.mem_eraseDups]]

/-- Two paths that meet in a block which lists them in the reverse order of their numbers. -/
def crossing : Func where
  blocks := [
    { succs := [2, 1], instrs := [{ kind := .branch (.param 0) }] },
    { succs := [3], preds := [0], instrs := [{ kind := .jump }] },
    { succs := [3], preds := [0], instrs := [{ kind := .jump }] },
    { preds := [2, 1], instrs := [{ kind := .leave [] }] }]

theorem preds_against_block_order :
    crossing.Full ∧ ∃ g B, crossing.body? = some g ∧ crossing.blocks[3]? = some B ∧
      g.preds (crossing.blockStart 3) = [1, 2] ∧
      B.preds.eraseDups.filterMap crossing.last? = [2, 1] := by
  refine ⟨by decide, _, _, rfl, rfl, by decide, by decide⟩

/-- Three paths that meet in a block which lists them by their numbers, two of them from the same
branch. -/
def meeting : Func where
  blocks := [
    { succs := [1, 2], instrs := [{ kind := .effect "start" [] }, { kind := .branch (.param 0) }] },
    { succs := [3, 3], preds := [0], instrs := [{ kind := .branch (.param 1) }] },
    { succs := [3], preds := [0], instrs := [{ kind := .effect "wait" [] }, { kind := .jump }] },
    { preds := [1, 1, 2], instrs := [{ kind := .leave [] }] }]

theorem preds_by_block_number_meeting :
    meeting.Full ∧ ∃ g, meeting.body? = some g ∧ g.preds 5 = [2, 4] ∧
      ∀ B, meeting.blocks[3]? = some B → g.preds 5 = B.preds.eraseDups.filterMap meeting.last? := by
  have hf : meeting.Full := by decide
  obtain ⟨g, hg, hpreds, hiff⟩ := preds_by_block_number (b := 3) hf rfl
  refine ⟨hf, g, hg, hpreds.trans (by decide), fun B hB => ?_⟩
  cases hB
  exact hiff.mpr (by decide)

end Func

end FlagFlow
