import FlagFlow.Code.Graph
import FlagFlow.Proofs.Paths

/-!
# Places of instructions

The nodes of an instruction graph are numbers, counted through all blocks. A number is read as a
place: a block, and how many instructions of the block come before.

* `Func.StandsAt`: the place of an instruction; `Func.mem_nodes_graph`: the nodes are the numbers
  that have one.
* `Func.numbers`: the numbers of the instructions of a block, in order; `Func.map_code_numbers`:
  they are the instructions of the block.
* `Func.succsBy_graph_of_lt`, `Func.succsBy_graph_of_last`: the successors inside a block and at its
  end.
-/

namespace FlagFlow

namespace Func

variable {f : Func} {b i k : Nat} {B : Block}

/-- The instruction with the number `i` stands in the block `B`, which has the number `b`, and `k`
instructions of the block come before it. -/
structure StandsAt (f : Func) (i b k : Nat) (B : Block) : Prop where
  block : f.blocks[b]? = some B
  lt : k < B.instrs.length
  number : i = f.blockStart b + k

/-- The numbers of the instructions of a block; a number that belongs to no block has none. -/
def numbers (f : Func) (b : Nat) : List Nat :=
  List.range' (f.blockStart b) ((f.blocks[b]?).elim 0 fun B => B.instrs.length)

theorem numbers_of_block (hb : f.blocks[b]? = some B) :
    f.numbers b = List.range' (f.blockStart b) B.instrs.length := by
  rw [numbers, hb, Option.elim_some]

/-! ## Cutting the code at a block -/

theorem blocks_split (hb : f.blocks[b]? = some B) :
    f.blocks = f.blocks.take b ++ B :: f.blocks.drop (b + 1) := by
  obtain ⟨hlt, rfl⟩ := List.getElem?_eq_some_iff.mp hb
  rw [← List.drop_eq_getElem_cons hlt, List.take_append_drop]

theorem code_split (hb : f.blocks[b]? = some B) :
    f.code = (f.blocks.take b).flatMap Block.instrs ++
      (B.instrs ++ (f.blocks.drop (b + 1)).flatMap Block.instrs) := by
  conv_lhs => rw [code, blocks_split hb, List.flatMap_append, List.flatMap_cons]

theorem length_blockSuccessors (f : Func) (succs : List Nat) (start : Nat) (is : List Instr) :
    (f.blockSuccessors succs start is).length = is.length := by
  fun_induction blockSuccessors f succs start is with
  | case1 => rfl
  | case2 => rfl
  | case3 start _ next rest ih => simp [ih]

theorem length_flatMap_blockSuccessors (f : Func) (bs : List (Block × Nat)) :
    (bs.flatMap fun e => f.blockSuccessors e.1.succs (f.blockStart e.2) e.1.instrs).length =
      ((bs.map Prod.fst).flatMap Block.instrs).length := by
  induction bs with
  | nil => rfl
  | cons e bs ih => simp [length_blockSuccessors, ih]

theorem length_successors (f : Func) : f.successors.length = f.code.length := by
  rw [successors, length_flatMap_blockSuccessors, List.zipIdx_map_fst, code]

theorem getElem?_successors (hb : f.blocks[b]? = some B) (hk : k < B.instrs.length) :
    f.successors[f.blockStart b + k]? =
      (f.blockSuccessors B.succs (f.blockStart b) B.instrs)[k]? := by
  have hlt := (List.getElem?_eq_some_iff.mp hb).1
  have hlen : (f.blocks.take b).length = b := by simp; omega
  have hfront : (((f.blocks.take b).zipIdx).flatMap fun e =>
      f.blockSuccessors e.1.succs (f.blockStart e.2) e.1.instrs).length = f.blockStart b := by
    rw [length_flatMap_blockSuccessors, List.zipIdx_map_fst, blockStart]
  conv_lhs =>
    rw [successors, blocks_split hb, List.zipIdx_append, List.flatMap_append, List.zipIdx_cons,
      List.flatMap_cons, hlen, Nat.zero_add]
  rw [List.getElem?_append_right (by omega), hfront, Nat.add_sub_cancel_left,
    List.getElem?_append_left (by rwa [length_blockSuccessors])]

/-! ## Numbers and places -/

theorem getElem?_code (h : f.StandsAt i b k B) : f.code[i]? = B.instrs[k]? := by
  have hlen : ((f.blocks.take b).flatMap Block.instrs).length = f.blockStart b := rfl
  have hnumber := h.number
  have hlt := h.lt
  rw [code_split h.block, List.getElem?_append_right (by omega), List.getElem?_append_left (by omega)]
  congr 1
  omega

theorem StandsAt.lt_length (h : f.StandsAt i b k B) : i < f.code.length := by
  have hcode := getElem?_code h
  rw [List.getElem?_eq_getElem h.lt] at hcode
  exact (List.getElem?_eq_some_iff.mp hcode).1

theorem exists_place_of_lt_length {bs : List Block} (hi : i < (bs.flatMap Block.instrs).length) :
    ∃ (b k : Nat) (B : Block), bs[b]? = some B ∧ k < B.instrs.length ∧
      i = ((bs.take b).flatMap Block.instrs).length + k := by
  induction bs generalizing i with
  | nil => simp at hi
  | cons B bs ih =>
    by_cases hB : i < B.instrs.length
    · exact ⟨0, i, B, rfl, hB, by simp⟩
    · rw [List.flatMap_cons, List.length_append] at hi
      obtain ⟨b, k, C, hb, hk, hnumber⟩ := ih (i := i - B.instrs.length) (by omega)
      refine ⟨b + 1, k, C, hb, hk, ?_⟩
      rw [List.take_succ_cons, List.flatMap_cons, List.length_append]
      omega

theorem exists_standsAt (hi : i < f.code.length) : ∃ b k B, f.StandsAt i b k B := by
  obtain ⟨b, k, B, hb, hk, hnumber⟩ := exists_place_of_lt_length hi
  exact ⟨b, k, B, hb, hk, hnumber⟩

theorem nodes_graph (f : Func) : f.graph.nodes = List.range f.code.length := by
  rw [← length_successors]
  rfl

/-- **The nodes are the numbers that have a place.** -/
theorem mem_nodes_graph : i ∈ f.graph.nodes ↔ ∃ b k B, f.StandsAt i b k B := by
  rw [nodes_graph, List.mem_range]
  exact ⟨exists_standsAt, fun ⟨_, _, _, h⟩ => h.lt_length⟩

/-- **The numbers of a block stand for its instructions.** -/
theorem map_code_numbers (hb : f.blocks[b]? = some B) :
    (f.numbers b).map (f.code[·]?) = B.instrs.map some := by
  rw [numbers_of_block hb]
  refine List.ext_getElem (by simp) fun k hk _ => ?_
  have hk : k < B.instrs.length := by simpa using hk
  simp [getElem?_code ⟨hb, hk, rfl⟩, hk]

theorem standsAt_of_mem_numbers (hi : i ∈ f.numbers b) : ∃ k B, f.StandsAt i b k B := by
  cases hb : f.blocks[b]? with
  | none => simp [numbers, hb] at hi
  | some B =>
    rw [numbers_of_block hb, List.mem_range'_1] at hi
    exact ⟨i - f.blockStart b, B, hb, by omega, by omega⟩

/-! ## Successors -/

theorem getElem?_blockSuccessors_of_lt (f : Func) (succs : List Nat) (start : Nat)
    {is : List Instr} {k : Nat} (hk : k + 1 < is.length) :
    (f.blockSuccessors succs start is)[k]? = some ([start + k + 1], []) := by
  fun_induction blockSuccessors f succs start is generalizing k with
  | case1 => simp at hk
  | case2 => simp at hk
  | case3 start _ next rest ih =>
    cases k with
    | zero => rfl
    | succ k =>
      rw [List.getElem?_cons_succ, ih (by simpa using hk)]
      congr 4
      omega

theorem getElem?_blockSuccessors_of_last (f : Func) (succs : List Nat) (start : Nat)
    {is : List Instr} {k : Nat}
    {last : Instr} (hk : k + 1 = is.length) (hlast : is[k]? = some last) :
    (f.blockSuccessors succs start is)[k]? = some (f.exits succs last) := by
  fun_induction blockSuccessors f succs start is generalizing k with
  | case1 => simp at hk
  | case2 =>
    obtain rfl : k = 0 := by simpa using hk
    cases hlast
    rfl
  | case3 start _ next rest ih =>
    cases k with
    | zero => simp at hk
    | succ k =>
      rw [List.getElem?_cons_succ]
      exact ih (by simpa using hk) (by simpa using hlast)

theorem succs_graph_of_getElem? {out : List Nat × List Nat} (h : f.successors[i]? = some out) :
    f.graph.fall i = out.1 ∧ f.graph.branch i = out.2 := by
  simp [graph, h]

/-- **Inside a block** an instruction is followed by the next one. -/
theorem succsBy_graph_of_lt (h : f.StandsAt i b k B) (hk : k + 1 < B.instrs.length) :
    f.graph.fall i = [i + 1] ∧ f.graph.branch i = [] := by
  have hout : f.successors[i]? = some ([i + 1], []) := by
    rw [h.number, getElem?_successors h.block h.lt, getElem?_blockSuccessors_of_lt f _ _ hk]
  exact succs_graph_of_getElem? hout

/-- **At the end of a block** control enters the next blocks. -/
theorem succsBy_graph_of_last (h : f.StandsAt i b k B) (hk : k + 1 = B.instrs.length) {last : Instr}
    (hlast : B.instrs[k]? = some last) :
    f.graph.fall i = (f.exits B.succs last).1 ∧ f.graph.branch i = (f.exits B.succs last).2 :=
  succs_graph_of_getElem? (by
    rw [h.number, getElem?_successors h.block h.lt, getElem?_blockSuccessors_of_last f _ _ hk hlast])

end Func

end FlagFlow
