import FlagFlow.Proofs.Blocks

/-!
# The instruction graph and the graph of blocks

A function is given as blocks of instructions, and analyzed as a graph of instructions. Blocks
without instructions have no node, so an edge may stand for a way through many blocks, or for none
where that way never comes to an instruction. What is lost is nothing else: the instruction graph
has the paths that the blocks have.

* `Block.Regular`: a block with as many next blocks as its last instruction needs.
* `Block.ExitsTo`, `Func.Enters`: the block where control goes next, and where it comes to an
  instruction.
* `Func.leader?_eq_some_iff`: following blocks without instructions, as far as there are blocks, is
  enough.
* `Func.Follows`: one instruction after the other, told by blocks; `Func.mem_succsBy_graph`: the
  edges.
* `FlowGraph.Walk`, `Func.BlockPath`: the nodes along a path, and paths of blocks.
* **`Func.graph_flattens_blocks`**: the edges and the paths of the instruction graph.
-/

namespace FlagFlow

/-! ## Regular blocks -/

/-- The number of next blocks that an instruction needs which ends a block; other instructions have
none. -/
def Instr.exitCount? (I : Instr) : Option Nat :=
  match I.kind with
  | .branch _ => some 2
  | .jump => some 1
  | .leave _ | .abort _ => some 0
  | _ => none

namespace Block

variable {B : Block} {e : EdgeKind} {s t : Nat}

/-- A block without instructions has one next block. Any other block ends in its only branch, jump,
return or abort, and has as many next blocks as that needs. -/
structure Regular (B : Block) : Prop where
  passed : B.instrs = [] → B.succs.length = 1
  ended : ∀ I ∈ B.instrs.getLast?, I.exitCount? = some B.succs.length
  only : ∀ I ∈ B.instrs.dropLast, I.exitCount? = none

instance : DecidablePred Regular := fun B =>
  decidable_of_iff ((B.instrs = [] → B.succs.length = 1) ∧
      (∀ I ∈ B.instrs.getLast?, I.exitCount? = some B.succs.length) ∧
      ∀ I ∈ B.instrs.dropLast, I.exitCount? = none)
    ⟨fun h => ⟨h.1, h.2.1, h.2.2⟩, fun h => ⟨h.passed, h.ended, h.only⟩⟩

/-- The next block when control leaves along an edge of a kind: a jump and the first choice of a
branch are fall-through edges, the second choice is a branch edge. -/
inductive ExitsTo (B : Block) : EdgeKind → Nat → Prop
  | jump {I : Instr} {s : Nat} : I ∈ B.instrs.getLast? → I.kind = .jump → B.succs = [s] →
    ExitsTo B .fall s
  | first {I : Instr} {x : Operand} {s t : Nat} :
      I ∈ B.instrs.getLast? → I.kind = .branch x → B.succs = [s, t] → ExitsTo B .fall s
  | second {I : Instr} {x : Operand} {s t : Nat} :
      I ∈ B.instrs.getLast? → I.kind = .branch x → B.succs = [s, t] → ExitsTo B .branch t

theorem ExitsTo.mem_succs (h : B.ExitsTo e s) : s ∈ B.succs := by
  cases h with
  | jump _ _ hs | first _ _ hs | second _ _ hs => simp [hs]

theorem exitsTo_iff {I : Instr} (hI : I ∈ B.instrs.getLast?) : B.ExitsTo e s ↔
    (I.kind = .jump ∧ e = .fall ∧ B.succs = [s]) ∨
      ∃ x, I.kind = .branch x ∧
        ((e = .fall ∧ ∃ t, B.succs = [s, t]) ∨ (e = .branch ∧ ∃ t, B.succs = [t, s])) := by
  constructor
  · intro h
    cases h with
    | jump hI' hx hs =>
      cases Option.mem_unique hI hI'
      exact .inl ⟨hx, rfl, hs⟩
    | first hI' hx hs =>
      cases Option.mem_unique hI hI'
      exact .inr ⟨_, hx, .inl ⟨rfl, _, hs⟩⟩
    | second hI' hx hs =>
      cases Option.mem_unique hI hI'
      exact .inr ⟨_, hx, .inr ⟨rfl, _, hs⟩⟩
  · rintro (⟨hx, rfl, hs⟩ | ⟨x, hx, ⟨rfl, t, hs⟩ | ⟨rfl, t, hs⟩⟩)
    · exact .jump hI hx hs
    · exact .first hI hx hs
    · exact .second hI hx hs

theorem ExitsTo.unique (h : B.ExitsTo e s) (h' : B.ExitsTo e t) : s = t := by
  cases h <;> cases h' <;> simp_all

theorem Regular.cases_last (hB : B.Regular) {I : Instr} (hI : I ∈ B.instrs.getLast?) :
    (∃ x s t, I.kind = .branch x ∧ B.succs = [s, t]) ∨ (∃ s, I.kind = .jump ∧ B.succs = [s]) ∨
      ((∃ xs, I.kind = .leave xs) ∨ ∃ x, I.kind = .abort x) ∧ B.succs = [] := by
  have hended := hB.ended I hI
  unfold Instr.exitCount? at hended
  split at hended
  · rename_i x hx
    obtain ⟨s, t, hs⟩ := List.length_eq_two.mp (Option.some.inj hended).symm
    exact .inl ⟨x, s, t, hx, hs⟩
  · rename_i hx
    obtain ⟨s, hs⟩ := List.length_eq_one_iff.mp (Option.some.inj hended).symm
    exact .inr (.inl ⟨s, hx, hs⟩)
  · rename_i xs hx
    exact .inr (.inr ⟨.inl ⟨xs, hx⟩, List.length_eq_zero_iff.mp (Option.some.inj hended).symm⟩)
  · rename_i x hx
    exact .inr (.inr ⟨.inr ⟨x, hx⟩, List.length_eq_zero_iff.mp (Option.some.inj hended).symm⟩)
  · cases hended

theorem Regular.exists_exitsTo (hB : B.Regular) (hne : B.instrs ≠ []) (hs : s ∈ B.succs) :
    ∃ e, B.ExitsTo e s := by
  have hI : B.instrs.getLast hne ∈ B.instrs.getLast? := List.getLast?_eq_some_getLast hne
  obtain ⟨x, s', t, hx, hst⟩ | ⟨s', hx, hs'⟩ | ⟨-, hnil⟩ := hB.cases_last hI
  · rw [hst] at hs
    simp only [List.mem_cons, List.not_mem_nil, or_false] at hs
    obtain rfl | rfl := hs
    · exact ⟨.fall, .first hI hx hst⟩
    · exact ⟨.branch, .second hI hx hst⟩
  · rw [hs', List.mem_singleton] at hs
    subst hs
    exact ⟨.fall, .jump hI hx hs'⟩
  · simp [hnil] at hs

end Block

namespace Func

variable {f : Func} {b c d i j k n : Nat} {B : Block} {e : EdgeKind}

/-! ## Blocks without instructions -/

/-- Block `b` has no instructions, and control goes on to block `c`. -/
def Passes (f : Func) (b c : Nat) : Prop := ∃ B, f.blocks[b]? = some B ∧ B.instrs = [] ∧ B.succs = [c]

/-- Control that enters block `b` passes through blocks without instructions to block `d`, which has
some. -/
inductive Enters (f : Func) : Nat → Nat → Prop
  | here {b : Nat} {B : Block} : f.blocks[b]? = some B → B.instrs ≠ [] → Enters f b b
  | pass {b c d : Nat} : f.Passes b c → Enters f c d → Enters f b d

/-- Control that enters block `b` stays in blocks without instructions. -/
def Endless (f : Func) (b : Nat) : Prop :=
  ∃ way : Nat → Nat, way 0 = b ∧ ∀ n, f.Passes (way n) (way (n + 1))

theorem Passes.unique (h : f.Passes b c) (h' : f.Passes b d) : c = d := by
  obtain ⟨B, hB, -, hc⟩ := h
  obtain ⟨B', hB', -, hd⟩ := h'
  cases hB.symm.trans hB'
  simpa using hc.symm.trans hd

theorem Enters.exists_block (h : f.Enters b d) : ∃ D, f.blocks[d]? = some D ∧ D.instrs ≠ [] := by
  induction h with
  | here hb hne => exact ⟨_, hb, hne⟩
  | pass _ _ ih => exact ih

theorem Endless.not_enters (hb : f.Endless b) : ¬ f.Enters b d := by
  obtain ⟨way, rfl, hway⟩ := hb
  intro hd
  generalize hstart : way 0 = b at hd
  -- the way from the next block on is endless too
  induction hd generalizing way with
  | here hB hne =>
    obtain ⟨B', hB', hnil, -⟩ := hstart ▸ hway 0
    cases hB.symm.trans hB'
    exact hne hnil
  | pass hpass _ ih =>
    exact ih (fun n => way (n + 1)) (fun n => hway (n + 1)) ((hstart ▸ hway 0).unique hpass)

theorem leaderWithin?_succ_eq_some_iff : f.leaderWithin? (n + 1) b = some j ↔
    (∃ B, f.blocks[b]? = some B ∧ B.instrs ≠ [] ∧ j = f.blockStart b) ∨
      ∃ c, f.Passes b c ∧ f.leaderWithin? n c = some j := by
  rw [leaderWithin?]
  unfold Passes
  cases hb : f.blocks[b]? with
  | none => simp
  | some B =>
    by_cases hnil : B.instrs = []
    · cases hs : B.succs with
      | nil => simp [hnil, hs]
      | cons c rest =>
        cases rest with
        | nil => simp [hnil, hs]
        | cons => simp [hnil, hs]
    · simp [hnil, eq_comm (a := j)]

theorem leaderWithin?_mono {m : Nat} (hnm : n ≤ m) (h : f.leaderWithin? n b = some j) :
    f.leaderWithin? m b = some j := by
  induction n generalizing b m with
  | zero => cases h
  | succ n ih =>
    obtain ⟨m, rfl⟩ : ∃ m', m = m' + 1 := ⟨m - 1, by omega⟩
    rw [leaderWithin?_succ_eq_some_iff] at h ⊢
    exact h.imp_right fun ⟨c, hpass, hc⟩ => ⟨c, hpass, ih (by omega) hc⟩

theorem exists_enters_of_leaderWithin? (h : f.leaderWithin? n b = some j) :
    ∃ d, f.Enters b d ∧ j = f.blockStart d := by
  induction n generalizing b with
  | zero => cases h
  | succ n ih =>
    obtain ⟨B, hb, hne, rfl⟩ | ⟨c, hpass, hc⟩ := leaderWithin?_succ_eq_some_iff.mp h
    · exact ⟨b, .here hb hne, rfl⟩
    · obtain ⟨d, hd, hj⟩ := ih hc
      exact ⟨d, .pass hpass hd, hj⟩

theorem Enters.exists_leaderWithin? (h : f.Enters b d) :
    ∃ n, f.leaderWithin? n b = some (f.blockStart d) := by
  induction h with
  | here hb hne => exact ⟨1, leaderWithin?_succ_eq_some_iff.mpr (.inl ⟨_, hb, hne, rfl⟩)⟩
  | pass hpass _ ih =>
    obtain ⟨n, hn⟩ := ih
    exact ⟨n + 1, leaderWithin?_succ_eq_some_iff.mpr (.inr ⟨_, hpass, hn⟩)⟩

theorem lt_of_leaderWithin? (h : f.leaderWithin? n b = some j) : b < f.blocks.length := by
  cases n with
  | zero => cases h
  | succ n =>
    obtain ⟨B, hb, -⟩ | ⟨c, ⟨B, hb, -⟩, -⟩ := leaderWithin?_succ_eq_some_iff.mp h <;>
      exact (List.getElem?_eq_some_iff.mp hb).1

/-- **A way takes as many different blocks as it takes steps.** -/
theorem exists_nodup_of_leaderWithin? (hsome : f.leaderWithin? (n + 1) b = some j)
    (hnone : f.leaderWithin? n b = none) :
    ∃ bs : List Nat, bs.length = n + 1 ∧ bs.Nodup ∧
      ∀ c ∈ bs, c < f.blocks.length ∧ f.leaderWithin? (n + 1) c = some j := by
  induction n generalizing b with
  | zero => exact ⟨[b], rfl, List.nodup_singleton b, by simp [lt_of_leaderWithin? hsome, hsome]⟩
  | succ n ih =>
    obtain ⟨B, hb, hne, rfl⟩ | ⟨c, hpass, hc⟩ := leaderWithin?_succ_eq_some_iff.mp hsome
    · rw [leaderWithin?_succ_eq_some_iff.mpr (.inl ⟨B, hb, hne, rfl⟩)] at hnone
      cases hnone
    · have hcnone : f.leaderWithin? n c = none := by
        rw [Option.eq_none_iff_forall_ne_some]
        intro j' hj'
        rw [leaderWithin?_succ_eq_some_iff.mpr (.inr ⟨c, hpass, hj'⟩)] at hnone
        cases hnone
      obtain ⟨bs, hlength, hnodup, hbs⟩ := ih hc hcnone
      have hfresh : b ∉ bs := fun hmem => by
        rw [(hbs b hmem).2] at hnone
        cases hnone
      refine ⟨b :: bs, by simp [hlength], List.nodup_cons.mpr ⟨hfresh, hnodup⟩, ?_⟩
      simp only [List.mem_cons, forall_eq_or_imp]
      exact ⟨⟨lt_of_leaderWithin? hsome, hsome⟩, fun a ha =>
        ⟨(hbs a ha).1, leaderWithin?_mono (by omega) (hbs a ha).2⟩⟩

/-- **The first instruction after entering a block** is the first one on the way. -/
theorem leader?_eq_some_iff : f.leader? b = some j ↔ ∃ d, f.Enters b d ∧ j = f.blockStart d := by
  refine ⟨exists_enters_of_leaderWithin?, ?_⟩
  rintro ⟨d, hd, rfl⟩
  have hex := hd.exists_leaderWithin?
  -- the least number of steps that is enough is not more than the number of blocks
  obtain ⟨n, hn⟩ : ∃ n, Nat.find hex = n + 1 := by
    refine ⟨Nat.find hex - 1, ?_⟩
    have hpos : Nat.find hex ≠ 0 := fun h0 => by
      have := Nat.find_spec hex
      rw [h0] at this
      cases this
    omega
  have hsome := Nat.find_spec hex
  rw [hn] at hsome
  have hnone : f.leaderWithin? n b = none := by
    rw [Option.eq_none_iff_forall_ne_some]
    intro j' hj'
    have heq : some j' = some (f.blockStart d) := (leaderWithin?_mono (by omega) hj').symm.trans hsome
    exact Nat.find_min hex (by omega) (hj'.trans heq)
  obtain ⟨bs, hlength, hnodup, hbs⟩ := exists_nodup_of_leaderWithin? hsome hnone
  have hle : bs.length ≤ (List.range f.blocks.length).length :=
    (List.subperm_of_subset hnodup fun c hc => List.mem_range.mpr (hbs c hc).1).length_le
  rw [List.length_range] at hle
  exact leaderWithin?_mono (by omega) hsome

/-! ## Edges -/

/-- The instruction `j` comes after the instruction `i` along an edge of a kind: it is the next one
of the block, or `i` ends its block and `j` is the first instruction that control comes to. -/
inductive Follows (f : Func) : EdgeKind → Nat → Nat → Prop
  | next {i j b k : Nat} {B : Block} :
      f.StandsAt i b k B → f.StandsAt j b (k + 1) B → Follows f .fall i j
  | exit {e : EdgeKind} {i j b k s d : Nat} {B D : Block} :
      f.StandsAt i b k B → k + 1 = B.instrs.length → B.ExitsTo e s → f.Enters s d →
      f.StandsAt j d 0 D → Follows f e i j

theorem StandsAt.regular (h : f.StandsAt i b k B) (hf : ∀ B ∈ f.blocks, B.Regular) : B.Regular :=
  hf B (List.mem_of_getElem? h.block)

theorem mem_getLast?_of_getElem? {I : Instr} (hk : k + 1 = B.instrs.length)
    (hI : B.instrs[k]? = some I) :
    I ∈ B.instrs.getLast? := by
  rw [List.getLast?_eq_getElem?, ← hk, Nat.add_sub_cancel]
  exact hI

theorem mem_succsBy_of_last (h : f.StandsAt i b k B) (hB : B.Regular) (hk : k + 1 = B.instrs.length) :
    j ∈ f.graph.succsBy e i ↔ ∃ s, B.ExitsTo e s ∧ f.leader? s = some j := by
  obtain ⟨I, hI⟩ : ∃ I, B.instrs[k]? = some I := ⟨_, List.getElem?_eq_getElem h.lt⟩
  obtain ⟨hfall, hbranch⟩ := succsBy_graph_of_last h hk hI
  have hlast := mem_getLast?_of_getElem? hk hI
  simp only [Block.exitsTo_iff hlast]
  obtain ⟨x, s, t, hx, hs⟩ | ⟨s, hx, hs⟩ | ⟨⟨xs, hx⟩ | ⟨x, hx⟩, hs⟩ := hB.cases_last hlast <;>
    rw [exits, hx, hs] at hfall hbranch <;>
    cases e <;>
    simp [FlowGraph.succsBy, hfall, hbranch, hx, hs]

/-- **The edges that leave an instruction**, told by its place. -/
theorem mem_succsBy_of_standsAt (h : f.StandsAt i b k B) (hB : B.Regular) :
    j ∈ f.graph.succsBy e i ↔ (e = .fall ∧ f.StandsAt j b (k + 1) B) ∨
      (k + 1 = B.instrs.length ∧
        ∃ s d D, B.ExitsTo e s ∧ f.Enters s d ∧ f.StandsAt j d 0 D) := by
  by_cases hk : k + 1 < B.instrs.length
  · obtain ⟨hfall, hbranch⟩ := succsBy_graph_of_lt h hk
    have hnext : f.StandsAt j b (k + 1) B ↔ j = i + 1 := by
      have hnumber := h.number
      exact ⟨fun h' => by have := h'.number; omega, fun hj => ⟨h.block, hk, by omega⟩⟩
    have hlast : k + 1 ≠ B.instrs.length := by omega
    cases e <;> simp [FlowGraph.succsBy, hfall, hbranch, hnext, hlast]
  · have hlast : k + 1 = B.instrs.length := by have := h.lt; omega
    have hnext : ¬ f.StandsAt j b (k + 1) B := fun h' => hk h'.lt
    simp only [mem_succsBy_of_last h hB hlast, leader?_eq_some_iff]
    constructor
    · rintro ⟨s, hs, d, hd, rfl⟩
      obtain ⟨D, hD, hne⟩ := hd.exists_block
      exact .inr ⟨hlast, s, d, D, hs, hd, hD, List.length_pos_iff.mpr hne, rfl⟩
    · rintro (⟨-, h'⟩ | ⟨-, s, d, D, hs, hd, hj⟩)
      · exact absurd h' hnext
      · exact ⟨s, hs, d, hd, hj.number⟩

theorem standsAt_of_mem_succsBy (h : j ∈ f.graph.succsBy e i) : ∃ b k B, f.StandsAt i b k B := by
  refine exists_standsAt (Nat.lt_of_not_le fun hle => ?_)
  have hnone : f.successors[i]? = none := List.getElem?_eq_none (by rwa [length_successors])
  cases e <;> simp [FlowGraph.succsBy, graph, hnone] at h

/-- **The edges of the instruction graph.** -/
theorem mem_succsBy_graph (hf : ∀ B ∈ f.blocks, B.Regular) :
    j ∈ f.graph.succsBy e i ↔ f.Follows e i j := by
  constructor
  · intro hj
    obtain ⟨b, k, B, h⟩ := standsAt_of_mem_succsBy hj
    obtain ⟨rfl, hnext⟩ | ⟨hk, s, d, D, hs, hd, hD⟩ :=
      (mem_succsBy_of_standsAt h (h.regular hf)).mp hj
    · exact .next h hnext
    · exact .exit h hk hs hd hD
  · intro hj
    cases hj with
    | next h hnext =>
      exact (mem_succsBy_of_standsAt h (h.regular hf)).mpr (.inl ⟨rfl, hnext⟩)
    | exit h hk hs hd hD =>
      exact (mem_succsBy_of_standsAt h (h.regular hf)).mpr
        (.inr ⟨hk, _, _, _, hs, hd, hD⟩)

end Func

/-! ## Paths -/

namespace FlowGraph

variable {N : Type} {g : FlowGraph N}

/-- The nodes along a path that ends at a node. -/
def Walk (g : FlowGraph N) (ns : List N) : Prop :=
  ∃ a es n, g.Path a es n ∧ n ∈ g.nodes ∧ ns = es.map Prod.fst ++ [n]

theorem walk_iff {ns : List N} :
    g.Walk ns ↔ ns ≠ [] ∧ (∀ n ∈ ns, n ∈ g.nodes) ∧ ns.IsChain fun p n => n ∈ g.succs p := by
  constructor
  · rintro ⟨a, es, n, hpath, hn, rfl⟩
    refine ⟨by simp, ?_⟩
    induction hpath with
    | nil => simp [hn]
    | snoc _ hp hsucc ih =>
      obtain ⟨hnodes, hchain⟩ := ih hp
      rw [List.map_append, List.map_singleton]
      refine ⟨?_, hchain.append (List.isChain_singleton _) ?_⟩
      · rw [List.forall_mem_append]
        exact ⟨hnodes, by simpa using hn⟩
      · simp only [List.getLast?_append, List.getLast?_singleton, List.head?_cons, Option.some_or,
          Option.mem_some_iff, forall_eq']
        exact mem_succs_iff.mpr ⟨_, hsucc⟩
  · rintro ⟨hne, hnodes, hchain⟩
    induction ns using List.reverseRecOn with
    | nil => exact absurd rfl hne
    | append_singleton ns n ih =>
      have hn : n ∈ g.nodes := hnodes n (by simp)
      by_cases hns : ns = []
      · subst hns
        exact ⟨n, [], n, .nil, hn, rfl⟩
      · obtain ⟨hchain, -, hlast⟩ := List.isChain_append.mp hchain
        obtain ⟨a, es, p, hpath, hp, rfl⟩ :=
          ih hns (fun m hm => hnodes m (List.mem_append_left _ hm)) hchain
        obtain ⟨k, hk⟩ := mem_succs_iff.mp (hlast p (by simp) n rfl)
        exact ⟨a, es ++ [(p, k)], n, .snoc hpath hp hk, hn, by simp⟩

end FlowGraph

namespace Func

variable {f : Func} {b d i k : Nat} {B : Block} {bs ns : List Nat}

/-- Blocks each of which is a next block of the one before. -/
def BlockPath (f : Func) (bs : List Nat) : Prop :=
  (∀ b ∈ bs, b < f.blocks.length) ∧ bs.IsChain fun b c => ∃ B ∈ f.blocks[b]?, c ∈ B.succs

theorem blockPath_singleton (hb : f.blocks[b]? = some B) : f.BlockPath [b] :=
  ⟨by simpa using (List.getElem?_eq_some_iff.mp hb).1, List.isChain_singleton b⟩

theorem BlockPath.exists_block (h : f.BlockPath bs) (hb : b ∈ bs) : ∃ B, f.blocks[b]? = some B :=
  ⟨_, List.getElem?_eq_getElem (h.1 b hb)⟩

theorem blockPath_cons_cons {c : Nat} : f.BlockPath (b :: c :: bs) ↔
    (∃ B, f.blocks[b]? = some B ∧ c ∈ B.succs) ∧ f.BlockPath (c :: bs) := by
  unfold BlockPath
  rw [List.isChain_cons_cons, List.forall_mem_cons]
  constructor
  · rintro ⟨⟨-, hlt⟩, hb, hchain⟩
    exact ⟨hb, hlt, hchain⟩
  · rintro ⟨⟨B, hb, hc⟩, hlt, hchain⟩
    exact ⟨⟨(List.getElem?_eq_some_iff.mp hb).1, hlt⟩, ⟨B, hb, hc⟩, hchain⟩

theorem Enters.exists_blockPath (h : f.Enters b d) (hd : f.BlockPath (d :: bs)) :
    ∃ cs, f.BlockPath (b :: cs) ∧ (b :: cs).flatMap f.numbers = (d :: bs).flatMap f.numbers := by
  induction h with
  | here => exact ⟨bs, hd, rfl⟩
  | pass hpass _ ih =>
    obtain ⟨cs, hcs, hnumbers⟩ := ih hd
    obtain ⟨B, hB, hnil, hs⟩ := hpass
    refine ⟨_ :: cs, blockPath_cons_cons.mpr ⟨⟨B, hB, by simp [hs]⟩, hcs⟩, ?_⟩
    rw [List.flatMap_cons, numbers_of_block hB, hnil, ← hnumbers]
    rfl

theorem drop_numbers (h : f.StandsAt i b k B) :
    (f.numbers b).drop k = i :: (f.numbers b).drop (k + 1) := by
  have hk : k < (f.numbers b).length := by
    rw [numbers_of_block h.block, List.length_range']
    exact h.lt
  rw [List.drop_eq_getElem_cons hk]
  congr 1
  simp [numbers_of_block h.block, h.number]

/-- **From instructions to blocks.** A path of instructions runs through the blocks of a path. -/
theorem exists_blockPath_of_isChain (hf : ∀ B ∈ f.blocks, B.Regular) (h : f.StandsAt i b k B)
    (hns : (i :: ns).IsChain fun p n => n ∈ f.graph.succs p) :
    ∃ bs, f.BlockPath (b :: bs) ∧ i :: ns <+: (f.numbers b).drop k ++ bs.flatMap f.numbers := by
  induction ns generalizing i b k B with
  | nil =>
    refine ⟨[], blockPath_singleton h.block, ?_⟩
    rw [drop_numbers h]
    simp
  | cons j ns ih =>
    rw [List.isChain_cons_cons] at hns
    obtain ⟨e, hj⟩ := FlowGraph.mem_succs_iff.mp hns.1
    rw [drop_numbers h]
    obtain ⟨-, hnext⟩ | ⟨hk, s, d, D, hs, hd, hD⟩ :=
      (mem_succsBy_of_standsAt h (h.regular hf)).mp hj
    · obtain ⟨bs, hbs, hpre⟩ := ih hnext hns.2
      exact ⟨bs, hbs, List.cons_prefix_cons.mpr ⟨rfl, hpre⟩⟩
    · obtain ⟨bs, hbs, hpre⟩ := ih hD hns.2
      obtain ⟨cs, hcs, hnumbers⟩ := hd.exists_blockPath hbs
      refine ⟨s :: cs, blockPath_cons_cons.mpr ⟨⟨B, h.block, hs.mem_succs⟩, hcs⟩, ?_⟩
      have hrest : (f.numbers b).drop (k + 1) = [] := by
        rw [hk, numbers_of_block h.block]
        simp
      rw [hrest, hnumbers]
      exact List.cons_prefix_cons.mpr ⟨rfl, hpre⟩

theorem isChain_numbers (hb : f.blocks[b]? = some B) (hB : B.Regular) :
    (f.numbers b).IsChain fun p n => n ∈ f.graph.succs p := by
  rw [numbers_of_block hb, List.isChain_iff_getElem]
  intro k hk
  rw [List.length_range'] at hk
  simp only [List.getElem_range', Nat.one_mul]
  have h : f.StandsAt (f.blockStart b + k) b k B := ⟨hb, by omega, rfl⟩
  exact FlowGraph.mem_succs_iff.mpr
    ⟨.fall, (mem_succsBy_of_standsAt h hB).mpr (.inl ⟨rfl, hb, hk, rfl⟩)⟩

theorem eq_blockStart_of_mem_head? (hb : f.blocks[b]? = some B) (hne : B.instrs ≠ [])
    (hi : i ∈ (f.numbers b ++ ns).head?) : i = f.blockStart b := by
  have hlength : B.instrs.length ≠ 0 := by simpa using hne
  rw [numbers_of_block hb, List.head?_append, List.head?_range', if_neg hlength] at hi
  simpa using hi.symm

theorem standsAt_of_mem_getLast? (hb : f.blocks[b]? = some B) (hi : i ∈ (f.numbers b).getLast?) :
    f.StandsAt i b (B.instrs.length - 1) B ∧ B.instrs.length - 1 + 1 = B.instrs.length := by
  rw [numbers_of_block hb, List.getLast?_range'] at hi
  split at hi
  · cases hi
  · cases hi
    exact ⟨⟨hb, by omega, by omega⟩, by omega⟩

/-- **From blocks to instructions.** The instructions along a path of blocks follow each other. -/
theorem isChain_of_blockPath (hf : ∀ B ∈ f.blocks, B.Regular) (hbs : f.BlockPath (b :: bs)) :
    (((b :: bs).flatMap f.numbers).IsChain fun p n => n ∈ f.graph.succs p) ∧
      ∀ j ∈ ((b :: bs).flatMap f.numbers).head?, ∃ d, f.Enters b d ∧ j = f.blockStart d := by
  obtain ⟨B, hb⟩ := hbs.exists_block List.mem_cons_self
  have hB := hf B (List.mem_of_getElem? hb)
  induction bs generalizing b B with
  | nil =>
    rw [List.flatMap_cons]
    refine ⟨by simpa using isChain_numbers hb hB, fun j hj => ?_⟩
    by_cases hnil : B.instrs = []
    · simp [numbers_of_block hb, hnil] at hj
    · exact ⟨b, .here hb hnil, eq_blockStart_of_mem_head? hb hnil hj⟩
  | cons c bs ih =>
    obtain ⟨⟨B', hB', hc⟩, hrest⟩ := blockPath_cons_cons.mp hbs
    cases hb.symm.trans hB'
    obtain ⟨C, hC⟩ := hrest.exists_block List.mem_cons_self
    obtain ⟨hchain, hhead⟩ := ih hrest C hC (hf C (List.mem_of_getElem? hC))
    rw [List.flatMap_cons]
    by_cases hnil : B.instrs = []
    · obtain ⟨s, hs⟩ := List.length_eq_one_iff.mp (hB.passed hnil)
      rw [hs, List.mem_singleton] at hc
      subst hc
      rw [numbers_of_block hb, hnil]
      refine ⟨hchain, fun j hj => ?_⟩
      obtain ⟨d, hd, hj⟩ := hhead j hj
      exact ⟨d, .pass ⟨B, hb, hnil, hs⟩ hd, hj⟩
    · refine ⟨(isChain_numbers hb hB).append hchain fun i hi j hj => ?_, fun j hj =>
        ⟨b, .here hb hnil, eq_blockStart_of_mem_head? hb hnil hj⟩⟩
      obtain ⟨hlast, hk⟩ := standsAt_of_mem_getLast? hb hi
      obtain ⟨e, he⟩ := hB.exists_exitsTo hnil hc
      exact FlowGraph.mem_succs_iff.mpr
        ⟨e, (mem_succsBy_of_last hlast hB hk).mpr ⟨c, he, leader?_eq_some_iff.mpr (hhead j hj)⟩⟩

theorem walk_graph_iff (hf : ∀ B ∈ f.blocks, B.Regular) :
    f.graph.Walk ns ↔ ns ≠ [] ∧ ∃ bs, f.BlockPath bs ∧ ns <:+: bs.flatMap f.numbers := by
  rw [FlowGraph.walk_iff]
  refine and_congr_right fun hne => ?_
  constructor
  · rintro ⟨hnodes, hchain⟩
    obtain ⟨i, ns, rfl⟩ := List.exists_cons_of_ne_nil hne
    obtain ⟨b, k, B, h⟩ := mem_nodes_graph.mp (hnodes i List.mem_cons_self)
    obtain ⟨bs, hbs, hpre⟩ := exists_blockPath_of_isChain hf h hchain
    have hsuffix : (f.numbers b).drop k ++ bs.flatMap f.numbers <:+ (b :: bs).flatMap f.numbers :=
      ⟨(f.numbers b).take k, by rw [← List.append_assoc, List.take_append_drop, List.flatMap_cons]⟩
    exact ⟨b :: bs, hbs, hpre.isInfix.trans hsuffix.isInfix⟩
  · rintro ⟨bs, hbs, hpiece⟩
    cases bs with
    | nil => exact absurd (List.infix_nil.mp hpiece) hne
    | cons b bs =>
      refine ⟨fun n hn => ?_, List.IsChain.infix (isChain_of_blockPath hf hbs).1 hpiece⟩
      obtain ⟨c, -, hc⟩ := List.mem_flatMap.mp (hpiece.subset hn)
      obtain ⟨k, B, h⟩ := standsAt_of_mem_numbers hc
      exact mem_nodes_graph.mpr ⟨c, k, B, h⟩

theorem body?_eq_some {g : Body Nat Slot} (hg : f.body? = some g) : g.toFlowGraph = f.graph := by
  unfold body? at hg
  split at hg
  · cases hg
    rfl
  · cases hg

theorem isSome_body? : f.body?.isSome = true ↔ ∃ B Bs, f.blocks = B :: Bs ∧ B.instrs ≠ [] := by
  unfold body? hasCode
  cases f.blocks with
  | nil => simp
  | cons B Bs => by_cases hB : B.instrs = [] <;> simp [hB]

theorem succs_graph_of_exitCount (hf : ∀ B ∈ f.blocks, B.Regular) {I : Instr}
    (hI : f.code[i]? = some I) (hcount : I.exitCount? = some 0) : f.graph.succs i = [] := by
  obtain ⟨b, k, B, h⟩ := exists_standsAt (List.getElem?_eq_some_iff.mp hI).1
  have hB := h.regular hf
  rw [getElem?_code h] at hI
  rw [List.eq_nil_iff_forall_not_mem]
  intro j hj
  obtain ⟨e, hj⟩ := FlowGraph.mem_succs_iff.mp hj
  obtain ⟨-, hnext⟩ | ⟨hk, s, d, D, hs, -⟩ := (mem_succsBy_of_standsAt h hB).mp hj
  · -- inside a block no instruction ends it
    have hlt := hnext.lt
    have hmem : B.instrs.dropLast[k]? = some I := by
      rw [List.getElem?_dropLast, if_pos (by omega), hI]
    rw [hB.only I (List.mem_of_getElem? hmem)] at hcount
    cases hcount
  · have hlast := mem_getLast?_of_getElem? hk hI
    have hnil : B.succs = [] :=
      List.length_eq_zero_iff.mp (Option.some.inj ((hB.ended I hlast).symm.trans hcount))
    simpa [hnil] using hs.mem_succs

theorem succsBy_graph_of_endless {s : Nat} {e : EdgeKind} (h : f.StandsAt i b k B) (hB : B.Regular)
    (hk : k + 1 = B.instrs.length) (hs : B.ExitsTo e s) (hendless : f.Endless s) :
    f.graph.succsBy e i = [] := by
  rw [List.eq_nil_iff_forall_not_mem]
  intro j hj
  obtain ⟨s', hs', hj⟩ := (mem_succsBy_of_last h hB hk).mp hj
  obtain ⟨d, hd, -⟩ := leader?_eq_some_iff.mp hj
  exact hendless.not_enters (hs.unique hs' ▸ hd)

/-- **The instruction graph is the flattening of the blocks.** Its paths are the contiguous pieces
of the instructions along paths of blocks. -/
theorem graph_flattens_blocks (f : Func) (hf : ∀ B ∈ f.blocks, B.Regular) :
    (f.body?.isSome = true ↔ ∃ B Bs, f.blocks = B :: Bs ∧ B.instrs ≠ []) ∧
      ∀ g, f.body? = some g →
        (∀ i, i ∈ g.nodes ↔ ∃ b k B, f.StandsAt i b k B) ∧
        (∀ e i j, j ∈ g.succsBy e i ↔ f.Follows e i j) ∧
        (∀ i I, f.code[i]? = some I → ((∃ xs, I.kind = .leave xs) ∨ ∃ x, I.kind = .abort x) →
          g.succs i = []) ∧
        (∀ e i b k s B, f.StandsAt i b k B → k + 1 = B.instrs.length → B.ExitsTo e s → f.Endless s →
          g.succsBy e i = []) ∧
        (∀ b B, f.blocks[b]? = some B → (f.numbers b).map (f.code[·]?) = B.instrs.map some) ∧
        ∀ ns, g.Walk ns ↔ ns ≠ [] ∧ ∃ bs, f.BlockPath bs ∧ ns <:+: bs.flatMap f.numbers := by
  refine ⟨isSome_body?, fun g hg => ?_⟩
  rw [body?_eq_some hg]
  refine ⟨fun i => mem_nodes_graph, fun e i j => mem_succsBy_graph hf, fun i I hI hkind => ?_,
    fun e i b k s B h hk hs => succsBy_graph_of_endless h (h.regular hf) hk hs,
    fun b B => map_code_numbers, fun ns => walk_graph_iff hf⟩
  have hcount : I.exitCount? = some 0 := by
    obtain ⟨xs, hx⟩ | ⟨x, hx⟩ := hkind <;> simp [Instr.exitCount?, hx]
  exact succs_graph_of_exitCount hf hI hcount

/-- A function with a loop through blocks without instructions. The first branch leads into the loop
or into two blocks without instructions that lead to each other. -/
def winding : Func where
  blocks := [
    { succs := [1, 2], instrs := [{ kind := .branch (.param 0) }] },
    { succs := [3] },
    { succs := [4] },
    { succs := [5] },
    { succs := [2] },
    { succs := [1, 6], instrs := [{ kind := .effect "send" [] }, { kind := .branch (.param 1) }] },
    { succs := [], instrs := [{ kind := .leave [] }] }]

theorem endless_winding : winding.Endless 2 := by
  refine ⟨fun n => if n % 2 = 0 then 2 else 4, rfl, fun n => ?_⟩
  dsimp only
  rcases Nat.mod_two_eq_zero_or_one n with hn | hn
  · rw [if_pos hn, if_neg (by omega)]
    exact ⟨_, rfl, rfl, rfl⟩
  · rw [if_neg (by omega), if_pos (by omega)]
    exact ⟨_, rfl, rfl, rfl⟩

theorem graph_flattens_blocks_winding :
    (∀ B ∈ winding.blocks, B.Regular) ∧
      ∃ g, winding.body? = some g ∧ 1 ∈ g.fall 0 ∧ g.branch 0 = [] ∧ g.succs 3 = [] ∧
        g.Walk [0, 1, 2, 1, 2, 3] := by
  have hf : ∀ B ∈ winding.blocks, B.Regular := by decide
  obtain ⟨hbody, hgraph⟩ := graph_flattens_blocks winding hf
  obtain ⟨g, hg⟩ := Option.isSome_iff_exists.mp (hbody.mpr ⟨_, _, rfl, by simp⟩)
  obtain ⟨-, hedges, hleave, hendless, -, hwalk⟩ := hgraph g hg
  have henters : winding.Enters 1 5 :=
    .pass ⟨_, rfl, rfl, rfl⟩ (.pass ⟨_, rfl, rfl, rfl⟩ (.here rfl (List.cons_ne_nil _ _)))
  have hfirst : winding.Follows .fall 0 1 :=
    .exit (b := 0) (k := 0) ⟨rfl, by decide, rfl⟩ rfl (.first rfl rfl rfl) henters
      ⟨rfl, by decide, rfl⟩
  have hbranch : g.succsBy .branch 0 = [] :=
    hendless .branch 0 0 0 2 _ ⟨rfl, by decide, rfl⟩ rfl (.second rfl rfl rfl) endless_winding
  have hpath : winding.BlockPath [0, 1, 3, 5, 1, 3, 5, 6] := by
    unfold BlockPath
    decide
  exact ⟨hf, g, hg, (hedges .fall 0 1).mpr hfirst, hbranch, hleave 3 _ rfl (.inl ⟨[], rfl⟩),
    (hwalk _).mpr ⟨by decide, _, hpath, by decide⟩⟩

end Func

end FlagFlow
