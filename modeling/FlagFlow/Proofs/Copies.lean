import FlagFlow.Proofs.Blocks
import FlagFlow.Proofs.Transfer

/-!
# Copies between memory cells

A variable of the source is a memory cell, so an assignment of one variable to another is two
instructions: one reads the cell, and a later one stores what was read. For the analysis the
register in between stands for the cell itself. A copy therefore takes what is known about the cell
when it is stored, not when it was read; the two differ if the cell gets another fact on the way, as
in an assignment that exchanges two variables.

* `Func.stmtAt`, `Func.flowAlong`: the statement of an instruction, and what is known after
  instructions that run one after the other.
* `Func.Copy`: a read and a store of what was read, in one block.
* `Func.Rewrites`: an instruction gives the variable of a cell another fact;
  `Func.find?_flowAlong_of_not_rewrites`: other instructions keep its fact.
* `Func.Copy.stmtAt_store`: the store as a statement.
* **`Func.copy_takes_current_fact`**: what a copy takes.
* **`Func.exchange_loses_fact`**: after an exchange both variables have the value of one of them.
-/

namespace FlagFlow

namespace Func

variable {f : Func} {isFeature : String → Bool} {n : Nat} {I : Instr} {a e : Instr × Nat}
  {x y : Operand}

/-- The statement of the instruction with the number `n`. -/
def stmtAt (f : Func) (n : Nat) : Stmt Slot := (f.actions.map Action.stmt).getD n .skip

/-- What is known after instructions that run one after the other, along fall-through edges. -/
def flowAlong (f : Func) (isFeature : String → Bool) (ns : List Nat) (s : Env Slot) : Env Slot :=
  ns.foldl (fun s n => ((f.stmtAt n).transfer isFeature s).1) s

theorem stmt_body? {b : Body Nat Slot} (hb : f.body? = some b) : b.stmt = f.stmtAt := by
  unfold body? at hb
  split at hb
  · cases hb
    funext n
    simp [stmtAt, List.getD_eq_getElem?_getD]
  · cases hb

theorem stmtAt_of_getElem? (hI : f.code[n]? = some I) : f.stmtAt n = (f.action I n).stmt := by
  simp [stmtAt, actions, hI]

theorem stmtAt_of_getElem?_eq_none (hI : f.code[n]? = none) : f.stmtAt n = .skip := by
  simp [stmtAt, actions, hI]

/-! ## Cells -/

theorem getElem?_of_definer? {r : Nat} (h : f.definer? r = some e) : f.code[e.2]? = some e.1 :=
  List.mk_mem_zipIdx_iff_getElem?.mp (List.mem_of_find?_eq_some h)

theorem getElem?_of_cellOf? (h : f.cellOf? x = some e) : f.code[e.2]? = some e.1 := by
  unfold cellOf? at h
  split at h
  · obtain ⟨d, hd, hcell⟩ := Option.bind_eq_some_iff.mp h
    split at hcell
    · cases hcell
      exact getElem?_of_definer? hd
    · cases hcell
  · cases h

theorem cellSlot_inj (he : f.cellOf? x = some e) (ha : f.cellOf? y = some a)
    (h : cellSlot e = cellSlot a) : e = a := by
  have hplace : Place.cell e.2 = Place.cell a.2 := congrArg Slot.place h
  have hnumber : e.2 = a.2 := Place.cell.inj hplace
  have hinstr : some e.1 = some a.1 := by
    rw [← getElem?_of_cellOf? he, ← getElem?_of_cellOf? ha, hnumber]
  exact Prod.ext (Option.some.inj hinstr) hnumber

theorem cellOf?_of_loadedCell? (h : f.loadedCell? I = some a) :
    ∃ x ok, I.kind = .unary "*" x ok ∧ f.cellOf? x = some a := by
  unfold loadedCell? at h
  split at h
  · exact ⟨_, _, by assumption, h⟩
  · cases h

/-! ## Instructions that give a cell another fact -/

variable (f isFeature) in
/-- The instruction gives the variable of the cell another fact: it stores into the cell, which has
a primitive type, or it is a feature call with the variable as its first argument. -/
def Rewrites (n : Nat) (a : Instr × Nat) : Prop :=
  ∃ I, f.code[n]? = some I ∧
    ((∃ address value, I.kind = .store address value ∧ f.cellOf? address = some a ∧
        a.1.type.isPrimitive = true) ∨
      ∃ callee rest, f.callOf? I = some (callee, .var (cellSlot a) :: rest) ∧ isFeature callee = true)

theorem eq_var_of_var?_expr {t : Term} {v : Slot} (h : t.expr.var? = some v) : t = .var v := by
  cases t with
  | var w => exact congrArg Term.var (Option.some.inj h)
  | _ => cases h

theorem callOf?_of_flagged? {v : Slot} (h : (f.action I n).stmt.flagged? isFeature = some v) :
    ∃ callee rest, f.callOf? I = some (callee, .var v :: rest) ∧ isFeature callee = true := by
  obtain ⟨x, hx, hv⟩ := Option.bind_eq_some_iff.mp h
  simp only [Stmt.flagArgument?, Action.stmt, action] at hx
  cases hcall : f.callOf? I with
  | none => simp [hcall] at hx
  | some c =>
    obtain ⟨callee, args⟩ := c
    cases args with
    | nil => simp [hcall] at hx
    | cons t rest =>
      obtain ⟨hfeature, rfl⟩ : isFeature callee = true ∧ t.expr = x := by simpa [hcall] using hx
      rw [eq_var_of_var?_expr hv]
      exact ⟨callee, rest, rfl, hfeature⟩

theorem store_of_definesAs {primitive : Bool} (ha : f.cellOf? x = some a)
    (h : (f.action I n).stmt.DefinesAs primitive (cellSlot a)) :
    ∃ address value, I.kind = .store address value ∧ f.cellOf? address = some a ∧
      a.1.type.isPrimitive = primitive := by
  obtain ⟨d, hd, htarget, hprimitive⟩ := h
  obtain ⟨e, he, rfl⟩ := Option.map_eq_some_iff.mp hd
  have hslot : e.1 = cellSlot a := Option.some.inj htarget
  simp only [action, definitionOf?] at he
  split at he
  · rename_i address value hkind
    obtain ⟨cell, hcell, rfl⟩ := Option.map_eq_some_iff.mp he
    obtain rfl : cell = a := cellSlot_inj hcell ha hslot
    exact ⟨address, value, hkind, hcell, hprimitive⟩
  · split at he
    · cases he
    · cases he
      -- the result of an instruction is at another place than a cell
      cases congrArg Slot.place hslot

/-- Step: an instruction that does not rewrite a cell keeps its fact. -/
theorem find?_transfer_of_not_rewrites (ha : f.cellOf? x = some a) (h : ¬ f.Rewrites isFeature n a)
    (s : Env Slot) :
    ((f.stmtAt n).transfer isFeature s).1.find? (cellSlot a) = s.find? (cellSlot a) := by
  cases hI : f.code[n]? with
  | none =>
    rw [stmtAt_of_getElem?_eq_none hI]
    rfl
  | some I =>
    rw [stmtAt_of_getElem? hI]
    refine Stmt.find?_transfer_fst_of_not (fun hflag => ?_) (fun hdef => ?_) s
    · exact h ⟨I, hI, .inr (callOf?_of_flagged? hflag)⟩
    · exact h ⟨I, hI, .inl (store_of_definesAs ha hdef)⟩

/-- Run: so do any number of such instructions. -/
theorem find?_flowAlong_of_not_rewrites (ha : f.cellOf? x = some a) {ns : List Nat}
    (h : ∀ n ∈ ns, ¬ f.Rewrites isFeature n a) (s : Env Slot) :
    (f.flowAlong isFeature ns s).find? (cellSlot a) = s.find? (cellSlot a) := by
  induction ns generalizing s with
  | nil => rfl
  | cons n ns ih =>
    calc (f.flowAlong isFeature (n :: ns) s).find? (cellSlot a)
        = ((f.stmtAt n).transfer isFeature s).1.find? (cellSlot a) :=
          ih (fun m hm => h m (List.mem_cons_of_mem n hm)) _
      _ = s.find? (cellSlot a) := find?_transfer_of_not_rewrites ha (h n List.mem_cons_self) s

/-! ## Copies -/

/-- A register is read from the cell `source` by the instruction `load` and is stored into the cell
`target`, of a primitive type, by the later instruction `store` of the same block. -/
structure Copy (f : Func) where
  block : Nat
  load : Nat
  store : Nat
  register : Nat
  source : Instr × Nat
  target : Instr × Nat
  load_lt_store : load < store
  load_mem : load ∈ f.numbers block
  store_mem : store ∈ f.numbers block
  reads : ∃ I, f.definer? register = some (I, load) ∧ f.loadedCell? I = some source
  stores : ∃ I address, f.code[store]? = some I ∧ I.kind = .store address (.register register) ∧
    f.cellOf? address = some target
  isPrimitive_target : target.1.type.isPrimitive = true

namespace Copy

variable (c : f.Copy) (isFeature : String → Bool) (s : Env Slot)

/-- What is known right before the store, if `s` is known before the load. -/
def beforeStore : Env Slot := f.flowAlong isFeature (List.range' c.load (c.store - c.load)) s

/-- What is known after the store, if `s` is known before the load. -/
def afterStore : Env Slot := f.flowAlong isFeature (List.range' c.load (c.store - c.load + 1)) s

theorem afterStore_eq :
    c.afterStore isFeature s =
      ((f.stmtAt c.store).transfer isFeature (c.beforeStore isFeature s)).1 := by
  have hstore : c.load + (c.store - c.load) = c.store := Nat.add_sub_of_le c.load_lt_store.le
  rw [afterStore, beforeStore, List.range'_1_concat, hstore, flowAlong, List.foldl_append]
  rfl

theorem stmtAt_store :
    f.stmtAt c.store =
      { definition := some ⟨some (cellSlot c.target), .ofVar (cellSlot c.source), true⟩ } := by
  obtain ⟨L, hdefiner, hload⟩ := c.reads
  obtain ⟨I, address, hI, hkind, htarget⟩ := c.stores
  have hterm : f.operandTerm (.register c.register) = .var (cellSlot c.source) := by
    simp only [operandTerm, registerSlot, hdefiner, resultSlot, hload]
  rw [stmtAt_of_getElem? hI]
  simp [Action.stmt, action, callOf?, callSite?, conditionOf?, definitionOf?, hkind, htarget, hterm,
    c.isPrimitive_target, Term.expr]

theorem not_rewrites_load (a : Instr × Nat) : ¬ f.Rewrites isFeature c.load a := by
  obtain ⟨L, hdefiner, hload⟩ := c.reads
  obtain ⟨x, ok, hkind, -⟩ := cellOf?_of_loadedCell? hload
  rintro ⟨I, hI, hrewrites⟩
  obtain rfl : L = I := Option.some.inj ((getElem?_of_definer? hdefiner).symm.trans hI)
  rcases hrewrites with ⟨address, value, hstore, -⟩ | ⟨callee, rest, hcall, -⟩
  · cases hkind.symm.trans hstore
  · simp [callOf?, callSite?, hkind] at hcall

theorem get_beforeStore
    (h : ∀ n, c.load < n → n < c.store → ¬ f.Rewrites isFeature n c.source) :
    (c.beforeStore isFeature s).get (cellSlot c.source) = s.get (cellSlot c.source) := by
  obtain ⟨L, -, hload⟩ := c.reads
  obtain ⟨x, ok, -, hsource⟩ := cellOf?_of_loadedCell? hload
  have hkeep : ∀ n ∈ List.range' c.load (c.store - c.load), ¬ f.Rewrites isFeature n c.source := by
    intro n hn
    obtain ⟨hle, hlt⟩ := List.mem_range'_1.mp hn
    rcases hle.eq_or_lt with rfl | hlt'
    · exact c.not_rewrites_load isFeature c.source
    · exact h n hlt' (by omega)
  unfold Env.get
  rw [beforeStore, find?_flowAlong_of_not_rewrites hsource hkeep]

end Copy

/-- **What a copy takes** is what was known about the source right before the store. -/
theorem copy_takes_current_fact (f : Func) (c : f.Copy) (isFeature : String → Bool) (s : Env Slot) :
    (c.afterStore isFeature s).find? (cellSlot c.target) =
        some ((c.beforeStore isFeature s).get (cellSlot c.source)) ∧
      ((∀ n, c.load < n → n < c.store → ¬ f.Rewrites isFeature n c.source) →
        (c.afterStore isFeature s).find? (cellSlot c.target) = some (s.get (cellSlot c.source))) := by
  have hstore : (c.afterStore isFeature s).find? (cellSlot c.target) =
      some ((c.beforeStore isFeature s).get (cellSlot c.source)) := by
    rw [c.afterStore_eq, c.stmtAt_store]
    exact (Env.find?_set _ _ _ _).trans (if_pos rfl)
  refine ⟨hstore, fun h => ?_⟩
  rw [hstore, c.get_beforeStore isFeature s h]

/-! ## Exchanging two variables -/

/-- The memory cell of a boolean variable. -/
def boolCell (register : Nat) (name : String) : Instr :=
  { kind := .alloc false name, register := register, type := .basic "bool" }

/-- Two variables with different values are exchanged by one assignment, which reads both before it
stores. -/
def exchange : Func :=
  { name := "exchange"
    blocks := [
      { instrs := [
          boolCell 0 "a",
          boolCell 1 "b",
          { kind := .store (.register 0) (.const (.bool true) (.basic "bool")) },
          { kind := .store (.register 1) (.const (.bool false) (.basic "bool")) },
          { kind := .unary "*" (.register 1) false, register := 2, type := .basic "bool" },
          { kind := .unary "*" (.register 0) false, register := 3, type := .basic "bool" },
          { kind := .store (.register 0) (.register 2) },
          { kind := .store (.register 1) (.register 3) },
          { kind := .leave [] }] }] }

/-- The half of the exchange that copies `b` to `a`, which is stored first. -/
def exchangeToA : exchange.Copy where
  block := 0
  load := 4
  store := 6
  register := 2
  source := (boolCell 1 "b", 1)
  target := (boolCell 0 "a", 0)
  load_lt_store := by decide
  load_mem := by decide
  store_mem := by decide
  reads := ⟨_, rfl, rfl⟩
  stores := ⟨_, _, rfl, rfl, rfl⟩
  isPrimitive_target := rfl

/-- The half of the exchange that copies `a` to `b`. -/
def exchangeToB : exchange.Copy where
  block := 0
  load := 5
  store := 7
  register := 3
  source := (boolCell 0 "a", 0)
  target := (boolCell 1 "b", 1)
  load_lt_store := by decide
  load_mem := by decide
  store_mem := by decide
  reads := ⟨_, rfl, rfl⟩
  stores := ⟨_, _, rfl, rfl, rfl⟩
  isPrimitive_target := rfl

/-- What is known before the instruction with the number `n` of the exchange. -/
def exchangeKnown (n : Nat) : Env Slot :=
  exchange.flowAlong (· == defaultCallee) (List.range n) .atEntry

/-- Only the load of `a` stands between the load of `b` and its store. -/
theorem copy_takes_current_fact_exchangeToA :
    (∀ n, 4 < n → n < 6 → ¬ exchange.Rewrites (· == defaultCallee) n exchangeToA.source) ∧
      (exchangeToA.afterStore (· == defaultCallee) (exchangeKnown 4)).find?
      (cellSlot exchangeToA.target) =
        some .zero := by
  have hkeep : ∀ n, 4 < n → n < 6 →
      ¬ exchange.Rewrites (· == defaultCallee) n exchangeToA.source := by
    intro n hlt hlt'
    obtain rfl : n = exchangeToB.load := by
      change n = 5
      omega
    exact exchangeToB.not_rewrites_load _ _
  have hb : (exchangeKnown 4).get (cellSlot exchangeToA.source) = .zero := by decide
  refine ⟨hkeep, ?_⟩
  rw [(copy_takes_current_fact exchange exchangeToA (· == defaultCallee) (exchangeKnown 4)).2 hkeep,
    hb]

/-- **An exchange loses a value**: the second store gives `b` its own value back. -/
theorem exchange_loses_fact :
    (exchangeKnown 5).get (cellSlot exchangeToB.source) = .one ∧
      (exchangeToB.afterStore (· == defaultCallee) (exchangeKnown 5)).find?
      (cellSlot exchangeToB.target) =
        some .zero := by
  decide

end Func

end FlagFlow
