import FlagFlow.Code.Instr
import FlagFlow.Stmt

/-!
# Instructions as statements

How the analysis reads instructions: which variable an operand stands for, what an instruction
computes, calls and defines.

* `Place`, `Slot`: the identity of a variable, and the variable with its name.
* `Term`: an operand or a result as an expression; `Term.expr` is what the analysis sees of it.
* `Action`: what an instruction is as a statement; `Action.stmt` is what the analysis sees of it.
* `Func.action`: the action of an instruction.
-/

namespace FlagFlow

/-- What makes a variable the one that it is: the instruction that makes the memory cell or computes
the result, an index, the number of an object, or a register that no instruction computes. -/
inductive Place where
  | cell (instr : Nat)
  | result (instr : Nat)
  | param (i : Nat)
  | free (i : Nat)
  | object (number : Nat)
  | unset (register : Nat)
  deriving DecidableEq, Repr

/-- A variable, a memory cell or a register, with the name that it is printed with. -/
structure Slot where
  place : Place
  name : String
  deriving DecidableEq, Repr

/-- Whether the variable is one of the source. -/
def Slot.isLocal (v : Slot) : Bool :=
  match v.place with
  | .cell _ => true
  | _ => false

/-- An operand or a result, as an expression. -/
inductive Term where
  | equal (x y : Term)
  | int (n : Int)
  | var (v : Slot)
  | cast (x : Term)
  | other (name : String)

namespace Term

def text : Term → String
  | equal x y => x.text ++ " == " ++ y.text
  | int n => toString n
  | var v => v.name
  | cast x => "cast(" ++ x.text ++ ")"
  | other name => name

/-- A term as the analysis reads it. -/
def expr : Term → Expr Slot
  | equal x y => .equal x.expr y.expr
  | int n => .const n
  | var v => .ofVar v
  | cast x => .convert x.expr
  | other _ => .other

end Term

/-- An instruction as a statement: the called function with its arguments, the condition of a
branch, and the defined variable with its value and whether its type is primitive. -/
structure Action where
  call : Option (String × List Term) := none
  condition : Option Term := none
  definition : Option (Slot × Term × Bool) := none

/-- A statement as the analysis reads it. -/
def Action.stmt (a : Action) : Stmt Slot where
  call := a.call.map fun c => ⟨c.1, c.2.map Term.expr⟩
  condition := a.condition.map Term.expr
  definition := a.definition.map fun d => ⟨some d.1, d.2.1.expr, d.2.2⟩

namespace Func

/-! ## Variables -/

/-- The memory cell that an operand is. -/
def cellOf? (f : Func) : Operand → Option (Instr × Nat)
  | .register n => (f.definer? n).bind fun e => if e.1.isCell then some e else none
  | _ => none

/-- The memory cell that an instruction reads. -/
def loadedCell? (f : Func) (i : Instr) : Option (Instr × Nat) :=
  match i.kind with
  | .unary "*" x _ => f.cellOf? x
  | _ => none

/-- The variable of a memory cell, named as in the source if that name is known. -/
def cellSlot (e : Instr × Nat) : Slot :=
  ⟨.cell e.2, match e.1.kind with
    | .alloc _ comment => if comment = "" then e.1.name else comment
    | _ => e.1.name⟩

/-- The variable that the result of an instruction stands for: loads and cells stand for the
variable of the cell. -/
def resultSlot (f : Func) (e : Instr × Nat) : Slot :=
  match f.loadedCell? e.1 with
  | some cell => cellSlot cell
  | none => if e.1.isCell then cellSlot e else ⟨.result e.2, e.1.name⟩

/-- The variable that the register with a number stands for. -/
def registerSlot (f : Func) (n : Nat) : Slot :=
  match f.definer? n with
  | some e => f.resultSlot e
  | none => ⟨.unset n, f.nameOf (.register n)⟩

/-! ## Terms -/

/-- An operand as a term. -/
def operandTerm (f : Func) (x : Operand) : Term :=
  match x with
  | .const value _ =>
    match value.integer? with
    | some n => .int n
    | none => .other (f.nameOf x)
  | .register n => .var (f.registerSlot n)
  | .param i => .var ⟨.param i, f.nameOf x⟩
  | .free i => .var ⟨.free i, f.nameOf x⟩
  | .global object .. | .builtin object .. | .func { object, .. } => .var ⟨.object object, f.nameOf x⟩

/-- The value that an instruction computes, as a term. A negation compares with zero. -/
def resultTerm (f : Func) (i : Instr) : Term :=
  match i.kind with
  | .unary "!" x _ => .equal (f.operandTerm x) (.int 0)
  | .binary "==" x y => .equal (f.operandTerm x) (f.operandTerm y)
  | .convert x | .retype x => .cast (f.operandTerm x)
  | _ => .other i.name

/-! ## Actions -/

def callSite? (i : Instr) : Option CallSite :=
  match i.kind with
  | .call site | .go site | .defer site _ => some site
  | _ => none

/-- Whether a call is one of the compiler and not of the source. -/
def isInternal (site : CallSite) : Bool :=
  match site.callee with
  | .builtin _ name _ => "ssa:".toList.isPrefixOf name.toList
  | _ => false

/-- The name of the called function; calls of function values have none, except that a closure made
in the same function is known. -/
def calleeName (f : Func) (site : CallSite) : String :=
  match site.method, site.callee with
  | some m, _ => m
  | none, .builtin _ name _ => name
  | none, .func g => g.origin.getD g.name
  | none, .register n =>
    match f.definer? n with
    | some (⟨.closure (.func g) _, _, _, _⟩, _) => g.name
    | _ => ""
  | none, _ => ""

/-- Whether the first argument of a call is the receiver of a method. -/
def passesReceiver (site : CallSite) : Bool :=
  match site.method, site.callee with
  | none, .func g => g.receiver.isSome
  | _, _ => false

/-- The arguments of a call without the receiver. -/
def arguments (site : CallSite) : List Operand :=
  site.args.drop (if passesReceiver site then 1 else 0)

/-- A call with its arguments as terms. -/
def callOf? (f : Func) (i : Instr) : Option (String × List Term) :=
  (callSite? i).bind fun site =>
    if isInternal site then none else some (f.calleeName site, (arguments site).map f.operandTerm)

def conditionOf? (f : Func) (i : Instr) : Option Term :=
  match i.kind with
  | .branch x => some (f.operandTerm x)
  | _ => none

/-- The definition that an instruction makes: a store into a cell defines the variable of the cell,
and other instructions define their results. Making or reading a cell defines nothing. -/
def definitionOf? (f : Func) (i : Instr) (number : Nat) : Option (Slot × Term × Bool) :=
  match i.kind with
  | .store address value =>
    (f.cellOf? address).map fun cell =>
      (cellSlot cell, f.operandTerm value, cell.1.type.isPrimitive)
  | _ =>
    if !i.isValue || i.isCell || (f.loadedCell? i).isSome then none
    else some (⟨.result number, i.name⟩, f.resultTerm i, i.type.isPrimitive)

def action (f : Func) (i : Instr) (number : Nat) : Action where
  call := f.callOf? i
  condition := f.conditionOf? i
  definition := f.definitionOf? i number

def actions (f : Func) : List Action := f.code.zipIdx.map fun e => f.action e.1 e.2

end Func

end FlagFlow
