import FlagFlow.Analysis
import FlagFlow.Code.Reading

/-!
# The instruction graph of a function

The nodes are the numbers of the instructions. Inside a block every instruction is followed by the
next one; after the last one control enters the next blocks at their first instructions. Blocks
without instructions are passed through.

* `Func.leader?`: the first instruction that runs when control enters a block.
* `Func.exits`: where control goes after the last instruction of a block.
* `Func.successors`: the successors of an instruction.
* `Func.body?`: the instruction graph with statements; a function without code has none.
-/

namespace FlagFlow

namespace Func

/-- The number of the first instruction of a block. -/
def blockStart (f : Func) (b : Nat) : Nat :=
  ((f.blocks.take b).flatMap Block.instrs).length

/-- The first instruction that runs when control enters block `b`, passing through at most `fuel`
blocks without instructions. -/
def leaderWithin? (f : Func) : (fuel b : Nat) → Option Nat
  | 0, _ => none
  | fuel + 1, b =>
    match f.blocks[b]? with
    | none => none
    | some block =>
      if block.instrs.isEmpty then
        match block.succs with
        | [next] => leaderWithin? f fuel next
        | _ => none
      else some (f.blockStart b)

/-- The first instruction that runs when control enters a block. There is none if control stays in
blocks without instructions. -/
def leader? (f : Func) (b : Nat) : Option Nat := f.leaderWithin? f.blocks.length b

/-- Where control goes after the last instruction of a block, along fall-through and along branch
edges. -/
def exits (f : Func) (succs : List Nat) (last : Instr) : List Nat × List Nat :=
  match last.kind with
  | .branch _ => ((succs.take 1).filterMap f.leader?, ((succs.drop 1).take 1).filterMap f.leader?)
  | .leave _ | .abort _ => ([], [])
  | _ => (succs.filterMap f.leader?, [])

/-- The successors of the instructions of a block, the first of which has the number `start`. -/
def blockSuccessors (f : Func) (succs : List Nat) :
    (start : Nat) → List Instr → List (List Nat × List Nat)
  | _, [] => []
  | _, [last] => [f.exits succs last]
  | start, _ :: next :: rest => ([start + 1], []) :: blockSuccessors f succs (start + 1) (next :: rest)

/-- The successors of all instructions, along fall-through and along branch edges. -/
def successors (f : Func) : List (List Nat × List Nat) :=
  f.blocks.zipIdx.flatMap fun e => f.blockSuccessors e.1.succs (f.blockStart e.2) e.1.instrs

/-- Whether control can enter the function. -/
def hasCode (f : Func) : Bool :=
  match f.blocks with
  | b :: _ => !b.instrs.isEmpty
  | [] => false

/-- The instruction graph. The predecessors of an instruction are in the order of the
instructions. -/
def graph (f : Func) : FlowGraph Nat :=
  let succs := f.successors.toArray
  let fall (n : Nat) : List Nat := (succs.getD n ([], [])).1
  let branch (n : Nat) : List Nat := (succs.getD n ([], [])).2
  let nodes := List.range succs.size
  { entry := 0
    nodes := nodes
    preds := fun n => nodes.filter fun p => (fall p).contains n || (branch p).contains n
    fall := fall
    branch := branch }

/-- The instruction graph with statements. -/
def body? (f : Func) : Option (Body Nat Slot) :=
  if f.hasCode then
    let stmts := (f.actions.map Action.stmt).toArray
    some { f.graph with stmt := fun n => stmts.getD n .skip }
  else none

end Func

end FlagFlow
