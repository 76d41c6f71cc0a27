import FlagFlow.Code.Operand

/-!
# Functions as blocks of instructions

* `Instr`: an instruction; `Instr.Kind` says what it does.
* `Block`: instructions that run one after the other, with the blocks that come before and after.
* `Func`: a function.
* `Func.code`: all instructions in order. The number of an instruction there identifies it.
* `Func.nameOf`, `Func.mention`: the names of operands.
* `Func.describe`: the text of an instruction.
-/

namespace FlagFlow

/-- The call that an instruction makes, of a function or of a method of an interface value. -/
structure CallSite where
  callee : Operand
  args : List Operand
  method : Option String := none
  variadic : Bool := false

/-- What an instruction does. A memory cell is made for the variable named by the comment, the star
is a load, and `phi` takes the value that belongs to the block from which control came. -/
inductive Instr.Kind where
  | alloc (heap : Bool) (comment : String)
  | unary (op : String) (x : Operand) (commaOk : Bool)
  | binary (op : String) (x y : Operand)
  | convert (x : Operand)
  | retype (x : Operand)
  | call (site : CallSite)
  | go (site : CallSite)
  | defer (site : CallSite) (stack : Option Operand)
  | closure (fn : Operand) (bindings : List Operand)
  | phi (edges : List (Option Operand)) (comment : String)
  | store (address value : Operand)
  | branch (condition : Operand)
  | jump
  | leave (results : List Operand)
  | abort (x : Operand)
  | value (name : Option String) (text : String) (args : List Operand)
  | effect (text : String) (args : List Operand)

/-- An instruction, with the register for its result and the type of the result, which for a memory
cell is that of its contents. -/
structure Instr where
  kind : Instr.Kind
  register : Nat := 0
  type : Ty := .unit
  position : Option Position := none

namespace Instr

def isValue (i : Instr) : Bool :=
  match i.kind with
  | .alloc .. | .unary .. | .binary .. | .convert .. | .retype .. | .call .. | .closure .. | .phi ..
  | .value .. => true
  | _ => false

def name (i : Instr) : String :=
  match i.kind with
  | .value (some name) _ _ => name
  | _ => "t" ++ toString i.register

def resultType (i : Instr) : Ty :=
  match i.kind with
  | .alloc .. => .pointer i.type
  | _ => i.type

/-- Whether the instruction is a memory cell. -/
def isCell (i : Instr) : Bool :=
  match i.kind with
  | .alloc .. => true
  | _ => false

/-- Whether the instruction branches on a condition. -/
def isBranch (i : Instr) : Bool :=
  match i.kind with
  | .branch _ => true
  | _ => false

/-- The operands of an instruction, in order. -/
def operands (i : Instr) : List Operand :=
  match i.kind with
  | .alloc .. | .jump => []
  | .unary _ x _ | .convert x | .retype x | .branch x | .abort x => [x]
  | .binary _ x y | .store x y => [x, y]
  | .call s | .go s => s.callee :: s.args
  | .defer s stack => s.callee :: s.args ++ stack.toList
  | .closure fn bindings => fn :: bindings
  | .phi edges _ => edges.filterMap id
  | .leave xs | .value _ _ xs | .effect _ xs => xs

end Instr

/-- Instructions that run one after the other, with the numbers of the blocks that may come next and
before. -/
structure Block where
  succs : List Nat := []
  preds : List Nat := []
  instrs : List Instr := []

/-- A parameter, or a variable of an enclosing function. -/
structure Param where
  name : String
  type : Ty := .unit
  position : Option Position := none

/-- A function. The enclosing one is given by its number in the program, `pos` is the number of the
position among those of all files, zero if there is none, and `free` are the variables of enclosing
functions. Control enters at the first block. -/
structure Func where
  name : String := ""
  pkg : String := ""
  receiver : Option Ty := none
  parent : Option Nat := none
  synthetic : Bool := false
  position : Option Position := none
  pos : Nat := 0
  params : List Param := []
  free : List Param := []
  blocks : List Block := []
  deriving Inhabited

namespace Func

def code (f : Func) : List Instr := f.blocks.flatMap Block.instrs

/-- The instruction that computes a register, with its number. -/
def definer? (f : Func) (n : Nat) : Option (Instr × Nat) :=
  f.code.zipIdx.find? fun e => e.1.isValue && e.1.register = n

/-! ## Names and types of operands -/

/-- The name of an operand; a constant shows its type as seen from the package `home`. -/
def nameFrom (f : Func) (home : String) : Operand → String
  | .register n => (f.definer? n).elim ("t" ++ toString n) fun e => e.1.name
  | .param i => (f.params[i]?).elim "" Param.name
  | .free i => (f.free[i]?).elim "" Param.name
  | .const value type => value.text ++ ":" ++ type.text home
  | .global _ name _ _ _ => name
  | .builtin _ name _ => name
  | .func g => g.name

def nameOf (f : Func) (x : Operand) : String := f.nameFrom "" x

/-- The name of an operand as it stands in the text of an instruction: names of other packages are
qualified. -/
def mention (f : Func) : Operand → String
  | .global _ name pkg _ _ => Ty.qualify f.pkg pkg name
  | .func g => g.text f.pkg
  | x => f.nameFrom f.pkg x

/-- The type of an operand. -/
def typeOf (f : Func) : Operand → Ty
  | .register n => (f.definer? n).elim .unit fun e => e.1.resultType
  | .param i => (f.params[i]?).elim .unit Param.type
  | .free i => (f.free[i]?).elim .unit Param.type
  | .const _ type => type
  | .global _ _ _ type _ => .pointer type
  | .builtin .. => .function
  | .func _ => .function

/-- Where an operand comes from. -/
def positionOf (f : Func) : Operand → Option Position
  | .register n => (f.definer? n).bind fun e => e.1.position
  | .param i => (f.params[i]?).bind Param.position
  | .free i => (f.free[i]?).bind Param.position
  | .const .. | .builtin .. => none
  | .global _ _ _ _ position => position
  | .func g => g.position

/-- Where an instruction comes from: its own position, else that of its first operand that has one,
else that of the function. -/
def locate (f : Func) (i : Instr) : Option Position :=
  i.position <|> i.operands.findSome? f.positionOf <|> f.position

/-! ## Texts of instructions -/

/-- The texts of operands with commas between them. -/
def mentions (f : Func) (xs : List Operand) : String := ", ".intercalate (xs.map f.mention)

/-- Whether the called function takes any number of arguments. -/
def isVariadic (site : CallSite) : Bool :=
  match site.method, site.callee with
  | some _, _ => site.variadic
  | none, .func g => g.variadic
  | none, .builtin _ _ variadic => variadic
  | none, _ => false

def describeCall (f : Func) (site : CallSite) : String :=
  let target := match site.method with
    | some m => "invoke " ++ f.mention site.callee ++ "." ++ m
    | none => f.mention site.callee
  target ++ "(" ++ f.mentions site.args ++ (if isVariadic site then "..." else "") ++ ")"

def describeConversion (f : Func) (word : String) (target : Ty) (x : Operand) : String :=
  word ++ " " ++ target.text f.pkg ++ " <- " ++ (f.typeOf x).text f.pkg ++ " (" ++ f.mention x ++ ")"

/-- A block number, or `-1` where there is none. -/
def blockText : Option Nat → String
  | some b => toString b
  | none => "-1"

/-- The text of a choice between values: each with the block from which control comes. -/
def describePhi (f : Func) (b : Block) (edges : List (Option Operand)) (comment : String) : String :=
  let edge (e : Option Operand × Nat) : String :=
    blockText b.preds[e.2]? ++ ": " ++ e.1.elim "<nil>" f.mention
  "phi [" ++ ", ".intercalate (edges.zipIdx.map edge) ++ "]" ++
    (if comment = "" then "" else " #" ++ comment)

/-- The text of an instruction of a block. -/
def describe (f : Func) (b : Block) (i : Instr) : String :=
  match i.kind with
  | .alloc heap comment =>
    (if heap then "new " else "local ") ++ i.type.text f.pkg ++ " (" ++ comment ++ ")"
  | .unary op x commaOk => op ++ f.mention x ++ (if commaOk then ",ok" else "")
  | .binary op x y => f.mention x ++ " " ++ op ++ " " ++ f.mention y
  | .convert x => f.describeConversion "convert" i.type x
  | .retype x => f.describeConversion "changetype" i.type x
  | .call site => f.describeCall site
  | .go site => "go " ++ f.describeCall site
  | .defer site stack =>
    "defer " ++ stack.elim "" (fun x => "[" ++ f.mention x ++ "] ") ++ f.describeCall site
  | .closure fn bindings =>
    "make closure " ++ f.mention fn ++
      (if bindings.isEmpty then "" else " [" ++ f.mentions bindings ++ "]")
  | .phi edges comment => f.describePhi b edges comment
  | .store x y => "*" ++ f.mention x ++ " = " ++ f.mention y
  | .branch x =>
    let (yes, no) := match b.succs with
      | [yes, no] => (some yes, some no)
      | _ => (none, none)
    "if " ++ f.mention x ++ " goto " ++ blockText yes ++ " else " ++ blockText no
  | .jump => "jump " ++ blockText (match b.succs with | [next] => some next | _ => none)
  | .leave xs => if xs.isEmpty then "return" else "return " ++ f.mentions xs
  | .abort x => "panic " ++ f.mention x
  | .value _ text _ => text
  | .effect text _ => text

/-- The short text of an instruction, with the register that it defines. -/
def headline (f : Func) (b : Block) (i : Instr) : String :=
  match i.kind with
  | .store x y => "*" ++ f.nameOf x ++ " = " ++ f.nameOf y
  | .unary op x _ => i.name ++ " = " ++ op ++ f.nameOf x
  | _ => if i.isValue && i.name ≠ "" then i.name ++ " = " ++ f.describe b i else f.describe b i

def placed (f : Func) : List (Block × Instr) :=
  f.blocks.flatMap fun b => b.instrs.map (b, ·)

def descriptions (f : Func) : List String := f.placed.map fun e => f.describe e.1 e.2

def headlines (f : Func) : List String := f.placed.map fun e => f.headline e.1 e.2

def positions (f : Func) : List (Option Position) := f.code.map f.locate

end Func

end FlagFlow
