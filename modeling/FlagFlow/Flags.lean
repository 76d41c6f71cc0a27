import FlagFlow.Text.Blank
import FlagFlow.Text.Quoted

/-!
# Command-line flags

Flags start with one or two dashes and stand before the other arguments. A flag has its value after
an equals sign or in the next argument; a switch has a value only after an equals sign.

* `FlagSpec`: a flag that a command knows.
* `FlagError`: what can be wrong with arguments.
* `parseFlags`: the values of the flags, and the arguments that follow them.
* `usageText`: the text about the flags of a command.
-/

namespace FlagFlow

/-- What a flag takes: any text, nothing or a truth value, a list of words. -/
inductive FlagKind where
  | text
  | switch
  | words
  deriving DecidableEq, Repr

/-- A flag that a command knows, with what it does and the value that it has when it is not
given. -/
structure FlagSpec where
  name : String
  usage : String
  initial : String := ""
  kind : FlagKind := .text

/-- What can be wrong with arguments. -/
inductive FlagError where
  | help
  | unknown (name : String)
  | needsValue (name : String)
  | badSyntax (arg : String)
  | badSwitch (name value : String)
  | badValue (name value reason : String)
  deriving DecidableEq, Repr

/-- The text of an error. -/
def FlagError.message : FlagError → String
  | help => "flag: help requested"
  | unknown name => "flag provided but not defined: -" ++ name
  | needsValue name => "flag needs an argument: -" ++ name
  | badSyntax arg => "bad flag syntax: " ++ arg
  | badSwitch name value =>
    "invalid boolean value " ++ Text.quote value ++ " for -" ++ name ++ ": parse error"
  | badValue name value reason =>
    "invalid value " ++ Text.quote value ++ " for flag -" ++ name ++ ": " ++ reason

/-! ## Values -/

def truth? (s : String) : Option Bool :=
  if ["1", "t", "T", "true", "TRUE", "True"].contains s then some true
  else if ["0", "f", "F", "false", "FALSE", "False"].contains s then some false
  else none

def isGap (c : Char) : Bool := c = ' ' || c = '\t' || c = '\n' || c = '\r'

/-- The state of reading words: between words, in a word, or in quotes. Words are kept with the last
character first. -/
inductive WordState where
  | gap
  | bare (word : List Char)
  | quoted (quote : Char) (word : List Char)

/-- Reads words with gaps between them; a word may stand in quotes. -/
def wordsFrom : WordState → List Char → Except Char (List String)
  | .gap, [] => .ok []
  | .bare w, [] => .ok [String.ofList w.reverse]
  | .quoted q _, [] => .error q
  | .gap, c :: cs =>
    if isGap c then wordsFrom .gap cs
    else if c = '"' || c = '\'' then wordsFrom (.quoted c []) cs
    else wordsFrom (.bare [c]) cs
  | .bare w, c :: cs =>
    if isGap c then (wordsFrom .gap cs).map (String.ofList w.reverse :: ·)
    else wordsFrom (.bare (c :: w)) cs
  | .quoted q w, c :: cs =>
    if c = q then (wordsFrom .gap cs).map (String.ofList w.reverse :: ·)
    else wordsFrom (.quoted q (c :: w)) cs

/-- Reads a list of words: with commas between them, or with gaps if there is a space or a single
quote. -/
def readWords (s : String) : Except String (List String) :=
  let cs := s.toList
  if cs.contains ' ' || cs.contains '\'' then
    match wordsFrom .gap cs with
    | .ok ws => .ok ws
    | .error q => .error ("unterminated " ++ q.toString ++ " string")
  else .ok ((Text.splitCommas s).filter (· != ""))

/-! ## Arguments -/

/-- What an argument is: the first one that is no flag, the mark after the last flag, something that
only starts like a flag, or a flag with the value after the equals sign. -/
inductive Arg where
  | operand
  | stop
  | malformed
  | flag (name : String) (value : Option String)

/-- A name with the value after the first equals sign that is not the first character. -/
def splitValue (cs : List Char) : Arg :=
  match cs with
  | [] => .malformed
  | c :: cs =>
    if c = '-' || c = '=' then .malformed
    else
      let name := String.ofList (c :: cs.takeWhile (· != '='))
      match cs.dropWhile (· != '=') with
      | [] => .flag name none
      | _ :: value => .flag name (some (String.ofList value))

def Arg.ofString (s : String) : Arg :=
  match s.toList with
  | ['-', '-'] => .stop
  | '-' :: '-' :: cs => splitValue cs
  | '-' :: c :: cs => splitValue (c :: cs)
  | _ => .operand

/-- Checks the value of a flag that is no switch. -/
def checkValue (spec : FlagSpec) (value : String) : Except FlagError Unit :=
  match spec.kind with
  | .words =>
    match readWords value with
    | .ok _ => .ok ()
    | .error reason => .error (.badValue spec.name value reason)
  | _ => .ok ()

/-- The values of flags in the order in which they are given, and the other arguments. -/
structure Parsed where
  values : List (String × String) := []
  rest : List String := []

/-- Reads the flags of a command. -/
def parseFlags (specs : List FlagSpec) : List String → Except FlagError Parsed
  | [] => .ok {}
  | arg :: args =>
    let keep (name value : String) (p : Parsed) : Parsed := { p with values := (name, value) :: p.values }
    match Arg.ofString arg with
    | .operand => .ok { rest := arg :: args }
    | .stop => .ok { rest := args }
    | .malformed => .error (.badSyntax arg)
    | .flag name value =>
      match specs.find? fun s => s.name = name with
      | none => .error (if name = "help" || name = "h" then .help else .unknown name)
      | some spec =>
        if spec.kind = .switch then
          match truth? (value.getD "true") with
          | none => .error (.badSwitch name (value.getD "true"))
          | some b => (parseFlags specs args).map (keep name (if b then "true" else "false"))
        else
          match value, args with
          | some v, args =>
            (checkValue spec v).bind fun _ => (parseFlags specs args).map (keep name v)
          | none, [] => .error (.needsValue name)
          | none, v :: args =>
            (checkValue spec v).bind fun _ => (parseFlags specs args).map (keep name v)

namespace Parsed

/-- The value of a flag: the last one that is given. -/
def text (p : Parsed) (spec : FlagSpec) : String :=
  (p.values.reverse.lookup spec.name).getD spec.initial

def switch (p : Parsed) (spec : FlagSpec) : Bool := p.text spec = "true"

def words (p : Parsed) (spec : FlagSpec) : List String :=
  match p.values.reverse.lookup spec.name with
  | some v => (readWords v).toOption.getD []
  | none => []

end Parsed

def FlagSpec.line (s : FlagSpec) : String :=
  "  " ++ s.name ++ ": " ++ s.usage ++ " (default: " ++ Text.quote s.initial ++ ")\n"

/-- The text about a command and its flags, by name. -/
def usageText (usage : String) (specs : List FlagSpec) : String :=
  usage ++ "\nOptions:\n" ++
    String.join ((specs.mergeSort fun a b => decide (a.name ≤ b.name)).map FlagSpec.line)

end FlagFlow
