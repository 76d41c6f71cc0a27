import FlagFlow.Annotate
import FlagFlow.Command
import FlagFlow.Hint
import FlagFlow.Lint
import FlagFlow.Program
import FlagFlow.Report.Output

/-!
# The command line

What the commands print and write, given the files and the program that is loaded.

* `World`: the files, and what loading a program gives.
* `Outcome`: the exit code, what is printed, and the files afterwards.
* `run`: the command with the tools; `settingsFile?` is the file that it reads its settings from.
* `runLint`: the linter on its own.
-/

namespace FlagFlow

/-- What loading gives: a program, and the conditional statements of its files, in the order in
which they start. -/
structure Loaded where
  program : Program
  ifs : String → List IfSpan

/-- What a command works on: the files, and the program that its arguments name, or why there is
none. -/
structure World where
  tree : FileTree
  load : List String → Except String Loaded

/-- What a command does: its exit code, what it prints, and the files afterwards. -/
structure Outcome where
  code : Nat := 0
  stdout : String := ""
  stderr : String := ""
  tree : FileTree

namespace Outcome

/-- Prints to the standard error before the rest. -/
def afterErr (text : String) (o : Outcome) : Outcome := { o with stderr := text ++ o.stderr }

end Outcome

/-! ## Errors and usage -/

def version : String := "v0.1.0"

/-- What the command does. -/
def commandUsage : String :=
  "featureflow: feature flag dataflow analysis for Go\nUsage:\n" ++
    "  featureflow [tool] [options] <package path(s)>\nTools:\n" ++
    "  - report: prints the branches that depend on the feature flag, and the analysis states with -verbose\n" ++
    "  - render: writes the flow graph of each function, with the analysis states, in DOT format\n" ++
    "  - annotate: comments the blocks that only run when the feature flag is set (or unset)\n" ++
    "Examples:\n  featureflow report -config config.yaml ./...\n" ++
    "  featureflow annotate -callees \"Enabled\" -w ./..."

/-- The exit code of a command that failed. -/
def failureCode : Nat := 2

/-- The outcome of an error, with a hint if there is one. -/
def failWith (message : String) (t : FileTree) : Outcome :=
  { code := failureCode
    stderr := "error: " ++ message ++ "\n" ++ (hint? message).elim "" fun h => "Hint: " ++ h ++ "\n"
    tree := t }

/-! ## Tools -/

/-- What the analysis of a program gives to a tool. -/
structure Analyzed where
  settings : Settings
  loaded : Loaded
  findings : List Findings
  log : String
  tree : FileTree

/-- Loads and analyses the program that the arguments name. -/
def loadAndAnalyze (i : Invocation) (w : World) : Except Outcome Analyzed :=
  match i.settings w.tree with
  | .error e => .error (failWith (Settings.loadFailure i.configPath e) w.tree)
  | .ok (s, t) =>
    let filter : Log.Filter := ⟨s.logLevel, s.silenceWarn⟩
    let loading := filter.render [⟨.info, "Loading " ++ bracketed i.args ++ "\n"⟩]
    match w.load i.args with
    | .error e => .error ((failWith ("could not load program: " ++ e) t).afterErr loading)
    | .ok loaded =>
      let rs := loaded.program.analyze s
      .ok ⟨s, loaded, rs, loading ++ filter.render (Program.journal s rs "T"), t⟩

/-- Prints the report, or writes it to a file. A failed analysis of a function is an error in the
end. -/
def runReport (i : Invocation) (a : Analyzed) : Outcome :=
  let s := match ReportFormat.parse? i.format with
    | some format => { a.settings with format }
    | none => a.settings
  match writeReport s false i.verbose a.findings a.tree with
  | .error e => failWith e a.tree
  | .ok w =>
    let note := if w.file = "" then "" else "Report written in " ++ w.file ++ "\n"
    let after := match failureText? a.findings with
      | some e => failWith e w.tree
      | none => { tree := w.tree }
    { after with stdout := w.output.text?.getD "", stderr := note ++ after.stderr }

def runRender (i : Invocation) (a : Analyzed) : Outcome :=
  let d := drawAll a.findings i.out a.tree
  let after : Outcome := match d.error with
    | some e => failWith ("could not render flow graphs: " ++ e) d.tree
    | none => { stderr := "Wrote " ++ toString d.files.length ++ " graphs\n", tree := d.tree }
  after.afterErr ("Writing graphs in " ++ i.out ++ "\n")

/-- The files of the requested packages with their annotations, without those that get none. -/
def annotatedFiles (a : Analyzed) : List (List Remark × SourceTree) :=
  annotateAll (conditions a.findings) <| a.loaded.program.files.map fun f =>
    let text := match a.tree.read f.name with
      | .ok c => c.text?.getD ""
      | .error _ => ""
    .ofText f.name text (a.loaded.ifs f.name)

/-- Overwrites a source file, which has to exist. -/
def overwrite (t : FileTree) (src : SourceTree) : Except String FileTree :=
  match t.find src.file with
  | .error e => .error ("could not write " ++ src.file ++ ": stat " ++ src.file ++ ": " ++ e.message)
  | .ok _ =>
    match t.write src.file (.text src.text) with
    | .ok t => .ok t
    | .error e => .error e.message

/-- Writes annotated files one after the other. -/
def writeAnnotated (t : FileTree) : List (List Remark × SourceTree) → Outcome
  | [] => { tree := t }
  | (as, src) :: rest =>
    match overwrite t src with
    | .error e => failWith e t
    | .ok t =>
      (writeAnnotated t rest).afterErr (src.file ++ ": " ++ toString as.length ++ " annotations\n")

/-- Prints the annotated files, or writes them. -/
def runAnnotate (i : Invocation) (a : Analyzed) : Outcome :=
  let files := annotatedFiles a
  if i.write then writeAnnotated a.tree files
  else
    { stdout := String.join (files.map fun e => "// " ++ e.2.file ++ "\n" ++ e.2.text), tree := a.tree }

/-- Runs a tool with its arguments. -/
def Tool.run (tool : Tool) (args : List String) (w : World) : Outcome :=
  match tool.parse args with
  | .error (.flags .help) => { stderr := tool.help, tree := w.tree }
  | .error (.flags e) => { code := failureCode, stderr := e.message ++ "\n" ++ tool.help, tree := w.tree }
  | .error e => failWith e.message w.tree
  | .ok i =>
    match loadAndAnalyze i w with
    | .error o => o
    | .ok a =>
      let o := match tool with
        | .render => runRender i a
        | .annotate => runAnnotate i a
        | _ => runReport i a
      o.afterErr a.log

/-- Runs the command. -/
def run (args : List String) (w : World) : Outcome :=
  match args with
  | [] =>
    { code := failureCode, stderr := "error: expected subcommand\n" ++ commandUsage ++ "\n",
      tree := w.tree }
  | command :: args =>
    if command = "-help" || command = "--help" then { stdout := commandUsage ++ "\n", tree := w.tree }
    else if command = "-version" || command = "--version" then
      { stdout := version ++ "\n", tree := w.tree }
    else match [Tool.report, .render, .annotate].find? fun t => t.name = command with
      | some tool => tool.run args w
      | none =>
        { code := failureCode
          stderr := "error: unexpected command: " ++ command ++ "\nusage:\n" ++ commandUsage ++ "\n"
          tree := w.tree }

/-- The settings file that a command reads, if its arguments name one. -/
def settingsFile? : List String → Option String
  | [] => none
  | command :: args =>
    ([Tool.report, .render, .annotate].find? fun t => t.name = command).bind fun tool =>
      ((tool.parse args).toOption.map Invocation.configPath).filter (· != "")

/-! ## The linter -/

/-- The flag for the feature callees of the linter. -/
def lintCallees : FlagSpec := ⟨"callees", Analyzer.calleesUsage, defaultCallee, .text⟩

/-- The exit code of the linter when it has something to report. -/
def diagnosticsCode : Nat := 3

def Diagnostic.line (d : Diagnostic) : String := positionText d.position ++ ": " ++ d.message ++ "\n"

/-- Runs the linter on the packages that its arguments name. -/
def runLint (args : List String) (w : World) : Outcome :=
  match parseFlags [lintCallees] args with
  | .error e => { code := failureCode, stderr := e.message ++ "\n", tree := w.tree }
  | .ok p =>
    match w.load p.rest with
    | .error e => { code := 1, stderr := Analyzer.name ++ "-lint: " ++ e ++ "\n", tree := w.tree }
    | .ok loaded =>
      let analyzer : Analyzer := ⟨p.text lintCallees⟩
      let results := loaded.program.packages.map fun pkg =>
        analyzer.run (loaded.program.functions.filter fun f => f.pkg = pkg.path)
      let lines := ((results.flatMap Prod.fst).map Diagnostic.line).eraseDups
      { code := if results.any (·.2.isSome) then 1 else if lines.isEmpty then 0 else diagnosticsCode
        stderr := String.join lines
        tree := w.tree }

end FlagFlow
