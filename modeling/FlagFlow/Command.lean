import FlagFlow.Flags
import FlagFlow.Settings.Load

/-!
# The commands and their flags

* `Tool`: the tools, with their flags and usage texts.
* `Invocation`: the flags that a tool is run with.
* `Tool.parse`: reads the arguments of a tool.
* `Invocation.settings`: the settings that the flags ask for.
-/

namespace FlagFlow

/-- A tool, or the flags that all of them have. -/
inductive Tool where
  | common
  | report
  | render
  | annotate
  deriving DecidableEq, Repr

/-- What is wrong with the arguments of a tool. -/
inductive ToolError where
  | flags (e : FlagError)
  | unknownFormat (name : String)
  | noOutput
  deriving DecidableEq, Repr

/-- The text of an error; `FlagError.message` alone for those of flags. -/
def ToolError.message : ToolError → String
  | flags e => e.message
  | unknownFormat name => ReportFormat.parseFailure name
  | noOutput => "render needs an output folder"

namespace Tool

def name : Tool → String
  | common => "common"
  | report => "report"
  | render => "render"
  | annotate => "annotate"

/-- What a tool does. -/
def usage : Tool → String
  | common => "usage"
  | report =>
    "Report the feature-dependent branches of a program.\n" ++
      "Usage:\n  featureflow report [options] <package path(s)>\n" ++
      "Examples:\nPrint the branches on the flag introduced by makeFeature\n" ++
      "  % featureflow report ./...\n" ++
      "Print every instruction with its state, for the functions of one package\n" ++
      "  % featureflow report -verbose -pkg-filter example.com/app ./...\n" ++
      "Export the results as yaml\n  % featureflow report -format yaml ./... > report.yaml\n"
  | render =>
    "Render the flow graphs of the analyzed functions, with the state at each instruction.\n" ++
      "Usage:\n  featureflow render [options] <package path(s)>\n" ++
      "Examples:\nWrite one .dot file per function of package example.com/app in the graphs folder\n" ++
      "  % featureflow render -o graphs -pkg-filter example.com/app ./...\n"
  | annotate =>
    "Annotate the blocks whose path condition is the feature flag or its negation.\n" ++
      "Usage:\n  featureflow annotate [options] <package path(s)>\n" ++
      "Examples:\nPrint the annotated files\n  % featureflow annotate ./...\n" ++
      "Rewrite the files in place\n  % featureflow annotate -w ./...\n"

end Tool

/-! ## Flags -/

def configFlag : FlagSpec := ⟨"config", "config file path for analysis", "", .text⟩

def verboseFlag : FlagSpec := ⟨"verbose", "verbose printing on standard output", "false", .switch⟩

/-- The flag for tests. -/
def withTestFlag : FlagSpec := ⟨"with-test", "load tests during analysis", "false", .switch⟩

def filterFlag : FlagSpec :=
  ⟨"pkg-filter", "only analyze the functions of the packages matching this regex", "", .text⟩

def calleesFlag : FlagSpec :=
  ⟨"callees", "comma-separated feature callees (overrides the config)", "", .text⟩

def tagsFlag : FlagSpec :=
  ⟨"build-tags",
    "a list of \x60build tags\x60 to consider satisfied during the build. For more information about " ++
      "build tags, see the description of build constraints in the documentation for the go/build package",
    "<tagsFlag>", .words⟩

def formatFlag : FlagSpec :=
  ⟨"format", "report format, one of text, yaml, msgpack (overrides the config)", "", .text⟩

/-- The flag for the directory of the drawings. -/
def outFlag : FlagSpec := ⟨"o", "output folder for the .dot files", "featureflow-graphs", .text⟩

def writeFlag : FlagSpec :=
  ⟨"w", "write the annotated files instead of printing them", "false", .switch⟩

/-- The flags of a tool. -/
def Tool.flags (t : Tool) : List FlagSpec :=
  [configFlag, verboseFlag, withTestFlag, filterFlag, calleesFlag, tagsFlag] ++
    match t with
    | .common => []
    | .report => [formatFlag]
    | .render => [outFlag]
    | .annotate => [writeFlag]

/-- The text about a tool and its flags. -/
def Tool.help (t : Tool) : String := usageText t.usage t.flags

/-- The flags that a tool is run with, and the arguments after them. -/
structure Invocation where
  args : List String
  configPath : String
  verbose : Bool
  withTest : Bool
  packageFilter : String
  callees : String
  tags : List String
  format : String
  out : String
  write : Bool

/-- Reads the arguments of a tool. -/
def Tool.parse (t : Tool) (args : List String) : Except ToolError Invocation :=
  match parseFlags t.flags args with
  | .error e => .error (.flags e)
  | .ok p =>
    let format := p.text formatFlag
    if t = .report && format ≠ "" && (ReportFormat.parse? format).isNone then
      .error (.unknownFormat format)
    else if t = .render && p.text outFlag = "" then .error .noOutput
    else .ok
      { args := p.rest
        configPath := p.text configFlag
        verbose := p.switch verboseFlag
        withTest := p.switch withTestFlag
        packageFilter := p.text filterFlag
        callees := p.text calleesFlag
        tags := p.words tagsFlag
        format
        out := p.text outFlag
        write := p.switch writeFlag }

/-- The text of a list of words. -/
def bracketed (words : List String) : String := "[" ++ " ".intercalate words ++ "]"

/-- The message about arguments that cannot be read. -/
def Tool.parseFailure (t : Tool) (args : List String) (e : FlagError) : String :=
  "failed to parse command " ++ t.name ++ " with args " ++ bracketed args ++ ": " ++ e.message

namespace Invocation

/-- The settings that the flags ask for: those of the file, changed by the other flags. -/
def settings (i : Invocation) (t : FileTree) : Except LoadError (Settings × FileTree) :=
  (if i.configPath = "" then .ok ({}, t) else Settings.load t i.configPath).map fun (s, t) =>
    let s := if i.packageFilter = "" then s else s.withPackageFilter i.packageFilter
    let s := if i.callees = "" then s else s.withCallees (Text.splitCommas i.callees)
    let s := if i.verbose && s.logLevel < debugLevel then { s with logLevel := debugLevel } else s
    (s, t)

end Invocation

end FlagFlow
