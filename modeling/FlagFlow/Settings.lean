import FlagFlow.Path
import FlagFlow.Regex.Parse
import FlagFlow.Text.Blank
import FlagFlow.Transfer
import FlagFlow.Word
import FlagFlow.Yaml.Decode

/-!
# Settings

The settings of an analysis: which functions make their first argument carry the flag, which
packages are analysed, how long, and how the results are written.

* `CalleeSpec`: the name of a feature callee, read as a regular expression if it is one.
* `ReportFormat`: the formats of a report.
* `Settings`: all settings; `Settings.parse?` reads them from YAML.
* `Settings.isFeature`, `Settings.selectsPackage`: what the settings say about functions and
  packages.
-/

namespace FlagFlow

/-! ## Feature callees -/

/-- The specification of feature callees by a name: they match the expression, or have the name if
there is none. -/
structure CalleeSpec where
  name : String
  regex : Option Regex

namespace CalleeSpec

/-- A name that stands for itself only. -/
def exact (name : String) : CalleeSpec := ⟨name, none⟩

/-- A name that is read as a regular expression for the whole of a callee, if that is valid. -/
def compile (name : String) : CalleeSpec := ⟨name, Regex.parse? ("^(?:" ++ name ++ ")$")⟩

def covers (s : CalleeSpec) (callee : String) : Bool :=
  match s.regex with
  | some r => r.matchesIn callee
  | none => s.name = callee

/-- The names of a list without the blanks around them; empty names do not count, and the default
stands for a list that has no others. -/
def cleanNames (names : List String) : List String :=
  let names := (names.map Text.trim).filter (· != "")
  if names.isEmpty then [defaultCallee] else names

/-- The specifications of a list of names. -/
def ofNames (names : List String) : List CalleeSpec := (cleanNames names).map compile

def anyCovers (specs : List CalleeSpec) (callee : String) : Bool := specs.any fun s => s.covers callee

end CalleeSpec

/-! ## Report formats -/

/-- The format of a report. -/
inductive ReportFormat where
  | text
  | yaml
  | msgpack
  deriving DecidableEq, Repr

namespace ReportFormat

def name : ReportFormat → String
  | text => "text"
  | yaml => "yaml"
  | msgpack => "msgpack"

def parse? (s : String) : Option ReportFormat := [text, yaml, msgpack].find? fun f => f.name = s

/-- The complaint about a name that no format has. -/
def parseFailure (s : String) : String := "unknown report format " ++ Text.quote s

end ReportFormat

/-! ## Settings -/

/-- How much is logged by default. -/
def infoLevel : Int := 3

/-- The level from which on details are shown. -/
def debugLevel : Int := 4

/-- The settings of an analysis. Without a directory reports go to the standard output, and without
a filter the packages that are asked for are analysed. `source` is the file that the settings come
from. -/
structure Settings where
  callees : List CalleeSpec := [.compile defaultCallee]
  reportsDir : String := ""
  packageFilter : String := ""
  maxVisits : Int := 0
  numRoutines : Int := 0
  format : ReportFormat := .text
  logLevel : Int := infoLevel
  silenceWarn : Bool := false
  source : String := ""

/-- Why settings could not be read: the text is no YAML of their shape, or there is no such report
format. -/
inductive SettingsError where
  | malformed
  | unknownFormat (name : String)
  deriving DecidableEq, Repr

def SettingsError.message : SettingsError → String
  | malformed => "could not unmarshal config file"
  | unknownFormat name => ReportFormat.parseFailure name

namespace Settings

def verbose (s : Settings) : Bool := debugLevel ≤ s.logLevel

/-- Whether a function makes its first argument carry the flag. -/
def isFeature (s : Settings) (callee : String) : Bool := CalleeSpec.anyCovers s.callees callee

/-- Whether the functions of a package pass the filter: a regular expression that matches somewhere,
or a prefix if it is not valid. -/
def selectsPackage (s : Settings) (package : String) : Bool :=
  if s.packageFilter = "" then true
  else match Regex.parse? s.packageFilter with
    | some r => r.matchesIn package
    | none => package.startsWith s.packageFilter

/-- Reads all callee names as regular expressions. -/
def recompile (s : Settings) : Settings :=
  { s with callees := s.callees.map fun c => .compile c.name }

def withCallees (s : Settings) (names : List String) : Settings :=
  { s with callees := CalleeSpec.ofNames names }

/-- Another package filter. All expressions are read anew. -/
def withPackageFilter (s : Settings) (filter : String) : Settings :=
  { s.recompile with packageFilter := filter }

/-- One more callee, which stands for itself until the expressions are read anew. -/
def addCallee (s : Settings) (name : String) : Settings :=
  { s with callees := s.callees ++ [.exact name] }

/-- The path of a file that is named relative to the file of the settings. -/
def relativePath (s : Settings) (file : String) : String := Path.join [Path.parent s.source, file]

end Settings

/-! ## Reading -/

namespace Settings

open Yaml

/-- What a settings file holds: callees and format by name, and the other settings. -/
structure File where
  callees : List String := []
  format : String := ReportFormat.text.name
  base : Settings := {}

/-- A field whose value changes a file; null changes nothing. -/
def field {α : Type} (read : Node → Decode (Option α)) (put : α → File → File) (n : Node) (f : File) :
    Decode File := do
  match ← read n with
  | some a => return put a f
  | none => return f

/-- A field whose value changes the settings. -/
def setting {α : Type} (read : Node → Decode (Option α)) (put : α → Settings → Settings) :
    Node → File → Decode File :=
  field read fun a f => { f with base := put a f.base }

/-- The options. -/
def optionFields : Decode.Fields File :=
  [("reports-dir", setting Decode.text? fun x s => { s with reportsDir := x }),
   ("pkg-filter", setting Decode.text? fun x s => { s with packageFilter := x }),
   ("max-visits", setting Decode.int? fun x s => { s with maxVisits := x }),
   ("num-routines", setting Decode.int? fun x s => { s with numRoutines := x }),
   ("report-format", field Decode.text? fun x f => { f with format := x }),
   ("log-level", setting Decode.int? fun x s => { s with logLevel := x }),
   ("silence-warn", setting Decode.bool? fun x s => { s with silenceWarn := x })]

def fileFields : Decode.Fields File :=
  [("options", Decode.record optionFields),
   ("feature-callees", fun n f => do return { f with callees := ← Decode.texts n })]

/-- Reads settings from YAML. Settings that are missing have their defaults, also a log level of
zero and an empty report format. -/
def parse? (text : String) : Except SettingsError Settings := do
  let file ← match (Document.ofText? text).bind fun doc =>
      match doc with
      | some doc => doc.decode? fun root => Decode.record fileFields root {}
      | none => some {} with
    | some file => pure file
    | none => throw .malformed
  let name := if file.format = "" then ReportFormat.text.name else file.format
  match ReportFormat.parse? name with
  | none => throw (.unknownFormat name)
  | some format =>
    let names := if file.callees.isEmpty then [defaultCallee] else file.callees
    let level := if file.base.logLevel = 0 then infoLevel else file.base.logLevel
    return { file.base with callees := names.map .compile, format, logLevel := level }

end Settings

end FlagFlow
