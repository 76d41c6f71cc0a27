import FlagFlow.Findings
import FlagFlow.Settings
import FlagFlow.Text.Fold

/-!
# The linter

Reports the branches on the flag in the functions of a package.

* `Analyzer`: the linter with its callees, as one text with commas.
* `Analyzer.ofSettings`: the linter for a list of callees; `Analyzer.callees?` reads them from the
  settings of a program that runs linters.
* `Diagnostic`: what is reported.
* `Analyzer.run`: the diagnostics, up to the first function whose analysis fails.
-/

namespace FlagFlow

/-- What the linter reports about a branch. -/
structure Diagnostic where
  position : Option Position
  message : String
  deriving DecidableEq, Repr

/-- The linter, with commas between the names of its feature callees. -/
structure Analyzer where
  callees : String := defaultCallee
  deriving DecidableEq, Repr

/-- A value in the settings of the linter; the names in a list may have no value. -/
inductive SettingValue where
  | none
  | names (xs : List (Option String))
  | other
  deriving DecidableEq, Repr

namespace Analyzer

def name : String := "featureflow"

def doc : String :=
  "reports branches on the feature flag\n\n" ++
    "The feature flag is the first argument of a call to one of the feature callees\n" ++
    "(by default makeFeature). A branch is reported when its condition is the flag,\n" ++
    "a copy of it, or its comparison with zero."

/-- What the flag for the callees does. -/
def calleesUsage : String :=
  "comma-separated names (or regexes) of the functions whose first argument becomes the feature flag"

/-- What the linter needs to know about a package. -/
def loadMode : String := "typesinfo"

/-- The linter for a list of callees. -/
def ofSettings (callees : List String) : Analyzer :=
  let text := ",".intercalate callees
  ⟨if text = "" then defaultCallee else text⟩

def calleesKey : String := "callees"

/-- The names of a list. A name without value is the one that stood at its place before, if there
was any: `known` has them, also those that a shorter list left over. -/
def namesOver : List String → List (Option String) → List String
  | _, [] => []
  | [], x :: xs => x.getD "" :: namesOver [] xs
  | k :: known, x :: xs => x.getD k :: namesOver known xs

/-- The names after an entry of the settings, with those that are left over from entries before. -/
def withEntry (old : List String × List String) (x : SettingValue) : Option (List String × List String) :=
  match x with
  | .none => some ([], [])
  | .names [] => some ([], [])
  | .names xs =>
    let known := old.1 ++ old.2
    some (namesOver known xs, known.drop xs.length)
  | .other => Option.none

/-- The callees in settings, of which there are no others. The case of the key does not matter, and
the last entry counts. -/
def callees? (entries : List (String × SettingValue)) : Option (List String) :=
  (entries.foldlM (fun old e =>
    if Text.sameFolded e.1 calleesKey then withEntry old e.2 else Option.none) ([], [])).map Prod.fst

/-- The settings under which the linter analyses functions. -/
def settings (a : Analyzer) : Settings := ({} : Settings).withCallees (Text.splitCommas a.callees)

def diagnostic (f : Func) (e : Nat × FlagValue) : Diagnostic :=
  ⟨(f.code[e.1]?).bind f.locate, "branch on feature flag (" ++ e.2.text ++ ")"⟩

/-- Whether a function stands before another, or at the same place. -/
def standsBefore (f g : Func) : Bool := f.pos ≤ g.pos

/-- The functions that are looked at: those with a body that are written in the source, by
position. -/
def functions (fs : List Func) : List Func :=
  (fs.filter fun f => !f.blocks.isEmpty && !f.synthetic).mergeSort standsBefore

/-- The diagnostics of functions in their order, up to the first one whose analysis fails. -/
def runOn (o : Options) : List Func → List Diagnostic × Option AnalysisError
  | [] => ([], none)
  | f :: fs =>
    match f.body? with
    | none => runOn o fs
    | some b =>
      match b.analyze o.isFeature o.maxVisits with
      | .error e => ([], some e)
      | .ok s =>
        match b.shortfall? o.maxVisits s with
        | some e => ([], some e)
        | none =>
          let (ds, e) := runOn o fs
          ((b.flagBranches s).map (diagnostic f) ++ ds, e)

/-- The diagnostics of the functions of a package. -/
def run (a : Analyzer) (fs : List Func) : List Diagnostic × Option AnalysisError :=
  runOn ⟨a.settings.isFeature, 0⟩ (functions fs)

end Analyzer

end FlagFlow
