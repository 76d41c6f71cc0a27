import FlagFlow.Files
import FlagFlow.Settings

/-!
# Settings from files

* `LoadError`: why settings could not be loaded.
* `Settings.load`: reads a settings file and makes the directory for reports, which is named
  relative to the file.
-/

namespace FlagFlow

/-- Why settings could not be loaded: the file could not be read, or holds no settings, or the
directory for reports could not be made. -/
inductive LoadError where
  | unreadable (f : FileFailure)
  | invalid (file : String) (e : SettingsError)
  | noDirectory (path : String)
  deriving DecidableEq, Repr

def LoadError.message : LoadError → String
  | unreadable f => "could not read config file: " ++ f.message
  | invalid file e => file ++ ": " ++ e.message
  | noDirectory path => "could not create directory " ++ path

namespace Settings

/-- The path of the directory for reports: relative paths start at the file of the settings. -/
def placeReports (s : Settings) : Settings :=
  if Path.isAbsolute s.reportsDir || s.source = "" then s
  else { s with reportsDir := s.relativePath s.reportsDir }

/-- Makes the directory for reports, if there is to be one and nothing is in its place yet. -/
def makeReportsDir (s : Settings) (t : FileTree) : Except LoadError FileTree :=
  match t.makeDirectory s.reportsDir with
  | .ok t => .ok t
  | .error e => if e.cause = .taken then .ok t else .error (.noDirectory s.reportsDir)

/-- Reads a settings file. -/
def load (t : FileTree) (file : String) : Except LoadError (Settings × FileTree) :=
  match t.read file with
  | .error e => .error (.unreadable e)
  | .ok content =>
    match parse? (content.text?.getD "") with
    | .error e => .error (.invalid file e)
    | .ok s =>
      let s := { s with source := file }
      if s.reportsDir = "" then .ok (s, t)
      else
        let s := s.placeReports
        (s.makeReportsDir t).map fun t => (s, t)

/-- What the tools add to the error of loading. -/
def loadFailure (file : String) (e : LoadError) : String :=
  "failed to load config file " ++ file ++ ": " ++ e.message

end Settings

end FlagFlow
