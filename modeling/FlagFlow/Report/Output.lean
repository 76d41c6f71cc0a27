import FlagFlow.Files
import FlagFlow.Path
import FlagFlow.Report.Drawing
import FlagFlow.Report.Msgpack
import FlagFlow.Report.Text
import FlagFlow.Report.Yaml
import FlagFlow.Settings

/-!
# Where reports and drawings go

* `ReportFormat.file`: the name of the file for a report.
* `reportContent`: a report in the format of the settings.
* `writeReport`: writes the report to a file, or to the standard output.
* `drawAll`: writes the drawings of functions to files.
-/

namespace FlagFlow

/-- The name of the file for a report of a format. -/
def reportFile : Option ReportFormat → String
  | some .yaml => "featureflow-report.yaml"
  | some .msgpack => "featureflow-report.msgpack"
  | _ => "featureflow-report.txt"

/-- The report about functions in a format. -/
def reportContent (format : ReportFormat) (colors verbose : Bool) (rs : List Findings) : Content :=
  match format with
  | .text => .text (textReport colors verbose rs)
  | .yaml => .text (Report.yamlReport (rs.map Findings.summary))
  | .msgpack => .binary (Report.msgpackReport (some (rs.map Findings.summary)))

/-- What a report adds to the error of a writer. -/
def ReportFormat.failure : ReportFormat → String
  | text => "error while writing report: "
  | yaml => "error while writing report: failed to encode yaml: yaml: write error: "
  | msgpack => "error while writing report: failed to encode msgpack: "

/-- What a drawing adds to the error of a writer. -/
def drawingFailure : String := "error while writing graph: "

/-- The number of bytes of a content. -/
def Content.size : Content → Nat
  | text s => s.utf8ByteSize
  | binary bs => bs.length

/-- The error of writing a content to a writer that takes a limited number of bytes. -/
def limited (limit : Nat) (c : Content) (failure : String) : Option String :=
  if c.size ≤ limit then none else some (failure ++ "limit reached")

/-- What became of a report: the file that was written, empty if there is none, what went to the
standard output, and the files afterwards. -/
structure Written where
  file : String
  output : Content
  tree : FileTree

/-- Writes a report to a file in the directory for reports, or to the standard output if there is no
such directory. Files have no colours. -/
def writeReport (s : Settings) (colors verbose : Bool) (rs : List Findings) (t : FileTree) :
    Except String Written :=
  if s.reportsDir = "" then .ok ⟨"", reportContent s.format colors verbose rs, t⟩
  else
    let file := Path.join [s.reportsDir, reportFile (some s.format)]
    match t.write file (reportContent s.format false verbose rs) with
    | .ok t => .ok ⟨file, .text "", t⟩
    | .error e => .error ("could not create report file: " ++ e.message)

/-- What became of drawings: the files that were written, why writing ended early, and the files
afterwards. -/
structure Drawn where
  files : List String
  error : Option String
  tree : FileTree

/-- Writes a drawing, unless an error came before. -/
def drawOne (dir : String) (d : Drawn) (drawing : Dot.Drawing) : Drawn :=
  if d.error.isSome then d
  else
    let file := Path.join [dir, drawingFile drawing.name]
    match d.tree.write file (.text drawing.render) with
    | .ok t => { d with files := d.files ++ [file], tree := t }
    | .error e => { d with error := some ("could not create file: " ++ e.message) }

/-- Writes the drawings of functions to a directory, up to the first error. -/
def drawAll (rs : List Findings) (dir : String) (t : FileTree) : Drawn :=
  match t.makeDirectories dir with
  | .error e => ⟨[], some ("could not create directory " ++ dir ++ ": " ++ e.message), t⟩
  | .ok t => (rs.filterMap Findings.drawing?).foldl (drawOne dir) ⟨[], none, t⟩

end FlagFlow
