import FlagFlow.Report.Summary
import FlagFlow.Yaml.Writer

/-!
# Summaries as YAML

* `Summary.yaml`: a summary as a record.
* `yamlReport`: a document with summaries. Empty lists, missing states and empty errors are left
  out.
-/

namespace FlagFlow.Report

open Yaml

/-- A list field that is left out if it is empty. -/
def optionalList {α : Type} (key : String) (value : α → Value) (xs : Option (List α)) :
    List (String × Value) :=
  match xs with
  | none | some [] => []
  | some xs => [(key, .list (xs.map value))]

def FactEntry.yaml (f : FactEntry) : Value := .record [("name", .text f.name), ("state", .text f.state)]

def StateEntry.yaml (s : StateEntry) : Value :=
  .record (("path-condition", .text s.path) :: optionalList "variables" FactEntry.yaml s.facts)

/-- A state field that is left out if it is missing. -/
def optionalState (key : String) (s : Option StateEntry) : List (String × Value) :=
  s.elim [] fun s => [(key, s.yaml)]

/-- The states at an instruction as a record. -/
def Point.yaml (p : Point) : Value :=
  .record ([("instruction", .text p.instruction), ("in", p.before.yaml)] ++
    optionalState "fall-out" p.fall ++ optionalState "branch-out" p.branch)

def BranchEntry.yaml (b : BranchEntry) : Value :=
  .record [("instruction", .text b.instruction), ("position", .text b.position),
    ("condition", .text b.condition)]

def Summary.yaml (s : Summary) : Value :=
  .record ([("name", .text s.name), ("position", .text s.position)] ++
    (if s.error = "" then [] else [("error", .text s.error)]) ++ [("loops", .int s.loops)] ++
    optionalList "branches" BranchEntry.yaml s.branches ++ optionalList "points" Point.yaml s.points)

def yamlReport (ss : List Summary) : String := document (ss.map Summary.yaml)

end FlagFlow.Report
