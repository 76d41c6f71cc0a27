import FlagFlow.Dot
import FlagFlow.Findings
import FlagFlow.Flow.Sketch

/-!
# Drawings of functions

The instruction graph of a function as a drawing: every instruction with the state before it,
coloured by the condition under which it is reached.

* `Findings.sketch?`: the instructions with their states, and the edges between them.
* `Findings.drawing?`: the drawing.
* `drawingFile`: the name of the file for a drawing.
-/

namespace FlagFlow

namespace Report

open Dot

/-- The name of an instruction in a drawing. -/
def nodeName (n : Nat) : String := "i" ++ toString n

/-- The colour of instructions that are reached under a condition. -/
def fillColor? : FlagValue → Option String
  | .flag => some "palegreen"
  | .notFlag => some "lightpink"
  | _ => none

def linkAttrs (e : Link) : List Attr :=
  let labels := (if e.fall then ["fall"] else []) ++ (if e.branch then ["branch"] else [])
  ⟨"label", "/".intercalate labels⟩ :: (if e.branch && !e.fall then [⟨"style", "dashed"⟩] else [])

end Report

open Dot Report

namespace Findings

/-- The sketch of the instruction graph, with the state before every instruction. -/
def sketch? (r : Findings) : Option (Sketch Nat (Env Slot)) :=
  r.states.map fun e => .ofGraph e.1.toFlowGraph fun n => (e.2.flowsAt n).before

def nodeAttrs (r : Findings) (n : Nat) (before : Env Slot) : List Attr :=
  [⟨"label", r.headline n ++ "\n" ++ before.text⟩] ++
    (if (r.func.code[n]?).any Instr.isBranch then [⟨"shape", "diamond"⟩] else []) ++
    (match fillColor? before.path with
      | some color => [⟨"style", "filled"⟩, ⟨"fillcolor", color⟩]
      | none => [])

/-- The message when there is nothing to draw. -/
def noDrawing (r : Findings) : String :=
  "no flow graph for " ++ r.name ++ ": " ++ r.errorText?.getD ""

/-- The drawing of a function. -/
def drawing? (r : Findings) : Option Drawing :=
  r.sketch?.map fun g =>
    { name := r.name
      graphAttrs := [⟨"label", r.name⟩]
      nodeAttrs := [⟨"shape", "box"⟩, ⟨"fontname", "monospace"⟩]
      edgeAttrs := [⟨"fontname", "monospace"⟩]
      nodes := g.nodes.entries.map fun e => (nodeName e.2.id, r.nodeAttrs e.1 e.2.before)
      edges := g.links.map fun e => (nodeName e.source, nodeName e.target, linkAttrs e) }

end Findings

/-- A character of a function name as it stands in a file name. -/
def fileNameChar (c : Char) : List Char :=
  if c = '/' || c = ' ' || c = '$' || c = ':' then ['_']
  else if c = '*' || c = '(' || c = ')' then []
  else [c]

/-- The name of the file for the drawing of a function. -/
def drawingFile (name : String) : String := String.ofList (name.toList.flatMap fileNameChar) ++ ".dot"

end FlagFlow
