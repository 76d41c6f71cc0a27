import FlagFlow.Findings
import FlagFlow.Search
import FlagFlow.Source.Tree

/-!
# Annotated sources

A block that runs only if the flag is set, or only if it is not, gets a comment that says so.

* `conditions`: the conditions under which the places of a program are reached, by position.
* `inBlock?`: the condition under which a block is entered.
* `annotateTree`: annotates the blocks of a tree.
* `annotate`, `annotateAll`: the annotations of files, and the files that get some.
* `SourceTree.text`: the text of a file.
-/

namespace FlagFlow

/-! ## Conditions -/

/-- A place with the condition under which it is reached. -/
structure ConditionPoint where
  position : Position
  condition : FlagValue
  deriving DecidableEq, Repr

/-- The conditions at the instructions of a function that was analysed without error. -/
def Findings.conditionPoints (r : Findings) : List ConditionPoint :=
  match r.states, r.error with
  | some (_, s), none =>
    r.func.code.zipIdx.filterMap fun e =>
      e.1.position.map fun p => ⟨p, (s.flowsAt e.2).before.path⟩
  | _, _ => []

/-- The conditions of functions, by position; at the same position in the order of the functions. -/
def conditions (rs : List Findings) : List ConditionPoint :=
  (rs.flatMap Findings.conditionPoints).mergeSort fun a b => a.position.le b.position

/-- Whether a position comes after a spot of a file. -/
def Position.isAfter (p : Position) (file : String) (spot : Spot) : Bool :=
  file < p.file || (p.file = file && Spot.before spot (p.line, p.column))

/-- The condition at the first place in a block. The conditions are sorted, so the first place after
the opening brace is found by halving. -/
def inBlock? (points : Array ConditionPoint) (file : String) (b : BlockSpan) : Option FlagValue :=
  let i := searchFirst points.size fun i =>
    (points[i]?).elim true fun p => p.position.isAfter file b.opening
  match points[i]? with
  | none => none
  | some p =>
    if p.position.file = file && Spot.before (p.position.line, p.position.column) b.closing then
      some p.condition
    else none

/-! ## Annotations -/

open Source

/-- What an annotation starts with. -/
def annotationMark : String := "// feature: "

def annotationText (x : FlagValue) : String := annotationMark ++ x.text

/-- Whether a block has an annotation, after its opening brace or in the comments before its first
statement. -/
def isAnnotated (b : Braces) (start : List Note) : Bool :=
  (b.notes ++ start).any fun c => c.text.startsWith annotationMark

/-- An annotation: the opening brace of a block, and the condition under which the block runs. -/
structure Remark where
  spot : Spot
  condition : FlagValue
  deriving DecidableEq, Repr

/-- The condition with which a block is to be annotated: one that depends on the flag, if there is
no annotation yet. -/
def dueCondition? (points : Array ConditionPoint) (file : String) (b : Braces) (start : List Note) :
    Option FlagValue :=
  (inBlock? points file b.span).filter fun x => x.dependsOnFlag && !isAnnotated b start

/-- A block with a comment more after its opening brace. -/
def Source.Braces.addNote (b : Braces) (text : String) : Braces :=
  { b with notes := b.notes ++ [⟨none, text⟩] }

/-- Annotates a block, if it is to be. -/
def annotateBlock (points : Array ConditionPoint) (file : String) (b : Braces) (start : List Note) :
    List Remark × Braces :=
  match dueCondition? points file b start with
  | some x => ([⟨b.span.opening, x⟩], b.addNote (annotationText x))
  | none => ([], b)

/-- Annotates the blocks of conditional statements. Both blocks of a statement are annotated when it
is visited, before the statements in it. -/
def annotateTree (points : Array ConditionPoint) (file : String) : Tree → List Remark × Tree
  | .done text => ([], .done text)
  | .code start text next =>
    let n := annotateTree points file next
    (n.1, .code start text n.2)
  | .branch head body inner link otherwise rest next =>
    let b := annotateBlock points file body inner.start
    let o := otherwise.map fun e => annotateBlock points file e rest.start
    let h := annotateTree points file head
    let i := annotateTree points file inner
    let r := annotateTree points file rest
    let n := annotateTree points file next
    (b.1 ++ ((o.map Prod.fst).getD [] ++ (h.1 ++ (i.1 ++ (r.1 ++ n.1)))),
      .branch h.2 b.2 i.2 link (o.map Prod.snd) r.2 n.2)

/-- A source file. -/
structure SourceTree where
  file : String
  tree : Tree
  deriving DecidableEq, Repr

/-- The annotations of a file, and the file with them. -/
def annotate (points : List ConditionPoint) (src : SourceTree) : List Remark × SourceTree :=
  let t := annotateTree points.toArray src.file src.tree
  (t.1, { src with tree := t.2 })

/-- The files that get annotations, with their annotations. -/
def annotateAll (points : List ConditionPoint) (files : List SourceTree) :
    List (List Remark × SourceTree) :=
  (files.map (annotate points)).filter fun e => !e.1.isEmpty

/-! ## The text of a file -/

namespace SourceTree

/-- The file with a text in which the braces of conditional statements are known. -/
def ofText (file text : String) (ifs : List IfSpan) : SourceTree := ⟨file, .ofText text ifs⟩

/-- The lines of a text; empty ones at its end do not count. -/
def sourceLines (text : String) : List String :=
  ((text.splitOn "\n").reverse.dropWhile (· = "")).reverse

/-- The text of a source file, with comments in columns. -/
def text (src : SourceTree) : String :=
  String.join ((alignComments (sourceLines src.tree.print)).map (· ++ "\n"))

/-- The file as it is read from its text. -/
def reread (src : SourceTree) : SourceTree :=
  ofText src.file src.tree.print (src.tree.located (1, 1)).ifs

end SourceTree

end FlagFlow
