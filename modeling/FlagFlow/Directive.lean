import FlagFlow.Position
import FlagFlow.Text.Blank

/-!
# Directives in comments

A comment can tell the analysis to leave out the function that it documents.

* `Directive`: the directives.
* `Directive.ofComment?`: the directive that a comment is.
* `SourceFile`: the comments and declarations of a file.
* `SourceFile.directives`: its directives by line.
* `SourceFile.ignored`: where the functions are declared that are left out.
-/

namespace FlagFlow

/-- What a comment tells the analysis: to leave out the documented function. -/
inductive Directive where
  | ignore
  deriving DecidableEq, Repr

namespace Directive

def name : Directive → String
  | ignore => "ignore"

/-- What stands before the name of a directive. -/
def marker : String := "featureflow:"

/-- What follows the first place where `mark` stands in a text. -/
def after? (mark : List Char) : List Char → Option (List Char)
  | [] => if mark.isEmpty then some [] else none
  | c :: cs => if mark.isPrefixOf (c :: cs) then some ((c :: cs).drop mark.length) else after? mark cs

/-- The directive that a comment is: the marker somewhere, and then nothing but the name. -/
def ofComment? (text : String) : Option Directive :=
  (after? marker.toList text.toList).bind fun rest =>
    if Text.trim (String.ofList rest) = ignore.name then some ignore else none

end Directive

/-- A comment with its marks, and where it starts. -/
structure Comment where
  text : String
  position : Option Position

/-- The declaration of a function: where its name stands, and the number of the group of comments
that document it. -/
structure Declaration where
  position : Option Position
  doc : Option Nat

/-- What is known about a source file; comments that follow each other are in one group. -/
structure SourceFile where
  name : String
  comments : List (List Comment) := []
  declarations : List Declaration := []

namespace SourceFile

/-- The directive of a comment with a position. -/
def directive? (c : Comment) : Option (Position × Directive) :=
  match c.position, Directive.ofComment? c.text with
  | some p, some d => some (p, d)
  | _, _ => none

/-- The directives of a file, with the lines on which they stand. -/
def directives (f : SourceFile) : List (String × Nat × Directive) :=
  f.comments.flatten.filterMap fun c => (directive? c).map fun e => (e.1.file, e.1.line, e.2)

/-- Whether a comment stands on a line with a directive. -/
def hasDirective (ds : List (String × Nat × Directive)) (c : Comment) : Bool :=
  match c.position with
  | some p => ds.any fun d => d.1 = p.file && d.2.1 = p.line && d.2.2 = .ignore
  | none => false

/-- Where the functions of a file are declared that are documented by one of the directives `ds`. -/
def ignored (f : SourceFile) (ds : List (String × Nat × Directive)) : List Position :=
  f.declarations.filterMap fun d =>
    d.doc.bind fun group =>
      if (f.comments.getD group []).any (hasDirective ds) then d.position else none

end SourceFile

end FlagFlow
