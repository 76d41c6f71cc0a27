import FlagFlow.FlagValue
import FlagFlow.Files
import FlagFlow.Source.Origin
import FlagFlow.Table

/-!
# Expected branches

A comment in a source file can say that a branch on the flag is expected on its line.

* `expectation?`: what a comment says.
* `expectedIn?`: what the comments of a file say, by file and line.
* `expectedBranches`: what the comments of all source files of a directory say.
-/

namespace FlagFlow

open Source

/-! ## Comments -/

def expectationMarks : List (List Char × FlagValue) :=
  [("@Feature".toList, .flag), ("@NotFeature".toList, .notFlag)]

/-- Whether a character is a letter, a digit or an underscore. -/
def isAsciiWord (c : Char) : Bool := c.isAlphanum || c = '_'

/-- The mark with which a text starts; it does not go on as a word. -/
def markAt? (cs : List Char) : Option FlagValue :=
  expectationMarks.findSome? fun (mark, x) =>
    if mark.isPrefixOf cs && !((cs.drop mark.length).head?.elim false isAsciiWord) then some x else none

def lastMark? : List Char → Option FlagValue
  | [] => none
  | c :: cs => lastMark? cs <|> markAt? (c :: cs)

/-- What follows the first two slashes of a line. -/
def afterSlashes? : List Char → Option (List Char)
  | '/' :: '/' :: cs => some cs
  | _ :: cs => afterSlashes? cs
  | [] => none

/-- What a comment says: the last mark on the first of its lines that has one after two slashes.
Carriage returns do not count. -/
def expectation? (comment : String) : Option FlagValue :=
  (comment.splitOn "\n").findSome? fun line =>
    (afterSlashes? (line.toList.filter (· != '\r'))).bind lastMark?

/-- What the comments of a file say, added to what was `found` before. For every place, which is a
file and a line, the last comment that comes from there counts. -/
def expectedIn? (found : Table (String × Int) FlagValue) (place : List String) (text : String) :
    Option (Table (String × Int) FlagValue) := do
  let ts ← scan? text
  if isFile ts then
    let comments ← commentPlaces? place.dropLast ⟨"/".intercalate place, 1, 1⟩ ts
    return comments.foldl (fun found c => (expectation? c.2).elim found (found.set c.1)) found
  else none

/-! ## Directories -/

/-- Whether a path comes before another one: directory by directory. -/
def comesBefore : List String → List String → Bool
  | [], _ => true
  | _ :: _, [] => false
  | a :: as, b :: bs => if a = b then comesBefore as bs else decide (a < b)

/-- The files below a place whose paths end in `.go`, in order, with their texts. -/
def goFiles (t : FileTree) (place : List String) : List (List String × String) :=
  let files := t.listing.filterMap fun (path, node) =>
    match node with
    | .file c =>
      let names := path.splitOn "/"
      if path.endsWith ".go" && place.isPrefixOf names then some (names, c.text?.getD "") else none
    | .directory => none
  files.mergeSort fun a b => comesBefore a.1 b.1

/-- What the comments of all source files of a directory say, sorted by file and line as text. There is
nothing if the directory does not exist or some file is no source file. -/
def expectedBranches (t : FileTree) (dir : String) : Option (List (String × FlagValue)) :=
  match t.resolve dir with
  | .error _ => none
  | .ok place =>
    if (t.node? place).isNone then none
    else
      ((goFiles t place).foldlM (fun found f => expectedIn? found f.1 f.2) .empty).map fun found =>
        let entries := found.entries.map fun e => (e.1.1 ++ ":" ++ toString e.1.2, e.2)
        entries.mergeSort fun a b => decide (a.1 ≤ b.1)

/-- The message when the expected branches of a directory cannot be read. -/
def expectedFailure (dir : String) : String := "failed to read expected branches in " ++ dir

end FlagFlow
