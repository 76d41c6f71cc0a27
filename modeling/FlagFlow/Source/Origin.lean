import FlagFlow.Source.Token
import FlagFlow.Word

/-!
# Where a text comes from

A comment that starts with the word `line` can say from which file and line the text behind it
comes: as `file:line` or `file:line:column`. A comment of that kind to the end of the line has to
start its line.

* `Attribution.ofComment`: what a comment says.
* `Origin`: where the lines of a file come from, from some line on.
* `commentPlaces?`: the comments of a file, with the places that they come from.
-/

namespace FlagFlow.Source

/-! ## What a comment says -/

/-- What a comment says about the text behind it: nothing, something that is no place, or the line
that it comes from; without a name this is in the file as before. -/
inductive Attribution where
  | silent
  | malformed
  | placed (file : Option String) (line : Int)
  deriving DecidableEq, Repr

/-- The number that decimal digits write, as far as a word holds it. -/
def numeral? (cs : List Char) : Option Nat :=
  let n := cs.foldl (fun n c => n * 10 + (c.toNat - '0'.toNat)) 0
  if !cs.isEmpty && cs.all Char.isDigit && n < unsignedLimit then some n else none

/-- What stands before the last colon, and the number behind it. -/
def lastNumber? (cs : List Char) : Option (List Char × Option Nat) :=
  let after := cs.reverse.takeWhile (· != ':')
  if after.length = cs.length then none
  else some (cs.take (cs.length - after.length - 1), numeral? after.reverse)

/-- The greatest number of a line or column. -/
def maxLine : Int := 0x40000000

/-- The number as a signed word, if it can be that of a line or column. Zero is none. -/
def lineNumber? (n : Nat) : Option Int :=
  let n := (n : Int).bmod unsignedLimit
  if n = 0 || maxLine < n then none else some n

/-- The place that is written after the word `line`. A name without a number is no place; a number
that cannot be one is an error. -/
def Attribution.ofText (cs : List Char) : Attribution :=
  match lastNumber? cs with
  | none => silent
  | some (_, none) => malformed
  | some (before, some n) =>
    match lastNumber? before with
    | some (file, some line) =>
      match lineNumber? n, lineNumber? line with
      | some _, some line => placed (if file.isEmpty then none else some (String.ofList file)) line
      | _, _ => malformed
    | _ =>
      match lineNumber? n with
      | some line => placed (some (String.ofList before)) line
      | none => malformed

/-- What a comment says; `leads` tells whether it starts its line. -/
def Attribution.ofComment (leads : Bool) (comment : List Char) : Attribution :=
  match comment with
  | '/' :: '/' :: 'l' :: 'i' :: 'n' :: 'e' :: ' ' :: cs => if leads then ofText cs else silent
  | '/' :: '*' :: 'l' :: 'i' :: 'n' :: 'e' :: ' ' :: cs => ofText (cs.take (cs.length - 2))
  | _ => silent

/-! ## Places -/

/-- Goes from a directory to a name in it. -/
def enter (place : List String) (name : String) : List String :=
  if name = "" || name = "." then place
  else if name = ".." then if place.all (· = "..") then place ++ [name] else place.dropLast
  else place ++ [name]

/-- The path of a file that is named in a directory. -/
def pathFrom (place : List String) (file : String) : String :=
  if file = "" then ""
  else if file.startsWith "/" then
    "/" ++ "/".intercalate (((file.splitOn "/").foldl enter []).dropWhile (· = ".."))
  else
    match (file.splitOn "/").foldl enter place with
    | [] => "."
    | names => "/".intercalate names

/-- Where the lines of a text come from: line `since` is line `line` of `file`. -/
structure Origin where
  file : String
  line : Int := 1
  since : Nat := 1

/-- The number of the line that line `n` of the text comes from. -/
def Origin.lineAt (o : Origin) (n : Nat) : Int := o.line + (n - o.since)

/-- The line behind a comment that starts on a line. -/
def lineBehind (line : Nat) (comment : List Char) : Nat :=
  line + (if comment.take 2 = ['/', '/'] then 1 else comment.count '\n')

/-- The comments of a file in a directory, with the path and the line that each comes from; `none`
if one of them names a place that cannot be. -/
def commentPlaces? (place : List String) : Origin → List Token → Option (List ((String × Int) × String))
  | _, [] => some []
  | o, .comment line leads text :: ts =>
    let here := ((o.file, o.lineAt line), text)
    match Attribution.ofComment leads text.toList with
    | .silent => (commentPlaces? place o ts).map (here :: ·)
    | .malformed => none
    | .placed file first =>
      let o := ⟨(file.map (pathFrom place)).getD o.file, first, lineBehind line text.toList⟩
      (commentPlaces? place o ts).map (here :: ·)
  | o, _ :: ts => commentPlaces? place o ts

end FlagFlow.Source
