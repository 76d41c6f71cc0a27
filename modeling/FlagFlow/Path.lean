/-!
# Paths

Paths with slashes, as text.

* `Path.clean`: the shortest path to the same place.
* `Path.join`: a path below another.
* `Path.parent`: the directory of a path.
-/

namespace FlagFlow.Path

/-- Whether a path starts at the root. -/
def isAbsolute (p : String) : Bool := p.toList.head? = some '/'

def parts (p : String) : List String := (p.toList.splitOn '/').map String.ofList

/-- Drops empty names and points, and lets a double point take the name before it. Above the root
there is nothing. The names are given and kept with the last one first. -/
def cleanParts (rooted : Bool) : List String → List String → List String
  | done, [] => done
  | done, part :: rest =>
    if part = "" || part = "." then cleanParts rooted done rest
    else if part = ".." then
      match done with
      | [] => cleanParts rooted (if rooted then [] else [".."]) rest
      | last :: before =>
        if last = ".." then cleanParts rooted (".." :: done) rest else cleanParts rooted before rest
    else cleanParts rooted (part :: done) rest

/-- The shortest path to the same place. -/
def clean (p : String) : String :=
  let rooted := isAbsolute p
  let body := "/".intercalate (cleanParts rooted [] (parts p)).reverse
  if rooted then "/" ++ body else if body = "" then "." else body

/-- The clean path of names that follow each other; empty ones do not count. -/
def join (ps : List String) : String :=
  let ps := ps.filter (· != "")
  if ps.isEmpty then "" else clean ("/".intercalate ps)

/-- The directory of a path: what stands before its last slash. -/
def parent (p : String) : String :=
  match (parts p).reverse with
  | _ :: before@(_ :: _) => clean ("/".intercalate before.reverse ++ "/")
  | _ => "."

end FlagFlow.Path
