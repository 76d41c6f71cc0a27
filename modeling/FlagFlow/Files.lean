import FlagFlow.Path
import FlagFlow.Table

/-!
# Trees of files

A file system as a value: the files and directories below a working directory, by path.

* `FileError`, `FileFailure`: what can go wrong, and the message with the action and the path.
* `FileTree`: files and directories by path.
* `FileTree.resolve`: the place that a path leads to.
* `FileTree.read`, `FileTree.write`, `FileTree.makeDirectory`, `FileTree.makeDirectories`:
  operations.
* `FileTree.paths`: all paths, sorted.
-/

namespace FlagFlow

/-- What can go wrong with a file; a path is `taken` if there is something at it already. -/
inductive FileError where
  | missing
  | taken
  | isDirectory
  | notDirectory
  | nameTooLong
  | invalidPath
  deriving DecidableEq, Repr

/-- The text of an error. -/
def FileError.message : FileError → String
  | missing => "no such file or directory"
  | taken => "file exists"
  | isDirectory => "is a directory"
  | notDirectory => "not a directory"
  | nameTooLong => "file name too long"
  | invalidPath => "invalid argument"

/-- An action on a path that failed, with its cause. -/
structure FileFailure where
  action : String
  path : String
  cause : FileError
  deriving DecidableEq, Repr

def FileFailure.message (f : FileFailure) : String := f.action ++ " " ++ f.path ++ ": " ++ f.cause.message

/-- The content of a file. -/
inductive Content where
  | text (s : String)
  | binary (bs : List UInt8)
  deriving DecidableEq, Repr

/-- The text of a content; that of bytes is not looked at. -/
def Content.text? : Content → Option String
  | text s => some s
  | binary _ => none

/-- What is at a path. -/
inductive FileNode where
  | directory
  | file (content : Content)
  deriving DecidableEq, Repr

/-- The files and directories below a working directory, whose absolute path may be known. A path is
a list of names; the working directory itself is not listed. -/
structure FileTree where
  entries : Table (List String) FileNode
  root : Option String := none

namespace FileTree

def empty : FileTree := ⟨.empty, none⟩

def above : String := ".."

/-- What is at a path. The working directory and those above it are directories. -/
def node? (t : FileTree) (p : List String) : Option FileNode :=
  if p.all (· = above) then some .directory else t.entries.find? p

/-- The longest name of a file, in bytes. -/
def maxName : Nat := 255

def maxPath : Nat := 4095

/-- Goes from a place to a name in it. -/
def step (t : FileTree) (p : List String) (name : String) : Except FileError (List String) :=
  match t.node? p with
  | none => .error .missing
  | some (.file _) => .error .notDirectory
  | some .directory =>
    if name = "" || name = "." then .ok p
    else if name = above then .ok (if p.all (· = above) then p ++ [above] else p.dropLast)
    else if maxName < name.utf8ByteSize then .error .nameTooLong
    else .ok (p ++ [name])

/-- A path as it is written from the working directory. -/
def fromRoot (t : FileTree) (path : String) : String :=
  match t.root with
  | some root =>
    let top := (root ++ "/").toList
    if top.isPrefixOf path.toList then String.ofList (path.toList.drop top.length) else path
  | none => path

/-- The place that a path leads to; there may be nothing yet. Of the paths that start at the root,
only those that stay there lead somewhere, which is above the working directory. -/
def resolve (t : FileTree) (path : String) : Except FileError (List String) :=
  let path := t.fromRoot path
  let names := Path.parts path
  if path.toList.contains (Char.ofNat 0) then .error .invalidPath
  else if path = "" then .error .missing
  else if maxPath < path.utf8ByteSize then .error .nameTooLong
  else if Path.isAbsolute path then
    if names.all fun name => name = "" || name = "." || name = above then .ok [above] else .error .missing
  else names.foldlM t.step []

def find (t : FileTree) (path : String) : Except FileError FileNode :=
  match t.resolve path with
  | .error e => .error e
  | .ok p => (t.node? p).elim (.error .missing) .ok

def put (t : FileTree) (p : List String) (n : FileNode) : FileTree :=
  { t with entries := t.entries.set p n }

def read (t : FileTree) (path : String) : Except FileFailure Content :=
  match t.find path with
  | .error e => .error ⟨"open", path, e⟩
  | .ok .directory => .error ⟨"read", path, .isDirectory⟩
  | .ok (.file c) => .ok c

/-- Makes a file, or replaces it. -/
def write (t : FileTree) (path : String) (c : Content) : Except FileFailure FileTree :=
  match t.resolve path with
  | .error e => .error ⟨"open", path, e⟩
  | .ok p =>
    match t.node? p with
    | some .directory => .error ⟨"open", path, .isDirectory⟩
    | _ => .ok (t.put p (.file c))

def makeDirectory (t : FileTree) (path : String) : Except FileFailure FileTree :=
  -- A path to a new directory may end in a slash.
  let trimmed := String.ofList (path.toList.reverse.dropWhile (· = '/')).reverse
  match t.resolve (if trimmed = "" then path else trimmed) with
  | .error e => .error ⟨"mkdir", path, e⟩
  | .ok p => if (t.node? p).isSome then .error ⟨"mkdir", path, .taken⟩ else .ok (t.put p .directory)

/-- The path that stands before the last name of a path and a slash. -/
def parentOf? (path : String) : Option String :=
  let before := (path.toList.reverse.dropWhile (· = '/')).dropWhile (· ≠ '/')
  if before.length ≤ 1 then none else some (String.ofList (before.drop 1).reverse)

/-- Makes a directory and those above it that are missing, at most `fuel` in all. -/
def makeWithin : Nat → FileTree → String → Except FileFailure FileTree
  | 0, t, _ => .ok t
  | fuel + 1, t, path =>
    match t.find path with
    | .ok .directory => .ok t
    | .ok (.file _) => .error ⟨"mkdir", path, .notDirectory⟩
    | .error _ => do
      let t ← match parentOf? path with
        | some parent => makeWithin fuel t parent
        | none => pure t
      match t.makeDirectory path with
      | .ok t => return t
      | .error e => if (t.find path).toOption = some .directory then return t else throw e

/-- Makes a directory and all those above it that are missing. -/
def makeDirectories (t : FileTree) (path : String) : Except FileFailure FileTree :=
  makeWithin (path.length + 1) t path

def pathText (p : List String) : String := "/".intercalate p

/-- All paths with what is there, sorted by their texts. -/
def listing (t : FileTree) : List (String × FileNode) :=
  (t.entries.entries.map fun e => (pathText e.1, e.2)).mergeSort fun a b => decide (a.1 ≤ b.1)

/-- A tree with files and the directories that they are in; files that cannot be made are left
out. -/
def ofFiles (files : List (String × String)) : FileTree :=
  files.foldl (fun t f =>
    match t.makeDirectories (pathText (Path.parts f.1).dropLast) with
    | .ok t' => (t'.write f.1 (.text f.2)).toOption.getD t'
    | .error _ => (t.write f.1 (.text f.2)).toOption.getD t) empty

end FileTree

end FlagFlow
