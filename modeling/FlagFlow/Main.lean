import FlagFlow.Cli

/-!
# The program

Reads the settings file, runs the command, prints what it prints and stores what it writes. The name
under which the program is started tells the linter from the command with the tools.

* `readTree`: the files that a command may read.
* `store`: writes the files that a command has changed.
* `main`: the program.
-/

namespace FlagFlow

/-- The name under which the program is the linter. -/
def lintProgram : String := Analyzer.name ++ "-lint"

/-- A tree with the settings file, if it can be read. -/
def readTree (args : List String) : IO FileTree := do
  match settingsFile? args with
  | none => return .empty
  | some file =>
    try return .ofFiles [(file, ← IO.FS.readFile file)]
    catch _ => return .empty

/-- Writes the files and directories of a tree that differ from those of an older one. -/
def store (old new : FileTree) : IO Unit := do
  for (path, node) in new.listing do
    unless (old.find path).toOption = some node do
      match node with
      | .directory => IO.FS.createDirAll path
      | .file (.text s) => IO.FS.writeFile path s
      | .file (.binary bytes) => IO.FS.writeBinFile path (ByteArray.mk bytes.toArray)

/-- Functions come from a compiler of packages, which the program does not have. -/
def withoutPackages (args : List String) : Except String Loaded :=
  .error ("no compiler for the packages " ++ bracketed args)

end FlagFlow

open FlagFlow in
/-- Runs the program on its arguments and gives its exit code. -/
def main (args : List String) : IO UInt32 := do
  let tree ← readTree args
  let name := (← IO.appPath).fileName.getD ""
  let outcome := (if name = lintProgram then runLint else run) args ⟨tree, withoutPackages⟩
  store tree outcome.tree
  IO.print outcome.stdout
  IO.eprint outcome.stderr
  return outcome.code.toUInt32
