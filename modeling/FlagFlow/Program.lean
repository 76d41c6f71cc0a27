import FlagFlow.Directive
import FlagFlow.Findings
import FlagFlow.Pool
import FlagFlow.Report.Text
import FlagFlow.Settings

/-!
# Programs

* `Program`: the functions of a program, with the packages that were asked for.
* `Program.names`: the full names of the functions.
* `Program.selects`: which functions are analysed.
* `Program.analyze`: the findings about them, by name.
* `Program.journal`: the messages of the analysis.
-/

namespace FlagFlow

/-- A package that was asked for. -/
structure Package where
  path : String
  files : List SourceFile := []

/-- A program: the packages that were asked for, and all functions. -/
structure Program where
  packages : List Package := []
  functions : List Func := []

/-! ## Names -/

/-- The name of a function that no other function encloses. -/
def Func.ownName (f : Func) : String :=
  ({ name := f.name, pkg := f.pkg, receiver := f.receiver } : FuncRef).text ""

/-- The number of a function among those with the same parent, from one. -/
def siblingNumber (fs : List Func) (i parent : Nat) : Nat :=
  ((fs.take i).filter fun g => g.parent = some parent).length + 1

/-- The full name of function `i`, enclosed by at most `fuel` others: an enclosed function has the
name of its parent and a number. -/
def fullNameWithin (fs : List Func) : (fuel i : Nat) → String
  | 0, _ => ""
  | fuel + 1, i =>
    match fs[i]? with
    | none => ""
    | some f =>
      match f.parent with
      | some p => fullNameWithin fs fuel p ++ "$" ++ toString (siblingNumber fs i p)
      | none => f.ownName

def fullNames (fs : List Func) : List String :=
  (List.range fs.length).map (fullNameWithin fs (fs.length + 1))

/-- What the settings say about the analysis of functions. -/
def Settings.options (s : Settings) : Options := ⟨s.isFeature, s.maxVisits⟩

/-! ## Selection -/

namespace Program

/-- The files of the packages that were asked for. -/
def files (p : Program) : List SourceFile := p.packages.flatMap Package.files

/-- The directives in these files. -/
def directives (p : Program) : List (String × Nat × Directive) := p.files.flatMap SourceFile.directives

/-- Where the functions are declared that directives leave out. -/
def ignored (p : Program) : List Position := p.files.flatMap fun f => f.ignored p.directives

/-- Whether a directive leaves out a function. -/
def isIgnored (p : Program) (f : Func) : Bool :=
  match f.position with
  | some pos => p.ignored.contains pos
  | none => false

/-- Whether a function is analysed: it has a body, is written in the source, and belongs to a
package that the filter selects; without a filter, to one that was asked for. -/
def selects (p : Program) (s : Settings) (f : Func) : Bool :=
  !f.blocks.isEmpty && !f.synthetic && f.pkg ≠ "" && !p.isIgnored f &&
    (if s.packageFilter = "" then p.packages.any fun q => q.path = f.pkg else s.selectsPackage f.pkg)

/-- The selected functions with their full names, by name. -/
def selected (p : Program) (s : Settings) : List (String × Func) :=
  (((fullNames p.functions).zip p.functions).filter fun e => p.selects s e.2).mergeSort
    fun a b => decide (a.1 ≤ b.1)

/-! ## Analysis -/

/-- The findings about the selected functions, by name. -/
def analyze (p : Program) (s : Settings) : List Findings :=
  mapParallel (fun e : String × Func => e.2.analyze e.1 s.options) (p.selected s) s.numRoutines

/-- The messages of the analysis that made the findings `rs`; the time that it took stands for
itself. -/
def journal (s : Settings) (rs : List Findings) (elapsed : String) : List Log.Entry :=
  [⟨.info, "Analyzing " ++ toString rs.length ++ " functions\n"⟩] ++
    rs.flatMap (fun r => ⟨.debug, "Analyzing " ++ r.name ++ "\n"⟩ :: r.journal s.options) ++
    (failures rs).map (fun r =>
      ⟨.warn, "analysis of " ++ r.name ++ " failed: " ++ r.errorText?.getD "" ++ "\n"⟩) ++
    [⟨.info, "Found " ++ toString (branchCount rs) ++ " feature-dependent branches (" ++
      elapsed ++ " s)\n"⟩]

end Program

end FlagFlow
