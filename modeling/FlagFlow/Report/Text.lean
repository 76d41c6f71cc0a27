import FlagFlow.Findings
import FlagFlow.Style
import FlagFlow.Text.Quoted

/-!
# The report for readers

* `Findings.paragraph`: the lines about a function.
* `textReport`: the report about functions, with a last line that counts.
* `failureText?`: the message about functions whose analysis failed.
-/

namespace FlagFlow

/-- The findings about functions whose analysis failed. -/
def failures (rs : List Findings) : List Findings := rs.filter fun r => r.error.isSome

/-- The number of branches on the flag. -/
def branchCount (rs : List Findings) : Nat := (rs.flatMap Findings.branches).length

namespace Findings

/-- The lines about an instruction: the state before it, the one after it if it differs, and the one
along its branch edges. -/
def pointLines (r : Findings) (colors : Bool) (b : Body Nat Slot) (s : Solution Nat (Env Slot))
    (n : Nat) : List String :=
  let f := s.flowsAt n
  let line (label : String) (x : Env Slot) : String :=
    "    " ++ Style.faint.paint colors label ++ " " ++ x.text ++ "\n"
  ["  " ++ Text.escape (r.headline n) ++ "\n", line "in:    " f.before] ++
    (if (b.fall n).isEmpty || f.fall.same f.before then [] else [line "fall:  " f.fall]) ++
    (if (b.branch n).isEmpty then [] else [line "branch:" f.branch])

/-- The line about a branch on the flag. -/
def branchLine (r : Findings) (colors : Bool) (e : Nat × FlagValue) : String :=
  "  " ++ e.2.style.paint colors e.2.text ++ " " ++ Text.escape (r.headline e.1) ++ " at " ++
    positionText (r.position? e.1) ++ "\n"

/-- The lines about a function. -/
def paragraph (r : Findings) (colors verbose : Bool) : String :=
  let title := Style.bold.paint colors "function" ++ " " ++ Text.escape r.name ++ " (" ++
    positionText r.func.position ++ ")\n"
  match r.errorText? with
  | some e => title ++ "  " ++ Style.red.paint colors "error:" ++ " " ++ e ++ "\n"
  | none =>
    let points := match verbose, r.states with
      | true, some (b, s) => s.order.flatMap (r.pointLines colors b s)
      | _, _ => []
    title ++ String.join points ++ String.join (r.branches.map (r.branchLine colors)) ++
      "  " ++ toString r.branches.length ++ " feature-dependent branches, " ++ toString r.loops ++
      " loops\n"

end Findings

def textReport (colors verbose : Bool) (rs : List Findings) : String :=
  let count (n : Nat) : String := Style.bold.paint colors (toString n)
  String.join (rs.map fun r => r.paragraph colors verbose) ++ count rs.length ++
    " functions analyzed, " ++ count (branchCount rs) ++ " feature-dependent branches, " ++
    count (failures rs).length ++ " errors\n"

/-- The message about functions whose analysis failed. -/
def failureText? (rs : List Findings) : Option String :=
  match failures rs with
  | [] => none
  | r :: rest =>
    some ("analysis failed for " ++ toString (rest.length + 1) ++
      " function(s), first failure in " ++ r.name ++ ": " ++ r.errorText?.getD "")

end FlagFlow
