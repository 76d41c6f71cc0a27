import FlagFlow.Regex.Parse

/-!
# Hints for errors

* `hint?`: what a user can do about an error, given its message.
-/

namespace FlagFlow

/-- Whether a text has a part that matches an expression. -/
def mentions (pattern text : String) : Bool := (Regex.parse? pattern).elim false fun r => r.matchesIn text

/-- What a user can do about an error. -/
def hint? (message : String) : Option String :=
  if mentions "could not load program" message then
    if mentions "-: named files must be .go files: -(\\w)" message then
      some "all command line flags should be before the path to the Go files to analyze"
    else some "make sure you have provided the right arguments to load a Go program"
  else if mentions "no fixpoint reached" message then
    some "the states of a loop may not converge; increase max-visits in the config to keep iterating"
  else none

end FlagFlow
