/-!
# Logging

* `Level`: the levels, from errors to traces.
* `Entry`: a message at a level; `Entry.line` is the line that is printed for it.
* `Filter`: which messages are printed.
-/

namespace FlagFlow.Log

/-- The level of a message. -/
inductive Level where
  | error
  | warn
  | info
  | debug
  | trace
  deriving DecidableEq, Repr

def Level.number : Level → Int
  | error => 1
  | warn => 2
  | info => 3
  | debug => 4
  | trace => 5

/-- What stands before the messages of a level. -/
def Level.tag : Level → String
  | error => "[ERROR] "
  | warn => "[WARN] "
  | info => "[INFO] "
  | debug => "[DEBUG] "
  | trace => "[TRACE] "

/-- A message. -/
structure Entry where
  level : Level
  text : String
  deriving DecidableEq, Repr

/-- The line that is printed for a message. -/
def Entry.line (e : Entry) : String :=
  e.level.tag ++ e.text ++ (if e.text.endsWith "\n" then "" else "\n")

/-- Which messages are printed: those up to a level, with or without warnings. -/
structure Filter where
  level : Int
  silenceWarn : Bool := false

def Filter.shows (f : Filter) (l : Level) : Bool :=
  l.number ≤ f.level && !(l = .warn && f.silenceWarn)

def Filter.render (f : Filter) (es : List Entry) : String :=
  String.join ((es.filter fun e => f.shows e.level).map Entry.line)

end FlagFlow.Log
