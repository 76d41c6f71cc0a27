import FlagFlow.FlagValue

/-!
# Styles of terminal text

* `Style`: the styles, with the code that a terminal understands.
* `Style.paint`: text in a style, unchanged if styles are switched off.
* `FlagValue.style`: the style in which a value is shown.
-/

namespace FlagFlow

/-- A style of text on a terminal. Colours are bold, and purple is blue. -/
inductive Style where
  | bold
  | faint
  | italic
  | red
  | green
  | yellow
  | purple
  | magenta
  | cyan
  deriving DecidableEq, Repr

namespace Style

/-- The code of a style. -/
def code : Style → String
  | bold => "1"
  | faint => "2"
  | italic => "3"
  | red => "1;31"
  | green => "1;32"
  | yellow => "1;33"
  | purple => "1;34"
  | magenta => "1;35"
  | cyan => "1;36"

def paint (enabled : Bool) (s : Style) (text : String) : String :=
  if enabled then "\x1b[" ++ s.code ++ "m" ++ text ++ "\x1b[0m" else text

end Style

/-- The style in which a value is shown. -/
def FlagValue.style : FlagValue → Style
  | flag => .green
  | notFlag => .red
  | unknown => .yellow
  | _ => .faint

end FlagFlow
