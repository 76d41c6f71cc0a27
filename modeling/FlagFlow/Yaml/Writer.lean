import FlagFlow.Yaml.Cursor
import FlagFlow.Yaml.Resolve

/-!
# Writing YAML

Documents in block style. Every scalar gets the plainest style that reads back as the same text.

* `Value`: texts, integers, lists and records.
* `plainAllowed`, `blockAllowed`, `singleAllowed`: decide on the style of a text.
* `Page`: what has been written, with the place on the line.
* `document`: the text of a document.
-/

namespace FlagFlow.Yaml

open Text

/-! ## Properties of characters and texts -/

/-- Whether a character can stand in a document as it is. -/
def isVisible (c : Char) : Bool :=
  c = '\n' || (0x20 ≤ c.toNat && c.toNat ≤ 0x7E) || (0xA0 ≤ c.toNat && c.toNat ≤ 0xD7FF) ||
    (0xE000 ≤ c.toNat && c.toNat ≤ 0xFFFD && c.toNat ≠ 0xFEFF)

/-- Whether some character and the next one satisfy the conditions. -/
def hasPair (p q : Char → Bool) : List Char → Bool
  | c :: d :: cs => (p c && q d) || hasPair p q (d :: cs)
  | _ => false

/-- Whether a text is empty or starts with a blank. -/
def startsBlank : List Char → Bool
  | [] => true
  | c :: _ => c = ' ' || c = '\t'

/-- Whether a character cannot be the first of a plain scalar, given what follows. -/
def indicatesFirst (c : Char) (rest : List Char) : Bool :=
  "#,[]\x7b\x7d&*!|>'\"%@\x60".toList.contains c || ("?:-".toList.contains c && startsBlank rest)

/-- Whether a later character cannot stand in a plain scalar: a colon before a blank, or a number
sign after one. -/
def indicatesLater : List Char → Bool
  | c :: d :: cs =>
    (d = ':' && startsBlank cs) || (startsBlank [c] && d = '#') || indicatesLater (d :: cs)
  | _ => false

/-- Whether a text looks like something else than a plain scalar. -/
def indicates (cs : List Char) : Bool :=
  match cs with
  | [] => false
  | c :: rest =>
    indicatesFirst c rest || indicatesLater cs || ['-', '-', '-'].isPrefixOf cs ||
      ['.', '.', '.'].isPrefixOf cs

/-- Whether a character has to be written as an escape sequence; a tab is judged on its own. -/
def isSpecial (c : Char) : Bool := c ≠ '\t' && !isVisible c

/-- Whether a text has a space before the end of a line. -/
def trailsSpace (cs : List Char) : Bool := hasPair (· = ' ') isBreak cs

/-- Whether a text can be written in single quotes. -/
def singleAllowed (cs : List Char) : Bool :=
  !(trailsSpace cs || hasPair isBreak (· = ' ') cs || cs.contains '\t' || cs.any isSpecial)

/-- Whether a text can be written without quotes. -/
def plainAllowed (cs : List Char) : Bool :=
  singleAllowed cs && !cs.any isBreak && !indicates cs && cs.head? ≠ some ' ' && cs.getLast? ≠ some ' '

/-- Whether a text can be written line by line. -/
def blockAllowed (cs : List Char) : Bool :=
  !(trailsSpace cs || cs.any isSpecial || cs.getLast? = some ' ')

/-! ## Styles -/

def upperHex (width n : Nat) : List Char := (hexDigits width n).map Char.toUpper

/-- The escape sequence of a character. -/
def escapeSequence (c : Char) : List Char :=
  '\\' :: match c.toNat with
    | 0x00 => ['0']
    | 0x07 => ['a']
    | 0x08 => ['b']
    | 0x09 => ['t']
    | 0x0A => ['n']
    | 0x0B => ['v']
    | 0x0C => ['f']
    | 0x0D => ['r']
    | 0x1B => ['e']
    | 0x22 => ['"']
    | 0x5C => ['\\']
    | 0x85 => ['N']
    | 0xA0 => ['_']
    | 0x2028 => ['L']
    | 0x2029 => ['P']
    | n =>
      if n ≤ 0xFF then 'x' :: upperHex 2 n
      else if n ≤ 0xFFFF then 'u' :: upperHex 4 n
      else 'U' :: upperHex 8 n

/-- A text in double quotes. In a text that starts with a byte-order mark every character is
escaped. -/
def doubleQuoted (cs : List Char) : String :=
  let marked := cs.head?.map Char.toNat = some 0xFEFF
  let write (c : Char) : List Char :=
    if marked || !isVisible c || isBreak c || c = '"' || c = '\\' then escapeSequence c else [c]
  String.ofList ('"' :: cs.flatMap write ++ ['"'])

/-- What follows the bar of a text that is written line by line: the indentation if the first line
does not show it, and how the text ends. -/
def blockHints (cs : List Char) : String :=
  let starts := cs.head?.elim false fun c => c = ' ' || isBreak c
  let ends := match cs.reverse with
    | [] => "-"
    | [c] => if isBreak c then "+" else "-"
    | c :: d :: _ => if !isBreak c then "-" else if isBreak d then "+" else ""
  (if starts then "2" else "") ++ ends

/-- The style of a text: as it is, in single or double quotes, or line by line. -/
inductive Style where
  | plain
  | single
  | double
  | block
  deriving DecidableEq, Repr

/-- The style that a text is written in. -/
def styleOf (s : String) : Style :=
  let cs := s.toList
  if cs.contains '\n' then if blockAllowed cs then .block else .double
  else if resolve s ≠ .text || isBase60 s || isOldBool s then .double
  else if plainAllowed cs then .plain
  else if singleAllowed cs then .single
  else .double

/-! ## Pages -/

/-- What has been written: the characters, the last one first, the number on the line, and whether
nothing but indentation stands on it. -/
structure Page where
  written : List Char := []
  column : Nat := 0
  blank : Bool := true

namespace Page

def pad (p : Page) (c : Char) : Page := { p with written := c :: p.written, column := p.column + 1 }

def put (p : Page) (c : Char) : Page := { p.pad c with blank := false }

/-- Writes a text without the end of a line. -/
def puts (p : Page) (s : String) : Page := s.toList.foldl put p

/-- Writes the end of a line. The separators of lines and paragraphs also end one. -/
def endLine (p : Page) (c : Char) : Page := ⟨c :: p.written, 0, true⟩

/-- Starts a line with an indentation, unless nothing else stands on the current one. -/
def startLine (p : Page) (indent : Nat) : Page :=
  let p := if !p.blank || p.column > indent then p.endLine '\n' else p
  (indent - p.column).repeat (fun p => p.pad ' ') p

/-- Writes a text whose lines are indented; `broken` tells whether a line has just ended. In single
quotes the first end of a line is written twice, and so are the quotes. -/
def putLines (quoted : Bool) (indent : Nat) : Bool → List Char → Page → Page
  | _, [], p => p
  | broken, c :: cs, p =>
    if isBreak c then
      let p := if quoted && !broken && c = '\n' then p.endLine '\n' else p
      putLines quoted indent true cs (p.endLine c)
    else
      let p := if broken then p.startLine indent else p
      let p := if quoted && c = '\'' then p.put c else p
      putLines quoted indent false cs (p.put c)

/-- Writes a text with the blank before it. -/
def putText (p : Page) (indent : Nat) (s : String) : Page :=
  let p := p.put ' '
  match styleOf s with
  | .plain => p.puts s
  | .double => p.puts (doubleQuoted s.toList)
  | .single => (putLines true indent false s.toList (p.put '\'')).put '\''
  | .block => putLines false indent true s.toList ((p.put '|').puts (blockHints s.toList))

end Page

/-! ## Documents -/

/-- A value of a document. -/
inductive Value where
  | text (s : String)
  | int (n : Int)
  | list (items : List Value)
  | record (fields : List (String × Value))

mutual

/-- Writes a value behind its key or dash, at the given indentation. -/
def Value.write (indent : Nat) : Value → Page → Page
  | .text s, p => p.putText (indent + 2) s
  | .int n, p => p.puts (" " ++ toString n)
  | .list [], p => p.puts " []"
  | .list items, p => Value.writeItems (indent + 2) items p
  | .record [], p => p.puts " \x7b\x7d"
  | .record fields, p => Value.writeFields (indent + 2) fields p

def Value.writeItems (indent : Nat) : List Value → Page → Page
  | [], p => p
  | v :: vs, p => Value.writeItems indent vs (v.write indent ((p.startLine indent).pad '-'))

def Value.writeFields (indent : Nat) : List (String × Value) → Page → Page
  | [], p => p
  | (key, v) :: fs, p =>
    Value.writeFields indent fs (v.write indent ((p.startLine indent).puts (key ++ ":")))

end

/-- The text of a document with a list. -/
def document (items : List Value) : String :=
  let p : Page := {}
  let p := if items.isEmpty then p.puts "[]" else Value.writeItems 0 items p
  String.ofList (p.startLine 0).written.reverse

end FlagFlow.Yaml
