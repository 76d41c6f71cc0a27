/-!
# Tokens of source files

Splits a source file into words, symbols, literals and comments.

* `Token`: a token; comments come with the line on which they start, and whether they start it.
* `ScanState`: what is being read; `ScanState.step` reads a character.
* `scan?`: the tokens of a text; `none` if a comment or literal does not end, or a character literal
  does not hold exactly one character.
* `isFile`: whether tokens start like a source file and name their functions.
-/

namespace FlagFlow.Source

/-- A token. A comment has its marks, the line on which it starts, and whether it is the first on
it. -/
inductive Token where
  | word (text : String)
  | symbol (c : Char)
  | literal
  | comment (line : Nat) (leads : Bool) (text : String)
  deriving DecidableEq, Repr

/-- What is being read, with the last character first. A slash may start a comment. In a character
literal the characters so far are counted, and those of an escape sequence that are to come. -/
inductive ScanState where
  | start
  | word (read : List Char)
  | slash (leads : Bool)
  | lineComment (line : Nat) (leads : Bool) (read : List Char)
  | blockComment (line : Nat) (leads : Bool) (read : List Char)
  | string (escaped : Bool)
  | raw
  | char (count toSkip : Nat) (escaped : Bool)

/-- The quote of strings without escape sequences. -/
def rawQuote : Char := Char.ofNat 0x60

/-- Whether a character belongs to names and numbers. -/
def isWordChar (c : Char) : Bool := c.isAlphanum || c = '_' || 0x80 ≤ c.toNat

/-- The token of a name or number. -/
def wordToken (read : List Char) : Token :=
  match read.getLast? with
  | some c => if c.isDigit then .literal else .word (String.ofList read.reverse)
  | none => .literal

/-- A comment to the end of the line, without a carriage return there. -/
def lineCommentToken (line : Nat) (leads : Bool) (read : List Char) : Token :=
  .comment line leads (String.ofList (match read with
    | '\r' :: read => read.reverse
    | read => read.reverse))

/-- Starts to read a token, after `column` characters on the line. -/
def ScanState.begin (column : Nat) (c : Char) : ScanState × List Token :=
  if c = '/' then (.slash (column = 0), [])
  else if isWordChar c then (.word [c], [])
  else if c = '"' then (.string false, [])
  else if c = rawQuote then (.raw, [])
  else if c = '\'' then (.char 0 0 false, [])
  else if c.isWhitespace then (.start, [])
  else (.start, [.symbol c])

/-- The number of characters that belong to an escape sequence after its first one. -/
def escapeLength (c : Char) : Nat :=
  if c = 'x' then 2
  else if c = 'u' then 4
  else if c = 'U' then 8
  else if '0' ≤ c && c ≤ '7' then 2
  else 0

/-- Reads a character on a line, after `column` others. -/
def ScanState.step (line column : Nat) (c : Char) : ScanState → Option (ScanState × List Token)
  | start => some (begin column c)
  | word read =>
    if isWordChar c then some (.word (c :: read), [])
    else
      let (s, ts) := begin column c
      some (s, wordToken read :: ts)
  | slash leads =>
    if c = '/' then some (.lineComment line leads ['/', '/'], [])
    else if c = '*' then some (.blockComment line leads ['*', '/'], [])
    else
      let (s, ts) := begin column c
      some (s, .symbol '/' :: ts)
  | lineComment l leads read =>
    if c = '\n' then some (.start, [lineCommentToken l leads read])
    else some (.lineComment l leads (c :: read), [])
  | blockComment l leads read =>
    if c = '/' && read.head? = some '*' && 2 < read.length then
      some (.start, [.comment l leads (String.ofList (c :: read).reverse)])
    else some (.blockComment l leads (c :: read), [])
  | string escaped =>
    if c = '\n' then none
    else if escaped then some (.string false, [])
    else if c = '\\' then some (.string true, [])
    else if c = '"' then some (.start, [.literal])
    else some (.string false, [])
  | raw => if c = rawQuote then some (.start, [.literal]) else some (.raw, [])
  | char count toSkip escaped =>
    if c = '\n' then none
    else if escaped then some (.char count (escapeLength c) false, [])
    else if c = '\'' then if count = 1 && toSkip = 0 then some (.start, [.literal]) else none
    else if 0 < toSkip then some (.char count (toSkip - 1) false, [])
    else some (.char (count + 1) 0 (c = '\\'), [])

/-- The tokens of a state in which a text ends. -/
def ScanState.finish? : ScanState → Option (List Token)
  | start => some []
  | word read => some [wordToken read]
  | slash _ => some [.symbol '/']
  | lineComment l leads read => some [lineCommentToken l leads read]
  | _ => none

/-- The tokens of a text that starts on a line, after `column` characters. -/
def scanFrom? (s : ScanState) (line column : Nat) : List Char → Option (List Token)
  | [] => s.finish?
  | c :: cs =>
    (s.step line column c).bind fun (s, ts) =>
      let (line, column) := if c = '\n' then (line + 1, 0) else (line, column + 1)
      (scanFrom? s line column cs).map (ts ++ ·)

/-- The tokens of a text. A byte-order mark at its start is none, but takes its place on the
line. -/
def scan? (text : String) : Option (List Token) :=
  match text.toList with
  | c :: cs => if c.toNat = 0xFEFF then scanFrom? .start 1 1 cs else scanFrom? .start 1 0 (c :: cs)
  | [] => scanFrom? .start 1 0 []

/-! ## Files -/

/-- The words of the language, which are no names. -/
def keywords : List String :=
  ["break", "case", "chan", "const", "continue", "default", "defer", "else", "fallthrough", "for", "func",
   "go", "goto", "if", "import", "interface", "map", "package", "range", "return", "select", "struct",
   "switch", "type", "var"]

def Token.isName : Token → Bool
  | word w => !keywords.contains w
  | _ => false

def Token.isComment : Token → Bool
  | comment .. => true
  | _ => false

/-- Whether every function is followed by a name or by its parameters. -/
def namesFunctions : List Token → Bool
  | [] => true
  | t :: ts =>
    (t ≠ .word "func" || match ts with
      | next :: _ => next.isName || next = .symbol '('
      | [] => false) && namesFunctions ts

/-- Whether tokens are those of a source file: the name of a package comes first. -/
def isFile (ts : List Token) : Bool :=
  match ts.filter fun t => !t.isComment with
  | .word "package" :: name :: rest => name.isName && name ≠ .word "_" && namesFunctions rest
  | _ => false

end FlagFlow.Source
