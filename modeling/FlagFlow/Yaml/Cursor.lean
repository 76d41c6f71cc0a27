/-!
# Positions in a YAML text

A text is loaded in parts of at most 512 bytes, when the scan asks for characters that are not there
yet. A character that cannot stand in a YAML text is an error as soon as its part is loaded, and a
byte-order mark counts as one only where a loading started.

* `Cursor`: a place in a text, with the characters that are loaded there.
* `isBreak`, `isBlank`, `isSpaceEnd`: the characters between the tokens.
* `Cursor.need?`: loads characters.
* `Cursor.skip`, `Cursor.skipBreak`: moving on.
-/

namespace FlagFlow.Yaml

/-! ## Characters -/

def isBreak (c : Char) : Bool :=
  c = '\n' || c = '\r' || c.toNat = 0x85 || c.toNat = 0x2028 || c.toNat = 0x2029

/-- Whether a character is a space or a tab. -/
def isBlank (c : Char) : Bool := c = ' ' || c = '\t'

/-- Whether there is a space, a tab, the end of a line or of the text. -/
def isSpaceEnd (c : Option Char) : Bool := c.all fun c => isBlank c || isBreak c

/-- Whether there is the end of a line or of the text. -/
def isLineEnd (c : Option Char) : Bool := c.all isBreak

/-- Whether a character can be part of a name. -/
def isNameChar (c : Char) : Bool := c.isAlphanum || c = '_' || c = '-'

/-- Whether a character is the byte-order mark. -/
def isByteOrderMark (c : Char) : Bool := c.toNat = 0xFEFF

/-- Whether a character may stand in a YAML text. -/
def isYamlChar (c : Char) : Bool :=
  let n := c.toNat
  n = 0x09 || n = 0x0a || n = 0x0d || (0x20 ≤ n && n ≤ 0x7e) || n = 0x85 || (0xa0 ≤ n && n ≤ 0xd7ff) ||
    (0xe000 ≤ n && n ≤ 0xfffd) || 0x10000 ≤ n

/-! ## Places -/

/-- A place in a text. The characters from here on that are loaded are `ready`; `unread` counts
them, and every loading at the end of the text adds one. The last loading started at `first`. Of the
other numbers `left` counts the characters from here on, `newlines` the line ends since the last one
that is no blank. -/
structure Cursor where
  ready : List Char := []
  unread : Nat := 0
  parts : List (List Char) := []
  first : Option Char := none
  left : Nat := 0
  index : Nat := 0
  line : Nat := 0
  column : Nat := 0
  newlines : Nat := 0

/-- The number of bytes of a part. -/
def partSize : Nat := 512

/-- The parts of a text: each takes as many whole characters as fit, given how many bytes are free
in the current one. -/
def splitParts : Nat → List Char → List (List Char)
  | _, [] => [[]]
  | free, c :: cs =>
    if c.utf8Size ≤ free then
      match splitParts (free - c.utf8Size) cs with
      | part :: parts => (c :: part) :: parts
      | [] => [[c]]
    else
      match splitParts (partSize - c.utf8Size) cs with
      | part :: parts => [] :: (c :: part) :: parts
      | [] => [[], [c]]

namespace Cursor

/-- The start of a text. A byte-order mark there is no part of it, but takes its place in the first
part. -/
def ofText (text : String) : Cursor :=
  match text.toList with
  | c :: cs =>
    if isByteOrderMark c then { parts := splitParts (partSize - c.utf8Size) cs, left := cs.length }
    else { parts := splitParts partSize (c :: cs), left := cs.length + 1 }
  | [] => {}

def peek? (p : Cursor) : Option Char := p.ready.head?

def peekAt? (p : Cursor) (n : Nat) : Option Char := p.ready[n]?

/-- Loads parts until there are `n` characters or the text ends. -/
def load? (n : Nat) : List (List Char) → Cursor → Option Cursor
  | [], p => some { p with parts := [], unread := p.unread + 1, first := p.peek? }
  | part :: parts, p =>
    if part.all isYamlChar then
      let p := { p with ready := p.ready ++ part, unread := p.unread + part.length, parts }
      if n ≤ p.unread then some { p with first := p.peek? } else load? n parts p
    else none

/-- Makes sure that `n` characters are loaded, as far as the text has them. -/
def need? (p : Cursor) (n : Nat) : Option Cursor := if n ≤ p.unread then some p else load? n p.parts p

/-- Moves past one character of the line. -/
def skip (p : Cursor) : Cursor :=
  match p.ready with
  | [] => p
  | c :: ready =>
    { p with
      ready
      unread := p.unread - 1
      left := p.left - 1
      index := p.index + 1
      column := p.column + 1
      newlines := if isBlank c then p.newlines else 0 }

/-- Moves past `n` characters of the line. -/
def skipMany (p : Cursor) (n : Nat) : Cursor := n.repeat skip p

/-- Moves to the next line, past `n` characters. -/
def newline (p : Cursor) (n : Nat) (ready : List Char) : Cursor :=
  { p with
    ready
    unread := p.unread - n
    left := p.left - n
    index := p.index + n
    line := p.line + 1
    column := 0
    newlines := p.newlines + 1 }

/-- Moves past the end of a line. A carriage return and a newline are one end. -/
def skipBreak (p : Cursor) : Cursor :=
  match p.ready with
  | '\r' :: '\n' :: ready => p.newline 2 ready
  | c :: ready => if isBreak c then p.newline 1 ready else p
  | [] => p

/-- The characters that the end of a line stands for: a newline, except that the separators of lines
and paragraphs stand for themselves. -/
def breakText (p : Cursor) : List Char :=
  match p.ready with
  | c :: _ =>
    if c.toNat = 0x2028 || c.toNat = 0x2029 then [c] else if isBreak c then ['\n'] else []
  | [] => []

/-- Moves past the characters of the line for which `f` holds, and gives them. -/
def takeWhile? (f : Char → Bool) : Nat → List Char → Cursor → Option (List Char × Cursor)
  | 0, acc, p => some (acc.reverse, p)
  | fuel + 1, acc, p => do
    let p ← p.need? 1
    match p.peek? with
    | some c => if f c then takeWhile? f fuel (c :: acc) p.skip else some (acc.reverse, p)
    | none => some (acc.reverse, p)

/-- The characters of the line for which `f` holds, with the place behind them. -/
def span? (p : Cursor) (f : Char → Bool) : Option (List Char × Cursor) := takeWhile? f (p.left + 1) [] p

/-- Moves past the characters of the line for which `f` holds. -/
def skipWhile? (p : Cursor) (f : Char → Bool) : Option Cursor := (p.span? f).map Prod.snd

/-- Whether a line starts here with `---` or `...`, alone or followed by a blank. -/
def atMarker (p : Cursor) (c : Char) : Bool :=
  p.column = 0 && p.ready.take 3 = [c, c, c] && isSpaceEnd (p.peekAt? 3)

/-- Whether a document starts or ends here by a marker. -/
def atDocumentMarker (p : Cursor) : Bool := p.atMarker '-' || p.atMarker '.'

end Cursor

end FlagFlow.Yaml
