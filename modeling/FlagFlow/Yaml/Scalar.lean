import FlagFlow.Text.Quoted
import FlagFlow.Yaml.Cursor

/-!
# The text of scalars

Scalars are written plainly, between quotes, or as a block of lines. Each reader starts at the first
character of the scalar and gives its text with the place behind it, or `none` if it is malformed.

* `plain?`: up to an indicator; lines are joined.
* `quoted?`: up to the closing quote; lines are joined.
* `block?`: the lines that are indented, as they are or joined.
-/

namespace FlagFlow.Yaml

/-! ## Joining lines -/

/-- The ends of lines between two pieces of text: the blanks before the first, whether there is one,
what it stands for, nothing if it is escaped, and the further ones. -/
structure Gap where
  blanks : List Char := []
  ended : Bool := false
  leading : List Char := []
  trailing : List Char := []

/-- The text that stands for a gap: the blanks within a line; a space for one end of a line; the
further ones for several. -/
def Gap.text (g : Gap) : List Char :=
  if g.ended then
    match g.leading with
    | '\n' :: _ => if g.trailing.isEmpty then [' '] else g.trailing
    | leading => leading ++ g.trailing
  else g.blanks

/-- Reads blanks and ends of lines. A tab that stands on a new line before column `indent` is an
error. -/
def gap? (indent : Int) : Nat → Gap → Cursor → Option (Gap × Cursor)
  | 0, g, p => some (g, p)
  | fuel + 1, g, p => do
    let p ← p.need? 1
    match p.peek? with
    | none => some (g, p)
    | some c =>
      if isBlank c then
        if !g.ended then gap? indent fuel { g with blanks := g.blanks ++ [c] } p.skip
        else if c = '\t' && p.column < indent then none
        else gap? indent fuel g p.skip
      else if isBreak c then
        let p ← p.need? 2
        if !g.ended then
          gap? indent fuel { g with blanks := [], ended := true, leading := p.breakText } p.skipBreak
        else gap? indent fuel { g with trailing := g.trailing ++ p.breakText } p.skipBreak
      else some (g, p)

/-! ## Plain scalars -/

/-- Whether a plain scalar ends at a character: before a colon and a blank, and inside brackets at
every bracket, comma or question mark. -/
def endsPlain (inFlow : Bool) (c : Char) (next : Option Char) : Bool :=
  (c = ':' && isSpaceEnd next) ||
    (inFlow && (c = ',' || c = '?' || c = '[' || c = ']' || c = '{' || c = '}'))

/-- The characters of a plain scalar up to a blank or its end, after those of `acc` in reverse. -/
def plainChunk? (inFlow : Bool) : Nat → List Char → Cursor → Option (List Char × Cursor)
  | 0, acc, p => some (acc.reverse, p)
  | fuel + 1, acc, p =>
    match p.peek? with
    | none => some (acc.reverse, p)
    | some c =>
      if isBlank c || isBreak c || endsPlain inFlow c (p.peekAt? 1) then some (acc.reverse, p)
      else (p.skip.need? 2).bind (plainChunk? inFlow fuel (c :: acc))

/-- A plain scalar that goes on here after the text `acc` and the gap `g`. The result tells whether
the scalar was followed by the end of a line. -/
def plainFrom? (inFlow : Bool) (indent : Int) :
    Nat → List Char → Gap → Cursor → Option (List Char × Bool × Cursor)
  | 0, acc, g, p => some (acc, g.ended, p)
  | fuel + 1, acc, g, p => do
    let p ← p.need? 4
    if p.atDocumentMarker || p.peek? = some '#' then return (acc, g.ended, p)
    let (chunk, p) ← plainChunk? inFlow (p.left + 1) [] p
    let (acc, g) := if chunk.isEmpty then (acc, g) else (acc ++ g.text ++ chunk, {})
    if !(p.peek?.any fun c => isBlank c || isBreak c) then return (acc, g.ended, p)
    let (g, p) ← gap? indent (p.left + 1) g p
    if !inFlow && p.column < indent then return (acc, g.ended, p)
    plainFrom? inFlow indent fuel acc g p

/-- A plain scalar in a block of the given indentation. -/
def plain? (inFlow : Bool) (indent : Int) (p : Cursor) : Option (List Char × Bool × Cursor) :=
  plainFrom? inFlow (indent + 1) (p.left + 1) [] {} p

/-! ## Quoted scalars -/

/-- The character that a letter after a backslash stands for. -/
def simpleEscape? (c : Char) : Option Nat :=
  match c with
  | '0' => some 0
  | 'a' => some 0x07
  | 'b' => some 0x08
  | 't' => some 0x09
  | '\t' => some 0x09
  | 'n' => some 0x0a
  | 'v' => some 0x0b
  | 'f' => some 0x0c
  | 'r' => some 0x0d
  | 'e' => some 0x1b
  | ' ' => some 0x20
  | '"' => some 0x22
  | '\'' => some 0x27
  | '\\' => some 0x5c
  | 'N' => some 0x85
  | '_' => some 0xa0
  | 'L' => some 0x2028
  | 'P' => some 0x2029
  | _ => none

/-- The number of hexadecimal digits after a letter. -/
def hexWidth? (c : Char) : Option Nat :=
  match c with
  | 'x' => some 2
  | 'u' => some 4
  | 'U' => some 8
  | _ => none

/-- The character of an escape sequence, from its backslash, with the place behind it. -/
def escape? (p : Cursor) : Option (Char × Cursor) := do
  let c ← p.peekAt? 1
  let p := p.skipMany 2
  match simpleEscape? c with
  | some n => return (Char.ofNat n, p)
  | none =>
    let width ← hexWidth? c
    let p ← p.need? width
    let digits := p.ready.take width
    if digits.length < width then none
    let n ← Text.number? 16 Text.hexValue? digits
    if (0xD800 ≤ n && n ≤ 0xDFFF) || n > 0x10FFFF then none
    return (Char.ofNat n, p.skipMany width)

/-- The characters of a quoted scalar up to a blank or the closing quote, after those of `acc` in
reverse. An escaped end of a line ends them too, as the second result tells. -/
def quotedChunk? (double : Bool) : Nat → List Char → Cursor → Option (List Char × Bool × Cursor)
  | 0, _, _ => none
  | fuel + 1, acc, p =>
    match p.peek? with
    | none => some (acc.reverse, false, p)
    | some c =>
      if isBlank c || isBreak c then some (acc.reverse, false, p)
      else if double then
        if c = '"' then some (acc.reverse, false, p)
        else if c = '\\' then
          if (p.peekAt? 1).any isBreak then do
            let p ← p.need? 3
            return (acc.reverse, true, p.skip.skipBreak)
          else do
            let (e, p) ← escape? p
            quotedChunk? double fuel (e :: acc) (← p.need? 2)
        else do quotedChunk? double fuel (c :: acc) (← p.skip.need? 2)
      else if c = '\'' then
        if p.peekAt? 1 = some '\'' then do quotedChunk? double fuel (c :: acc) (← (p.skipMany 2).need? 2)
        else some (acc.reverse, false, p)
      else do quotedChunk? double fuel (c :: acc) (← p.skip.need? 2)

/-- The text of a quoted scalar that goes on here after the text `acc`. -/
def quotedFrom? (double : Bool) : Nat → List Char → Cursor → Option (List Char × Cursor)
  | 0, _, _ => none
  | fuel + 1, acc, p => do
    let p ← p.need? 4
    if p.atDocumentMarker || p.peek?.isNone then none
    let (chunk, escaped, p) ← quotedChunk? double (p.left + 1) [] p
    let p ← p.need? 1
    if p.peek? = some (if double then '"' else '\'') then return (acc ++ chunk, p.skip)
    -- An escaped end of a line is dropped together with the blanks at the start of the next one.
    let (g, p) ← gap? 0 (p.left + 1) { ended := escaped } p
    quotedFrom? double fuel (acc ++ chunk ++ g.text) p

/-- The text of a scalar in double or single quotes, from its opening quote. -/
def quoted? (double : Bool) (p : Cursor) : Option (List Char × Cursor) :=
  quotedFrom? double (p.left + 1) [] p.skip

/-! ## Block scalars -/

/-- What happens to the ends of lines at the end of a block: all are dropped, one is kept, or all
are. -/
inductive Chomp where
  | strip
  | clip
  | keep
  deriving DecidableEq

/-- The chomping that a sign asks for. -/
def chomp? (c : Char) : Option Chomp :=
  if c = '+' then some .keep else if c = '-' then some .strip else none

/-- The sign of a block, if there is one. -/
def blockSign? (p : Cursor) : Option (Option Chomp × Cursor) := do
  let p ← p.need? 1
  match p.peek?.bind chomp? with
  | some ch => return (some ch, p.skip)
  | none => return (none, p)

/-- The indentation of a block, zero if it is not given. A zero that is given is an error. -/
def blockDigit? (p : Cursor) : Option (Nat × Cursor) := do
  let p ← p.need? 1
  match p.peek? with
  | some c =>
    if c = '0' then none
    else if c.isDigit then some (c.toNat - '0'.toNat, p.skip)
    else some (0, p)
  | none => some (0, p)

/-- The header of a block: a sign and a digit in either order. -/
def blockHeader? (p : Cursor) : Option (Chomp × Nat × Cursor) := do
  let (ch, p) ← blockSign? p
  let (digit, p) ← blockDigit? p
  match ch with
  | some ch => return (ch, digit, p)
  | none =>
    if digit = 0 then return (.clip, 0, p)
    let (ch, p) ← blockSign? p
    return (ch.getD .clip, digit, p)

/-- The spaces up to column `indent`, or all if that is zero. -/
def blockSpaces? (indent : Nat) : Nat → Cursor → Option Cursor
  | 0, p => some p
  | fuel + 1, p => do
    let p ← p.need? 1
    if (indent = 0 || p.column < indent) && p.peek? = some ' ' then blockSpaces? indent fuel p.skip
    else return p

/-- Empty lines of a block, and the indentation of the next line up to `indent`, where zero means
that the indentation is not known yet. The results are the ends of lines, the greatest column and
the place. -/
def blockBreaks? (indent : Nat) :
    Nat → List Char → Nat → Cursor → Option (List Char × Nat × Cursor)
  | 0, breaks, widest, p => some (breaks, widest, p)
  | fuel + 1, breaks, widest, p => do
    let p ← blockSpaces? indent (p.left + 1) p
    let widest := max widest p.column
    if (indent = 0 || p.column < indent) && p.peek? = some '\t' then none
    if p.peek?.any isBreak then
      let p ← p.need? 2
      blockBreaks? indent fuel (breaks ++ p.breakText) widest p.skipBreak
    else return (breaks, widest, p)

/-- The lines of a block after the text `acc`, the end of the last line and further ends of
lines. -/
def blockLines? (literal : Bool) (indent : Nat) :
    Nat → List Char → List Char → List Char → Bool → Cursor →
      Option (List Char × List Char × List Char × Cursor)
  | 0, acc, leading, trailing, _, p => some (acc, leading, trailing, p)
  | fuel + 1, acc, leading, trailing, wasBlank, p => do
    let p ← p.need? 1
    if p.column != indent || p.peek?.isNone then return (acc, leading, trailing, p)
    let blank := p.peek?.any isBlank
    let joined := !literal && !wasBlank && !blank && leading.head? = some '\n'
    let acc := acc ++ (if joined then (if trailing.isEmpty then [' '] else []) else leading) ++ trailing
    let (line, p) ← p.span? fun c => !isBreak c
    let p ← p.need? 2
    let leading := p.breakText
    let (trailing, _, p) ← blockBreaks? indent (p.left + 1) [] 0 p.skipBreak
    blockLines? literal indent fuel (acc ++ line) leading trailing blank p

/-- A block of lines, from its indicator, in a block of the given indentation. -/
def block? (literal : Bool) (outer : Int) (p : Cursor) : Option (List Char × Cursor) := do
  let (chomp, digit, p) ← blockHeader? p.skip
  let p ← p.skipWhile? isBlank
  let p ← if p.peek? = some '#' then p.skipWhile? fun c => !isBreak c else some p
  if !isLineEnd p.peek? then none
  let p ← if p.peek?.isSome then (p.need? 2).map Cursor.skipBreak else some p
  let given := if digit = 0 then 0 else if 0 ≤ outer then outer.toNat + digit else digit
  let (breaks, widest, p) ← blockBreaks? given (p.left + 1) [] 0 p
  let indent := if given = 0 then max widest (max (outer + 1).toNat 1) else given
  let (text, leading, trailing, p) ← blockLines? literal indent (p.left + 1) [] [] breaks false p
  return match chomp with
    | .strip => (text, p)
    | .clip => (text ++ leading, p)
    | .keep => (text ++ leading ++ trailing, p)

end FlagFlow.Yaml
