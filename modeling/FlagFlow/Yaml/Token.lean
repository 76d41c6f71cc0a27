import FlagFlow.Yaml.Scalar
import Std.Data.HashMap

/-!
# The tokens of a YAML text

The tokens of a text, with the starts and ends of its blocks made explicit by the indentation. That
a token is the key of a mapping is known only when the colon after it is found, so a candidate is
kept for every level of brackets, and the key token is put before it afterwards. Tokens wait in a
queue until they are taken. The queue holds no more of them than the next one needs to be
understood, so that what follows is not looked at before it is asked for.

* `Token`: the tokens.
* `Scan`: the state of the scan; `Scan.next?` adds the next tokens to the queue.
* `Scan.peek?`, `Scan.take`: the first token of the queue.
-/

namespace FlagFlow.Yaml

/-- A token of a YAML text. Blocks start and end by their indentation, `handle` is a `%TAG` with
what it stands for, and a tag has a handle and what follows it. -/
inductive Token where
  | textEnd
  | documentStart
  | documentEnd
  | version (major minor : Nat)
  | handle (name expansion : List Char)
  | sequenceStart
  | mappingStart
  | blockEnd
  | bracketOpen
  | bracketClose
  | braceOpen
  | braceClose
  | entry
  | comma
  | key
  | value
  | reference (name : List Char)
  | anchor (name : List Char)
  | tag (handle suffix : List Char)
  | scalar (text : List Char) (plain : Bool)
  deriving DecidableEq

def Token.isDirective : Token → Bool
  | version _ _ => true
  | handle _ _ => true
  | _ => false

/-! ## Tags and directives -/

/-- Whether a character can be part of a tag. -/
def isTagChar (c : Char) : Bool := isNameChar c || ";/?:@&=+$,.!~*'()[]%".toList.contains c

/-- The number of octets of a character, by its first one. -/
def octets? (n : Nat) : Option Nat :=
  if n < 0x80 then some 1
  else if n / 32 = 6 then some 2
  else if n / 16 = 14 then some 3
  else if n / 8 = 30 then some 4
  else none

/-- The value of an escaped octet `%xx`, with the place behind it. -/
def octet? (p : Cursor) : Option (Nat × Cursor) := do
  let p ← p.need? 3
  match p.ready with
  | '%' :: a :: b :: _ => return ((← Text.hexValue? a) * 16 + (← Text.hexValue? b), p.skipMany 3)
  | _ => none

/-- The value of `n` further octets of a character. -/
def furtherOctets? : Nat → Nat → Cursor → Option (Nat × Cursor)
  | 0, value, p => some (value, p)
  | n + 1, value, p => do
    let (o, p) ← octet? p
    if o / 64 = 2 then furtherOctets? n (value * 64 + o % 64) p else none

def escapedChar? (p : Cursor) : Option (Char × Cursor) := do
  let (o, p) ← octet? p
  let n ← octets? o
  let value := if n = 1 then o else if n = 2 then o % 32 else if n = 3 then o % 16 else o % 8
  let (value, p) ← furtherOctets? (n - 1) value p
  return (Char.ofNat value, p)

/-- The characters of a tag, after those of `acc` in reverse. -/
def tagChars? : Nat → List Char → Cursor → Option (List Char × Cursor)
  | 0, acc, p => some (acc.reverse, p)
  | fuel + 1, acc, p => do
    let p ← p.need? 1
    match p.peek? with
    | some '%' =>
      let (c, p) ← escapedChar? p
      tagChars? fuel (c :: acc) p
    | some c => if isTagChar c then tagChars? fuel (c :: acc) p.skip else return (acc.reverse, p)
    | none => return (acc.reverse, p)

/-- A handle: an exclamation mark, alone or with a name and another one. In a tag the second one may
be missing. -/
def handle? (strict : Bool) (p : Cursor) : Option (List Char × Cursor) := do
  let p ← p.need? 1
  if p.peek? != some '!' then none
  let (name, p) ← p.skip.span? isNameChar
  if p.peek? = some '!' then return ('!' :: name ++ ['!'], p.skip)
  if strict && !name.isEmpty then none
  return ('!' :: name, p)

/-- The characters of a tag, at least one. -/
def someTagChars? (p : Cursor) : Option (List Char × Cursor) := do
  let (text, q) ← tagChars? (p.left + 1) [] p
  if q.index = p.index then none
  return (text, q)

/-- A tag: `!<tag>`, a handle with a suffix, or a suffix after an exclamation mark. A single
exclamation mark is a tag of its own. -/
def tagToken? (p : Cursor) : Option (Token × Cursor) := do
  let p ← p.need? 2
  if p.peekAt? 1 = some '<' then
    let (text, p) ← someTagChars? (p.skipMany 2)
    if p.peek? = some '>' then return (.tag [] text, p.skip) else none
  let (name, p) ← handle? false p
  if name.length > 1 && name.getLast? = some '!' then
    let (suffix, p) ← someTagChars? p
    return (.tag name suffix, p)
  let (suffix, p) ← tagChars? (p.left + 1) [] p
  let suffix := name.drop 1 ++ suffix
  return (if suffix.isEmpty then .tag [] ['!'] else .tag ['!'] suffix, p)

/-- A number of one or two digits. -/
def versionNumber? (p : Cursor) : Option (Nat × Cursor) := do
  let (digits, p) ← p.span? Char.isDigit
  if digits.isEmpty || digits.length > 2 then none
  let n ← Text.number? 10 (fun c => some (c.toNat - '0'.toNat)) digits
  return (n, p)

/-- A directive, from its percent sign up to the end of its line. -/
def directive? (p : Cursor) : Option (Token × Cursor) := do
  let (name, p) ← p.skip.span? isNameChar
  if !isSpaceEnd p.peek? then none
  let p ← p.skipWhile? isBlank
  let (token, p) ←
    if name = "YAML".toList then
      let (major, p) ← versionNumber? p
      if p.peek? != some '.' then none
      let (minor, p) ← versionNumber? p.skip
      some (Token.version major minor, p)
    else if name = "TAG".toList then
      let (handle, p) ← handle? true p
      let p ← p.need? 1
      if !p.peek?.any isBlank then none
      let p ← p.skipWhile? isBlank
      let (expansion, p) ← someTagChars? p
      if !isSpaceEnd p.peek? then none
      some (Token.handle handle expansion, p)
    else none
  let p ← p.skipWhile? isBlank
  let p ← if p.peek? = some '#' then p.skipWhile? fun c => !isBreak c else some p
  if !isLineEnd p.peek? then none
  let p ← if p.peek?.isSome then (p.need? 2).map Cursor.skipBreak else some p
  return (token, p)

/-! ## Comments -/

/-- The number of characters that are looked at for a comment. -/
def commentReach : Nat := 512

/-- Moves past the blanks and ends of lines before a comment, `n` characters, and past the
comment. -/
def skipComment? (n : Nat) (p : Cursor) : Option Cursor :=
  lines? n p.index n p
where
  -- moves on to a place that is `n` characters behind `start`
  lines? (n start : Nat) : Nat → Cursor → Option Cursor
    | 0, p => p.skipWhile? fun c => !isBreak c
    | fuel + 1, p => do
      let p ← p.need? 1
      if start + n ≤ p.index then p.skipWhile? fun c => !isBreak c
      else if p.peek?.any isBreak then lines? n start fuel (← p.need? 2).skipBreak
      else lines? n start fuel p.skip

/-- Moves past a comment that follows on the line, with `n` blanks before. -/
def lineComment? : Nat → Nat → Cursor → Option Cursor
  | 0, _, p => some p
  | fuel + 1, n, p => do
    let p ← p.need? (n + 1)
    match p.peekAt? n with
    | some c =>
      if isBlank c then lineComment? fuel (n + 1) p
      else if c = '#' then skipComment? n p
      else return p
    | none => return p

/-- Moves past comments, the next one of which stands behind `n` blanks and ends of lines. Of the
ends of lines, those beyond ASCII do not separate comments. -/
def comments? : Nat → Nat → Cursor → Option Cursor
  | 0, _, p => some p
  | fuel + 1, n, p => do
    if n ≥ commentReach then return p
    let p ← p.need? (n + 1)
    match p.peekAt? n with
    | some c =>
      if isBlank c || c = '\n' || c = '\r' then comments? fuel (n + 1) p
      else if c = '#' then do
        let p ← skipComment? n p
        if (p.peek?.any fun c => c.toNat ≥ 0x80) then return p
        comments? fuel 1 p
      else return p
    | none => return p

/-! ## The state of a scan -/

/-- A token that may turn out to be a key, or that can be nothing else if it is `required`, with the
number of tokens before it and its place in the text. -/
structure Candidate where
  possible : Bool := false
  required : Bool := false
  place : Nat := 0
  index : Nat := 0
  line : Nat := 0
  column : Nat := 0

/-- The state of a scan: the tokens that wait after those that were taken, the indentation of the
current block, -1 outside of all blocks, and of those around it, and the candidates of the levels of
brackets; those in `waiting` are waited for, by the number of tokens before them. -/
structure Scan where
  cursor : Cursor
  queue : List Token := []
  taken : Nat := 0
  indent : Int := -1
  indents : List Int := []
  keyAllowed : Bool := true
  candidate : Candidate := {}
  candidates : List Candidate := []
  level : Nat := 0
  waiting : Std.HashMap Nat Nat := ∅

/-- The greatest number of nested blocks, and of nested brackets. -/
def maxDepth : Nat := 10000

namespace Scan

def ofText (text : String) : Scan := { cursor := Cursor.ofText text }

def inFlow (s : Scan) : Bool := s.level != 0

def count (s : Scan) : Nat := s.taken + s.queue.length

def add (s : Scan) (t : Token) : Scan := { s with queue := s.queue ++ [t] }

/-- Puts a token behind the first `n` of the text, or at the end if it is too late for that. -/
def insertAt (s : Scan) (n : Nat) (t : Token) : Scan :=
  if n < s.taken then s.add t
  else { s with queue := s.queue.take (n - s.taken) ++ t :: s.queue.drop (n - s.taken) }

def skip (s : Scan) (n : Nat) : Scan := { s with cursor := s.cursor.skipMany n }

/-- Forgets that a candidate is waited for. -/
def stopWaiting (s : Scan) (place : Nat) : Scan :=
  { s with waiting := s.waiting.erase place }

/-- Ends the blocks that are indented deeper than a column. -/
def unroll (column : Int) : Nat → Scan → Scan
  | 0, s => s
  | n + 1, s =>
    if s.inFlow || s.indent ≤ column then s
    else
      match s.indents with
      | [] => { s with indent := -1 }
      | i :: is => unroll column n { s.add .blockEnd with indent := i, indents := is }

/-- Ends the blocks that are indented deeper than a column. -/
def closeBlocks (s : Scan) (column : Int) : Scan := unroll column (s.indents.length + 1) s

/-- Starts a block at a column that is deeper than the current one, with its token behind the first
`place` tokens. -/
def openBlock? (s : Scan) (column : Nat) (place : Nat) (t : Token) : Option Scan :=
  if s.inFlow || column ≤ s.indent then some s
  else if s.indents.length ≥ maxDepth then none
  else some { s.insertAt place t with indent := column, indents := s.indent :: s.indents }

/-- Whether a candidate is still near enough: its colon has to be on the same line, not too far
off. -/
def reaches (s : Scan) (k : Candidate) : Bool :=
  s.cursor.line ≤ k.line && s.cursor.index ≤ k.index + 1024

/-- Gives up the candidate. That is an error if nothing but a key can stand there. -/
def dropCandidate? (s : Scan) : Option Scan :=
  if s.candidate.possible then
    if s.candidate.required then none
    else
      some { s.stopWaiting s.candidate.place with candidate := { s.candidate with possible := false } }
  else some s

/-- Makes the next token a candidate if a key can start here. -/
def markCandidate? (s : Scan) : Option Scan :=
  if s.keyAllowed then do
    let p := s.cursor
    let required := !s.inFlow && s.indent = p.column
    let s ← s.dropCandidate?
    return { s with
      candidate := ⟨true, required, s.count, p.index, p.line, p.column⟩
      waiting := s.waiting.insert s.count s.level }
  else some s

/-- Moves to the next token: past blanks, comments and ends of lines. A tab cannot stand where a key
could start in a block. At the start of a line a byte-order mark is passed over, which is looked for
where the loading started. -/
def toToken? : Nat → Scan → Option Scan
  | 0, s => some s
  | fuel + 1, s => do
    let p ← s.cursor.need? 1
    let p := if p.column = 0 && p.first.any isByteOrderMark then p.skip else p
    let p ← p.skipWhile? fun c => c = ' ' || (c = '\t' && (s.inFlow || !s.keyAllowed))
    let p ← if p.peek? = some '#' then comments? (p.left + commentReach) 0 p else some p
    if p.peek?.any isBreak then
      let p ← p.need? 2
      toToken? fuel { s with cursor := p.skipBreak, keyAllowed := s.keyAllowed || !s.inFlow }
    else return { s with cursor := p }

/-! ## Single tokens -/

/-- A token that opens brackets. -/
def openFlow? (s : Scan) (t : Token) : Option Scan := do
  let s ← s.markCandidate?
  if s.level ≥ maxDepth then none
  return { (s.skip 1).add t with
    candidates := s.candidate :: s.candidates
    candidate := { place := s.count }
    level := s.level + 1
    keyAllowed := true }

def closeFlow? (s : Scan) (t : Token) : Option Scan := do
  let s ← s.dropCandidate?
  let s := match s.candidates with
    | k :: ks =>
      { s.stopWaiting s.candidate.place with
        candidate := k, candidates := ks, level := s.level - 1 }
    | [] => s
  return { (s.skip 1).add t with keyAllowed := false }

def comma? (s : Scan) : Option Scan := do
  let s ← s.dropCandidate?
  return { (s.skip 1).add .comma with keyAllowed := true }

def entry? (s : Scan) : Option Scan := do
  if !s.inFlow && !s.keyAllowed then none
  let s ← s.openBlock? s.cursor.column s.count .sequenceStart
  let s ← s.dropCandidate?
  return { (s.skip 1).add .entry with keyAllowed := true }

def key? (s : Scan) : Option Scan := do
  if !s.inFlow && !s.keyAllowed then none
  let s ← s.openBlock? s.cursor.column s.count .mappingStart
  let s ← s.dropCandidate?
  return { (s.skip 1).add .key with keyAllowed := !s.inFlow }

/-- A colon. The candidate before it, if there is one, is a key. -/
def value? (s : Scan) : Option Scan := do
  let k := s.candidate
  if k.possible && s.reaches k then
    let s ← (s.insertAt k.place .key).openBlock? k.column k.place .mappingStart
    let s := { s.stopWaiting k.place with candidate := { k with possible := false } }
    return { (s.skip 1).add .value with keyAllowed := false }
  if k.possible && k.required then none
  let s := { s with candidate := { k with possible := false } }
  if !s.inFlow && !s.keyAllowed then none
  let s ← s.openBlock? s.cursor.column s.count .mappingStart
  return { (s.skip 1).add .value with keyAllowed := !s.inFlow }

/-- The name of an anchor or alias. -/
def name? (s : Scan) (token : List Char → Token) : Option Scan := do
  let s ← s.markCandidate?
  let (name, p) ← s.cursor.skip.span? isNameChar
  let next := p.peek?
  if name.isEmpty || !(isSpaceEnd next || next.any fun c => "?:,]\x7d%@\x60".toList.contains c) then none
  return { s.add (token name) with cursor := p, keyAllowed := false }

def tag? (s : Scan) : Option Scan := do
  let s ← s.markCandidate?
  let (t, p) ← tagToken? s.cursor
  let p ← p.need? 1
  if !isSpaceEnd p.peek? then none
  return { s.add t with cursor := p, keyAllowed := false }

def block? (s : Scan) (literal : Bool) : Option Scan := do
  let s ← s.dropCandidate?
  let (text, p) ← Yaml.block? literal s.indent s.cursor
  return { s.add (.scalar text false) with cursor := p, keyAllowed := true }

def quoted? (s : Scan) (double : Bool) : Option Scan := do
  let s ← s.markCandidate?
  let (text, p) ← Yaml.quoted? double s.cursor
  return { s.add (.scalar text false) with cursor := p, keyAllowed := false }

/-- A plain scalar. A key can start after it if a line ends there. -/
def plain? (s : Scan) : Option Scan := do
  let s ← s.markCandidate?
  let (text, lineEnded, p) ← Yaml.plain? s.inFlow s.indent s.cursor
  return { s.add (.scalar text true) with cursor := p, keyAllowed := lineEnded }

def marker? (s : Scan) (t : Token) : Option Scan := do
  let s ← (s.closeBlocks (-1)).dropCandidate?
  return { (s.skip 3).add t with keyAllowed := false }

def directive? (s : Scan) : Option Scan := do
  let s ← (s.closeBlocks (-1)).dropCandidate?
  let (t, p) ← Yaml.directive? s.cursor
  return { s.add t with cursor := p, keyAllowed := false }

/-- The end of the text, which also ends its last line. -/
def finish? (s : Scan) : Option Scan := do
  let p := s.cursor
  let s := if p.column = 0 then s else { s with cursor := { p with column := 0, line := p.line + 1 } }
  let s ← (s.closeBlocks (-1)).dropCandidate?
  return { s.add .textEnd with keyAllowed := false }

/-- Whether a plain scalar can start with a character. -/
def startsPlain (inFlow : Bool) (c : Char) (next : Option Char) : Bool :=
  !(isBlank c || isBreak c || "-?:,[]\x7b\x7d#&*!|>'\"%@\x60".toList.contains c) ||
    (c = '-' && !next.any isBlank) || (!inFlow && (c = '?' || c = ':') && !isSpaceEnd next)

/-- Adds the token that starts with a character, if it is no marker or directive. -/
def nextAt? (s : Scan) (c : Char) (next : Option Char) : Option Scan :=
  if c = '[' then s.openFlow? .bracketOpen
  else if c = '{' then s.openFlow? .braceOpen
  else if c = ']' then s.closeFlow? .bracketClose
  else if c = '}' then s.closeFlow? .braceClose
  else if c = ',' then s.comma?
  else if c = '-' && isSpaceEnd next then s.entry?
  else if c = '?' && (s.inFlow || isSpaceEnd next) then s.key?
  else if c = ':' && (s.inFlow || isSpaceEnd next) then s.value?
  else if c = '*' then s.name? .reference
  else if c = '&' then s.name? .anchor
  else if c = '!' then s.tag?
  else if c = '|' && !s.inFlow then s.block? true
  else if c = '>' && !s.inFlow then s.block? false
  else if c = '\'' then s.quoted? false
  else if c = '"' then s.quoted? true
  else if startsPlain s.inFlow c next then s.plain?
  else none

/-- Moves past a comment on the line of the last token. A dash has none. -/
def lineComment? (s : Scan) : Option Scan :=
  if s.queue.getLast? = some .entry || s.cursor.newlines > 0 then some s
  else (Yaml.lineComment? commentReach 0 s.cursor).map fun p => { s with cursor := p }

/-- Adds the next token, and the tokens that its indentation asks for. -/
def next? (s : Scan) : Option Scan := do
  let s ← toToken? (s.cursor.left + 1) s
  let s := s.closeBlocks s.cursor.column
  let p ← s.cursor.need? 4
  let s := { s with cursor := p }
  match p.peek? with
  | none => s.finish?
  | some c =>
    if p.column = 0 && c = '%' then s.directive?
    else if p.atMarker '-' then s.marker? .documentStart
    else if p.atMarker '.' then s.marker? .documentEnd
    else (← s.nextAt? c (p.peekAt? 1)).lineComment?

/-! ## Taking tokens -/

def candidateAt? (s : Scan) (level : Nat) : Option Candidate :=
  if level = s.level then some s.candidate else s.candidates[s.level - 1 - level]?

/-- Notes that the candidate of a level is none any more. -/
def forget (s : Scan) (level : Nat) : Scan :=
  if level = s.level then { s with candidate := { s.candidate with possible := false } }
  else { s with
    candidates := s.candidates.modify (s.level - 1 - level) fun k => { k with possible := false } }

/-- The number of tokens that have to be in the queue. -/
def lookahead : Nat := 3

/-- Adds tokens until the first one of the queue is understood: two have to follow it, and if it may
be a key, the colon has to be found, or the end of the line. -/
def fill? : Nat → Scan → Option Scan
  | 0, _ => none
  | fuel + 1, s =>
    if s.queue.length < lookahead then s.next?.bind (fill? fuel)
    else
      match s.waiting[s.taken]?.bind fun l => (s.candidateAt? l).map (l, ·) with
      | none => some s
      | some (l, k) =>
        if !k.possible then some s
        else if s.reaches k then s.next?.bind (fill? fuel)
        else if k.required then none
        else some (s.forget l)

/-- The first token of the queue. Every token but the last takes a character. -/
def peek? (s : Scan) : Option (Token × Scan) := do
  let s ← fill? (s.cursor.left + lookahead + 2) s
  return (← s.queue.head?, s)

/-- Takes the first token of the queue. -/
def take (s : Scan) : Scan := { s with queue := s.queue.drop 1, taken := s.taken + 1 }

end Scan

end FlagFlow.Yaml
