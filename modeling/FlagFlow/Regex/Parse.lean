import FlagFlow.Regex.Reach
import FlagFlow.Regex.Shape
import FlagFlow.Text.Quoted

/-!
# Reading regular expressions

The syntax has alternation, groups with and without names, flags, character classes, repetition with
counts up to a thousand, anchors and escape sequences. It has no back-references and no look-around,
and its expressions are nested at most a thousand deep, and limited in size.

A regular expression is read from left to right. The state of the reader holds the groups that are
open; a repetition applies to the last item of the innermost one.

* `Regex.parse?`: reads a regular expression.
-/

namespace FlagFlow.Regex

open Text

/-! ## Pieces of the syntax -/

/-- What a flag group can change: case does not matter, `^` and `$` also match at lines, the point
also matches a newline. -/
structure Flags where
  fold : Bool := false
  multiLine : Bool := false
  dotNewline : Bool := false
  deriving DecidableEq, Repr

def maxCount : Nat := 1000

def maxHeight : Nat := 1000

/-- The greatest size of an expression whose repetitions are written out. -/
def maxExtent : Nat := 3355443

/-- Whether a character is an ASCII letter or digit. -/
def isAlphanumeric (c : Char) : Bool := c.isAlphanum

/-- A decimal number without superfluous zeros, with what follows it. -/
def count? (cs : List Char) : Option (Nat × List Char) :=
  let digits := cs.takeWhile Char.isDigit
  let rest := cs.dropWhile Char.isDigit
  match digits with
  | [] => none
  | '0' :: _ :: _ => none
  | ds => (number? 10 (fun c => some (c.toNat - '0'.toNat)) ds).map (·, rest)

/-- The bounds of a repetition `{min}`, `{min,}` or `{min,max}`, after its opening brace. -/
def bounds? (cs : List Char) : Option ((Nat × Option Nat) × List Char) := do
  let (min, rest) ← count? cs
  match rest with
  | '}' :: rest => return ((min, some min), rest)
  | ',' :: '}' :: rest => return ((min, none), rest)
  | ',' :: rest =>
    let (max, rest) ← count? rest
    match rest with
    | '}' :: rest => return ((min, some max), rest)
    | _ => none
  | _ => none

/-- Whether the counts of nested repetitions stay within `n` when they are multiplied. -/
def countsWithin : Regex → Nat → Bool
  | rep r min max, n =>
    match max with
    | some 0 => true
    | some m => m ≤ n && countsWithin r (n / m)
    | none => min ≤ n && countsWithin r (if min = 0 then n else n / min)
  | cat r s, n => countsWithin r n && countsWithin s n
  | alt r s, n => countsWithin r n && countsWithin s n
  | group _ r, n => countsWithin r n
  | _, _ => true

/-- The count of a repetition: the greatest one, or the least if there is no greatest. -/
def countOf : Regex → Nat
  | rep _ min max => Nat.max 1 (max.getD min)
  | _ => 1

/-- The hexadecimal number of `\x{…}`, after its opening brace. -/
def bracedHex? (value : Nat) (some? : Bool) : List Char → Option (Nat × List Char)
  | '}' :: rest => if some? then some (value, rest) else none
  | c :: rest => do
    let v ← hexValue? c
    let value := value * 16 + v
    if value > 0x10FFFF then none else bracedHex? value true rest
  | [] => none

/-- The number written by up to `n` octal digits after `value`. -/
def octal : Nat → Nat → List Char → Nat × List Char
  | 0, value, cs => (value, cs)
  | n + 1, value, cs =>
    match cs with
    | c :: rest =>
      match octalValue? c with
      | some v => octal n (value * 8 + v) rest
      | none => (value, cs)
    | [] => (value, [])

/-- The code point of an escape sequence, after its backslash. -/
def escapePoint? : List Char → Option (Nat × List Char)
  | [] => none
  | '0' :: rest => some (octal 2 0 rest)
  | 'x' :: '{' :: rest => bracedHex? 0 false rest
  | 'x' :: a :: b :: rest => do return ((← hexValue? a) * 16 + (← hexValue? b), rest)
  | 'a' :: rest => some (0x07, rest)
  | 'f' :: rest => some (0x0c, rest)
  | 'n' :: rest => some (0x0a, rest)
  | 'r' :: rest => some (0x0d, rest)
  | 't' :: rest => some (0x09, rest)
  | 'v' :: rest => some (0x0b, rest)
  | c :: rest =>
    match octalValue? c, rest.head?.bind octalValue? with
    | some v, some _ => some (octal 2 v rest)
    | _, _ => if c.toNat < 0x80 && !isAlphanumeric c then some (c.toNat, rest) else none

/-- The class of `\d`, `\s`, `\w` and their complements. -/
def perlClass? (c : Char) (fold : Bool) : Option CharSet :=
  match c with
  | 'd' => some (CharSet.digit.folded fold)
  | 'D' => some ((CharSet.digit.folded fold).negated true)
  | 's' => some (CharSet.space.folded fold)
  | 'S' => some ((CharSet.space.folded fold).negated true)
  | 'w' => some (CharSet.word.folded fold)
  | 'W' => some ((CharSet.word.folded fold).negated true)
  | _ => none

/-- The class `\pX`, `\p{Name}` or `\p{^Name}`, after the letter `p` or `P`. -/
def unicodeClass? (negate fold : Bool) (cs : List Char) : Option (CharSet × List Char) := do
  let (name, rest) ← match cs with
    | '{' :: rest =>
      let name := rest.takeWhile (· != '}')
      match rest.dropWhile (· != '}') with
      | _ :: rest => some (name, rest)
      | [] => none
    | c :: rest => some ([c], rest)
    | [] => none
  let (negate, name) := match name with
    | '^' :: name => (!negate, name)
    | name => (negate, name)
  let s ← CharSet.unicode? (String.ofList name)
  return ((s.folded fold).negated negate, rest)

/-- The named class `[:name:]` after its opening bracket and colon. There is none if the closing
colon and bracket are missing; the second result is `none` if the name is not known. -/
def namedClass? (fold : Bool) (cs : List Char) : Option (Option CharSet × List Char) :=
  let rec split (name : List Char) : List Char → Option (List Char × List Char)
    | ':' :: ']' :: rest => some (name.reverse, rest)
    | c :: rest => split (c :: name) rest
    | [] => none
  (split [] cs).map fun (name, rest) =>
    let (negate, name) := match name with
      | '^' :: name => (true, name)
      | name => (false, name)
    ((CharSet.posix? (String.ofList name)).map fun s => (s.folded fold).negated negate, rest)

/-- A single character of a class, plain or escaped. -/
def classPoint? : List Char → Option (Nat × List Char)
  | [] => none
  | '\\' :: rest => escapePoint? rest
  | c :: rest => some (c.toNat, rest)

/-- A class that stands inside brackets as a whole: named, of Unicode, or of a letter. The outer
result is `none` where there is no such class, the inner one where it is malformed. -/
def innerClass? (fold : Bool) : List Char → Option (Option (CharSet × List Char))
  | '[' :: ':' :: rest =>
    match namedClass? fold rest with
    | some (some s, rest) => some (some (s, rest))
    | some (none, _) => some none
    | none => none
  | '\\' :: 'p' :: rest => some (unicodeClass? false fold rest)
  | '\\' :: 'P' :: rest => some (unicodeClass? true fold rest)
  | '\\' :: c :: rest => (perlClass? c fold).map fun s => some (s, rest)
  | _ => none

/-- A character or a range of characters inside brackets. -/
def classRange? (fold : Bool) (cs : List Char) : Option (CharSet × List Char) := do
  let (lo, rest) ← classPoint? cs
  match rest with
  | '-' :: c :: rest' =>
    if c = ']' then return ((CharSet.point lo).folded fold, rest)
    else
      let (hi, rest) ← classPoint? (c :: rest')
      if hi < lo then none else return ((CharSet.range lo hi).folded fold, rest)
  | rest => return ((CharSet.point lo).folded fold, rest)

/-- The items of a class up to its closing bracket. A closing bracket that stands first is an item.
Each round takes at least one character. -/
def classItems? (fold : Bool) : Nat → Bool → CharSet → List Char → Option (CharSet × List Char)
  | 0, _, _, _ => none
  | fuel + 1, first, acc, cs =>
    match cs with
    | ']' :: rest =>
      if first then do
        let (s, rest) ← classRange? fold cs
        classItems? fold fuel false (.union acc s) rest
      else some (acc, rest)
    | cs =>
      match innerClass? fold cs with
      | some (some (s, rest)) => classItems? fold fuel false (.union acc s) rest
      | some none => none
      | none => do
        let (s, rest) ← classRange? fold cs
        classItems? fold fuel false (.union acc s) rest

/-- A class in brackets, after the opening bracket. -/
def bracketClass? (fold : Bool) (cs : List Char) : Option (CharSet × List Char) :=
  let (negate, cs) := match cs with
    | '^' :: cs => (true, cs)
    | cs => (false, cs)
  (classItems? fold (cs.length + 1) true .none cs).map fun (s, rest) => (s.negated negate, rest)

/-! ## The reader -/

/-- A group that is being read, with the flags that hold again after it, its alternatives and the
items of the current one, the last one first. -/
structure Group where
  outer : Flags
  captures : Bool := false
  alternatives : List Regex := []
  items : List Regex := []

/-- The expression of the items of an alternative, given the last one first. -/
def catAll (items : List Regex) : Regex :=
  match items.reverse with
  | [] => .empty
  | r :: rs => rs.foldl .cat r

/-- The expression of the alternatives of a group. -/
def Group.inner (g : Group) : Regex :=
  match (catAll g.items :: g.alternatives).reverse with
  | [] => .empty
  | r :: rs => rs.foldl .alt r

/-- The expression of a group. Parentheses that have no effect are not kept. -/
def Group.toRegex (g : Group) : Regex :=
  match g.captures, g.inner with
  | false, .cat r s => .group false (.cat r s)
  | false, .alt r s => .group false (.alt r s)
  | false, r => r
  | true, r => .group true r

/-- What has been read: the innermost open group and those around it, the flags that hold here,
whether the last item ends in a repetition operator, and the product of the counts of repetitions,
as far as `maxExtent`. -/
structure Reader where
  group : Group := { outer := {} }
  around : List Group := []
  flags : Flags := {}
  repeated : Bool := false
  counts : Nat := 1

namespace Reader

/-- Takes the count of an expression into account. A repetition counts where it is read, and once
more where it turns out to be all of an alternative or of a group. -/
def count (p : Reader) (r : Regex) : Reader :=
  { p with counts := Nat.min maxExtent (p.counts * countOf r) }

/-- Takes the counts of the last alternative and of the innermost group into account. -/
def countGroup (p : Reader) : Reader := (p.count (catAll p.group.items)).count p.group.inner

def push (p : Reader) (r : Regex) : Reader :=
  { p with group := { p.group with items := r :: p.group.items }, repeated := false }

def literal (p : Reader) (n : Nat) : Reader :=
  p.push (.one ((CharSet.point n).folded p.flags.fold))

def openGroup (p : Reader) (captures : Bool) : Reader :=
  { p with group := { outer := p.flags, captures }, around := p.group :: p.around, repeated := false }

/-- Closes the innermost group. -/
def close? (p : Reader) : Option Reader :=
  match p.around with
  | [] => none
  | g :: around =>
    some { p.countGroup.count p.group.toRegex with
      group := { g with items := p.group.toRegex :: g.items }
      around := around
      flags := p.group.outer
      repeated := false }

/-- Starts the next alternative. -/
def bar (p : Reader) : Reader :=
  { p.count (catAll p.group.items) with
    group := { p.group with alternatives := catAll p.group.items :: p.group.alternatives, items := [] }
    repeated := false }

/-- Repeats the last item. Two operators in a row are refused; a question mark after an operator
only changes which match is preferred. -/
def repeat? (p : Reader) (min : Nat) (max : Option Nat) (rest : List Char) :
    Option (Reader × List Char) :=
  let rest := match rest with
    | '?' :: rest => rest
    | rest => rest
  if p.repeated then none
  else match p.group.items with
    | [] => none
    | r :: items =>
      let r := .rep r min max
      some ({ p.count r with group := { p.group with items := r :: items }, repeated := true }, rest)

/-- A counted repetition. Counts beyond the limit and empty ranges are refused, and so are nested
repetitions whose counts multiply beyond it. -/
def repeatCounted? (p : Reader) (min : Nat) (max : Option Nat) (rest : List Char) :
    Option (Reader × List Char) := do
  if min > maxCount || max.any (fun m => m > maxCount || m < min) then none
  let (p, rest) ← p.repeat? min max rest
  let many := min ≥ 2 || max.any (· ≥ 2)
  if many && !(p.group.items.head?.all fun r => countsWithin r maxCount) then none
  return (p, rest)

/-- The flags of a group `(?flags)` or `(?flags:…)` after the question mark. After a minus sign
flags are cleared, and there has to be one. -/
def flagGroup? (p : Reader) (flags : Flags) (clear sawFlag : Bool) :
    List Char → Option (Reader × List Char)
  | 'i' :: rest => flagGroup? p { flags with fold := !clear } clear true rest
  | 'm' :: rest => flagGroup? p { flags with multiLine := !clear } clear true rest
  | 's' :: rest => flagGroup? p { flags with dotNewline := !clear } clear true rest
  | 'U' :: rest => flagGroup? p flags clear true rest
  | '-' :: rest => if clear then none else flagGroup? p flags true false rest
  | ':' :: rest =>
    if clear && !sawFlag then none else some ({ p.openGroup false with flags }, rest)
  | ')' :: rest =>
    if clear && !sawFlag then none else some ({ p with flags, repeated := false }, rest)
  | _ => none

/-- A group with a name, after the opening angle bracket. A name has letters, digits and
underscores. -/
def namedGroup? (p : Reader) (cs : List Char) : Option (Reader × List Char) :=
  let name := cs.takeWhile (· != '>')
  match cs.dropWhile (· != '>') with
  | _ :: rest =>
    if name.isEmpty || !name.all (fun c => c = '_' || isAlphanumeric c) then none
    else some (p.openGroup true, rest)
  | [] => none

/-- What follows an opening parenthesis. -/
def paren? (p : Reader) : List Char → Option (Reader × List Char)
  | '?' :: 'P' :: '<' :: rest => p.namedGroup? rest
  | '?' :: '<' :: rest => p.namedGroup? rest
  | '?' :: rest => p.flagGroup? p.flags false false rest
  | rest => some (p.openGroup true, rest)

/-- The literal text of `\Q…\E`, after the letter `Q`. -/
def literalText (p : Reader) : List Char → Reader × List Char
  | '\\' :: 'E' :: rest => ({ p with repeated := false }, rest)
  | c :: rest => (p.literal c.toNat).literalText rest
  | [] => ({ p with repeated := false }, [])

/-- What follows a backslash. -/
def escape? (p : Reader) : List Char → Option (Reader × List Char)
  | 'A' :: rest => some (p.push (.anchor .textStart), rest)
  | 'b' :: rest => some (p.push (.anchor .wordBoundary), rest)
  | 'B' :: rest => some (p.push (.anchor .noWordBoundary), rest)
  | 'C' :: _ => none
  | 'Q' :: rest => some (p.literalText rest)
  | 'z' :: rest => some (p.push (.anchor .textEnd), rest)
  | 'p' :: rest =>
    (unicodeClass? false p.flags.fold rest).map fun (s, rest) => (p.push (.one s), rest)
  | 'P' :: rest =>
    (unicodeClass? true p.flags.fold rest).map fun (s, rest) => (p.push (.one s), rest)
  | cs =>
    match cs with
    | c :: rest =>
      match perlClass? c p.flags.fold with
      | some s => some (p.push (.one s), rest)
      | none => (escapePoint? cs).map fun (n, rest) => (p.literal n, rest)
    | [] => none

/-- Reads the next construct, which takes at least one character. -/
def step? (p : Reader) (c : Char) (rest : List Char) : Option (Reader × List Char) :=
  match c with
  | '(' => p.paren? rest
  | ')' => p.close?.map (·, rest)
  | '|' => some (p.bar, rest)
  | '^' => some (p.push (.anchor (if p.flags.multiLine then .lineStart else .textStart)), rest)
  | '$' => some (p.push (.anchor (if p.flags.multiLine then .lineEnd else .textEnd)), rest)
  | '.' => some (p.push (.one (if p.flags.dotNewline then .any else .notNewline)), rest)
  | '[' => (bracketClass? p.flags.fold rest).map fun (s, rest) => (p.push (.one s), rest)
  | '*' => p.repeat? 0 none rest
  | '+' => p.repeat? 1 none rest
  | '?' => p.repeat? 0 (some 1) rest
  | '{' =>
    match bounds? rest with
    | some ((min, max), rest) => p.repeatCounted? min max rest
    | none => some (p.literal '{'.toNat, rest)
  | '\\' => p.escape? rest
  | c => some (p.literal c.toNat, rest)

/-- Reads the constructs of an expression, at most `fuel` of them. -/
def run? : Nat → Reader → List Char → Option Reader
  | _, p, [] => some p
  | 0, _, _ => none
  | fuel + 1, p, c :: rest => do
    let (p, rest) ← p.step? c rest
    run? fuel p rest

end Reader

/-- Whether a shape is small enough. Its size does not matter as long as it has few nodes for the
counts of its repetitions. -/
def Shape.fits (s : Shape) (counts : Nat) : Bool :=
  s.height ≤ maxHeight && (s.nodes < maxExtent / counts || s.extent ≤ maxExtent)

/-- Reads a regular expression; `none` if it is not valid. Every construct takes a character, so
there are at most as many as the expression has. -/
def parse? (text : String) : Option Regex := do
  let cs := text.toList
  let p ← Reader.run? cs.length {} cs
  let r := p.group.inner
  if p.around.isEmpty && r.shape.fits p.countGroup.counts then return r else none

end FlagFlow.Regex
