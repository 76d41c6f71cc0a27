import FlagFlow.Position
import FlagFlow.Source.Line

/-!
# Source files as trees

A source file as a tree of its conditional statements, with the comments that belong to their
blocks. The rest of the text stays as it is, so that a tree has a text again.

* `Note`, `Braces`, `Tree`: comments, blocks and statements.
* `Tree.first?`: the comments before the first statement.
* `Tree.print`: the text; `Tree.located`: the tree with its braces where the text has them.
* `Tree.ofText`: the tree of a text in which the braces of conditional statements are known.
-/

namespace FlagFlow

/-- The braces of a block. -/
structure BlockSpan where
  opening : Spot
  closing : Spot
  deriving DecidableEq, Repr

/-- The braces of a conditional statement. What runs otherwise counts only if it is a block: another
conditional statement stands for itself. -/
structure IfSpan where
  body : BlockSpan
  otherwise : Option BlockSpan
  deriving DecidableEq, Repr

namespace Source

/-- A comment and the blanks before it. A comment that is added has none; they are chosen when it is
printed. -/
structure Note where
  blanks : Option String
  text : String
  deriving DecidableEq, Repr

/-- A block: its braces, the blanks before the closing one, and the comments that belong to the
opening one. -/
structure Braces where
  span : BlockSpan
  indent : String
  notes : List Note
  deriving DecidableEq, Repr

/-- Statements one after the other. All that is not a conditional statement is `code`, with the
comments before it. A conditional statement has a `head` up to the opening brace, in which there may
be function literals with statements, a block with statements, and what runs otherwise: a block, or
other statements, or nothing. -/
inductive Tree where
  | done (text : String)
  | code (start : List Note) (text : String) (next : Tree)
  | branch (head : Tree) (body : Braces) (inner : Tree) (link : String) (otherwise : Option Braces)
    (rest next : Tree)
  deriving DecidableEq, Repr

namespace Tree

/-- The comments before the first statement, if there is one. -/
def first? : Tree → Option (List Note)
  | done _ => none
  | code start _ _ => some start
  | branch head _ _ _ _ _ _ => some (head.first?.getD [])

/-- The comments before the first statement, none if there is no statement. -/
def start (t : Tree) : List Note := t.first?.getD []

/-- The braces of the conditional statements, in the order in which the statements start. -/
def ifs : Tree → List IfSpan
  | done _ => []
  | code _ _ next => next.ifs
  | branch head body inner _ otherwise rest next =>
    ⟨body.span, otherwise.map Braces.span⟩ :: (head.ifs ++ (inner.ifs ++ (rest.ifs ++ next.ifs)))

end Tree

/-! ## Printing -/

/-- Whether a comment goes up to the end of the line. -/
def Note.isLine (c : Note) : Bool := c.text.toList.take 2 = ['/', '/']

/-- The text of comments. Those without blanks go on a line of their own if `alone` holds or if the
comment before goes up to the end of the line. -/
def printNotes (indent : String) (alone : Bool) : (afterLine : Bool) → List Note → String
  | _, [] => ""
  | afterLine, c :: cs =>
    c.blanks.getD (if alone || afterLine then "\n" ++ indent ++ "\t" else " ") ++ c.text ++
      printNotes indent alone c.isLine cs

/-- The opening brace with its comments, before the text `inside`. -/
def Braces.opens (b : Braces) (alone : Bool) (inside : String) : String :=
  let last :=
    if b.notes.getLast?.any (·.blanks.isNone) && inside.toList.head? != some '\n' then "\n" else ""
  "\x7b" ++ printNotes b.indent alone false b.notes ++ last

namespace Tree

/-- The text of a tree. In a block without statements an added comment has a line of its own. -/
def print : Tree → String
  | done text => text
  | code start text next => printNotes "" false false start ++ text ++ next.print
  | branch head body inner link otherwise rest next =>
    head.print ++ body.opens inner.first?.isNone inner.print ++ inner.print ++ "\x7d" ++ link ++
      (match otherwise with
        | some b => b.opens rest.first?.isNone rest.print ++ rest.print ++ "\x7d"
        | none => rest.print) ++ next.print

/-- The tree of a text that starts at a spot, with the braces where the text has them. -/
def located : Spot → Tree → Tree
  | _, done text => done text
  | start, code comments text next =>
    code comments text (next.located (start.after (printNotes "" false false comments ++ text)))
  | start, branch head body inner link otherwise rest next =>
    let opening := start.after head.print
    let inside := opening.after (body.opens inner.first?.isNone inner.print)
    let closing := inside.after inner.print
    let behind := closing.after ("\x7d" ++ link)
    match otherwise with
    | none =>
      branch (head.located start) { body with span := ⟨opening, closing⟩ }
        (inner.located inside) link none
        (rest.located behind) (next.located (behind.after rest.print))
    | some b =>
      let inside' := behind.after (b.opens rest.first?.isNone rest.print)
      let closing' := inside'.after rest.print
      branch (head.located start) { body with span := ⟨opening, closing⟩ } (inner.located inside) link
        (some { b with span := ⟨behind, closing'⟩ }) (rest.located inside')
          (next.located (closing'.after "\x7d"))

end Tree

/-! ## Reading -/

/-- Whether a character is a blank or ends a line. -/
def isGap (c : Char) : Bool := c = '\n' || isLineBlank c

/-- What is read before a statement. -/
inductive Lead where
  | blanks
  | lineComment
  | blockComment

/-- The comments at the start of a text, with the blanks before them, and what follows. Of the
blanks `gap` has been read, of a comment `read`, with the last character first. -/
def leading : Lead → (gap read : List Char) → List Char → List Note × List Char
  | .blanks, gap, _, [] => ([], gap.reverse)
  | .blanks, gap, _, '/' :: '/' :: cs => leading .lineComment gap ['/', '/'] cs
  | .blanks, gap, _, '/' :: '*' :: cs => leading .blockComment gap ['*', '/'] cs
  | .blanks, gap, _, c :: cs =>
    if isGap c then leading .blanks (c :: gap) [] cs else ([], gap.reverse ++ c :: cs)
  | .lineComment, gap, read, '\n' :: cs =>
    let (comments, rest) := leading .blanks ['\n'] [] cs
    (⟨some (String.ofList gap.reverse), String.ofList read.reverse⟩ :: comments, rest)
  | .blockComment, gap, read, '*' :: '/' :: cs =>
    let (comments, rest) := leading .blanks [] [] cs
    (⟨some (String.ofList gap.reverse), String.ofList ('/' :: '*' :: read).reverse⟩ :: comments, rest)
  | state, gap, read, c :: cs => leading state gap (c :: read) cs
  | _, gap, read, [] => ([⟨some (String.ofList gap.reverse), String.ofList read.reverse⟩], [])

/-- The comments that belong to an opening brace, and the text behind them: those on the line of the
brace, and all comments if there is nothing else before the closing brace. -/
def readNotes (inside : List Char) : List Note × List Char :=
  let (comments, rest) := leading .blanks [] [] inside
  if rest.all isGap then (comments, rest)
  else
    let onLine := fun c : Note => !(c.blanks.getD "").toList.contains '\n'
    (comments.takeWhile onLine, (printNotes "" false false (comments.dropWhile onLine)).toList ++ rest)

/-- The blanks at the start of the last line of a text. -/
def lastIndent (cs : List Char) : String :=
  String.ofList ((cs.reverse.takeWhile (· != '\n')).reverse.takeWhile isLineBlank)

/-- The block with given braces and text inside, and the text behind the comments of the opening
brace. -/
def readBraces (span : BlockSpan) (inside : List Char) : Braces × List Char :=
  let (notes, rest) := readNotes inside
  (⟨span, lastIndent inside, notes⟩, rest)

/-- The spot behind the opening brace of a block and its comments. -/
def Braces.inside (b : Braces) : Spot :=
  b.span.opening.after ("\x7b" ++ printNotes "" false false b.notes)

/-- Text without blocks of conditional statements. -/
def Tree.ofCode (cs : List Char) : Tree :=
  let (start, rest) := leading .blanks [] [] cs
  if rest.all isGap then .done (String.ofList cs) else .code start (String.ofList rest) (.done "")

/-- Cuts a text that starts at a spot before another spot. -/
def cut? (target : Spot) : Spot → List Char → Option (List Char × List Char)
  | start, [] => if start = target then some ([], []) else none
  | start, c :: cs =>
    if start = target then some ([], c :: cs)
    else (cut? target (start.next c) cs).map fun e => (c :: e.1, e.2)

/-- Cuts a text at the braces of a block: what stands before, inside and behind them. -/
def cutBlock? (span : BlockSpan) (start : Spot) (cs : List Char) :
    Option (List Char × List Char × List Char) :=
  match cut? span.opening start cs with
  | some (before, '\x7b' :: cs) =>
    match cut? span.closing (span.opening.next '\x7b') cs with
    | some (inside, '\x7d' :: behind) => some (before, inside, behind)
    | _ => none
  | _ => none

/-- The tree of a text that starts at a spot. The conditional statements come in the order in which
they start, so that each is cut out before those nested in it; those that are not in the text do not
count. -/
def Tree.read : List IfSpan → Spot → List Char → Tree
  | [], _, cs => ofCode cs
  | i :: is, start, cs =>
    match cutBlock? i.body start cs with
    | none => read is start cs
    | some (before, inside, behind) =>
      let (body, inside) := readBraces i.body inside
      let behindBody := i.body.closing.next '\x7d'
      match i.otherwise with
      | none =>
        branch (read is start before) body (read is body.inside inside) "" none (done "")
          (read is behindBody behind)
      | some e =>
        match cutBlock? e behindBody behind with
        | none => read is start cs
        | some (link, inside', behind) =>
          let (other, inside') := readBraces e inside'
          branch (read is start before) body (read is body.inside inside) (String.ofList link)
            (some other) (read is other.inside inside') (read is (e.closing.next '\x7d') behind)

def Tree.ofText (text : String) (ifs : List IfSpan) : Tree := read ifs (1, 1) text.toList

end Source

end FlagFlow
