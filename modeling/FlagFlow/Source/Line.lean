/-!
# Lines of source files

* `Source.Line`: a line, taken apart into its indentation, its code and the comments after it.
* `Source.Line.ofText`: takes a line apart.
* `Source.alignComments`: lines with the comments after the code in columns.
-/

namespace FlagFlow.Source

/-! ## Taking a line apart -/

/-- A piece of a line: code, with the blanks between comments, or a comment. -/
inductive Piece where
  | code (text : List Char)
  | comment (text : List Char)
  deriving DecidableEq, Repr

/-- Where in a line something is read: in the code, in a literal, after a backslash or not, or in a
comment up to its closing mark. -/
inductive Within where
  | code
  | literal (quote : Char) (escaped : Bool)
  | comment
  deriving DecidableEq, Repr

def isQuote (c : Char) : Bool := c = '"' || c = '\'' || c.toNat = 0x60

/-- The pieces of a line; `read` has what has been read of the current one, the last character
first. -/
def pieces : Within → (read : List Char) → List Char → List Piece
  | .code, read, [] => [.code read.reverse]
  | .literal .., read, [] => [.code read.reverse]
  | .comment, read, [] => [.comment read.reverse]
  | .code, read, '/' :: '/' :: cs => [.code read.reverse, .comment ('/' :: '/' :: cs)]
  | .code, read, '/' :: '*' :: cs => .code read.reverse :: pieces .comment ['*', '/'] cs
  | .code, read, c :: cs => pieces (if isQuote c then .literal c false else .code) (c :: read) cs
  | .literal q escaped, read, c :: cs =>
    if escaped then pieces (.literal q false) (c :: read) cs
    else if c = q then pieces .code (c :: read) cs
    else pieces (.literal q (c = '\\' && q.toNat != 0x60)) (c :: read) cs
  | .comment, read, '*' :: '/' :: cs => .comment ('/' :: '*' :: read).reverse :: pieces .code [] cs
  | .comment, read, c :: cs => pieces .comment (c :: read) cs

/-- Whether a character is a blank within a line. -/
def isLineBlank (c : Char) : Bool := c = ' ' || c = '\t' || c = '\r'

/-- A text without blanks at its end. -/
def trimEnd (cs : List Char) : List Char := (cs.reverse.dropWhile isLineBlank).reverse

def Piece.chars : Piece → List Char
  | code cs => cs
  | comment cs => cs

/-- Whether a piece is code other than blanks. -/
def Piece.isCode : Piece → Bool
  | code cs => !cs.all isLineBlank
  | comment _ => false

def Piece.comment? : Piece → Option String
  | code _ => none
  | comment cs => some (String.ofList cs)

/-- A line of a source file: the blanks at its start, the code with the comments inside it, and the
comments after it. -/
structure Line where
  indent : String
  code : String
  comments : List String
  deriving DecidableEq, Repr

namespace Line

/-- Takes a line apart. -/
def ofText (text : String) : Line :=
  let cs := text.toList
  let ps := (pieces .code [] (cs.dropWhile isLineBlank)).reverse
  let code := (ps.dropWhile fun p => !p.isCode).reverse.flatMap Piece.chars
  { indent := String.ofList (cs.takeWhile isLineBlank)
    code := String.ofList (trimEnd code)
    comments := (ps.takeWhile fun p => !p.isCode).reverse.filterMap Piece.comment? }

/-- Whether a line has nothing on it. -/
def isBlank (l : Line) : Bool := l.code = "" && l.comments.isEmpty

/-- Whether a line has nothing but comments on it. -/
def isComment (l : Line) : Bool := l.code = "" && !l.comments.isEmpty

/-! ## Columns -/

/-- What stands in the columns of a line, without blanks at the ends of comments. -/
def cells (l : Line) : List String :=
  let comments := l.comments.map fun c => String.ofList (trimEnd c.toList)
  if l.code = "" then comments else l.code :: comments

/-- Whether a line starts with a comment. -/
def startsWithComment (l : Line) : Bool :=
  l.isComment || l.code.startsWith "//" || l.code.startsWith "/*"

/-- Whether the columns of a line are independent of those of the line before: the first line of
a block, the line with its closing brace, the one after that, and a line that starts with a
comment. -/
def startsSection (before l : Line) : Bool :=
  before.code.endsWith "\x7b" || before.code.startsWith "\x7d" || l.code.startsWith "\x7d" ||
    l.startsWithComment

end Line

/-- The sections of lines, each with the lines whose columns belong together. -/
def sections : List Line → List (List Line)
  | [] => []
  | [l] => [[l]]
  | l :: next :: ls =>
    match sections (next :: ls) with
    | s :: ss => if l.startsSection next then [l] :: s :: ss else (l :: s) :: ss
    | [] => [[l]]

/-- A text with blanks up to a width. -/
def padTo (width : Nat) (s : String) : String :=
  s ++ String.ofList (List.replicate (width - s.length) ' ')

/-- The width of a column: one more than its longest text. -/
def columnWidth (cells : List String) : Nat := cells.foldl (fun w c => max w c.length) 0 + 1

/-- Rows with their first `n` columns aligned. A column goes on as long as there is another one
after it in every row. -/
def alignRows : Nat → List (List String) → List String
  | 0, rows => rows.map (" ".intercalate ·)
  | n + 1, rows =>
    let runs := rows.splitBy fun a b => decide (1 < a.length) = decide (1 < b.length)
    runs.flatMap fun run =>
      if run.all fun row => decide (1 < row.length) then
        let firsts := run.map fun row => row.headD ""
        (firsts.map (padTo (columnWidth firsts))).zipWith (· ++ ·) (alignRows n (run.map List.tail))
      else run.map fun row => row.headD ""

/-- Lines with the comments after the code in columns. -/
def alignComments (lines : List String) : List String :=
  (sections (lines.map .ofText)).flatMap fun s =>
    let rows := s.map Line.cells
    let depth := rows.foldl (fun n row => max n row.length) 0
    s.zipWith (fun l row => if l.isBlank then "" else l.indent ++ row) (alignRows depth rows)

end FlagFlow.Source
