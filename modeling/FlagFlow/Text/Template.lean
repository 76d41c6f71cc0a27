import FlagFlow.Text.Quoted

/-!
# Templates

Text with places for values. A place is a percent sign and a letter: `s` for text, `d` for a number,
`v` for anything; two percent signs stand for one. What does not fit is reported in the text itself.

* `Value`: what can be put into a place.
* `fill`: a template with its places filled.
* `join`: values one after the other, with a space between two of them if neither is text.
-/

namespace FlagFlow.Text

/-- What can be put into a place of a template. -/
inductive Value where
  | text (s : String)
  | int (n : Int)
  | bool (b : Bool)
  | none
  deriving DecidableEq, Repr

namespace Value

def plain : Value → String
  | text s => s
  | int n => toString n
  | bool b => if b then "true" else "false"
  | none => "<nil>"

/-- The value with its kind, for reports about places that it does not fit. -/
def detail : Value → String
  | text s => "string=" ++ s
  | int n => "int=" ++ toString n
  | bool b => "bool=" ++ (bool b).plain
  | none => "<nil>"

def isText : Value → Bool
  | text _ => true
  | _ => false

/-- The text of a value at a place of a kind. -/
def showAt (kind : Char) (x : Value) : String :=
  match kind, x with
  | 'v', x => x.plain
  | 's', text s => s
  | 'q', text s => quote s
  | 'd', int n => toString n
  | 't', bool b => (bool b).plain
  | kind, x => "%!" ++ kind.toString ++ "(" ++ x.detail ++ ")"

end Value

/-- The report about values that have no place. -/
def leftover : List Value → String
  | [] => ""
  | xs => "%!(EXTRA " ++ ", ".intercalate (xs.map Value.detail) ++ ")"

/-- Fills the places of a template from the first to the last. -/
def fillFrom : List Char → List Value → String
  | [], xs => leftover xs
  | ['%'], xs => "%!(NOVERB)" ++ leftover xs
  | '%' :: '%' :: cs, xs => "%" ++ fillFrom cs xs
  | '%' :: kind :: cs, [] => "%!" ++ kind.toString ++ "(MISSING)" ++ fillFrom cs []
  | '%' :: kind :: cs, x :: xs => x.showAt kind ++ fillFrom cs xs
  | c :: cs, xs => c.toString ++ fillFrom cs xs

def fill (template : String) (xs : List Value) : String := fillFrom template.toList xs

/-- Values one after the other; `after` says whether there is a value before that is not text. -/
def joinFrom (after : Bool) : List Value → String
  | [] => ""
  | x :: xs => (if after && !x.isText then " " else "") ++ x.plain ++ joinFrom (!x.isText) xs

/-- Values one after the other, with a space between two of them if neither is text. -/
def join (xs : List Value) : String := joinFrom false xs

end FlagFlow.Text
