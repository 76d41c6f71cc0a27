import FlagFlow.Text.Quoted

/-!
# Drawings of graphs

Graphs in the DOT language, which names nodes, draws edges between them and gives both attributes.

* `Attr`: an attribute.
* `Drawing`: the nodes and edges of a drawing, with their attributes.
* `ident`: a text as an identifier of the language, quoted if need be.
* `Drawing.render`: the text of a drawing.
-/

namespace FlagFlow.Dot

/-- An attribute of a node, an edge or a graph. -/
structure Attr where
  key : String
  value : String
  deriving DecidableEq, Repr

/-- A drawing, with attributes of its own, of all nodes and of all edges. Edges have the names of
the nodes that they join. -/
structure Drawing where
  name : String
  graphAttrs : List Attr
  nodeAttrs : List Attr
  edgeAttrs : List Attr
  nodes : List (String × List Attr)
  edges : List (String × String × List Attr)

/-! ## Identifiers -/

/-- The words of the language. -/
def keywords : List String := ["node", "edge", "graph", "digraph", "subgraph", "strict"]

/-- Whether a character can start a name. -/
def startsName (c : Char) : Bool := c.isAlpha || c = '_' || (0x80 ≤ c.toNat && c.toNat ≤ 0xFF)

def isName : List Char → Bool
  | [] => false
  | c :: cs => startsName c && cs.all fun c => startsName c || c.isDigit

/-- Whether a text is a number. -/
def isNumber (cs : List Char) : Bool :=
  let cs := match cs with
    | '-' :: cs => cs
    | cs => cs
  match cs.takeWhile Char.isDigit, cs.dropWhile Char.isDigit with
  | [], '.' :: rest => !rest.isEmpty && rest.all Char.isDigit
  | [], _ => false
  | _, [] => true
  | _, '.' :: rest => rest.all Char.isDigit
  | _, _ => false

/-- Whether a text stands in angle brackets. -/
def isMarkup (cs : List Char) : Bool := cs.head? = some '<' && cs.getLast? = some '>'

def ident (s : String) : String :=
  let cs := s.toList
  if keywords.contains (String.ofList (cs.map Char.toLower)) then Text.quote s
  else if isName cs || isNumber cs || (Text.unquote? s).isSome || isMarkup cs then s
  else Text.quote s

/-! ## Layout -/

def Attr.text (a : Attr) : String := ident a.key ++ "=" ++ ident a.value

def attrLines (as : List Attr) : String := String.join (as.map fun a => "    " ++ a.text ++ "\n")

/-- The attributes of all things of a kind. -/
def defaults (kind : String) (as : List Attr) : String :=
  if as.isEmpty then "" else "  " ++ kind ++ " [\n" ++ attrLines as ++ "  ];\n"

/-- The attributes of one node or edge. -/
def attrList : List Attr → String
  | [] => ""
  | [a] => " [" ++ a.text ++ "]"
  | as => " [\n" ++ attrLines as ++ "  ]"

/-- The text of a drawing. -/
def Drawing.render (d : Drawing) : String :=
  let node (n : String × List Attr) : String := "  " ++ n.1 ++ attrList n.2 ++ ";\n"
  let edge (e : String × String × List Attr) : String :=
    "  " ++ e.1 ++ " -> " ++ e.2.1 ++ attrList e.2.2 ++ ";\n"
  "strict digraph " ++ (if d.name = "" then "" else ident d.name ++ " ") ++ "\x7b\n" ++
    defaults "graph" d.graphAttrs ++ defaults "node" d.nodeAttrs ++ defaults "edge" d.edgeAttrs ++
    (if d.nodes.isEmpty then "" else
      "\n  // Node definitions.\n" ++ String.join (d.nodes.map node)) ++
    (if d.edges.isEmpty then "" else
      "\n  // Edge definitions.\n" ++ String.join (d.edges.map edge)) ++
    "\x7d\n"

end FlagFlow.Dot
