import FlagFlow.Yaml.Token

/-!
# The first document of a YAML text

* `Node`: scalars, sequences and mappings; an alias refers to a node that has a name.
* `Document`: a node with the nodes that have names. A node may refer to itself.
* `Document.ofText?`: the first document of a text, `none` if the text is malformed.
-/

namespace FlagFlow.Yaml

/-- A node of a document. A scalar has its tag, if one is given, and may be written plainly; a
reference is another node by its name. Aliases and named nodes are numbered, each in their order. -/
inductive Node where
  | scalar (text : String) (plain : Bool) (tag : Option String)
  | sequence (items : List Node)
  | mapping (entries : List (Node × Node))
  | reference (name : String) (number target : Nat)

def Node.missing : Node := .scalar "" true none

/-- A document: its root, the named nodes by number, the number of aliases, and a number that no
path through the nodes is longer than. -/
structure Document where
  root : Node
  named : List (Nat × Node)
  aliases : Nat
  depth : Nat

/-! ## The state of reading -/

/-- What has been read of a document: what the handles of tags stand for, the numbers of the named
nodes, the last one first, those that are complete, and the number of aliases. -/
structure Composition where
  scan : Scan
  handles : List (List Char × List Char) := []
  names : List (List Char × Nat) := []
  named : List (Nat × Node) := []
  aliases : Nat := 0

/-- Reading a part of a document. -/
abbrev Compose (α : Type) : Type := StateT Composition Option α

namespace Compose

def fail {α : Type} : Compose α := fun _ => none

def peek : Compose Token := fun c => c.scan.peek?.map fun (t, s) => (t, { c with scan := s })

def advance : Compose Unit := modify fun c => { c with scan := c.scan.take }

/-- Moves past a token and gives the next one. -/
def advancePeek : Compose Token := do
  advance
  peek

/-- The alias of a name. -/
def refer (name : List Char) : Compose Node := do
  let c ← get
  match c.names.lookup name with
  | some target =>
    set { c with aliases := c.aliases + 1 }
    return .reference (String.ofList name) c.aliases target
  | none => fail

/-- Numbers the node that starts here if it has a name. Names can be used again. -/
def enter (name : Option (List Char)) : Compose (Option Nat) :=
  match name with
  | none => pure none
  | some name => do
    let c ← get
    set { c with names := (name, c.names.length) :: c.names }
    return some c.names.length

/-- Keeps a node that has a number. -/
def leave (number : Option Nat) (n : Node) : Compose Node :=
  match number with
  | none => pure n
  | some i => do
    modify fun c => { c with named := (i, n) :: c.named }
    return n

/-- The tag that a handle and a suffix stand for. A tag that is empty or a single exclamation mark
is none. -/
def expand (handle suffix : List Char) : Compose (Option String) := do
  let c ← get
  let text ← if handle.isEmpty then pure suffix
    else match c.handles.lookup handle with
      | some expansion => pure (expansion ++ suffix)
      | none => fail
  return if text = ['!'] then none else some (String.ofList text)

end Compose

open Compose

/-! ## Nodes -/

/-- The properties of a node: its name, its tag, and whether there is any of them. -/
structure Properties where
  name : Option (List Char) := none
  tag : Option String := none
  given : Bool := false

/-- The anchor and the tag before a node, in either order. -/
def properties : Compose Properties := do
  match ← peek with
  | .anchor name =>
    match ← advancePeek with
    | .tag handle suffix =>
      advance
      let _ ← peek
      return { name := some name, tag := ← expand handle suffix, given := true }
    | _ => return { name := some name, given := true }
  | .tag handle suffix =>
    match ← advancePeek with
    | .anchor name =>
      advance
      let _ ← peek
      return { name := some name, tag := ← expand handle suffix, given := true }
    | _ => return { tag := ← expand handle suffix, given := true }
  | _ => return {}

/-- Whether the token ends an entry of a block mapping. -/
def endsEntry (t : Token) : Bool := t = .key || t = .value || t = .blockEnd

mutual

/-- Reads a node. `block` allows blocks by indentation, `dashes` a sequence that is not indented. -/
def node (block dashes : Bool) : Nat → Compose Node
  | 0 => fail
  | fuel + 1 => do
    match ← peek with
    | .reference name =>
      let n ← Compose.refer name
      advance
      return n
    | _ =>
      let props ← properties
      let number ← enter props.name
      let empty : Compose Node := if props.given then pure (.scalar "" true props.tag) else fail
      let n ← match ← peek with
        | .scalar text plain => do
          advance
          pure (.scalar (String.ofList text) plain props.tag)
        | .bracketOpen => do
          advance
          bracketItems true [] fuel
        | .braceOpen => do
          advance
          braceEntries true [] fuel
        | .entry => if dashes then dashItems [] fuel else empty
        | .sequenceStart =>
          if block then do
            advance
            sequenceItems [] fuel
          else empty
        | .mappingStart =>
          if block then do
            advance
            mappingEntries [] fuel
          else empty
        | _ => empty
      leave number n

/-- The items of an indented sequence, after those of `items` in reverse. -/
def sequenceItems (items : List Node) : Nat → Compose Node
  | 0 => fail
  | fuel + 1 => do
    match ← peek with
    | .entry =>
      let t ← advancePeek
      let n ← if t = .entry || t = .blockEnd then pure .missing else node true false fuel
      sequenceItems (n :: items) fuel
    | .blockEnd =>
      advance
      return .sequence items.reverse
    | _ => fail

/-- The items of a sequence whose dashes stand under the key. -/
def dashItems (items : List Node) : Nat → Compose Node
  | 0 => fail
  | fuel + 1 => do
    match ← peek with
    | .entry =>
      let t ← advancePeek
      let n ← if t = .entry || endsEntry t then pure .missing else node true false fuel
      dashItems (n :: items) fuel
    | _ => return .sequence items.reverse

/-- The entries of an indented mapping. -/
def mappingEntries (entries : List (Node × Node)) : Nat → Compose Node
  | 0 => fail
  | fuel + 1 => do
    match ← peek with
    | .key =>
      let t ← advancePeek
      let k ← if endsEntry t then pure .missing else node true true fuel
      let v ← blockValue fuel
      mappingEntries ((k, v) :: entries) fuel
    | .blockEnd =>
      advance
      return .mapping entries.reverse
    | _ => fail

/-- The value of an entry of an indented mapping. -/
def blockValue : Nat → Compose Node
  | 0 => fail
  | fuel + 1 => do
    match ← peek with
    | .value =>
      let t ← advancePeek
      if endsEntry t then return .missing else node true true fuel
    | _ => return .missing

/-- The items between brackets. An entry with a key is a mapping of one entry. If its key is
missing, the token after the key mark is passed over. -/
def bracketItems (first : Bool) (items : List Node) : Nat → Compose Node
  | 0 => fail
  | fuel + 1 => do
    let t ← peek
    let t ←
      if t = .bracketClose || first then pure t
      else if t = .comma then advancePeek
      else fail
    match t with
    | .bracketClose =>
      advance
      return .sequence items.reverse
    | .key =>
      let t ← advancePeek
      let k ←
        if t = .value || t = .comma || t = .bracketClose then do
          advance
          pure .missing
        else node false false fuel
      let v ← flowValue .bracketClose fuel
      let _ ← peek
      bracketItems false (.mapping [(k, v)] :: items) fuel
    | _ =>
      let n ← node false false fuel
      bracketItems false (n :: items) fuel

/-- The entries between braces. -/
def braceEntries (first : Bool) (entries : List (Node × Node)) : Nat → Compose Node
  | 0 => fail
  | fuel + 1 => do
    let t ← peek
    let t ←
      if t = .braceClose || first then pure t
      else if t = .comma then advancePeek
      else fail
    match t with
    | .braceClose =>
      advance
      return .mapping entries.reverse
    | .key =>
      let t ← advancePeek
      let k ←
        if t = .value || t = .comma || t = .braceClose then pure .missing else node false false fuel
      let v ← flowValue .braceClose fuel
      braceEntries false ((k, v) :: entries) fuel
    | _ =>
      let k ← node false false fuel
      let _ ← peek
      braceEntries false ((k, .missing) :: entries) fuel

/-- The value of an entry between brackets or braces. -/
def flowValue (close : Token) : Nat → Compose Node
  | 0 => fail
  | fuel + 1 => do
    match ← peek with
    | .value =>
      let t ← advancePeek
      if t = .comma || t = close then return .missing else node false false fuel
    | _ => return .missing

end

/-! ## Documents -/

/-- The handles that have a meaning in every document. -/
def commonHandles : List (List Char × List Char) :=
  [(['!'], ['!']), (['!', '!'], "tag:yaml.org,2002:".toList)]

/-- Reads the directives before a document. There is at most one version, which has to be 1.1, and
no handle is declared twice. -/
def directives (versions : Nat) : Nat → Compose Unit
  | 0 => fail
  | fuel + 1 => do
    match ← peek with
    | .version major minor =>
      if versions > 0 || major != 1 || minor != 1 then fail
      advance
      directives (versions + 1) fuel
    | .handle name expansion =>
      let c ← get
      if (c.handles.lookup name).isSome then fail
      set { c with handles := c.handles ++ [(name, expansion)] }
      advance
      directives versions fuel
    | _ => modify fun c => { c with handles := c.handles ++ commonHandles }

/-- Reads the first document; a text without one has none. What follows it is not read. -/
def firstDocument (fuel : Nat) : Compose (Option Node) := do
  let t ← peek
  if t = .textEnd then return none
  directives 0 fuel
  let n ←
    if t.isDirective || t = .documentStart then do
      if (← peek) != .documentStart then fail
      let t ← advancePeek
      if t.isDirective || t = .documentStart || t = .documentEnd || t = .textEnd then pure .missing
      else node true false fuel
    else node true false fuel
  let _ ← peek
  return some n

/-- The first document of a text. The outer result is `none` if the text is malformed, the inner one
if there is no document. Every token takes a character, except for those that indentation asks for,
and every step of the reading takes a token or goes one level deeper. -/
def Document.ofText? (text : String) : Option (Option Document) :=
  let text := if text.isEmpty then "\n" else text
  let fuel := 4 * text.length + 16
  ((firstDocument fuel).run { scan := Scan.ofText text }).map fun (root, c) =>
    root.map fun root => { root, named := c.named, aliases := c.aliases, depth := fuel }

end FlagFlow.Yaml
