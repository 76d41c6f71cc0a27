import FlagFlow.Yaml.Node
import FlagFlow.Yaml.Resolve

/-!
# Reading values from documents

A document is read into records of known fields. Every node that is looked at is counted, and a
document whose nodes are reached through aliases for the most part is refused, so that a short text
cannot stand for a very large one.

* `Decode`: reading with such a count; `Decode.inside` looks at a node.
* `Decode.text?`, `Decode.int?`, `Decode.bool?`, `Decode.texts`: scalars and lists of texts.
* `Decode.record`: mappings with known fields, and with other mappings merged into them.
* `Document.decode?`: reads a document.
-/

namespace FlagFlow.Yaml

/-- The state of reading a document: its named nodes by number, a number that no path through nodes
and aliases is longer than, the aliases that lead here, and the nodes that were looked at, in all
and through an alias. -/
structure Decoding where
  named : List (Nat × Node)
  depth : Nat
  active : List Nat := []
  visits : Nat := 0
  aliased : Nat := 0

/-- Whether too many of the nodes are reached through aliases: more than 99 in 100, and fewer once
there are more than 400000 nodes, down to 10 in 100 from 4000000 on. -/
def Decoding.overrun (d : Decoding) : Bool :=
  let low := 400000
  let high := 4000000
  let width := high - low
  let allowed : Nat × Nat :=
    if d.visits ≤ low then (99, 100)
    else if d.visits ≥ high then (10, 100)
    else (99 * width - 89 * (d.visits - low), 100 * width)
  d.aliased > 100 && d.visits > 1000 && d.aliased * allowed.2 > allowed.1 * d.visits

/-- Reading a part of a document. -/
abbrev Decode (α : Type) : Type := StateT Decoding Option α

namespace Decode

/-- The document does not have the right shape. -/
def fail {α : Type} : Decode α := fun _ => none

/-- Counts a node. -/
def visit : Decode Unit := fun d =>
  let d := { d with
    visits := d.visits + 1
    aliased := if d.active.isEmpty then d.aliased else d.aliased + 1 }
  if d.overrun then none else some ((), d)

/-- Looks at a node, for an alias at the node that it stands for. A node that contains itself cannot
be read. -/
def inside {α : Type} (n : Node) (read : Node → Decode α) : Decode α := do
  visit
  match n with
  | .reference _ number target => do
    let d ← get
    if d.active.contains number then fail
    match d.named.lookup target with
    | none => fail
    | some n =>
      set { d with active := number :: d.active }
      visit
      let a ← read n
      modify fun e => { e with active := d.active }
      return a
  | n => read n

/-! ## Scalars and lists -/

/-- Reads a scalar; there is no value for null. -/
def scalar? {α : Type} (read : String → Meaning → Option α) (n : Node) : Decode (Option α) :=
  inside n fun
    | .scalar s plain tag =>
      match meaning? s plain tag with
      | some .null => pure none
      | some m =>
        match read s m with
        | some a => pure (some a)
        | none => fail
      | none => fail
    | _ => fail

/-- Reads a text. Any scalar is taken as it is written. -/
def text? (n : Node) : Decode (Option String) :=
  scalar? (fun s m =>
    match m with
    | .encoded t => some t
    | _ => some s) n

/-- The integer that a number of 64 bits keeps of a floating-point number; numbers that are too
small end up at the least one. -/
def integerPart? (x : Binary) : Option Int :=
  let n := x.truncate
  if n > wordLimit then none else if n < -wordLimit || n = wordLimit then some (-wordLimit) else some n

/-- Reads an integer. -/
def int? (n : Node) : Decode (Option Int) :=
  scalar? (fun _ m =>
    match m with
    | .int n => if n < wordLimit then some n else none
    | .float x => integerPart? x
    | .infinite negative => if negative then some (-wordLimit) else none
    | _ => none) n

/-- Reads a truth value, also in its old spellings. -/
def bool? (n : Node) : Decode (Option Bool) :=
  scalar? (fun s m =>
    let old (s : String) : Option Bool :=
      if isOldBool s then some (["y", "Y", "yes", "Yes", "YES", "on", "On", "ON"].contains s) else none
    match m with
    | .bool b => some b
    | .text => old s
    | .encoded t => old t
    | _ => none) n

/-- Reads a list of texts. Null elements are dropped, and null is the empty list. -/
def texts (n : Node) : Decode (List String) :=
  inside n fun
    | .scalar s plain tag => if meaning? s plain tag = some .null then pure [] else fail
    | .sequence items => do return (← items.mapM text?).filterMap id
    | _ => fail

/-! ## Records -/

/-- The fields of a record by their names, with the readers of their values. -/
abbrev Fields (α : Type) : Type := List (String × (Node → α → Decode α))

/-- The kind and text of a key, by which keys are compared. -/
def keyIdentity : Node → Nat × String
  | .scalar s _ _ => (0, s)
  | .sequence _ => (1, "")
  | .mapping _ => (2, "")
  | .reference name _ _ => (3, name)

def distinctKeys (entries : List (Node × Node)) : Bool :=
  let ids := entries.map fun e => keyIdentity e.1
  ids.eraseDups.length = ids.length

/-- Whether an entry merges another mapping. -/
def isMerge : Node → Bool
  | .scalar s plain tag =>
    s = "<<" && match tag with
      | none => plain
      | some tag => shortTag tag = "!!merge"
  | _ => false

/-- What has been read of a mapping: the record, the names that are not taken any more if the
mapping is merged into another one, and the fields that have a value. -/
structure Progress (α : Type) where
  value : α
  taken : Option (List String)
  done : List String := []

/-- Reads an entry of a mapping. Null keys do not count, and a field that is not known is not looked
at. No field can have two values, but a field of a merged mapping gives way. -/
def entry {α : Type} (fields : Fields α) (p : Progress α) (e : Node × Node) : Decode (Progress α) := do
  if isMerge e.1 then return p
  match ← text? e.1 with
  | none => return p
  | some name =>
    if p.taken.any fun names => names.contains name then return p
    let p := { p with taken := p.taken.map (name :: ·) }
    match fields.lookup name with
    | none => return p
    | some read =>
      if p.done.contains name then fail
      let value ← read e.2 p.value
      return { p with value, done := name :: p.done }

/-- The named node of an alias, or the node itself. -/
def target? (n : Node) : Decode (Option Node) :=
  match n with
  | .reference _ _ target => do return (← get).named.lookup target
  | n => pure (some n)

def keyNames (entries : List (Node × Node)) : Decode (List String) := do
  return (← entries.mapM fun e => text? e.1).filterMap id

mutual

/-- Reads a mapping into a record: first its own fields, then those of the mapping that its last
merge key names. `taken` are the names that are not taken if the mapping is merged itself. -/
def mapping {α : Type} (fields : Fields α) :
    Nat → Option (List String) → List (Node × Node) → α → Decode (α × List String)
  | 0, _, _, _ => fail
  | fuel + 1, taken, entries, value => do
    if !distinctKeys entries then fail
    let p ← entries.foldlM (entry fields) { value, taken }
    match (entries.filter fun e => isMerge e.1).getLast? with
    | none => return (p.value, p.taken.getD [])
    | some (_, n) =>
      let names ← match p.taken with
        | some names => pure names
        | none => keyNames entries
      match n with
      | .sequence items => items.foldlM (fun p n => merge fields fuel p.2 n p.1) (p.value, names)
      | n => merge fields fuel names n p.value

/-- Merges a mapping into a record. -/
def merge {α : Type} (fields : Fields α) : Nat → List String → Node → α → Decode (α × List String)
  | 0, _, _, _ => fail
  | fuel + 1, names, n, value => do
    match ← target? n with
    | some (.mapping _) =>
      inside n fun
        | .mapping entries => mapping fields fuel (some names) entries value
        | _ => fail
    | _ => fail

end

/-- Reads a mapping with known fields into a record. Null changes nothing. -/
def record {α : Type} (fields : Fields α) (n : Node) (old : α) : Decode α :=
  inside n fun
    | .mapping entries => do
      let d ← get
      return (← mapping fields d.depth none entries old).1
    | .scalar s plain tag => if meaning? s plain tag = some .null then pure old else fail
    | _ => fail

end Decode

def Document.decode? {α : Type} (doc : Document) (read : Node → Decode α) : Option α :=
  let act : Decode α := do
    Decode.visit
    read doc.root
  (act.run { named := doc.named, depth := 2 * (doc.aliases + 1) * (doc.depth + 1) }).map Prod.fst

end FlagFlow.Yaml
