import FlagFlow.Msgpack
import FlagFlow.Report.Summary

/-!
# Summaries as MessagePack

Each kind of record has one list of fields, by which it is written and read. Empty lists, missing
states and empty errors are left out.

* `FactEntry.fields`, `StateEntry.fields`, `Point.fields`, `BranchEntry.fields`, `Summary.fields`.
* `packReport`: summaries in the binary format; `msgpackReport`: the same where the texts are
  strings.
* `unpackReport?`, `readReport?`: read them back.
-/

namespace FlagFlow.Report

open Msgpack

/-! ## Records that are being read -/

/-- A state that is being read. -/
structure StateDraft where
  path : Bytes := []
  facts : Draft (FactEntry Bytes) := {}

/-- The states at an instruction that are being read. -/
structure PointDraft where
  instruction : Bytes := []
  before : StateDraft := {}
  fall : Option StateDraft := none
  branch : Option StateDraft := none

/-- A summary that is being read; `base` has the fields that are no lists. -/
structure SummaryDraft where
  base : Summary Bytes := { name := [], position := [], error := [] }
  branches : Draft (BranchEntry Bytes) := {}
  points : Draft PointDraft := {}

def StateDraft.entry (d : StateDraft) : StateEntry Bytes := { path := d.path, facts := d.facts.list }

def PointDraft.point (d : PointDraft) : Point Bytes :=
  { instruction := d.instruction, before := d.before.entry, fall := d.fall.map StateDraft.entry,
    branch := d.branch.map StateDraft.entry }

def SummaryDraft.summary (d : SummaryDraft) : Summary Bytes :=
  { d.base with
    branches := d.branches.list, points := d.points.list.map fun ps => ps.map PointDraft.point }

/-! ## Fields -/

section

variable {S D A B : Type}

/-- A field whose value is read and then set. -/
def fieldOf (key : String) (write : S → Option Bytes) (read : D → Bytes → Option (B × Bytes))
    (set : D → B → D) : RecordField S D :=
  ⟨key, write, fun x bs => (read x bs).map fun (v, bs) => (set x v, bs)⟩

def textOf (key : String) (get : S → Bytes) (set : D → Bytes → D) : RecordField S D :=
  fieldOf key (fun s => writeText (get s)) (fun _ => readText?) set

/-- A field with text that is left out if it is empty. -/
def optionalTextOf (key : String) (get : S → Bytes) (set : D → Bytes → D) : RecordField S D :=
  fieldOf key (fun s => if get s = [] then none else writeText (get s)) (fun _ => readText?) set

/-- The bytes of a list, unless it is empty. -/
def writeOptional (write : A → Bytes) (xs : Option (List A)) : Option Bytes :=
  match xs with
  | none | some [] => none
  | some xs => some (writeList (xs.map write))

/-- A field with a list that is left out if it is empty. -/
def listOf (key : String) (get : S → Option (List A)) (write : A → Bytes)
    (item : B → Bytes → Option (B × Bytes)) (empty : B) (old : D → Draft B) (set : D → Draft B → D) :
    RecordField S D :=
  fieldOf key (fun s => writeOptional write (get s)) (fun x => readList? item empty (old x)) set

end

/-! ## Facts and states -/

def FactEntry.fields : List (RecordField (FactEntry Bytes) (FactEntry Bytes)) :=
  [textOf "name" FactEntry.name fun x s => { x with name := s },
    textOf "state" FactEntry.state fun x s => { x with state := s }]

def FactEntry.msgpack (f : FactEntry Bytes) : Bytes := writeRecord FactEntry.fields f

def FactEntry.read? : FactEntry Bytes → Bytes → Option (FactEntry Bytes × Bytes) :=
  readRecord? FactEntry.fields ⟨[], []⟩

def StateEntry.fields : List (RecordField (StateEntry Bytes) StateDraft) :=
  [textOf "path-condition" StateEntry.path fun x s => { x with path := s },
    listOf "variables" StateEntry.facts FactEntry.msgpack FactEntry.read? ⟨[], []⟩ StateDraft.facts
      fun x l => { x with facts := l }]

def StateEntry.msgpack (s : StateEntry Bytes) : Bytes := writeRecord StateEntry.fields s

def StateDraft.read? : StateDraft → Bytes → Option (StateDraft × Bytes) :=
  readRecord? StateEntry.fields {}

/-! ## Points, branches and summaries -/

/-- A field with a state that may be missing. -/
def stateOf {S D : Type} (key : String) (get : S → Option (StateEntry Bytes))
    (old : D → Option StateDraft) (set : D → Option StateDraft → D) : RecordField S D :=
  ⟨key, fun s => (get s).map StateEntry.msgpack, fun x bs =>
    match head? bs with
    | some (.nil, rest) => some (set x none, rest)
    | _ => (StateDraft.read? ((old x).getD {}) bs).map fun (s, bs) => (set x (some s), bs)⟩

/-- The fields of the states at an instruction. -/
def Point.fields : List (RecordField (Point Bytes) PointDraft) :=
  [textOf "instruction" Point.instruction fun x s => { x with instruction := s },
    fieldOf "in" (fun p => p.before.msgpack) (fun x => x.before.read?) fun x s => { x with before := s },
    stateOf "fall-out" Point.fall PointDraft.fall fun x s => { x with fall := s },
    stateOf "branch-out" Point.branch PointDraft.branch fun x s => { x with branch := s }]

/-- The bytes of the states at an instruction. -/
def Point.msgpack (p : Point Bytes) : Bytes := writeRecord Point.fields p

def PointDraft.read? : PointDraft → Bytes → Option (PointDraft × Bytes) := readRecord? Point.fields {}

def BranchEntry.fields : List (RecordField (BranchEntry Bytes) (BranchEntry Bytes)) :=
  [textOf "instruction" BranchEntry.instruction fun x s => { x with instruction := s },
    textOf "position" BranchEntry.position fun x s => { x with position := s },
    textOf "condition" BranchEntry.condition fun x s => { x with condition := s }]

def BranchEntry.msgpack (b : BranchEntry Bytes) : Bytes := writeRecord BranchEntry.fields b

def BranchEntry.read? : BranchEntry Bytes → Bytes → Option (BranchEntry Bytes × Bytes) :=
  readRecord? BranchEntry.fields ⟨[], [], []⟩

/-- The fields of a summary. -/
def Summary.fields : List (RecordField (Summary Bytes) SummaryDraft) :=
  [textOf "name" Summary.name fun x s => { x with base.name := s },
    textOf "position" Summary.position fun x s => { x with base.position := s },
    optionalTextOf "error" Summary.error fun x s => { x with base.error := s },
    fieldOf "loops" (fun s => writeInt s.loops) (fun _ => readInt?) fun x n => { x with base.loops := n },
    listOf "branches" Summary.branches BranchEntry.msgpack BranchEntry.read? ⟨[], [], []⟩
      SummaryDraft.branches fun x l => { x with branches := l },
    listOf "points" Summary.points Point.msgpack PointDraft.read? {} SummaryDraft.points
      fun x l => { x with points := l }]

def Summary.msgpack (s : Summary Bytes) : Bytes := writeRecord Summary.fields s

def SummaryDraft.read? : SummaryDraft → Bytes → Option (SummaryDraft × Bytes) :=
  readRecord? Summary.fields {}

/-! ## Reports -/

/-- The bytes of summaries, which may be missing altogether. -/
def packReport : Option (List (Summary Bytes)) → Bytes
  | none => Head.nil.bytes
  | some ss => writeList (ss.map Summary.msgpack)

def msgpackReport (ss : Option (List Summary)) : Bytes :=
  packReport (ss.map (List.map (Summary.mapText Text.utf8)))

/-- Reads summaries; what follows them is not looked at. -/
def unpackReport? (bs : Bytes) : Option (Option (List (Summary Bytes))) :=
  (readList? SummaryDraft.read? {} {} bs).map fun (d, _) =>
    d.list.map fun ss => ss.map SummaryDraft.summary

def readReport? (bs : Bytes) : Option (Option (List Summary)) :=
  (unpackReport? bs).map fun ss => ss.map (List.map (Summary.mapText Text.ofUtf8))

end FlagFlow.Report
