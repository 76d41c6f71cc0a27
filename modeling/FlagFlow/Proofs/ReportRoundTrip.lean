import FlagFlow.Proofs.Msgpack
import FlagFlow.Report.Msgpack

/-!
# Reports are read as they were written

* `Summary.Fits`: the lengths and numbers that the binary format holds.
* `Summary.compact`: a summary in which an empty list counts as missing; the format leaves empty
  lists out.
* `Summary.draft`: what a reader has made of a summary before it is finished.
* `FactEntry.reads_read?`, `StateEntry.reads_read?`, `Point.reads_read?`, `BranchEntry.reads_read?`,
  `Summary.reads_read?`: each kind of record is read from its bytes.
* **`report_read_as_written`**: so is a report.
-/

namespace FlagFlow.Report

open Msgpack

/-! ## What the format holds -/

/-- A list, if it is there, is not too long, and what it lists fits. -/
def ListFits {α : Type} (fits : α → Prop) (xs : Option (List α)) : Prop :=
  ∀ l ∈ xs, l.length < sizeLimit ∧ ∀ x ∈ l, fits x

@[mk_iff]
structure FactEntry.Fits (f : FactEntry Bytes) : Prop where
  name : f.name.length < sizeLimit
  state : f.state.length < sizeLimit

@[mk_iff]
structure StateEntry.Fits (s : StateEntry Bytes) : Prop where
  path : s.path.length < sizeLimit
  facts : ListFits FactEntry.Fits s.facts

@[mk_iff]
structure Point.Fits (p : Point Bytes) : Prop where
  instruction : p.instruction.length < sizeLimit
  before : p.before.Fits
  fall : ∀ s ∈ p.fall, s.Fits
  branch : ∀ s ∈ p.branch, s.Fits

@[mk_iff]
structure BranchEntry.Fits (b : BranchEntry Bytes) : Prop where
  instruction : b.instruction.length < sizeLimit
  position : b.position.length < sizeLimit
  condition : b.condition.length < sizeLimit

/-- Texts and lists have lengths of four bytes, and the number of loops is a machine word. -/
@[mk_iff]
structure Summary.Fits (s : Summary Bytes) : Prop where
  name : s.name.length < sizeLimit
  position : s.position.length < sizeLimit
  error : s.error.length < sizeLimit
  loops : -(wordLimit : Int) ≤ s.loops ∧ s.loops < wordLimit
  branches : ListFits BranchEntry.Fits s.branches
  points : ListFits Point.Fits s.points

instance {α : Type} {fits : α → Prop} [DecidablePred fits] : DecidablePred (ListFits fits) := fun xs =>
  inferInstanceAs (Decidable (∀ l ∈ xs, l.length < sizeLimit ∧ ∀ x ∈ l, fits x))

instance : DecidablePred FactEntry.Fits := fun f => decidable_of_iff _ (FactEntry.fits_iff f).symm

instance : DecidablePred StateEntry.Fits := fun s => decidable_of_iff _ (StateEntry.fits_iff s).symm

instance : DecidablePred Point.Fits := fun p => decidable_of_iff _ (Point.fits_iff p).symm

instance : DecidablePred BranchEntry.Fits := fun b => decidable_of_iff _ (BranchEntry.fits_iff b).symm

instance : DecidablePred Summary.Fits := fun s => decidable_of_iff _ (Summary.fits_iff s).symm

/-! ## Empty lists -/

section Compact

variable {T : Type}

/-- A state in which an empty list counts as missing. -/
def StateEntry.compact (s : StateEntry T) : StateEntry T := { s with facts := s.facts.bind nonempty? }

/-- The states at an instruction, in which empty lists count as missing. -/
def Point.compact (p : Point T) : Point T :=
  { p with
    before := p.before.compact
    fall := p.fall.map StateEntry.compact
    branch := p.branch.map StateEntry.compact }

/-- A summary in which empty lists count as missing. -/
def Summary.compact (s : Summary T) : Summary T :=
  { s with
    branches := s.branches.bind nonempty?
    points := (s.points.bind nonempty?).map (List.map Point.compact) }

end Compact

/-! ## Drafts -/

/-- The draft that is read from a written list. -/
def draftOf {α β : Type} (d : α → β) (xs : Option (List α)) : Draft β :=
  ⟨(xs.bind nonempty?).map (List.map d), []⟩

/-- The draft that is read from a written state. -/
def StateEntry.draft (s : StateEntry Bytes) : StateDraft :=
  { path := s.path, facts := draftOf id s.facts }

/-- The draft that is read from the written states at an instruction. -/
def Point.draft (p : Point Bytes) : PointDraft :=
  { instruction := p.instruction
    before := p.before.draft
    fall := p.fall.map StateEntry.draft
    branch := p.branch.map StateEntry.draft }

/-- The draft that is read from a written summary. -/
def Summary.draft (s : Summary Bytes) : SummaryDraft :=
  { base := { name := s.name, position := s.position, error := s.error, loops := s.loops }
    branches := draftOf id s.branches
    points := draftOf Point.draft s.points }

theorem StateEntry.entry_draft (s : StateEntry Bytes) : s.draft.entry = s.compact := by
  simp [StateEntry.draft, StateDraft.entry, StateEntry.compact, draftOf]

theorem Point.point_draft (p : Point Bytes) : p.draft.point = p.compact := by
  simp [Point.draft, PointDraft.point, Point.compact, StateEntry.entry_draft, Function.comp_def]

theorem Summary.summary_draft (s : Summary Bytes) : s.draft.summary = s.compact := by
  simp [Summary.draft, SummaryDraft.summary, Summary.compact, draftOf, Point.point_draft,
    Function.comp_def]

/-! ## Fields -/

section Updates

variable {S D A B : Type} {key : String} {s : S} {x : D}

theorem updates_fieldOf {write : S → Option Bytes} {read : D → Bytes → Option (B × Bytes)}
    {set : D → B → D} {v : B} {bs : Bytes} (hwrite : write s = some bs) (h : Reads (read x) v bs) :
    (fieldOf key write read set).Updates s x (set x v) := by
  refine RecordField.updates_some hwrite fun rest => ?_
  change (read x (bs ++ rest)).map _ = _
  rw [h rest, Option.map_some]

theorem updates_textOf {get : S → Bytes} {set : D → Bytes → D} (h : (get s).length < sizeLimit) :
    (textOf key get set).Updates s x (set x (get s)) :=
  updates_fieldOf rfl (reads_readText? h)

theorem updates_optionalTextOf {get : S → Bytes} {set : D → Bytes → D}
    (h : (get s).length < sizeLimit) (hset : set x [] = x) :
    (optionalTextOf key get set).Updates s x (set x (get s)) := by
  by_cases hnil : get s = []
  · rw [hnil, hset]
    exact RecordField.updates_none (if_pos hnil)
  · exact updates_fieldOf (if_neg hnil) (reads_readText? h)

theorem updates_listOf {get : S → Option (List A)} {write : A → Bytes}
    {item : B → Bytes → Option (B × Bytes)} {empty : B} {old : D → Draft B} {set : D → Draft B → D}
    {d : A → B} (hold : old x = {}) (hset : set x {} = x)
    (h : ListFits (fun e => Reads (item empty) (d e) (write e)) (get s)) :
    (listOf key get write item empty old set).Updates s x (set x (draftOf d (get s))) := by
  have hwrite : (listOf key get write item empty old set).write s = writeOptional write (get s) := rfl
  have hnone : (listOf key get write item empty old set).write s = none →
      (listOf key get write item empty old set).Updates s x (set x {}) := fun hwrite => by
    rw [hset]
    exact RecordField.updates_none hwrite
  rcases hget : get s with _ | _ | ⟨e, es⟩
  · exact hnone (by rw [hwrite, hget]; rfl)
  · exact hnone (by rw [hwrite, hget]; rfl)
  · obtain ⟨hlen, hitems⟩ := h _ hget
    have hread := reads_readList? hlen hitems
    rw [← hold] at hread
    exact updates_fieldOf (by rw [hget]; rfl) hread

theorem listFits_map {g : A → B} {p : B → Prop} {xs : Option (List A)} :
    ListFits p (xs.map (List.map g)) ↔ ListFits (fun e => p (g e)) xs := by
  cases xs <;> simp [ListFits]

theorem ListFits.mono {p q : A → Prop} {xs : Option (List A)} (h : ListFits p xs)
    (hpq : ∀ e, p e → q e) : ListFits q xs :=
  fun l hl => ⟨(h l hl).1, fun e he => hpq e ((h l hl).2 e he)⟩

end Updates

/-! ## Records -/

theorem FactEntry.reads_read? {f : FactEntry Bytes} (h : f.Fits) :
    Reads (FactEntry.read? ⟨[], []⟩) f f.msgpack := by
  have hkeyed : Keyed FactEntry.fields := by decide
  exact reads_readRecord? hkeyed <|
    .cons (updates_textOf h.name) <|
    .cons (updates_textOf h.state) .nil

theorem BranchEntry.reads_read? {b : BranchEntry Bytes} (h : b.Fits) :
    Reads (BranchEntry.read? ⟨[], [], []⟩) b b.msgpack := by
  have hkeyed : Keyed BranchEntry.fields := by decide
  exact reads_readRecord? hkeyed <|
    .cons (updates_textOf h.instruction) <|
    .cons (updates_textOf h.position) <|
    .cons (updates_textOf h.condition) .nil

theorem StateEntry.reads_read? {s : StateEntry Bytes} (h : s.Fits) :
    Reads (StateDraft.read? {}) s.draft s.msgpack := by
  have hkeyed : Keyed StateEntry.fields := by decide
  exact reads_readRecord? hkeyed <|
    .cons (updates_textOf h.path) <|
    .cons (updates_listOf rfl rfl (h.facts.mono fun _ => FactEntry.reads_read?)) .nil

theorem updates_stateOf {S D : Type} {key : String} {s : S} {x : D}
    {get : S → Option (StateEntry Bytes)} {old : D → Option StateDraft}
    {set : D → Option StateDraft → D} (hold : old x = none) (hset : set x none = x)
    (h : ∀ t ∈ get s, t.Fits) :
    (stateOf key get old set).Updates s x (set x ((get s).map StateEntry.draft)) := by
  have hwrite : (stateOf key get old set).write s = (get s).map StateEntry.msgpack := rfl
  cases hget : get s with
  | none =>
    rw [Option.map_none, hset]
    exact RecordField.updates_none (by rw [hwrite, hget]; rfl)
  | some t =>
    refine RecordField.updates_some (by rw [hwrite, hget]; rfl) fun rest => ?_
    -- a state starts as a record, so it is not taken for a missing one
    have hhead : head? (t.msgpack ++ rest) = _ :=
      head?_writeRecord (by simp [StateEntry.fields, sizeLimit]) t rest
    have hread := StateEntry.reads_read? (h t hget) rest
    simp [stateOf, hhead, hold, hread]

theorem Point.reads_read? {p : Point Bytes} (h : p.Fits) :
    Reads (PointDraft.read? {}) p.draft p.msgpack := by
  have hkeyed : Keyed Point.fields := by decide
  exact reads_readRecord? hkeyed <|
    .cons (updates_textOf h.instruction) <|
    .cons (updates_fieldOf rfl (StateEntry.reads_read? h.before)) <|
    .cons (updates_stateOf rfl rfl h.fall) <|
    .cons (updates_stateOf rfl rfl h.branch) .nil

theorem Summary.reads_read? {s : Summary Bytes} (h : s.Fits) :
    Reads (SummaryDraft.read? {}) s.draft s.msgpack := by
  have hkeyed : Keyed Summary.fields := by decide
  exact reads_readRecord? hkeyed <|
    .cons (updates_textOf h.name) <|
    .cons (updates_textOf h.position) <|
    .cons (updates_optionalTextOf h.error rfl) <|
    .cons (updates_fieldOf rfl (reads_readInt? h.loops)) <|
    .cons (updates_listOf rfl rfl (h.branches.mono fun _ => BranchEntry.reads_read?)) <|
    .cons (updates_listOf rfl rfl (h.points.mono fun _ => Point.reads_read?)) .nil

/-! ## Other texts -/

section MapText

variable {T U : Type} {g : T → U}

theorem nonempty?_map {α β : Type} (h : α → β) (xs : Option (List α)) :
    (xs.map (List.map h)).bind nonempty? = (xs.bind nonempty?).map (List.map h) := by
  cases xs with
  | none => rfl
  | some l => cases l <;> rfl

theorem StateEntry.compact_mapText (s : StateEntry T) :
    (s.mapText g).compact = s.compact.mapText g := by
  simp only [StateEntry.compact, StateEntry.mapText, nonempty?_map]

theorem Point.compact_mapText (p : Point T) : (p.mapText g).compact = p.compact.mapText g := by
  simp [Point.compact, Point.mapText, StateEntry.compact_mapText, Function.comp_def]

theorem Summary.compact_mapText (s : Summary T) : (s.mapText g).compact = s.compact.mapText g := by
  simp [Summary.compact, Summary.mapText, nonempty?_map, Point.compact_mapText, Function.comp_def]

variable {k : U → T}

theorem StateEntry.mapText_mapText (h : ∀ t, k (g t) = t) (s : StateEntry T) :
    (s.mapText g).mapText k = s := by
  simp [StateEntry.mapText, FactEntry.mapText, h, Function.comp_def]

theorem Point.mapText_mapText (h : ∀ t, k (g t) = t) (p : Point T) : (p.mapText g).mapText k = p := by
  simp [Point.mapText, StateEntry.mapText_mapText h, h, Function.comp_def]

theorem Summary.mapText_mapText (h : ∀ t, k (g t) = t) (s : Summary T) :
    (s.mapText g).mapText k = s := by
  simp [Summary.mapText, BranchEntry.mapText, Point.mapText_mapText h, h, Function.comp_def]

end MapText

/-! ## Reports -/

theorem unpackReport?_packReport {ss : Option (List (Summary Bytes))} (h : ListFits Summary.Fits ss) :
    unpackReport? (packReport ss) = some (ss.map (List.map Summary.compact)) := by
  cases ss with
  | none => rfl
  | some l =>
    obtain ⟨hlen, hitems⟩ := h l rfl
    have hread : Reads (readList? SummaryDraft.read? {} {}) ⟨some (l.map Summary.draft), []⟩
        (writeList (l.map Summary.msgpack)) :=
      reads_readList? hlen fun s hs => Summary.reads_read? (hitems s hs)
    have hall := hread []
    rw [List.append_nil] at hall
    simp [unpackReport?, packReport, hall, Summary.summary_draft, Function.comp_def]

/-- **A report is read as it was written**, except that empty lists in summaries come back as
missing ones. -/
theorem report_read_as_written :
    (∀ ss : Option (List (Summary Bytes)), ListFits Summary.Fits ss →
      unpackReport? (packReport ss) = some (ss.map (List.map Summary.compact))) ∧
    (∀ ss : Option (List Summary), ListFits (fun s => (s.mapText Text.utf8).Fits) ss →
      readReport? (msgpackReport ss) = some (ss.map (List.map Summary.compact))) := by
  refine ⟨fun ss h => unpackReport?_packReport h, fun ss h => ?_⟩
  have hbytes : ListFits Summary.Fits (ss.map (List.map (Summary.mapText Text.utf8))) :=
    listFits_map.mpr h
  have hback (s : Summary) : (s.mapText Text.utf8).compact.mapText Text.ofUtf8 = s.compact := by
    rw [Summary.compact_mapText, Summary.mapText_mapText Text.ofUtf8_utf8]
  rw [readReport?, msgpackReport, unpackReport?_packReport hbytes]
  simp [hback, Function.comp_def]

/-- A summary with texts that are no strings, a long one among them, the least number of loops and
empty lists. -/
def straySummary : Summary Bytes where
  name := List.replicate 300 0xff
  position := [0xc3]
  error := []
  loops := -0x8000000000000000
  branches := some []
  points := some [⟨[0x80], ⟨[], some []⟩, some ⟨[0xe2, 0x82], some [⟨[0xff], []⟩]⟩, none⟩]

theorem report_read_as_written_stray :
    (ListFits Summary.Fits (some [straySummary]) ∧
      unpackReport? (packReport (some [straySummary])) =
        some (some [{ straySummary with
          branches := none
          points := some [⟨[0x80], ⟨[], none⟩, some ⟨[0xe2, 0x82], some [⟨[0xff], []⟩]⟩, none⟩] }])) ∧
    (ListFits (fun s => (s.mapText Text.utf8).Fits)
    (some [(⟨"π", "", "é", 200, some [⟨"if", "", "€"⟩], some []⟩ : Summary)]) ∧
      readReport? (msgpackReport (some [⟨"π", "", "é", 200, some [⟨"if", "", "€"⟩], some []⟩])) =
        some (some [⟨"π", "", "é", 200, some [⟨"if", "", "€"⟩], none⟩])) := by
  have hstray : ListFits Summary.Fits (some [straySummary]) := by decide +kernel
  have hstrings : ListFits (fun s => (s.mapText Text.utf8).Fits)
      (some [(⟨"π", "", "é", 200, some [⟨"if", "", "€"⟩], some []⟩ : Summary)]) := by decide +kernel
  exact ⟨⟨hstray, report_read_as_written.1 _ hstray⟩, ⟨hstrings, report_read_as_written.2 _ hstrings⟩⟩

end FlagFlow.Report
