import FlagFlow.Msgpack
import FlagFlow.Proofs.Utf8
import FlagFlow.Word
import Mathlib.Tactic.MkIffOfInductiveProp
import Mathlib.Tactic.SplitIfs

/-!
# Reading what was written

* `Reads`: a reader takes exactly some bytes for a value, whatever follows them. Readers of parts
  are put together by this.
* **`Head.reads_bytes`**: every head that fits is read from its shortest form.
* `reads_readText?`, `reads_readInt?`, `reads_readList?`: values.
* `Fills`: written fields, of which some may be missing, lead from one record to another.
* **`reads_readRecord?`**: a record is read from its fields.
-/

namespace FlagFlow.Msgpack

/-- A reader takes these bytes, and no more, for a value. -/
def Reads {α : Type} (read : Bytes → Option (α × Bytes)) (x : α) (bs : Bytes) : Prop :=
  ∀ rest, read (bs ++ rest) = some (x, rest)

/-- The first length that four bytes do not hold. -/
def sizeLimit : Nat := 0x100000000

/-! ## Numbers -/

theorem length_bigEndian (width n : Nat) : (bigEndian width n).length = width := by
  induction width generalizing n with
  | zero => rfl
  | succ width ih => rw [bigEndian, List.length_append, ih, List.length_singleton]

theorem ofBigEndian_concat (bs : Bytes) (b : UInt8) :
    ofBigEndian (bs ++ [b]) = 256 * ofBigEndian bs + b.toNat := by
  simp [ofBigEndian]

theorem ofBigEndian_bigEndian {width n : Nat} (h : n < Nat.pow 256 width) :
    ofBigEndian (bigEndian width n) = n := by
  induction width generalizing n with
  | zero =>
    obtain rfl : n = 0 := Nat.lt_one_iff.mp h
    rfl
  | succ width ih =>
    have hdiv : n / 256 < Nat.pow 256 width := Nat.div_lt_of_lt_mul (by rwa [Nat.mul_comm])
    rw [bigEndian, ofBigEndian_concat, ih hdiv, UInt8.toNat_ofNat']
    omega

theorem reads_readNat? {width n : Nat} (h : n < Nat.pow 256 width) :
    Reads (readNat? width) n (bigEndian width n) := by
  intro rest
  have hlen := length_bigEndian width n
  have hle : width ≤ (bigEndian width n ++ rest).length := by rw [List.length_append]; omega
  rw [readNat?, if_pos hle, List.take_left' hlen, List.drop_left' hlen, ofBigEndian_bigEndian h]

theorem signedValue_of_lt {width n : Nat} (h : n < (Nat.pow 256 width + 1) / 2) :
    signedValue width n = n :=
  Int.bmod_eq_of_le (by omega) (by omega)

theorem signedValue_of_neg {width : Nat} {n : Int} (hlow : -(Nat.pow 256 width / 2 : Nat) ≤ n)
    (hneg : n < 0) :
    signedValue width (n + Nat.pow 256 width).toNat = n := by
  have hnat : ((n + Nat.pow 256 width).toNat : Int) = n + Nat.pow 256 width :=
    Int.toNat_of_nonneg (by omega)
  rw [signedValue, hnat, Int.add_bmod_right]
  exact Int.bmod_eq_of_le (by omega) (by omega)

/-! ## Heads -/

section Short

variable {b : UInt8} {bs : Bytes}

theorem head?_cons_int (h : b.toNat < 0x80) : head? (b :: bs) = some (.int b.toNat, bs) := by
  simp [head?, h]

theorem head?_cons_map (hlow : 0x80 ≤ b.toNat) (h : b.toNat < 0x90) :
    head? (b :: bs) = some (.map (b.toNat - 0x80), bs) := by
  have h1 : ¬b.toNat < 0x80 := by omega
  simp [head?, h, h1]

theorem head?_cons_array (hlow : 0x90 ≤ b.toNat) (h : b.toNat < 0xa0) :
    head? (b :: bs) = some (.array (b.toNat - 0x90), bs) := by
  have h1 : ¬b.toNat < 0x80 := by omega
  have h2 : ¬b.toNat < 0x90 := by omega
  simp [head?, h, h1, h2]

theorem head?_cons_text (hlow : 0xa0 ≤ b.toNat) (h : b.toNat < 0xc0) :
    head? (b :: bs) = some (.text (b.toNat - 0xa0), bs) := by
  have h1 : ¬b.toNat < 0x80 := by omega
  have h2 : ¬b.toNat < 0x90 := by omega
  have h3 : ¬b.toNat < 0xa0 := by omega
  simp [head?, h, h1, h2, h3]

theorem head?_cons_neg (h : 0xe0 ≤ b.toNat) :
    head? (b :: bs) = some (.int (signedValue 1 b.toNat), bs) := by
  have h1 : ¬b.toNat < 0x80 := by omega
  have h2 : ¬b.toNat < 0x90 := by omega
  have h3 : ¬b.toNat < 0xa0 := by omega
  have h4 : ¬b.toNat < 0xc0 := by omega
  simp [head?, h, h1, h2, h3, h4]

end Short

theorem Reads.head_cons {b : UInt8} {width n : Nat} (make : Nat → Head) (h : n < Nat.pow 256 width)
    (hb : ∀ bs, head? (b :: bs) = (readNat? width bs).map fun (n, rest) => (make n, rest)) :
    Reads head? (make n) (b :: bigEndian width n) := by
  intro rest
  rw [List.cons_append, hb, reads_readNat? h rest, Option.map_some]

/-- A head with a length, in each of its forms. -/
theorem reads_sized (make : Nat → Head) {short base one two four n : Nat} (hn : n < sizeLimit)
    (hbase : base + short ≤ 256)
    (hshort : ∀ b bs, base ≤ b.toNat → b.toNat < base + short →
      head? (b :: bs) = some (make (b.toNat - base), bs))
    (hone : one ≠ 0 → ∀ bs, head? (UInt8.ofNat one :: bs) =
      (readNat? 1 bs).map fun (n, rest) => (make n, rest))
    (htwo : ∀ bs, head? (UInt8.ofNat two :: bs) = (readNat? 2 bs).map fun (n, rest) => (make n, rest))
    (hfour : ∀ bs, head? (UInt8.ofNat four :: bs) =
      (readNat? 4 bs).map fun (n, rest) => (make n, rest)) :
    Reads head? (make n) (sized short base one two four n) := by
  unfold sized
  split_ifs with h1 h2 h3
  · intro rest
    have hbyte : (UInt8.ofNat (base + n)).toNat = base + n := Text.toNat_ofNat_byte (by omega)
    rw [List.singleton_append, hshort _ _ (by omega) (by omega), hbyte, Nat.add_sub_cancel_left]
  · exact .head_cons make h2.1 (hone h2.2)
  · exact .head_cons make h3 htwo
  · exact .head_cons make hn hfour

theorem reads_intBytes_of_nonneg {n : Nat} (h : n < wordLimit) :
    Reads head? (.int n) (intBytes n) := by
  simp only [intBytes, Int.natCast_nonneg, ↓reduceIte, Int.toNat_natCast]
  split_ifs with h1 h2 h3 h4
  · intro rest
    have hbyte : (UInt8.ofNat n).toNat = n := Text.toNat_ofNat_byte (by omega)
    rw [List.singleton_append, head?_cons_int (by rwa [hbyte]), hbyte]
  · exact .head_cons (fun n => .int n) h2 fun _ => rfl
  · exact .head_cons (fun n => .int n) h3 fun _ => rfl
  · exact .head_cons (fun n => .int n) h4 fun _ => rfl
  · -- eight bytes are always read with a sign, which a machine word does not set
    have hvalue : signedValue 8 n = n := signedValue_of_lt h
    rw [← hvalue]
    exact .head_cons (fun n => .int (signedValue 8 n)) (Nat.lt_trans h (by decide)) fun _ => rfl

theorem Reads.head_cons_neg {b : UInt8} {width : Nat} {n : Int}
    (hlow : -(Nat.pow 256 width / 2 : Nat) ≤ n) (hneg : n < 0)
    (hb : ∀ bs, head? (b :: bs) = (readNat? width bs).map fun (n,
    rest) => (.int (signedValue width n), rest)) :
    Reads head? (.int n) (b :: bigEndian width (n + Nat.pow 256 width).toNat) := by
  have hlt : (n + Nat.pow 256 width).toNat < Nat.pow 256 width := by omega
  have hread := Reads.head_cons (fun m => .int (signedValue width m)) hlt hb
  rwa [signedValue_of_neg hlow hneg] at hread

theorem reads_intBytes_of_neg {n : Int} (hlow : -(wordLimit : Int) ≤ n) (hneg : n < 0) :
    Reads head? (.int n) (intBytes n) := by
  simp only [intBytes, Int.not_le.mpr hneg, ↓reduceIte]
  split_ifs with h1 h2 h3 h4
  · intro rest
    have hword : (n + Nat.pow 256 1).toNat = 256 - n.natAbs := by
      change (n + 256).toNat = _
      omega
    have hbyte : (UInt8.ofNat (n + Nat.pow 256 1).toNat).toNat = (n + Nat.pow 256 1).toNat :=
      Text.toNat_ofNat_byte (by omega)
    have hvalue : signedValue 1 (n + Nat.pow 256 1).toNat = n :=
      signedValue_of_neg (by change -128 ≤ n; omega) hneg
    change head? (UInt8.ofNat _ :: rest) = _
    rw [head?_cons_neg (by rw [hbyte]; omega), hbyte, hvalue]
  · exact .head_cons_neg h2 hneg fun _ => rfl
  · exact .head_cons_neg h3 hneg fun _ => rfl
  · exact .head_cons_neg h4 hneg fun _ => rfl
  · exact .head_cons_neg hlow hneg fun _ => rfl

/-- The heads that can be written: integers of a machine word, lengths of four bytes. -/
def Head.Fits : Head → Prop
  | nil | bool _ => True
  | int n => -(wordLimit : Int) ≤ n ∧ n < wordLimit
  | float size => size = 4 ∨ size = 8
  | text n | binary n | array n | map n | extension n => n < sizeLimit

/-- **Every head is read from its shortest form.** -/
theorem Head.reads_bytes {h : Head} (hfits : h.Fits) : Reads head? h h.bytes := by
  cases h with
  | nil => exact fun _ => rfl
  | bool b => cases b <;> exact fun _ => rfl
  | int n =>
    by_cases hneg : n < 0
    · exact reads_intBytes_of_neg hfits.1 hneg
    · obtain ⟨m, rfl⟩ := Int.eq_ofNat_of_zero_le (Int.not_lt.mp hneg)
      exact reads_intBytes_of_nonneg (Int.ofNat_lt.mp hfits.2)
  | float size => rcases hfits with rfl | rfl <;> exact fun _ => rfl
  | text n =>
    exact reads_sized text hfits (by decide) (fun _ _ => head?_cons_text) (fun _ _ => rfl)
      (fun _ => rfl) fun _ => rfl
  | binary n =>
    exact reads_sized binary hfits (by decide) (fun _ _ _ h => absurd h (Nat.not_lt_zero _))
      (fun _ _ => rfl)
      (fun _ => rfl) fun _ => rfl
  | array n =>
    exact reads_sized array hfits (by decide) (fun _ _ => head?_cons_array) (fun h => absurd rfl h)
      (fun _ => rfl)
      fun _ => rfl
  | map n =>
    exact reads_sized map hfits (by decide) (fun _ _ => head?_cons_map) (fun h => absurd rfl h)
      (fun _ => rfl)
      fun _ => rfl
  | extension n =>
    exact reads_sized extension hfits (by decide) (fun _ _ _ h => absurd h (Nat.not_lt_zero _))
      (fun _ _ => rfl)
      (fun _ => rfl) fun _ => rfl

/-! ## Values -/

theorem reads_readText? {text : Bytes} (h : text.length < sizeLimit) :
    Reads readText? text (writeText text) := by
  intro rest
  have hhead := Head.reads_bytes (h := .text text.length) h (text ++ rest)
  simp [readText?, writeText, hhead]

theorem reads_readInt? {n : Int} (h : (Head.int n).Fits) : Reads readInt? n (writeInt n) := by
  intro rest
  simp [readInt?, writeInt, Head.reads_bytes h rest]

section Lists

variable {α β : Type} {item : β → Bytes → Option (β × Bytes)} {empty : β}
  {write : α → Bytes} {result : α → β} {xs : List α}

theorem reads_readMany? (h : ∀ x ∈ xs, Reads (item empty) (result x) (write x)) :
    Reads (readMany? item empty xs.length []) (xs.map result) (xs.map write).flatten := by
  induction xs with
  | nil => exact fun _ => rfl
  | cons x xs ih =>
    intro rest
    have hx := h x List.mem_cons_self ((xs.map write).flatten ++ rest)
    have hxs := ih (fun y hy => h y (List.mem_cons_of_mem x hy)) rest
    simp [readMany?, hx, hxs]

theorem reads_readList? (hlen : xs.length < sizeLimit)
    (h : ∀ x ∈ xs, Reads (item empty) (result x) (write x)) :
    Reads (readList? item empty {}) ⟨some (xs.map result), []⟩ (writeList (xs.map write)) := by
  intro rest
  have hhead := Head.reads_bytes (h := .array xs.length) hlen ((xs.map write).flatten ++ rest)
  have hmany := reads_readMany? h rest
  simp [readList?, writeList, hhead, hmany]

end Lists

/-! ## Records -/

section Record

variable {S D : Type} {f : RecordField S D} {fs all : List (RecordField S D)} {s : S} {x y z : D}

/-- The value of a field of `s`, which may be left out, updates the field in a record from `x` to
`y`. -/
def RecordField.Updates (f : RecordField S D) (s : S) (x y : D) : Prop :=
  match f.write s with
  | none => y = x
  | some bs => Reads (f.update x) y bs

theorem RecordField.updates_none (h : f.write s = none) : f.Updates s x x := by
  rw [Updates, h]

theorem RecordField.updates_some {bs : Bytes} (h : f.write s = some bs)
    (hread : Reads (f.update x) y bs) :
    f.Updates s x y := by
  rwa [Updates, h]

/-- The values of the fields of `s` update a record one after the other. -/
inductive Fills (s : S) : List (RecordField S D) → D → D → Prop
  | nil {x : D} : Fills s [] x x
  | cons {f : RecordField S D} {fs : List (RecordField S D)} {x y z : D} (hfirst : f.Updates s x y)
      (hrest : Fills s fs y z) : Fills s (f :: fs) x z

/-- The fields of a record can be told apart by their names. -/
@[mk_iff]
structure Keyed (fs : List (RecordField S D)) : Prop where
  nodup : (fs.map RecordField.key).Nodup
  short : ∀ f ∈ fs, (Text.utf8 f.key).length < sizeLimit
  few : fs.length < sizeLimit

instance : DecidablePred (Keyed (S := S) (D := D)) := fun fs => decidable_of_iff _ (keyed_iff fs).symm

theorem find?_key (hnodup : (fs.map RecordField.key).Nodup) (hf : f ∈ fs) :
    fs.find? (fun g => Text.utf8 g.key = Text.utf8 f.key) = some f := by
  induction fs with
  | nil => simp at hf
  | cons g gs ih =>
    obtain ⟨hg, hgs⟩ := List.nodup_cons.mp hnodup
    rcases List.mem_cons.mp hf with rfl | hf
    · simp
    · have hne : g.key ≠ f.key := fun heq => hg (heq ▸ List.mem_map_of_mem hf)
      rw [List.find?_cons_of_neg (by simpa [Text.utf8_inj] using hne), ih hgs hf]

theorem reads_readField? (hall : Keyed all) (hf : f ∈ all) {bs : Bytes}
    (h : Reads (f.update x) y bs) :
    Reads (readField? all x) y (writeText (Text.utf8 f.key) ++ bs) := by
  intro rest
  have hkey := reads_readText? (hall.short f hf) (bs ++ rest)
  simp only [readField?, List.append_assoc, hkey, Option.bind_some, find?_key hall.nodup hf]
  exact h rest

theorem reads_readFields? (hall : Keyed all) (h : Fills s fs x y) (hfs : ∀ f ∈ fs, f ∈ all) :
    Reads (readFields? all (writeFields fs s).length x) y (writeFields fs s).flatten := by
  induction h with
  | nil => exact fun _ => rfl
  | @cons f fs x y z hfirst hrest ih =>
    have ih := ih fun g hg => hfs g (List.mem_cons_of_mem f hg)
    unfold RecordField.Updates at hfirst
    cases hvalue : f.write s with
    | none =>
      -- a field that is left out has no bytes
      rw [hvalue] at hfirst
      cases hfirst
      simpa [writeFields, hvalue] using ih
    | some bs =>
      rw [hvalue] at hfirst
      intro rest
      have hfield := reads_readField? hall (hfs f List.mem_cons_self) hfirst
        ((writeFields fs s).flatten ++ rest)
      have hrest := ih rest
      simp only [writeFields, List.filterMap_cons, hvalue, Option.map_some, List.length_cons,
        List.flatten_cons, readFields?, List.append_assoc] at hfield hrest ⊢
      rw [hfield, Option.bind_some, hrest]

theorem head?_writeRecord (h : fs.length < sizeLimit) (s : S) (rest : Bytes) :
    head? (writeRecord fs s ++ rest) =
      some (.map (writeFields fs s).length, (writeFields fs s).flatten ++ rest) := by
  have hfits : (Head.map (writeFields fs s).length).Fits :=
    Nat.lt_of_le_of_lt (List.length_filterMap_le _ _) h
  rw [writeRecord, List.append_assoc, Head.reads_bytes hfits]

/-- **A record is read from its fields.** -/
theorem reads_readRecord? {empty : D} (hfs : Keyed fs) (h : Fills s fs x y) :
    Reads (readRecord? fs empty x) y (writeRecord fs s) := by
  intro rest
  rw [readRecord?, head?_writeRecord hfs.few, Option.bind_some]
  exact reads_readFields? hfs h (fun _ hf => hf) rest

end Record

end FlagFlow.Msgpack
