import FlagFlow.Text.Quoted
import FlagFlow.Proofs.Utf8

/-!
# Quoted text is harmless and loses nothing

A piece of a text is written as itself or as an escape sequence that stands for its bytes. All that
is said about quoted text follows from this.

* `number?_hexDigits`: a number is read from its digits.
* **`escapePiece_cases`**: what is written for a piece.
* `unescape?_flatMap_escapePiece`: reading what is written gives the bytes of the pieces.
* `escapes`: whether a text ends in a backslash that escapes what follows; `Guarded`: quotes stand
  only behind such a backslash.
* **`escapeBytes_harmless`**: quoted text has no control characters and no quotes that are not
  escaped, and can be read back, so that different texts are quoted differently.
-/

namespace FlagFlow.Text

/-! ## Hexadecimal digits -/

theorem hexValue?_hexDigit : ∀ n < 16, hexValue? (hexDigit n) = some n := by decide

/-- Whether a character is an ASCII letter, digit or sign, or the space. -/
def isVisible (c : Char) : Bool := decide (0x20 ≤ c.toNat ∧ c.toNat < 0x7F)

theorem hexDigit_plain : ∀ n < 16, isVisible (hexDigit n) = true ∧ hexDigit n ≠ '"' ∧
    hexDigit n ≠ '\\' := by
  decide

@[simp]
theorem length_hexDigits (width n : Nat) : (hexDigits width n).length = width := by
  induction width generalizing n with
  | zero => rfl
  | succ width ih => rw [hexDigits, List.length_append, ih, List.length_singleton]

theorem exists_of_mem_hexDigits {width n : Nat} {d : Char} (h : d ∈ hexDigits width n) :
    ∃ i < 16, d = hexDigit i := by
  induction width generalizing n with
  | zero => cases h
  | succ width ih =>
    rw [hexDigits, List.mem_append, List.mem_singleton] at h
    rcases h with h | rfl
    · exact ih h
    · exact ⟨n % 16, Nat.mod_lt _ (by decide), rfl⟩

theorem number?_concat (base : Nat) (digit? : Char → Option Nat) (cs : List Char) (c : Char) :
    number? base digit? (cs ++ [c]) =
      (number? base digit? cs).bind fun n => (digit? c).map (base * n + ·) := by
  rw [number?, List.foldl_append]
  rfl

/-- **A number is read from its digits**, if there are enough of them. -/
theorem number?_hexDigits {w n : Nat} (h : n < Nat.pow 16 w) :
    number? 16 hexValue? (hexDigits w n) = some n := by
  induction w generalizing n with
  | zero =>
    have hn : n = 0 := Nat.lt_one_iff.mp h
    rw [hn]
    rfl
  | succ w ih =>
    have hdiv : n / 16 < Nat.pow 16 w := by
      rw [Nat.div_lt_iff_lt_mul (by decide)]
      exact h
    rw [hexDigits, number?_concat, ih hdiv, hexValue?_hexDigit _ (Nat.mod_lt _ (by decide)),
      Option.bind_some, Option.map_some, Nat.div_add_mod]

/-! ## What is written -/

theorem encodePoint?_toNat (c : Char) : encodePoint? c.toNat = some (String.utf8EncodeChar c) := by
  have hvalid := toNat_char c
  rw [encodePoint?, if_pos, Char.ofNat_toNat]
  simp only [Bool.or_eq_true, Bool.and_eq_true, decide_eq_true_eq]
  omega

theorem escapeValue?_x {n : Nat} (h : n < 256) (rest : List Char) :
    escapeValue? 'x' (hexDigits 2 n ++ rest) = some ([UInt8.ofNat n], 2) := by
  simp [escapeValue?, number?_hexDigits (w := 2) h]

theorem escapeValue?_point {l : Char} {width : Nat}
    (hl : l = 'u' ∧ width = 4 ∨ l = 'U' ∧ width = 8) {c : Char}
    (h : c.toNat < Nat.pow 16 width) (rest : List Char) :
    escapeValue? l (hexDigits width c.toNat ++ rest) = some (String.utf8EncodeChar c, width) := by
  rcases hl with ⟨rfl, rfl⟩ | ⟨rfl, rfl⟩ <;> simp [escapeValue?, number?_hexDigits h,
    encodePoint?_toNat]

theorem controlLetter?_cases {c l : Char} (h : controlLetter? c = some l) :
    isVisible l = true ∧ ∀ rest, escapeValue? l rest = some (String.utf8EncodeChar c, 0) := by
  unfold controlLetter? at h
  split at h
  case h_8 => cases h
  all_goals
    rename_i hc
    obtain rfl := char_of_toNat hc.symm
    cases h
    exact ⟨by decide, fun _ => rfl⟩

theorem utf8EncodeChar_of_lt {c : Char} (h : c.toNat < 0x80) :
    String.utf8EncodeChar c = [UInt8.ofNat c.toNat] := by
  rw [String.utf8EncodeChar, Char.toNat_val]
  exact if_pos (by omega)

/-- An escape sequence that stands for some bytes: behind the backslash a letter or sign, and
perhaps digits. -/
structure Sequence (cs : List Char) (bytes : List UInt8) (l : Char) (ds : List Char) : Prop where
  eq : cs = '\\' :: l :: ds
  visible : isVisible l = true
  digits : ∀ d ∈ ds, isVisible d = true ∧ d ≠ '"' ∧ d ≠ '\\'
  value : ∀ rest, escapeValue? l (ds ++ rest) = some (bytes, ds.length)

theorem sequence_hexDigits {bytes : List UInt8} {l : Char} {width n : Nat} (hl : isVisible l = true)
    (h : ∀ rest, escapeValue? l (hexDigits width n ++ rest) = some (bytes, width)) :
    Sequence ('\\' :: l :: hexDigits width n) bytes l (hexDigits width n) where
  eq := rfl
  visible := hl
  digits := by
    intro d hd
    obtain ⟨i, hi, rfl⟩ := exists_of_mem_hexDigits hd
    exact hexDigit_plain i hi
  value rest := by rw [h rest, length_hexDigits]

theorem sequence_sign {bytes : List UInt8} {l : Char} (hl : isVisible l = true)
    (h : ∀ rest, escapeValue? l rest = some (bytes, 0)) : Sequence ['\\', l] bytes l [] where
  eq := rfl
  visible := hl
  digits := by simp
  value := h

/-- **What is written for a piece** is itself or an escape sequence for its bytes. -/
theorem escapePiece_cases (p : Piece) :
    (∃ c, p = .char c ∧ escapePiece p = [c] ∧ isPrintable c = true ∧ c ≠ '"' ∧ c ≠ '\\') ∨
      ∃ l ds, Sequence (escapePiece p) p.bytes l ds := by
  cases p with
  | stray b =>
    refine .inr ⟨'x', _, sequence_hexDigits (by decide) fun rest => ?_⟩
    rw [escapeValue?_x b.toNat_lt, UInt8.ofNat_toNat, Piece.bytes]
  | char c =>
    simp only [escapePiece, Piece.bytes, escapeChar]
    split
    · rename_i hsign
      rw [Bool.or_eq_true, decide_eq_true_eq, decide_eq_true_eq] at hsign
      refine .inr ⟨c, [], sequence_sign ?_ ?_⟩ <;> rcases hsign with rfl | rfl
      · decide
      · decide
      · exact fun _ => rfl
      · exact fun _ => rfl
    rename_i hsign
    split
    · rename_i hprintable
      rw [Bool.or_eq_true, decide_eq_true_eq, decide_eq_true_eq, not_or] at hsign
      exact .inl ⟨c, rfl, rfl, hprintable, hsign⟩
    split
    · rename_i l hl
      obtain ⟨hvisible, hvalue⟩ := controlLetter?_cases hl
      exact .inr ⟨l, [], sequence_sign hvisible hvalue⟩
    split
    · rename_i hlt
      refine .inr ⟨'x', _, sequence_hexDigits (by decide) fun rest => ?_⟩
      rw [escapeValue?_x (by omega), utf8EncodeChar_of_lt hlt]
    split
    · rename_i hlt
      exact .inr ⟨'u', _, sequence_hexDigits (by decide) (escapeValue?_point (.inl ⟨rfl, rfl⟩) hlt)⟩
    · have hlt : c.toNat < Nat.pow 16 8 := by
        have hvalid := toNat_char c
        have hpow : Nat.pow 16 8 = 4294967296 := rfl
        omega
      exact .inr ⟨'U', _, sequence_hexDigits (by decide) (escapeValue?_point (.inr ⟨rfl, rfl⟩) hlt)⟩

/-! ## Reading -/

theorem unescapeFrom?_append (ds rest : List Char) :
    unescapeFrom? ds.length (ds ++ rest) = unescape? rest := by
  induction ds with
  | nil => rfl
  | cons d ds ih => exact ih

theorem unescape?_plain {c : Char} (hquote : c ≠ '"') (hslash : c ≠ '\\') (hline : c ≠ '\n')
    (rest : List Char) :
    unescape? (c :: rest) = (unescape? rest).map (String.utf8EncodeChar c ++ ·) := by
  rw [unescape?, unescapeFrom?]
  · simp [hquote, hslash, hline, unescape?]
  · rintro _ _ rfl
    exact absurd rfl hslash

theorem Sequence.unescape?_append {cs ds : List Char} {bytes : List UInt8} {l : Char}
    (h : Sequence cs bytes l ds) (rest : List Char) :
    unescape? (cs ++ rest) = (unescape? rest).map (bytes ++ ·) := by
  rw [h.eq, List.cons_append, List.cons_append, unescape?, unescapeFrom?, h.value rest,
    Option.bind_eq_bind, Option.bind_some]
  simp only [unescapeFrom?_append]
  cases unescape? rest <;> rfl

theorem isVisible_of_isPrintable {c : Char} (h : isPrintable c = true) (hlt : c.toNat < 0x80) :
    isVisible c = true := by
  rw [isPrintable, if_pos hlt, Bool.and_eq_true, decide_eq_true_eq, decide_eq_true_eq] at h
  exact decide_eq_true (by omega)

/-- **A piece is read from what is written for it**, whatever follows. -/
theorem unescape?_escapePiece_append (p : Piece) (rest : List Char) :
    unescape? (escapePiece p ++ rest) = (unescape? rest).map (p.bytes ++ ·) := by
  rcases escapePiece_cases p with ⟨c, rfl, heq, hprintable, hquote, hslash⟩ | ⟨l, ds, hseq⟩
  · have hline : c ≠ '\n' := by
      rintro rfl
      exact absurd (isVisible_of_isPrintable hprintable (by decide)) (by decide)
    rw [heq, List.singleton_append, unescape?_plain hquote hslash hline, Piece.bytes]
  · exact hseq.unescape?_append rest

theorem unescape?_flatMap_escapePiece (ps : List Piece) :
    unescape? (ps.flatMap escapePiece) = some (ps.flatMap Piece.bytes) := by
  induction ps with
  | nil => rfl
  | cons p ps ih =>
    rw [List.flatMap_cons, unescape?_escapePiece_append, ih, Option.map_some, List.flatMap_cons]

theorem unquote?_quoted (cs : List Char) :
    unquote? ("\"" ++ String.ofList cs ++ "\"") = unescape? cs := by
  have hlist : ("\"" ++ String.ofList cs ++ "\"").toList = '"' :: (cs ++ ['"']) := by simp
  rw [unquote?, hlist]
  simp

/-- **Without its first and last byte** quoted text is what stands between the quotes. -/
theorem withoutEnds_quoted (s : String) : withoutEnds ("\"" ++ s ++ "\"") = s := by
  have hbytes : utf8 ("\"" ++ s ++ "\"") = 0x22 :: (utf8 s ++ [0x22]) := by
    have hquote : String.utf8EncodeChar '"' = [0x22] := by decide
    simp [utf8, hquote]
  have hlong : 2 ≤ (utf8 ("\"" ++ s ++ "\"")).length := by
    rw [hbytes]
    simp
  rw [withoutEnds, if_pos hlong, hbytes, List.tail_cons, List.dropLast_concat, ofUtf8_utf8]

theorem escapeBytes_eq (bs : List UInt8) :
    escapeBytes bs = String.ofList ((pieces bs).flatMap escapePiece) := withoutEnds_quoted _

theorem quoteBytes_eq (bs : List UInt8) : quoteBytes bs = "\"" ++ escapeBytes bs ++ "\"" := by
  rw [escapeBytes_eq, quoteBytes]

/-- **Quoted text is read as the text that was quoted.** -/
theorem unquote?_quoteBytes (bs : List UInt8) : unquote? (quoteBytes bs) = some bs := by
  rw [quoteBytes, unquote?_quoted, unescape?_flatMap_escapePiece, flatMap_bytes_pieces]

theorem escapeBytes_injective : Function.Injective escapeBytes := by
  intro bs bs' h
  have hread : some bs = some bs' := by
    rw [← unquote?_quoteBytes bs, ← unquote?_quoteBytes bs', quoteBytes_eq, quoteBytes_eq, h]
  exact Option.some.inj hread

theorem quoteBytes_utf8 (s : String) : quoteBytes (utf8 s) = quote s := by
  rw [quoteBytes, pieces_utf8, List.flatMap_map]
  rfl

/-! ## Harmless text -/

/-- Whether what follows a text is escaped: the text ends in a backslash that is not itself
escaped. -/
def escapes (cs : List Char) : Bool := cs.foldl (fun escaped c => c == '\\' && !escaped) false

/-- Text in which every quote is escaped, and which does not escape what follows it. -/
inductive Guarded : List Char → Prop
  | nil : Guarded []
  | plain {c : Char} {cs : List Char} : c ≠ '"' → c ≠ '\\' → Guarded cs → Guarded (c :: cs)
  | escape {c : Char} {cs : List Char} : Guarded cs → Guarded ('\\' :: c :: cs)

theorem escapes_plain {c : Char} (hc : c ≠ '\\') (cs : List Char) :
    escapes (c :: cs) = escapes cs := by
  rw [escapes, List.foldl_cons, beq_false_of_ne hc, Bool.false_and, escapes]

theorem escapes_escape (c : Char) (cs : List Char) : escapes ('\\' :: c :: cs) = escapes cs := by
  rw [escapes, List.foldl_cons, List.foldl_cons, beq_self_eq_true, Bool.not_false, Bool.and_self,
    Bool.not_true, Bool.and_false, escapes]

/-- **Every quote in guarded text is escaped.** -/
theorem Guarded.escapes {cs u v : List Char} (h : Guarded cs) (heq : cs = u ++ '"' :: v) :
    Text.escapes u = true := by
  induction h generalizing u with
  | nil => simp at heq
  | plain hquote hslash _ ih =>
    cases u with
    | nil => exact absurd (List.cons.inj heq).1 hquote
    | cons d u =>
      obtain ⟨rfl, hrest⟩ := List.cons.inj heq
      rw [escapes_plain hslash, ih hrest]
  | escape _ ih =>
    -- the quote is the escaped character, or it comes after it
    rcases u with _ | ⟨d, _ | ⟨e, u⟩⟩
    · exact absurd (List.cons.inj heq).1 (by decide)
    · rw [← (List.cons.inj heq).1]
      rfl
    · obtain ⟨hd, hrest⟩ := List.cons.inj heq
      obtain ⟨-, hrest⟩ := List.cons.inj hrest
      rw [← hd, escapes_escape, ih hrest]

theorem Guarded.append_digits {cs ds : List Char} (h : Guarded cs)
    (hds : ∀ d ∈ ds, d ≠ '"' ∧ d ≠ '\\') :
    Guarded (ds ++ cs) := by
  induction ds with
  | nil => exact h
  | cons d ds ih =>
    obtain ⟨hquote, hslash⟩ := hds d List.mem_cons_self
    exact .plain hquote hslash (ih fun e he => hds e (List.mem_cons_of_mem _ he))

theorem Guarded.escapePiece_append {cs : List Char} (h : Guarded cs) (p : Piece) :
    Guarded (escapePiece p ++ cs) := by
  rcases escapePiece_cases p with ⟨c, -, heq, -, hquote, hslash⟩ | ⟨l, ds, hseq⟩
  · rw [heq]
    exact .plain hquote hslash h
  · rw [hseq.eq]
    exact .escape (h.append_digits fun d hd => (hseq.digits d hd).2)

theorem guarded_flatMap_escapePiece (ps : List Piece) : Guarded (ps.flatMap escapePiece) := by
  induction ps with
  | nil => exact .nil
  | cons p ps ih => exact ih.escapePiece_append p

theorem isVisible_of_mem_escapePiece {p : Piece} {c : Char} (hc : c ∈ escapePiece p)
    (hlt : c.toNat < 0x80) :
    isVisible c = true := by
  rcases escapePiece_cases p with ⟨d, -, heq, hprintable, -, -⟩ | ⟨l, ds, hseq⟩
  · rw [heq, List.mem_singleton] at hc
    exact isVisible_of_isPrintable (hc ▸ hprintable) hlt
  · rw [hseq.eq, List.mem_cons, List.mem_cons] at hc
    rcases hc with rfl | rfl | hc
    · decide
    · exact hseq.visible
    · exact (hseq.digits c hc).1

theorem toNat_of_mem_utf8EncodeChar {c : Char} {b : UInt8} (hb : b ∈ String.utf8EncodeChar c) :
    (c.toNat < 0x80 ∧ b.toNat = c.toNat) ∨ 0x80 ≤ b.toNat := by
  have hhigh : ∀ n, 0x80 ≤ n → n < 256 → 0x80 ≤ (UInt8.ofNat n).toNat := fun n h hlt => by
    rwa [toNat_ofNat_byte hlt]
  simp only [String.utf8EncodeChar, Char.toNat_val] at hb
  split_ifs at hb
  · obtain rfl := List.mem_singleton.mp hb
    exact .inl ⟨by omega, toNat_ofNat_byte (by omega)⟩
  all_goals
    right
    simp only [List.mem_cons, List.not_mem_nil, or_false] at hb
  · rcases hb with rfl | rfl <;> exact hhigh _ (by omega) (by omega)
  · rcases hb with rfl | rfl | rfl <;> exact hhigh _ (by omega) (by omega)
  · rcases hb with rfl | rfl | rfl | rfl <;> exact hhigh _ (by omega) (by omega)

theorem escapeBytes_visible {bs : List UInt8} {b : UInt8} (hb : b ∈ utf8 (escapeBytes bs)) :
    0x20 ≤ b.toNat ∧ b.toNat ≠ 0x7F := by
  rw [utf8, escapeBytes_eq, String.toList_ofList, List.mem_flatMap] at hb
  obtain ⟨c, hc, hb⟩ := hb
  rcases toNat_of_mem_utf8EncodeChar hb with ⟨hlt, heq⟩ | hhigh
  · obtain ⟨p, -, hp⟩ := List.mem_flatMap.mp hc
    have hvisible := of_decide_eq_true (isVisible_of_mem_escapePiece hp hlt)
    omega
  · omega

/-- **Quoted text is harmless and loses nothing**: every quote is escaped, no control character is
left, and it is read as what was quoted. -/
theorem escapeBytes_harmless :
    (∀ bs : List UInt8,
      (∀ b ∈ utf8 (escapeBytes bs), 0x20 ≤ b.toNat ∧ b.toNat ≠ 0x7F) ∧
      (∀ u v, (escapeBytes bs).toList = u ++ '"' :: v → escapes u = true) ∧
      quoteBytes bs = "\"" ++ escapeBytes bs ++ "\"" ∧
      unquote? ("\"" ++ escapeBytes bs ++ "\"") = some bs ∧
      ∀ bs', escapeBytes bs = escapeBytes bs' → bs = bs') ∧
    ∀ s : String, escape s = escapeBytes (utf8 s) := by
  refine ⟨fun bs => ⟨fun b hb => escapeBytes_visible hb, fun u v h => ?_, quoteBytes_eq bs, ?_,
    fun bs' h => escapeBytes_injective h⟩, fun s => by rw [escape, escapeBytes, quoteBytes_utf8]⟩
  · rw [escapeBytes_eq, String.toList_ofList] at h
    exact (guarded_flatMap_escapePiece (pieces bs)).escapes h
  · rw [← quoteBytes_eq]
    exact unquote?_quoteBytes bs

/-- A quote, an escape character, a newline, a letter, a zero-width space, a tag character and a
byte that belongs to no character. -/
example : escapeBytes ([0x22, 0x1B, 0x0A, 0x62] ++ utf8 "\u200B" ++ [0xF3, 0xA0, 0x80, 0x81, 0xFF]) =
    "\\\"\\x1b\\nb\\u200b\\U000e0001\\xff" := by decide +kernel

end FlagFlow.Text
