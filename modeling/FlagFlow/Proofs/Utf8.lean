import FlagFlow.Text.Bytes
import Mathlib.Tactic.Tauto
import Mathlib.Tactic.SplitIfs

/-!
# Strings and their bytes

* `isTail_iff`, `startsThree_iff`, `startsFour_iff`: the classes of bytes as ranges of numbers.
* `exists_leading?_utf8EncodeChar`: a character is read from its bytes;
  `utf8EncodeChar_of_leading?`: and from no others.
* **`flatMap_bytes_pieces`**: a byte text is the bytes of the pieces that are read from it.
* **`ofUtf8_utf8`**: a string is read from its bytes, so that different strings have different
  bytes.
-/

namespace FlagFlow.Text

/-! ## Bytes -/

theorem isTail_iff {b : UInt8} : isTail b = true ↔ 0x80 ≤ b.toNat ∧ b.toNat ≤ 0xBF := by
  simp [isTail, UInt8.le_iff_toNat_le]

theorem startsThree_iff {a b : UInt8} : startsThree a b = true ↔
    (a.toNat = 0xE0 ∧ 0xA0 ≤ b.toNat ∧ b.toNat ≤ 0xBF) ∨
    (a.toNat = 0xED ∧ 0x80 ≤ b.toNat ∧ b.toNat ≤ 0x9F) ∨
      (0xE1 ≤ a.toNat ∧ a.toNat ≤ 0xEF ∧ a.toNat ≠ 0xED ∧ 0x80 ≤ b.toNat ∧ b.toNat ≤ 0xBF) := by
  simp only [startsThree, isTail, Bool.or_eq_true, Bool.and_eq_true, beq_iff_eq, bne_iff_ne, ne_eq,
    decide_eq_true_eq, UInt8.le_iff_toNat_le, ← UInt8.toNat_inj, UInt8.reduceToNat]
  tauto

theorem startsFour_iff {a b : UInt8} : startsFour a b = true ↔
    (a.toNat = 0xF0 ∧ 0x90 ≤ b.toNat ∧ b.toNat ≤ 0xBF) ∨
    (a.toNat = 0xF4 ∧ 0x80 ≤ b.toNat ∧ b.toNat ≤ 0x8F) ∨
      (0xF1 ≤ a.toNat ∧ a.toNat ≤ 0xF3 ∧ 0x80 ≤ b.toNat ∧ b.toNat ≤ 0xBF) := by
  simp only [startsFour, isTail, Bool.or_eq_true, Bool.and_eq_true, beq_iff_eq, decide_eq_true_eq,
    UInt8.le_iff_toNat_le, ← UInt8.toNat_inj, UInt8.reduceToNat]
  tauto

/-! ## One character -/

section Leading

variable {a b c d : UInt8} {rest : List UInt8}

theorem leading?_one (ha : a.toNat < 0x80) : leading? a rest = some (Char.ofNat a.toNat, 0) := by
  have hlt : a < 0x80 := UInt8.lt_iff_toNat_lt.mpr ha
  simp [leading?, hlt]

theorem leading?_two (ha : 0xC2 ≤ a.toNat ∧ a.toNat ≤ 0xDF) (hb : isTail b = true) :
    leading? a (b :: rest) = some (Char.ofNat ((a.toNat - 0xC0) * 64 + payload b), 1) := by
  have hbig : ¬a < 0x80 := by simp only [UInt8.lt_iff_toNat_lt, UInt8.reduceToNat]; omega
  have hfirst : 0xC2 ≤ a ∧ a ≤ 0xDF := ⟨UInt8.le_iff_toNat_le.mpr ha.1, UInt8.le_iff_toNat_le.mpr ha.2⟩
  simp [leading?, hbig, hfirst, hb]

theorem leading?_three (hab : startsThree a b = true) (hc : isTail c = true) :
    leading? a (b :: c :: rest) =
      some (Char.ofNat ((a.toNat - 0xE0) * 4096 + payload b * 64 + payload c), 2) := by
  have ha : 0xE0 ≤ a.toNat := by have := startsThree_iff.mp hab; omega
  have hbig : ¬a < 0x80 := by simp only [UInt8.lt_iff_toNat_lt, UInt8.reduceToNat]; omega
  have hfirst : ¬a ≤ 0xDF := by simp only [UInt8.le_iff_toNat_le, UInt8.reduceToNat]; omega
  simp [leading?, hbig, hfirst, hab, hc]

theorem leading?_four (hab : startsFour a b = true) (hc : isTail c = true) (hd : isTail d = true) :
    leading? a (b :: c :: d :: rest) =
      some (Char.ofNat
        ((a.toNat - 0xF0) * 262144 + payload b * 4096 + payload c * 64 + payload d), 3) := by
  have ha : 0xF0 ≤ a.toNat := by have := startsFour_iff.mp hab; omega
  have hbig : ¬a < 0x80 := by simp only [UInt8.lt_iff_toNat_lt, UInt8.reduceToNat]; omega
  have hfirst : ¬a ≤ 0xDF := by simp only [UInt8.le_iff_toNat_le, UInt8.reduceToNat]; omega
  have hthree : ¬startsThree a b = true := by rw [startsThree_iff]; omega
  simp [leading?, hbig, hfirst, hthree, hab, hc, hd]

end Leading

theorem toNat_ofNat_byte {n : Nat} (h : n < 256) : (UInt8.ofNat n).toNat = n :=
  UInt8.toNat_ofNat_of_lt' h

theorem toNat_tail (n : Nat) : (UInt8.ofNat (n % 64 + 128)).toNat = n % 64 + 128 :=
  toNat_ofNat_byte (by omega)

theorem isTail_tail (n : Nat) : isTail (UInt8.ofNat (n % 64 + 128)) = true := by
  rw [isTail_iff, toNat_tail]
  omega

theorem payload_tail (n : Nat) : payload (UInt8.ofNat (n % 64 + 128)) = n % 64 := by
  have hn := toNat_tail n
  unfold payload
  omega

theorem char_of_toNat {c : Char} {n : Nat} (h : n = c.toNat) : Char.ofNat n = c := by
  rw [h, Char.ofNat_toNat]

theorem toNat_char (c : Char) : c.toNat < 0xD800 ∨ (0xDFFF < c.toNat ∧ c.toNat < 0x110000) := by
  simpa only [UInt32.isValidChar, Nat.isValidChar, Char.toNat_val] using c.valid

/-- **A character is read from its bytes**, whatever follows them. -/
theorem exists_leading?_utf8EncodeChar (c : Char) : ∃ a bs, String.utf8EncodeChar c = a :: bs ∧
    ∀ rest, leading? a (bs ++ rest) = some (c, bs.length) := by
  have hvalid := toNat_char c
  simp only [String.utf8EncodeChar, Char.toNat_val]
  split_ifs with h1 h2 h3
  · refine ⟨_, _, rfl, fun rest => ?_⟩
    have ha : (UInt8.ofNat c.toNat).toNat = c.toNat := toNat_ofNat_byte (by omega)
    rw [leading?_one (by rw [ha]; omega), ha, Char.ofNat_toNat]
    rfl
  · refine ⟨_, _, rfl, fun rest => ?_⟩
    have ha : (UInt8.ofNat (c.toNat / 64 % 32 + 192)).toNat = c.toNat / 64 % 32 + 192 :=
      toNat_ofNat_byte (by omega)
    rw [List.cons_append, leading?_two (by rw [ha]; omega) (isTail_tail _),
      char_of_toNat (c := c) (by rw [ha, payload_tail]; omega)]
    rfl
  · refine ⟨_, _, rfl, fun rest => ?_⟩
    have ha : (UInt8.ofNat (c.toNat / 4096 % 16 + 224)).toNat = c.toNat / 4096 % 16 + 224 :=
      toNat_ofNat_byte (by omega)
    rw [List.cons_append, List.cons_append,
      leading?_three (startsThree_iff.mpr (by rw [ha, toNat_tail]; omega)) (isTail_tail _),
      char_of_toNat (c := c) (by rw [ha, payload_tail, payload_tail]; omega)]
    rfl
  · refine ⟨_, _, rfl, fun rest => ?_⟩
    have ha : (UInt8.ofNat (c.toNat / 262144 % 8 + 240)).toNat = c.toNat / 262144 % 8 + 240 :=
      toNat_ofNat_byte (by omega)
    rw [List.cons_append, List.cons_append, List.cons_append,
      leading?_four (startsFour_iff.mpr (by rw [ha, toNat_tail]; omega)) (isTail_tail _)
        (isTail_tail _),
      char_of_toNat (c := c) (by rw [ha, payload_tail, payload_tail, payload_tail]; omega)]
    rfl

/-! ## The bytes of a character that was read -/

theorem toNat_ofNat_char {n : Nat} (h : n < 0xD800 ∨ (0xDFFF < n ∧ n < 0x110000)) :
    (Char.ofNat n).toNat = n := by
  rw [Char.ofNat, dif_pos h]
  rfl

theorem utf8EncodeChar_ofNat {n : Nat} (h : n < 0xD800 ∨ (0xDFFF < n ∧ n < 0x110000)) :
    String.utf8EncodeChar (Char.ofNat n) =
      if n ≤ 0x7F then [UInt8.ofNat n]
      else if n ≤ 0x7FF then [UInt8.ofNat (n / 64 % 32 + 192), UInt8.ofNat (n % 64 + 128)]
      else if n ≤ 0xFFFF then
        [UInt8.ofNat (n / 4096 % 16 + 224), UInt8.ofNat (n / 64 % 64 + 128),
        UInt8.ofNat (n % 64 + 128)]
      else
        [UInt8.ofNat (n / 262144 % 8 + 240), UInt8.ofNat (n / 4096 % 64 + 128),
        UInt8.ofNat (n / 64 % 64 + 128),
          UInt8.ofNat (n % 64 + 128)] := by
  have hn : (Char.ofNat n).toNat = n := toNat_ofNat_char h
  simp only [String.utf8EncodeChar, Char.toNat_val, hn]

theorem ofNat_of_toNat {n : Nat} {b : UInt8} (h : n = b.toNat) : UInt8.ofNat n = b := by
  rw [h, UInt8.ofNat_toNat]

section Leading

variable {a b c d : UInt8}

theorem utf8EncodeChar_one (ha : a.toNat < 0x80) :
    String.utf8EncodeChar (Char.ofNat a.toNat) = [a] := by
  rw [utf8EncodeChar_ofNat (by omega), if_pos (by omega), UInt8.ofNat_toNat]

theorem utf8EncodeChar_two (ha : 0xC2 ≤ a.toNat ∧ a.toNat ≤ 0xDF) (hb : isTail b = true) :
    String.utf8EncodeChar (Char.ofNat ((a.toNat - 0xC0) * 64 + payload b)) = [a, b] := by
  rw [isTail_iff] at hb
  unfold payload
  rw [utf8EncodeChar_ofNat (by omega), if_neg (by omega), if_pos (by omega),
    ofNat_of_toNat (b := a) (by omega), ofNat_of_toNat (b := b) (by omega)]

theorem utf8EncodeChar_three (hab : startsThree a b = true) (hc : isTail c = true) :
    String.utf8EncodeChar (Char.ofNat ((a.toNat - 0xE0) * 4096 + payload b * 64 + payload c)) =
      [a, b, c] := by
  rw [startsThree_iff] at hab
  rw [isTail_iff] at hc
  unfold payload
  rw [utf8EncodeChar_ofNat (by omega), if_neg (by omega), if_neg (by omega), if_pos (by omega),
    ofNat_of_toNat (b := a) (by omega), ofNat_of_toNat (b := b) (by omega),
    ofNat_of_toNat (b := c) (by omega)]

theorem utf8EncodeChar_four (hab : startsFour a b = true) (hc : isTail c = true)
    (hd : isTail d = true) :
    String.utf8EncodeChar (Char.ofNat
      ((a.toNat - 0xF0) * 262144 + payload b * 4096 + payload c * 64 + payload d)) =
      [a, b, c, d] := by
  rw [startsFour_iff] at hab
  rw [isTail_iff] at hc hd
  unfold payload
  rw [utf8EncodeChar_ofNat (by omega), if_neg (by omega), if_neg (by omega), if_neg (by omega),
    ofNat_of_toNat (b := a) (by omega), ofNat_of_toNat (b := b) (by omega),
    ofNat_of_toNat (b := c) (by omega), ofNat_of_toNat (b := d) (by omega)]

end Leading

/-- **The bytes of a character that was read** are those from which it was read. -/
theorem utf8EncodeChar_of_leading? {a : UInt8} {rest : List UInt8} {c : Char} {n : Nat}
    (h : leading? a rest = some (c, n)) :
    ∃ bs rest', rest = bs ++ rest' ∧ n = bs.length ∧ String.utf8EncodeChar c = a :: bs := by
  unfold leading? at h
  split at h
  · rename_i ha
    obtain ⟨rfl, rfl⟩ := Prod.mk.inj (Option.some.inj h)
    exact ⟨[], rest, rfl, rfl, utf8EncodeChar_one (UInt8.lt_iff_toNat_lt.mp ha)⟩
  rcases rest with _ | ⟨b, rest⟩
  · cases h
  dsimp only at h
  split at h
  · rename_i hab
    simp only [Bool.and_eq_true, decide_eq_true_eq, UInt8.le_iff_toNat_le] at hab
    obtain ⟨rfl, rfl⟩ := Prod.mk.inj (Option.some.inj h)
    exact ⟨[b], rest, rfl, rfl, utf8EncodeChar_two hab.1 hab.2⟩
  rcases rest with _ | ⟨c', rest⟩
  · cases h
  dsimp only at h
  split at h
  · rename_i hab
    rw [Bool.and_eq_true] at hab
    obtain ⟨rfl, rfl⟩ := Prod.mk.inj (Option.some.inj h)
    exact ⟨[b, c'], rest, rfl, rfl, utf8EncodeChar_three hab.1 hab.2⟩
  rcases rest with _ | ⟨d, rest⟩
  · cases h
  dsimp only at h
  split at h
  · rename_i hab
    rw [Bool.and_eq_true, Bool.and_eq_true] at hab
    obtain ⟨rfl, rfl⟩ := Prod.mk.inj (Option.some.inj h)
    exact ⟨[b, c', d], rest, rfl, rfl, utf8EncodeChar_four hab.1.1 hab.1.2 hab.2⟩
  · cases h

/-! ## Texts -/

theorem piecesFrom_append (bs rest : List UInt8) :
    piecesFrom bs.length (bs ++ rest) = piecesFrom 0 rest := by
  induction bs with
  | nil => rfl
  | cons b bs ih => exact ih

theorem pieces_utf8EncodeChar_append (c : Char) (rest : List UInt8) :
    pieces (String.utf8EncodeChar c ++ rest) = .char c :: pieces rest := by
  obtain ⟨a, bs, hc, hlead⟩ := exists_leading?_utf8EncodeChar c
  rw [hc, pieces, List.cons_append, piecesFrom, hlead rest]
  simp only [piecesFrom_append, pieces]

theorem pieces_utf8 (s : String) : pieces (utf8 s) = s.toList.map .char := by
  rw [utf8]
  induction s.toList with
  | nil => rfl
  | cons c cs ih => rw [List.flatMap_cons, pieces_utf8EncodeChar_append, ih, List.map_cons]

/-- **A string is read from its bytes.** -/
@[simp]
theorem ofUtf8_utf8 (s : String) : ofUtf8 (utf8 s) = s := by
  have hchars : (s.toList.map Piece.char).map Piece.toChar = s.toList := by
    rw [List.map_map]
    exact List.map_id _
  rw [ofUtf8, pieces_utf8, hchars, String.ofList_toList]

/-- **A byte text is the bytes of its pieces.** -/
theorem flatMap_bytes_pieces (bs : List UInt8) : (pieces bs).flatMap Piece.bytes = bs := by
  induction h : bs.length using Nat.strongRecOn generalizing bs with
  | _ k ih =>
    cases bs with
    | nil => rfl
    | cons a rest =>
      rw [pieces, piecesFrom]
      cases hlead : leading? a rest with
      | none =>
        rw [List.flatMap_cons]
        exact congrArg (a :: ·) (ih rest.length (by rw [← h, List.length_cons]; omega) rest rfl)
      | some e =>
        obtain ⟨c, n⟩ := e
        obtain ⟨bs, rest', rfl, rfl, hc⟩ := utf8EncodeChar_of_leading? hlead
        have hrest : (pieces rest').flatMap Piece.bytes = rest' := by
          refine ih rest'.length ?_ rest' rfl
          rw [← h, List.length_cons, List.length_append]
          omega
        dsimp only
        rw [piecesFrom_append, ← pieces, List.flatMap_cons, hrest, Piece.bytes, hc, List.cons_append]

theorem utf8_inj {s t : String} : utf8 s = utf8 t ↔ s = t :=
  ⟨fun h => by rw [← ofUtf8_utf8 s, h, ofUtf8_utf8], fun h => by rw [h]⟩

end FlagFlow.Text
