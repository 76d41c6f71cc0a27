import FlagFlow.Regex.Parse

/-!
# Reading an expression that is enclosed

The pieces of an expression are read from left to right, and each function that reads one tells what
it leaves. If the end of an enclosing group follows the expression, nearly all of them read the same
as without it: what follows can neither belong to a piece nor complete it.

* `LeftOf`: what is left of a text after some of it is read.
* `ReadsWithin`: a function reads some of a text, and the same if the end of a group follows.
* `readsWithin_bounds?`, `readsWithin_escapePoint?`, `readsWithin_unicodeClass?`,
  `readsWithin_namedClass?`: counts, escape sequences and classes that have names.
* `classRange?_append`: a range at the very end of the text is the exception; the class around it
  has no end then.
* **`readsWithin_bracketClass?`**: classes in brackets.
-/

namespace FlagFlow.Regex

open Text

/-! ## Reading within a text -/

/-- What stands after an expression that is enclosed. -/
def closing : List Char := [')', '$']

/-- What is left of `cs` after reading at least one character. -/
structure LeftOf (r cs : List Char) : Prop where
  suffix : r <:+ cs
  length_lt : r.length < cs.length

section

variable {α β : Type} {f : List Char → Option (α × List Char)} {a : α} {c : Char}
  {r cs rest : List Char}

theorem LeftOf.of_suffix (h : r <:+ rest) : LeftOf r (c :: rest) :=
  ⟨h.trans (List.suffix_cons c rest), Nat.lt_succ_of_le h.length_le⟩

theorem LeftOf.cons (h : LeftOf r rest) : LeftOf r (c :: rest) := .of_suffix h.suffix

theorem LeftOf.trans (h : LeftOf r rest) (h' : LeftOf rest cs) : LeftOf r cs :=
  ⟨h.suffix.trans h'.suffix, Nat.lt_trans h.length_lt h'.length_lt⟩

/-- A result of reading, with `closing` after what is left. -/
def extend (e : α × List Char) : α × List Char := (e.1, e.2 ++ closing)

/-- `f` reads some of `cs`, and the same if `closing` follows. -/
structure ReadsWithin (f : List Char → Option (α × List Char)) (cs : List Char) : Prop where
  append : f (cs ++ closing) = (f cs).map extend
  left : ∀ e ∈ f cs, LeftOf e.2 cs

namespace ReadsWithin

theorem none_none (h : f cs = none) (h' : f (cs ++ closing) = none) : ReadsWithin f cs where
  append := by rw [h, h']; rfl
  left e he := by rw [h] at he; cases he

theorem some_some {e : α × List Char} (h : f cs = some e) (h' : f (cs ++ closing) = some (extend e))
    (he : LeftOf e.2 cs) : ReadsWithin f cs where
  append := by rw [h, h']; rfl
  left e' he' := by
    rw [h] at he'
    cases he'
    exact he

theorem item (h : f (c :: rest) = some (a, rest))
    (h' : f (c :: (rest ++ closing)) = some (a, rest ++ closing)) :
    ReadsWithin f (c :: rest) :=
  .some_some h h' (.of_suffix (List.suffix_refl rest))

theorem of_eq {g : List Char → Option (α × List Char)} (hg : ReadsWithin g cs) (h : f cs = g cs)
    (h' : f (cs ++ closing) = g (cs ++ closing)) : ReadsWithin f cs where
  append := by rw [h, h', hg.append]
  left e he := hg.left e (h ▸ he)

theorem cons {g : List Char → Option (α × List Char)} (hg : ReadsWithin g rest)
    (h : f (c :: rest) = g rest) (h' : f (c :: (rest ++ closing)) = g (rest ++ closing)) :
    ReadsWithin f (c :: rest) where
  append := by rw [List.cons_append, h, h', hg.append]
  left e he := (hg.left e (h ▸ he)).cons

theorem filterMap (hf : ReadsWithin f cs) (k : α → Option β) :
    ReadsWithin (fun cs => (f cs).bind fun e => (k e.1).map (·, e.2)) cs where
  append := by
    rw [hf.append]
    cases f cs with
    | none => rfl
    | some e => cases h : k e.1 <;> simp [extend, h]
  left e he := by
    obtain ⟨e', he', he⟩ := Option.bind_eq_some_iff.mp he
    obtain ⟨b, -, rfl⟩ := Option.map_eq_some_iff.mp he
    exact hf.left e' he'

theorem map (hf : ReadsWithin f cs) (k : α → β) :
    ReadsWithin (fun cs => (f cs).map fun e => (k e.1, e.2)) cs :=
  (hf.filterMap fun a => some (k a)).of_eq Option.map_eq_bind Option.map_eq_bind

theorem bind {g : α → List Char → Option (β × List Char)} (hf : ReadsWithin f cs)
    (hg : ∀ e ∈ f cs, ReadsWithin (g e.1) e.2) :
    ReadsWithin (fun cs => (f cs).bind fun e => g e.1 e.2) cs where
  append := by
    rw [hf.append]
    cases he : f cs with
    | none => rfl
    | some e => exact (hg e he).append
  left e' he' := by
    obtain ⟨e, he, he'⟩ := Option.bind_eq_some_iff.mp he'
    exact ((hg e he).left e' he').trans (hf.left e he)

end ReadsWithin

theorem exists_eq_cons_of_append_closing (h : cs ++ closing = c :: r) (hc : c ≠ ')') :
    ∃ rest, cs = c :: rest ∧ r = rest ++ closing := by
  cases cs with
  | nil => exact absurd (List.cons.inj h).1.symm hc
  | cons d rest =>
    obtain ⟨rfl, rfl⟩ := List.cons.inj h
    exact ⟨rest, rfl, rfl⟩

theorem append_closing_ne_cons (h : ∀ rest, cs = c :: rest → False) (hc : c ≠ ')') :
    ∀ r, cs ++ closing = c :: r → False := fun r heq => by
  obtain ⟨rest, rfl, -⟩ := exists_eq_cons_of_append_closing heq hc
  exact h rest rfl

/-! ### Runs of characters -/

variable {p : Char → Bool}

theorem takeWhile_append_closing (hp : p ')' = false) (cs : List Char) :
    (cs ++ closing).takeWhile p = cs.takeWhile p := by
  induction cs with
  | nil => simp [closing, hp]
  | cons c cs ih => simp only [List.cons_append, List.takeWhile_cons, ih]

theorem dropWhile_append_closing (hp : p ')' = false) (cs : List Char) :
    (cs ++ closing).dropWhile p = cs.dropWhile p ++ closing := by
  induction cs with
  | nil => simp [closing, hp]
  | cons c cs ih =>
    simp only [List.cons_append, List.dropWhile_cons, ih]
    split <;> rfl

/-- The characters before a mark that has to be there, with what follows it. -/
def upTo? (mark : Char) (cs : List Char) : Option (List Char × List Char) :=
  match cs.dropWhile (· != mark) with
  | _ :: rest => some (cs.takeWhile (· != mark), rest)
  | [] => none

theorem upTo?_cons (mark c : Char) (cs : List Char) :
    upTo? mark (c :: cs) =
      if c = mark then some ([], cs) else (upTo? mark cs).map fun e => (c :: e.1, e.2) := by
  unfold upTo?
  rw [List.dropWhile_cons, List.takeWhile_cons]
  by_cases h : c = mark
  · simp [h]
  · simp only [bne_iff_ne, ne_eq, h, not_false_iff, if_true, if_false]
    split <;> rfl

theorem readsWithin_upTo? {mark : Char} (h : mark ∉ closing) (cs : List Char) :
    ReadsWithin (upTo? mark) cs := by
  induction cs with
  | nil =>
    refine .none_none rfl ?_
    simp only [closing, List.mem_cons, List.not_mem_nil, or_false, not_or] at h
    simp [closing, Ne.symm h.1, Ne.symm h.2, upTo?]
  | cons c cs ih =>
    by_cases hc : c = mark
    · exact .item (by rw [upTo?_cons, if_pos hc]) (by rw [upTo?_cons, if_pos hc])
    · exact (ih.map (c :: ·)).cons (by rw [upTo?_cons, if_neg hc]) (by rw [upTo?_cons, if_neg hc])

end

/-! ## Counts -/

theorem readsWithin_count? (cs : List Char) : ReadsWithin count? cs := by
  have hp : Char.isDigit ')' = false := rfl
  constructor
  · unfold count?
    rw [takeWhile_append_closing hp, dropWhile_append_closing hp]
    dsimp only
    split
    · rfl
    · rfl
    · rw [Option.map_map]
      rfl
  · intro e he
    have hrest : e.2 = cs.dropWhile Char.isDigit ∧ cs.takeWhile Char.isDigit ≠ [] := by
      unfold count? at he
      dsimp only at he
      split at he
      · cases he
      · cases he
      · rename_i hne _
        obtain ⟨n, -, rfl⟩ := Option.map_eq_some_iff.mp he
        exact ⟨rfl, hne⟩
    have hlength := congrArg List.length (List.takeWhile_append_dropWhile
      (p := Char.isDigit) (l := cs))
    rw [List.length_append] at hlength
    have := List.length_pos_iff.mpr hrest.2
    exact ⟨hrest.1 ▸ List.dropWhile_suffix _, by rw [hrest.1]; omega⟩

/-- The brace after the bounds of a repetition. -/
def endBounds? (b : Nat × Option Nat) : List Char → Option ((Nat × Option Nat) × List Char)
  | '}' :: rest => some (b, rest)
  | _ => none

/-- The bounds of a repetition, after the least one. -/
def boundsFrom? (min : Nat) : List Char → Option ((Nat × Option Nat) × List Char)
  | '}' :: rest => some ((min, some min), rest)
  | ',' :: '}' :: rest => some ((min, none), rest)
  | ',' :: rest => (count? rest).bind fun e => endBounds? (min, some e.1) e.2
  | _ => none

theorem bounds?_eq (cs : List Char) : bounds? cs = (count? cs).bind fun e => boundsFrom? e.1 e.2 := rfl

theorem readsWithin_endBounds? (b : Nat × Option Nat) (cs : List Char) :
    ReadsWithin (endBounds? b) cs := by
  fun_cases endBounds? b cs with
  | case1 rest => exact .item rfl rfl
  | case2 _ h =>
    exact .none_none (endBounds?.eq_2 b cs h) (endBounds?.eq_2 b _
      (append_closing_ne_cons h (by decide)))

theorem readsWithin_boundsFrom? (min : Nat) (cs : List Char) : ReadsWithin (boundsFrom? min) cs := by
  fun_cases boundsFrom? min cs with
  | case1 rest => exact .item rfl rfl
  | case2 rest => exact (ReadsWithin.item (f := endBounds? (min, none)) rfl rfl).cons rfl rfl
  | case3 rest h =>
    have hmax := (readsWithin_count? rest).bind (g := fun max => endBounds? (min, some max))
      fun e _ => readsWithin_endBounds? (min, some e.1) e.2
    exact hmax.cons (boundsFrom?.eq_3 min rest h)
      (boundsFrom?.eq_3 min _ (append_closing_ne_cons h (by decide)))
  | case4 _ h h' h'' =>
    have hcomma := append_closing_ne_cons h'' (by decide)
    exact .none_none (boundsFrom?.eq_4 min cs h h' h'')
      (boundsFrom?.eq_4 min _ (append_closing_ne_cons h (by decide))
        (fun r => hcomma ('}' :: r)) hcomma)

theorem readsWithin_bounds? (cs : List Char) : ReadsWithin bounds? cs :=
  ((readsWithin_count? cs).bind fun e _ => readsWithin_boundsFrom? e.1 e.2).of_eq (bounds?_eq _)
    (bounds?_eq _)


/-! ## Escape sequences -/

theorem octal_append (n value : Nat) (cs : List Char) :
    octal n value (cs ++ closing) = extend (octal n value cs) := by
  fun_induction octal n value cs with
  | case1 => rfl
  | case2 n value c rest v hv ih => simp [octal, hv, ih]
  | case3 n value c rest hv => simp [octal, hv, extend]
  | case4 n value => rfl

theorem octal_suffix (n value : Nat) (cs : List Char) : (octal n value cs).2 <:+ cs := by
  fun_induction octal n value cs with
  | case1 _ cs => exact List.suffix_refl cs
  | case2 n value c rest v hv ih => exact ih.trans (List.suffix_cons c rest)
  | case3 n value c rest hv => exact List.suffix_refl _
  | case4 n value => exact List.suffix_refl _

theorem readsWithin_bracedHex? (value : Nat) (some? : Bool) (cs : List Char) :
    ReadsWithin (bracedHex? value some?) cs := by
  fun_induction bracedHex? value some? cs with
  | case1 value rest => exact .item rfl rfl
  | case2 value some? rest h => refine .none_none ?_ ?_ <;> simp [bracedHex?, h]
  | case3 value some? c rest hc ih =>
    cases hv : hexValue? c with
    | none => refine .none_none ?_ ?_ <;> simp [bracedHex?.eq_2 _ _ _ _ hc, hv]
    | some v =>
      by_cases hlarge : value * 16 + v > 0x10FFFF
      · refine .none_none ?_ ?_ <;> simp [bracedHex?.eq_2 _ _ _ _ hc, hv, hlarge]
      · refine (ih v).cons ?_ ?_ <;> simp [bracedHex?.eq_2 _ _ _ _ hc, hv, hlarge]
  | case4 => exact .none_none rfl rfl

theorem head?_append_closing_bind_octalValue? (cs : List Char) :
    (cs ++ closing).head?.bind octalValue? = cs.head?.bind octalValue? := by
  cases cs <;> rfl

theorem escapePoint?_cons {c : Char} (hc : c ∉ ['0', 'x', 'a', 'f', 'n', 'r', 't', 'v'])
    (rest : List Char) :
    escapePoint? (c :: rest) =
      if (octalValue? c).isSome ∧ (rest.head?.bind octalValue?).isSome then
        some (octal 2 ((octalValue? c).getD 0) rest)
      else if c.toNat < 0x80 && !isAlphanumeric c then some (c.toNat, rest)
      else none := by
  simp only [List.mem_cons, List.not_mem_nil, or_false, not_or] at hc
  obtain ⟨h0, hx, ha, hf, hn, hr, ht, hv⟩ := hc
  rw [escapePoint?.eq_11 c rest h0 (fun _ h => absurd h hx) (fun _ _ _ h => absurd h hx) ha hf
    hn hr ht hv]
  cases octalValue? c <;> cases rest.head?.bind octalValue? <;> rfl

theorem readsWithin_escapePoint?_x (rest : List Char) : ReadsWithin escapePoint? ('x' :: rest) := by
  cases rest with
  | nil => exact .none_none rfl rfl
  | cons a rest =>
    by_cases ha : a = '{'
    · subst ha
      have hbraced : ReadsWithin (fun cs => bracedHex? 0 false cs.tail) ('{' :: rest) :=
        (readsWithin_bracedHex? 0 false rest).cons rfl rfl
      exact hbraced.cons rfl rfl
    · cases rest with
      | nil =>
        have hx : octalValue? 'x' = none ∧ isAlphanumeric 'x' = true := ⟨rfl, rfl⟩
        have hclose : hexValue? ')' = none := rfl
        refine .none_none ?_ ?_
        · simp [escapePoint?, hx, ha]
        · cases h : hexValue? a <;> simp [escapePoint?, closing, h, hclose]
      | cons b rest =>
        have hrest : LeftOf rest ('x' :: a :: b :: rest) :=
          (LeftOf.of_suffix (List.suffix_cons b rest)).cons
        cases hva : hexValue? a with
        | none => refine .none_none ?_ ?_ <;> simp [escapePoint?, hva]
        | some v =>
          cases hvb : hexValue? b with
          | none => refine .none_none ?_ ?_ <;> simp [escapePoint?, hva, hvb]
          | some w =>
            refine .some_some (e := (v * 16 + w, rest)) ?_ ?_ hrest <;>
              simp [escapePoint?, extend, hva, hvb]

theorem readsWithin_escapePoint? {cs : List Char} (hcs : cs ≠ []) : ReadsWithin escapePoint? cs := by
  obtain ⟨c, rest, rfl⟩ := List.exists_cons_of_ne_nil hcs
  by_cases hc : c ∈ ['0', 'x', 'a', 'f', 'n', 'r', 't', 'v']
  · simp only [List.mem_cons, List.not_mem_nil, or_false] at hc
    obtain rfl | rfl | rfl | rfl | rfl | rfl | rfl | rfl := hc
    · exact .some_some rfl (congrArg some (octal_append 2 0 rest)) (.of_suffix (octal_suffix 2 0 rest))
    · exact readsWithin_escapePoint?_x rest
    all_goals exact .item rfl rfl
  · have hhead := head?_append_closing_bind_octalValue? rest
    by_cases hoctal : (octalValue? c).isSome ∧ (rest.head?.bind octalValue?).isSome
    · refine .some_some (e := octal 2 ((octalValue? c).getD 0) rest) ?_ ?_
        (.of_suffix (octal_suffix _ _ rest))
      · rw [escapePoint?_cons hc, if_pos hoctal]
      · rw [List.cons_append, escapePoint?_cons hc, hhead, if_pos hoctal, octal_append]
    · by_cases hplain : (c.toNat < 0x80 && !isAlphanumeric c) = true
      · refine .item (a := c.toNat) ?_ ?_
        · rw [escapePoint?_cons hc, if_neg hoctal, if_pos hplain]
        · rw [escapePoint?_cons hc, hhead, if_neg hoctal, if_pos hplain]
      · refine .none_none ?_ ?_
        · rw [escapePoint?_cons hc, if_neg hoctal, if_neg hplain]
        · rw [List.cons_append, escapePoint?_cons hc, hhead, if_neg hoctal, if_neg hplain]

/-! ## Classes -/

/-- The class of a name of Unicode, or its complement if the name starts with a caret. -/
def unicodeNamed? (negate fold : Bool) (name : List Char) : Option CharSet :=
  let (negate, name) := match name with
    | '^' :: name => (!negate, name)
    | name => (negate, name)
  (CharSet.unicode? (String.ofList name)).map fun s => (s.folded fold).negated negate

/-- The name of a class of Unicode. -/
def unicodeName? : List Char → Option (List Char × List Char)
  | '{' :: rest => upTo? '}' rest
  | c :: rest => some ([c], rest)
  | [] => none

theorem unicodeClass?_eq (negate fold : Bool) (cs : List Char) :
    unicodeClass? negate fold cs =
      (unicodeName? cs).bind fun e => (unicodeNamed? negate fold e.1).map (·, e.2) := by
  fun_cases unicodeName? cs with
  | case1 rest =>
    unfold unicodeClass? upTo? unicodeNamed?
    simp only [Option.bind_eq_bind]
    cases rest.dropWhile (· != '}') with
    | nil => rfl
    | cons d r =>
      rw [Option.bind_some, Option.map_map, Option.map_eq_bind]
      rfl
  | case2 c rest hc =>
    unfold unicodeClass? unicodeNamed?
    simp only [Option.bind_eq_bind]
    rw [Option.bind_some, Option.bind_some, Option.map_map, Option.map_eq_bind]
    rfl
  | case3 => rfl

theorem readsWithin_unicodeName? {cs : List Char} (hcs : cs ≠ []) : ReadsWithin unicodeName? cs := by
  fun_cases unicodeName? cs with
  | case1 rest => exact (readsWithin_upTo? (by decide) rest).cons rfl rfl
  | case2 c rest hc => exact .item (unicodeName?.eq_2 c rest hc) (unicodeName?.eq_2 c _ hc)
  | case3 => exact absurd rfl hcs

theorem unicodeNamed?_paren (negate fold : Bool) : unicodeNamed? negate fold [')'] = none := by
  have hnone : CharSet.unicode? (String.ofList [')']) = none := by decide +kernel
  simp [unicodeNamed?, hnone]

theorem readsWithin_unicodeClass? (negate fold : Bool) (cs : List Char) :
    ReadsWithin (unicodeClass? negate fold) cs := by
  cases cs with
  | nil =>
    refine .none_none rfl ?_
    rw [unicodeClass?_eq]
    simp [closing, unicodeName?, unicodeNamed?_paren]
  | cons c rest =>
    exact ((readsWithin_unicodeName? (List.cons_ne_nil c rest)).filterMap
      (unicodeNamed? negate fold)).of_eq
      (unicodeClass?_eq _ _ _) (unicodeClass?_eq _ _ _)

theorem readsWithin_split (name cs : List Char) : ReadsWithin (namedClass?.split name) cs := by
  fun_induction namedClass?.split name cs with
  | case1 name rest =>
    exact .some_some rfl rfl (LeftOf.of_suffix (List.suffix_refl rest)).cons
  | case2 name c rest h ih =>
    exact ih.cons (namedClass?.split.eq_2 name c rest h) (namedClass?.split.eq_2 name c _ fun r hc =>
      append_closing_ne_cons (fun rest' => h rest' hc) (by decide) r)
  | case3 name => exact .none_none rfl rfl

/-- The class of a name between colons, or its complement if the name starts with a caret. -/
def posixNamed? (fold : Bool) (name : List Char) : Option CharSet :=
  let (negate, name) := match name with
    | '^' :: name => (true, name)
    | name => (false, name)
  (CharSet.posix? (String.ofList name)).map fun s => (s.folded fold).negated negate

theorem readsWithin_namedClass? (fold : Bool) (cs : List Char) : ReadsWithin (namedClass? fold) cs :=
  ((readsWithin_split [] cs).map (posixNamed? fold)).of_eq rfl rfl

theorem innerClass?_append (fold : Bool) {cs : List Char} (hcs : cs ≠ []) :
    innerClass? fold (cs ++ closing) = (innerClass? fold cs).map fun e => e.map extend := by
  fun_cases innerClass? fold cs with
  | case1 rest s rest' h => simp [innerClass?, h, (readsWithin_namedClass? fold rest).append, extend]
  | case2 rest r h => simp [innerClass?, h, (readsWithin_namedClass? fold rest).append, extend]
  | case3 rest h => simp [innerClass?, h, (readsWithin_namedClass? fold rest).append]
  | case4 rest => exact congrArg some (readsWithin_unicodeClass? false fold rest).append
  | case5 rest => exact congrArg some (readsWithin_unicodeClass? true fold rest).append
  | case6 c rest hp hP =>
    rw [List.cons_append, List.cons_append, innerClass?.eq_4 fold c _ hp hP, Option.map_map]
    rfl
  | case7 _ hnamed hp hP hescape =>
    by_cases hslash : cs = ['\\']
    · subst hslash
      rfl
    · have hescaped : ∀ c rest, cs ++ closing = '\\' :: c :: rest → False := fun c rest heq => by
        obtain ⟨rest, rfl, -⟩ := exists_eq_cons_of_append_closing heq (by decide)
        cases rest with
        | nil => exact hslash rfl
        | cons d rest => exact hescape d rest rfl
      refine innerClass?.eq_5 fold _ (fun rest heq => ?_) (hescaped 'p') (hescaped 'P') hescaped
      obtain ⟨rest, rfl, hrest⟩ := exists_eq_cons_of_append_closing heq (by decide)
      obtain ⟨rest, rfl, -⟩ := exists_eq_cons_of_append_closing hrest.symm (by decide)
      exact hnamed rest rfl

theorem innerClass?_left {fold : Bool} {cs : List Char} {e : CharSet × List Char}
    (h : innerClass? fold cs = some (some e)) : LeftOf e.2 cs := by
  revert h
  fun_cases innerClass? fold cs with
  | case1 rest s rest' hnamed =>
    rintro ⟨⟩
    exact ((readsWithin_namedClass? fold rest).left _ hnamed).cons.cons
  | case2 rest r h => rintro ⟨⟩
  | case3 rest h => rintro ⟨⟩
  | case4 rest => exact fun h =>
    ((readsWithin_unicodeClass? false fold rest).left e (Option.some.inj h)).cons.cons
  | case5 rest => exact fun h =>
    ((readsWithin_unicodeClass? true fold rest).left e (Option.some.inj h)).cons.cons
  | case6 c rest hp hP =>
    intro h
    obtain ⟨s, -, heq⟩ := Option.map_eq_some_iff.mp h
    cases heq
    exact (LeftOf.of_suffix (List.suffix_refl rest)).cons
  | case7 => rintro ⟨⟩

/-! ## Items of a class -/

/-- What is left has no closing bracket, so that no class ends in it. -/
def Endless {α : Type} (o : Option (α × List Char)) : Prop := ∀ e ∈ o, ']' ∉ e.2

theorem classPoint?_left {cs : List Char} {e : Nat × List Char} (h : classPoint? cs = some e) :
    LeftOf e.2 cs := by
  revert h
  fun_cases classPoint? cs with
  | case1 => rintro ⟨⟩
  | case2 rest =>
    intro h
    have hrest : rest ≠ [] := by
      rintro rfl
      cases h
    exact ((readsWithin_escapePoint? hrest).left e h).cons
  | case3 c rest hc =>
    rintro ⟨⟩
    exact .of_suffix (List.suffix_refl rest)

theorem readsWithin_classPoint? {cs : List Char} (hcs : cs ≠ []) (hslash : cs ≠ ['\\']) :
    ReadsWithin classPoint? cs := by
  fun_cases classPoint? cs with
  | case1 => exact absurd rfl hcs
  | case2 rest => exact (readsWithin_escapePoint? fun h => hslash (h ▸ rfl)).cons rfl rfl
  | case3 c rest hc => exact .item (classPoint?.eq_3 c rest hc) (classPoint?.eq_3 c _ hc)

/-- A range, after its first point. -/
def rangeFrom? (fold : Bool) (lo : Nat) : List Char → Option (CharSet × List Char)
  | '-' :: c :: rest =>
    if c = ']' then some ((CharSet.point lo).folded fold, '-' :: c :: rest)
    else (classPoint? (c :: rest)).bind fun e =>
      if e.1 < lo then none else some ((CharSet.range lo e.1).folded fold, e.2)
  | rest => some ((CharSet.point lo).folded fold, rest)

theorem classRange?_eq (fold : Bool) (cs : List Char) :
    classRange? fold cs = (classPoint? cs).bind fun e => rangeFrom? fold e.1 e.2 := by
  unfold classRange?
  cases classPoint? cs with
  | none => rfl
  | some e =>
    obtain ⟨lo, rest⟩ := e
    simp only [Option.bind_eq_bind, Option.bind_some]
    split
    · rfl
    · rename_i h
      exact (rangeFrom?.eq_2 fold lo rest h).symm

theorem rangeFrom?_suffix {fold : Bool} {lo : Nat} {cs : List Char} {e : CharSet × List Char}
    (h : rangeFrom? fold lo cs = some e) : e.2 <:+ cs := by
  revert h
  fun_cases rangeFrom? fold lo cs with
  | case1 rest =>
    rintro ⟨⟩
    exact List.suffix_refl _
  | case2 c rest hc =>
    intro h
    obtain ⟨e', he', h⟩ := Option.bind_eq_some_iff.mp h
    split at h
    · cases h
    · cases h
      exact (classPoint?_left he').cons.suffix
  | case3 rest h =>
    rintro ⟨⟩
    exact List.suffix_refl _

theorem rangeFrom?_append (fold : Bool) (lo : Nat) {cs : List Char} (hdash : cs ≠ ['-'])
    (hslash : cs ≠ ['-', '\\']) :
    rangeFrom? fold lo (cs ++ closing) = (rangeFrom? fold lo cs).map extend := by
  fun_cases rangeFrom? fold lo cs with
  | case1 rest => rfl
  | case2 c rest hc =>
    have hpoint : ReadsWithin classPoint? (c :: rest) :=
      readsWithin_classPoint? (List.cons_ne_nil c rest) fun h => hslash (h ▸ rfl)
    rw [List.cons_append, List.cons_append, rangeFrom?, if_neg hc, ← List.cons_append, hpoint.append]
    cases classPoint? (c :: rest) with
    | none => rfl
    | some e =>
      simp only [Option.map_some, Option.bind_some, extend]
      split <;> rfl
  | case3 rest h =>
    refine rangeFrom?.eq_2 fold lo _ fun c r heq => ?_
    obtain ⟨r', rfl, hr⟩ := exists_eq_cons_of_append_closing heq (by decide)
    cases r' with
    | nil => exact hdash rfl
    | cons d r' => exact h d r' rfl

theorem classRange?_left {fold : Bool} {cs : List Char} {e : CharSet × List Char}
    (h : classRange? fold cs = some e) : LeftOf e.2 cs := by
  rw [classRange?_eq] at h
  obtain ⟨e', he', h⟩ := Option.bind_eq_some_iff.mp h
  have hleft := classPoint?_left he'
  have hsuffix := rangeFrom?_suffix h
  exact ⟨hsuffix.trans hleft.suffix, Nat.lt_of_le_of_lt hsuffix.length_le hleft.length_lt⟩

/-- **Ranges.** A range is read within the text, or no class ends after it. -/
theorem classRange?_append (fold : Bool) {cs : List Char} (hcs : cs ≠ []) :
    classRange? fold (cs ++ closing) = (classRange? fold cs).map extend ∨
      Endless (classRange? fold cs) ∧ Endless (classRange? fold (cs ++ closing)) := by
  by_cases hslash : cs = ['\\']
  · subst hslash
    exact .inr ⟨fun e he hmem => absurd ((classRange?_left he).suffix.subset hmem) (by decide),
      fun e he hmem => absurd ((classRange?_left he).suffix.subset hmem) (by decide)⟩
  have hpoint := readsWithin_classPoint? hcs hslash
  rw [classRange?_eq, classRange?_eq, hpoint.append]
  cases classPoint? cs with
  | none => exact .inl rfl
  | some e =>
    obtain ⟨lo, rest⟩ := e
    simp only [Option.map_some, Option.bind_some, extend]
    by_cases hend : rest = ['-'] ∨ rest = ['-', '\\']
    · have hout : ']' ∉ rest ∧ ']' ∉ rest ++ closing := by
        obtain rfl | rfl := hend <;> decide
      exact .inr ⟨fun e he hmem => hout.1 ((rangeFrom?_suffix he).subset hmem),
        fun e he hmem => hout.2 ((rangeFrom?_suffix he).subset hmem)⟩
    · exact .inl (rangeFrom?_append fold lo (fun h => hend (.inl h)) fun h => hend (.inr h))

theorem classItems?_eq_none (fold : Bool) (fuel : Nat) (first : Bool) (acc : CharSet) {cs : List Char}
    (h : ']' ∉ cs) : classItems? fold fuel first acc cs = none := by
  fun_induction classItems? fold fuel first acc cs with
  | case1 => rfl
  | case2 | case3 => exact absurd List.mem_cons_self h
  | case4 fuel first acc cs hcs s rest hinner ih =>
    exact ih fun hmem => h ((innerClass?_left hinner).suffix.subset hmem)
  | case5 => rfl
  | case6 fuel first acc cs hcs hinner ih =>
    refine Option.bind_eq_none_iff.mpr fun e he => ?_
    exact ih e.1 e.2 fun hmem => h ((classRange?_left he).suffix.subset hmem)

/-- The items of a class that starts with a character or a range. -/
def itemsFromRange? (fold : Bool) (fuel : Nat) (acc : CharSet) (cs : List Char) :
    Option (CharSet × List Char) :=
  (classRange? fold cs).bind fun e => classItems? fold fuel false (.union acc e.1) e.2

theorem itemsFromRange?_append {fold : Bool} {n m : Nat} {acc : CharSet} {cs : List Char}
    (hcs : cs ≠ [])
    (ih : ∀ s r, LeftOf r cs → classItems? fold m false (.union acc s) (r ++ closing) =
      (classItems? fold n false (.union acc s) r).map extend) :
    itemsFromRange? fold m acc (cs ++ closing) = (itemsFromRange? fold n acc cs).map extend := by
  unfold itemsFromRange?
  obtain heq | ⟨halone, hclosing⟩ := classRange?_append fold hcs
  · rw [heq]
    cases hrange : classRange? fold cs with
    | none => rfl
    | some e => exact ih e.1 e.2 (classRange?_left hrange)
  · have hnone : ∀ (k : Nat) {o : Option (CharSet × List Char)}, Endless o →
        (o.bind fun e => classItems? fold k false (.union acc e.1) e.2) = none := fun k o ho =>
      Option.bind_eq_none_iff.mpr fun e he => classItems?_eq_none fold k false _ (ho e he)
    rw [hnone m hclosing, hnone n halone]
    rfl

/-- **Items.** The items of a class are read within the text. -/
theorem classItems?_append (fold : Bool) {n m : Nat} (first : Bool) (acc : CharSet) (cs : List Char)
    (hn : cs.length < n) (hm : cs.length + 2 < m) :
    classItems? fold m first acc (cs ++ closing) = (classItems? fold n first acc cs).map extend := by
  obtain ⟨m, rfl⟩ : ∃ m', m = m' + 1 := ⟨m - 1, by omega⟩
  fun_induction classItems? fold n first acc cs generalizing m with
  | case1 => omega
  | case2 n acc rest ih =>
    refine itemsFromRange?_append (List.cons_ne_nil _ _) fun s r hr => ?_
    have := hr.length_lt
    obtain ⟨m, rfl⟩ : ∃ m', m = m' + 1 := ⟨m - 1, by omega⟩
    exact ih s r (by omega) m (by omega)
  | case3 n first acc rest h => simp [classItems?, h, extend]
  | case4 n first acc cs hcs s rest hinner ih =>
    have hne : cs ≠ [] := by
      rintro rfl
      cases hinner
    rw [classItems?.eq_3 _ _ _ _ _ (append_closing_ne_cons hcs (by decide)),
      innerClass?_append fold hne, hinner]
    have : rest.length < cs.length := (innerClass?_left hinner).length_lt
    obtain ⟨m, rfl⟩ : ∃ m', m = m' + 1 := ⟨m - 1, by omega⟩
    exact ih (by omega) m (by omega)
  | case5 n first acc cs hcs hinner =>
    have hne : cs ≠ [] := by
      rintro rfl
      cases hinner
    rw [classItems?.eq_3 _ _ _ _ _ (append_closing_ne_cons hcs (by decide)),
      innerClass?_append fold hne, hinner]
    rfl
  | case6 n first acc cs hcs hinner ih =>
    cases cs with
    | nil => exact classItems?_eq_none fold _ first acc (by decide)
    | cons c cs =>
      rw [classItems?.eq_3 _ _ _ _ _ (append_closing_ne_cons hcs (by decide)),
        innerClass?_append fold (List.cons_ne_nil c cs), hinner]
      refine itemsFromRange?_append (List.cons_ne_nil _ _) fun s r hr => ?_
      have := hr.length_lt
      obtain ⟨m, rfl⟩ : ∃ m', m = m' + 1 := ⟨m - 1, by omega⟩
      exact ih s r (by omega) m (by omega)

theorem classItems?_left {fold first : Bool} {n : Nat} {acc : CharSet} {cs : List Char}
    {e : CharSet × List Char} (h : classItems? fold n first acc cs = some e) : LeftOf e.2 cs := by
  revert h
  fun_induction classItems? fold n first acc cs with
  | case1 => rintro ⟨⟩
  | case2 n acc rest ih =>
    intro h
    obtain ⟨e', he', h⟩ := Option.bind_eq_some_iff.mp h
    exact (ih e'.1 e'.2 h).trans (classRange?_left he')
  | case3 n first acc rest h =>
    rintro ⟨⟩
    exact .of_suffix (List.suffix_refl rest)
  | case4 n first acc cs hcs s rest hinner ih => exact fun h => (ih h).trans (innerClass?_left hinner)
  | case5 => rintro ⟨⟩
  | case6 n first acc cs hcs hinner ih =>
    intro h
    obtain ⟨e', he', h⟩ := Option.bind_eq_some_iff.mp h
    exact (ih e'.1 e'.2 h).trans (classRange?_left he')

/-- A class in brackets, after the sign of its complement. -/
def classBody? (fold negate : Bool) (cs : List Char) : Option (CharSet × List Char) :=
  (classItems? fold (cs.length + 1) true .none cs).map fun e => (e.1.negated negate, e.2)

theorem bracketClass?_eq (fold : Bool) {cs : List Char} (h : ∀ rest, cs = '^' :: rest → False) :
    bracketClass? fold cs = classBody? fold false cs := by
  unfold bracketClass?
  split
  rename_i heq
  split at heq
  · exact (h _ rfl).elim
  · cases heq
    rfl

theorem readsWithin_classBody? (fold negate : Bool) (cs : List Char) :
    ReadsWithin (classBody? fold negate) cs := by
  refine ReadsWithin.map (f := fun cs => classItems? fold (cs.length + 1) true .none cs)
    ⟨?_, ?_⟩ (·.negated negate)
  · exact classItems?_append fold true .none cs (by omega) (by simp [closing])
  · exact fun e he => classItems?_left he

/-- **Classes.** A class in brackets is read within the text. -/
theorem readsWithin_bracketClass? (fold : Bool) (cs : List Char) :
    ReadsWithin (bracketClass? fold) cs := by
  by_cases h : ∃ rest, cs = '^' :: rest
  · obtain ⟨rest, rfl⟩ := h
    exact (readsWithin_classBody? fold true rest).cons rfl rfl
  · have hcaret : ∀ rest, cs = '^' :: rest → False := fun rest heq => h ⟨rest, heq⟩
    exact (readsWithin_classBody? fold false cs).of_eq (bracketClass?_eq fold hcaret)
      (bracketClass?_eq fold (append_closing_ne_cons hcaret (by decide)))

end FlagFlow.Regex
