import FlagFlow.Proofs.Scanning

/-!
# Reading in a group

The reader of an expression keeps the groups that are open. With one more group around, and with the
end of that group after the expression, it takes the same steps, unless the expression reaches
beyond itself: a parenthesis that closes no group of the expression closes the one around it, and a
quotation that does not end takes its end.

* `Reader.under`, `Reader.enclosed`: a reader, or what is read, with more groups around.
* `Reader.Inside`: what stands next stays inside the expression.
* `Reader.step?_agree`: a step in a group. What runs into the end of the group leaves a group open
  (`Reader.Spent`).
* `Reader.Follows`: what a step does to the open groups; `Reader.step?_follows`: every step does
  that.
* **`Reader.run?_enclosed`**: a run in a group.
* `Reader.Rooted`: the outermost group is the one that reading starts with.
-/

namespace FlagFlow.Regex

namespace Reader

/-! ## Readers with more groups around -/

/-- The reader with more groups around. -/
def under (gs : List Group) (p : Reader) : Reader := { p with around := p.around ++ gs }

/-- What is read with more groups around, and with `closing` after what is left. -/
def enclosed (gs : List Group) (e : Reader × List Char) : Reader × List Char :=
  (e.1.under gs, e.2 ++ closing)

variable {p : Reader} {gs : List Group} {c : Char} {cs rest : List Char}

@[simp] theorem under_nil (p : Reader) : p.under [] = p := by rw [under, List.append_nil]

@[simp] theorem under_group (gs : List Group) (p : Reader) : (p.under gs).group = p.group := rfl

@[simp] theorem under_around (gs : List Group) (p : Reader) :
    (p.under gs).around = p.around ++ gs := rfl

@[simp] theorem under_flags (gs : List Group) (p : Reader) : (p.under gs).flags = p.flags := rfl

@[simp] theorem under_repeated (gs : List Group) (p : Reader) :
    (p.under gs).repeated = p.repeated := rfl

@[simp] theorem under_literal (gs : List Group) (p : Reader) (n : Nat) :
    (p.under gs).literal n = (p.literal n).under gs := rfl

theorem close?_under (h : p.around ≠ []) : (p.under gs).close? = p.close?.map (under gs) := by
  obtain ⟨g, around, hp⟩ := List.exists_cons_of_ne_nil h
  simp only [close?, under, hp]
  rfl

/-! ### Repetitions -/

/-- Repeats `r`, which is the last item. -/
def repeatLast (p : Reader) (min : Nat) (max : Option Nat) (r : Regex) : Reader :=
  { p.count (.rep r min max) with
    group := { p.group with items := .rep r min max :: p.group.items.tail }
    repeated := true }

/-- What follows the question mark of a repetition operator, if there is one. -/
def afterLazy : List Char → List Char
  | '?' :: rest => rest
  | rest => rest

theorem afterLazy_append (cs : List Char) : afterLazy (cs ++ closing) = afterLazy cs ++ closing := by
  fun_cases afterLazy cs with
  | case1 rest => rfl
  | case2 rest h => exact afterLazy.eq_2 _ (append_closing_ne_cons h (by decide))

theorem afterLazy_suffix (cs : List Char) : afterLazy cs <:+ cs := by
  fun_cases afterLazy cs with
  | case1 rest => exact List.suffix_cons _ rest
  | case2 => exact List.suffix_refl cs

theorem repeat?_eq (p : Reader) (min : Nat) (max : Option Nat) (rest : List Char) :
    p.repeat? min max rest =
      if p.repeated then none
      else p.group.items.head?.map fun r => (p.repeatLast min max r, afterLazy rest) := by
  unfold repeat? repeatLast afterLazy
  cases p.group.items <;> rfl

/-- The bounds of a repetition are too large, or in the wrong order. -/
def badBounds (min : Nat) (max : Option Nat) : Bool :=
  min > maxCount || max.any fun m => m > maxCount || m < min

/-- The counts of the last item multiply beyond the limit. -/
def countsTooMuch (p : Reader) (min : Nat) (max : Option Nat) : Bool :=
  (min ≥ 2 || max.any (· ≥ 2)) && !(p.group.items.head?.all fun r => countsWithin r maxCount)

theorem repeatCounted?_eq (p : Reader) (min : Nat) (max : Option Nat) (rest : List Char) :
    p.repeatCounted? min max rest =
      if badBounds min max then none
      else (p.repeat? min max rest).bind fun e =>
      if e.1.countsTooMuch min max then none else some e := by
  unfold repeatCounted? badBounds
  split
  · rfl
  · cases p.repeat? min max rest <;> rfl

theorem repeat?_enclosed (p : Reader) (gs : List Group) (min : Nat) (max : Option Nat)
    (rest : List Char) :
    (p.under gs).repeat? min max (rest ++ closing) = (p.repeat? min max rest).map (enclosed gs) := by
  rw [repeat?_eq, repeat?_eq, afterLazy_append, under_repeated, under_group]
  split
  · rfl
  · rw [Option.map_map]
    rfl

theorem repeatCounted?_enclosed (p : Reader) (gs : List Group) (min : Nat) (max : Option Nat)
    (rest : List Char) :
    (p.under gs).repeatCounted? min max (rest ++ closing) =
    (p.repeatCounted? min max rest).map (enclosed gs) := by
  rw [repeatCounted?_eq, repeatCounted?_eq, repeat?_enclosed]
  split
  · rfl
  · cases p.repeat? min max rest with
    | none => rfl
    | some e =>
      have hcounts : (enclosed gs e).1.countsTooMuch min max = e.1.countsTooMuch min max := rfl
      rw [Option.map_some, Option.bind_some, Option.bind_some, hcounts]
      split <;> rfl

/-! ### Outcomes -/

/-- Whatever is read from now on, a group stays open. -/
def Spent (o : Option (Reader × List Char)) : Prop := ∀ e ∈ o, e.1.around ≠ [] ∧ e.2 <:+ ['$']

theorem spent_none : Spent none := fun e he => by cases he

/-- The outcome of a step is the same in a group, or no end of a group can be found either way. -/
def Agree (gs : List Group) (alone inGroup : Option (Reader × List Char)) : Prop :=
  inGroup = alone.map (enclosed gs) ∨ Spent alone ∧ Spent inGroup

/-! ### Groups -/

theorem flagGroup?_agree (hgs : gs ≠ []) (p : Reader) (flags : Flags) (clear sawFlag : Bool)
    (cs : List Char) :
    Agree gs (p.flagGroup? flags clear sawFlag cs)
      ((p.under gs).flagGroup? flags clear sawFlag (cs ++ closing)) := by
  fun_induction flagGroup? p flags clear sawFlag cs with
  | case1 flags clear sawFlag rest ih => exact ih
  | case2 flags clear sawFlag rest ih => exact ih
  | case3 flags clear sawFlag rest ih => exact ih
  | case4 flags clear sawFlag rest ih => exact ih
  | case5 flags sawFlag rest => exact .inl rfl
  | case6 flags clear sawFlag rest hclear ih =>
    simpa only [List.cons_append, flagGroup?, if_neg hclear] using ih
  | case7 flags clear sawFlag rest h =>
    left
    simp [flagGroup?, h]
  | case8 flags clear sawFlag rest h =>
    left
    simp only [List.cons_append, flagGroup?, h]
    rfl
  | case9 flags clear sawFlag rest h =>
    left
    simp [flagGroup?, h]
  | case10 flags clear sawFlag rest h =>
    left
    simp only [List.cons_append, flagGroup?, h]
    rfl
  | case11 cs flags clear sawFlag hi hm hs hU hdash hcolon hparen =>
    cases cs with
    | nil =>
      -- the flags run into the end of the group around them, and close nothing
      refine .inr ⟨spent_none, fun e he => ?_⟩
      have hflags : (p.under gs).flagGroup? flags clear sawFlag closing =
          if clear && !sawFlag then none
          else some ({ p.under gs with flags, repeated := false }, ['$']) := rfl
      rw [List.nil_append, hflags] at he
      split at he
      · cases he
      · cases he
        exact ⟨List.append_ne_nil_of_right_ne_nil _ hgs, List.suffix_refl _⟩
    | cons c cs =>
      refine .inl (flagGroup?.eq_8 _ _ _ _ _ (append_closing_ne_cons hi (by decide))
        (append_closing_ne_cons hm (by decide)) (append_closing_ne_cons hs (by decide))
        (append_closing_ne_cons hU (by decide)) (append_closing_ne_cons hdash (by decide))
        (append_closing_ne_cons hcolon (by decide)) fun rest heq => ?_)
      obtain ⟨rfl, -⟩ := List.cons.inj heq
      exact hparen cs rfl

/-- Opens a group that has a name, unless it is no name. -/
def openNamed? (p : Reader) (name : List Char) : Option Reader :=
  if name.isEmpty || !name.all (fun c => c = '_' || isAlphanumeric c) then none
  else some (p.openGroup true)

theorem namedGroup?_eq (p : Reader) (cs : List Char) :
    p.namedGroup? cs = (upTo? '>' cs).bind fun e => (p.openNamed? e.1).map (·, e.2) := by
  unfold namedGroup? upTo? openNamed?
  cases cs.dropWhile (· != '>') with
  | nil => rfl
  | cons d rest =>
    dsimp only [Option.bind_some]
    split <;> rfl

theorem openNamed?_under (p : Reader) (gs : List Group) (name : List Char) :
    (p.under gs).openNamed? name = (p.openNamed? name).map (under gs) := by
  unfold openNamed?
  split <;> rfl

theorem namedGroup?_enclosed (p : Reader) (gs : List Group) (cs : List Char) :
    (p.under gs).namedGroup? (cs ++ closing) = (p.namedGroup? cs).map (enclosed gs) := by
  rw [namedGroup?_eq, namedGroup?_eq, (readsWithin_upTo? (by decide) cs).append]
  cases upTo? '>' cs with
  | none => rfl
  | some e =>
    simp only [Option.map_some, Option.bind_some, extend, openNamed?_under, Option.map_map]
    rfl

theorem paren?_agree (hgs : gs ≠ []) (p : Reader) (cs : List Char) :
    Agree gs (p.paren? cs) ((p.under gs).paren? (cs ++ closing)) := by
  fun_cases paren? p cs with
  | case1 rest => exact .inl (namedGroup?_enclosed p gs rest)
  | case2 rest => exact .inl (namedGroup?_enclosed p gs rest)
  | case3 rest hP hname =>
    rw [List.cons_append, paren?.eq_3 _ _ _ (append_closing_ne_cons hname (by decide))]
    · exact flagGroup?_agree hgs p p.flags false false rest
    · intro r heq
      obtain ⟨rest, rfl, hr⟩ := exists_eq_cons_of_append_closing heq (by decide)
      obtain ⟨rest, rfl, -⟩ := exists_eq_cons_of_append_closing hr.symm (by decide)
      exact hP rest rfl
  | case4 _ hP hname hflags =>
    have hplain := append_closing_ne_cons hflags (by decide)
    exact .inl (paren?.eq_4 _ _ (fun r => hplain _) (fun r => hplain _) hplain)

/-- The groups that are open are the same. -/
structure SameGroups (p q : Reader) : Prop where
  around : q.around = p.around
  outer : q.group.outer = p.group.outer
  captures : q.group.captures = p.group.captures

/-! ### Escape sequences -/

theorem literalText_append_closing (p : Reader) {c : Char} {rest : List Char}
    (hend : ∀ r, c = '\\' → rest = 'E' :: r → False) :
    p.literalText (c :: rest ++ closing) = (p.literal c.toNat).literalText (rest ++ closing) :=
  literalText.eq_2 p c _ fun r hc => append_closing_ne_cons (fun r' => hend r' hc) (by decide) r

theorem infix_cons_iff_of_not_end {c : Char} {rest : List Char}
    (hend : ∀ r, c = '\\' → rest = 'E' :: r → False) :
    ['\\', 'E'] <:+: c :: rest ↔ ['\\', 'E'] <:+: rest := by
  rw [List.infix_cons_iff, or_iff_right]
  intro hstart
  obtain ⟨rfl, r, hr⟩ := List.cons_prefix_cons.mp hstart
  exact hend r rfl hr.symm

theorem literalText_enclosed (h : ['\\', 'E'] <:+: cs) (p : Reader) :
    (p.under gs).literalText (cs ++ closing) = enclosed gs (p.literalText cs) := by
  fun_induction literalText p cs with
  | case1 p rest => rfl
  | case2 p c rest hend ih =>
    rw [literalText_append_closing _ hend, under_literal]
    exact ih ((infix_cons_iff_of_not_end hend).mp h)
  | case3 p => cases List.infix_nil.mp h

theorem literalText_of_unended (h : ¬ ['\\', 'E'] <:+: cs) (p : Reader) :
    (p.literalText cs).2 = [] ∧ (p.literalText (cs ++ closing)).2 = [] := by
  fun_induction literalText p cs with
  | case1 p rest => exact absurd ((List.prefix_append ['\\', 'E'] rest).isInfix) h
  | case2 p c rest hend ih =>
    rw [literalText_append_closing _ hend]
    exact ih fun hrest => h ((infix_cons_iff_of_not_end hend).mpr hrest)
  | case3 p => exact ⟨rfl, rfl⟩

theorem literalText_sameGroups (p : Reader) (cs : List Char) :
    p.SameGroups (p.literalText cs).1 ∧ (p.literalText cs).2 <:+ cs := by
  fun_induction literalText p cs with
  | case1 p rest => exact ⟨⟨rfl, rfl, rfl⟩, List.suffix_append ['\\', 'E'] rest⟩
  | case2 p c rest hend ih =>
    exact ⟨⟨ih.1.around, ih.1.outer, ih.1.captures⟩, ih.2.trans (List.suffix_cons c rest)⟩
  | case3 p => exact ⟨⟨rfl, rfl, rfl⟩, List.suffix_refl _⟩

theorem literalText_agree (hgs : gs ≠ []) (h : p.around ≠ [] ∨ ['\\', 'E'] <:+: cs) :
    Agree gs (some (p.literalText cs)) (some ((p.under gs).literalText (cs ++ closing))) := by
  by_cases hend : ['\\', 'E'] <:+: cs
  · exact .inl (congrArg some (literalText_enclosed hend p))
  · refine .inr ⟨fun e he => ?_, fun e he => ?_⟩
    · rw [← Option.some.inj he, (literalText_sameGroups p cs).1.around,
        (literalText_of_unended hend p).1]
      exact ⟨h.resolve_right hend, List.nil_suffix⟩
    · rw [← Option.some.inj he, (literalText_sameGroups _ _).1.around,
        (literalText_of_unended hend _).2]
      exact ⟨List.append_ne_nil_of_right_ne_nil _ hgs, List.nil_suffix⟩

/-- What stands next stays inside the expression. A parenthesis closes a group that the expression
opens; otherwise neither a group nor an escape sequence follows it. A quotation ends; otherwise it
stands in a group. -/
def Inside (p : Reader) (cs : List Char) : Prop :=
  ([')'] <+: cs → p.around ≠ [] ∨ '(' ∉ cs ∧ '\\' ∉ cs) ∧
    (['\\', 'Q'] <+: cs → p.around ≠ [] ∨ ['\\', 'E'] <:+: cs)

instance (p : Reader) (cs : List Char) : Decidable (p.Inside cs) := inferInstanceAs (Decidable (_ ∧ _))

theorem map_enclosed {α : Type} {f : List Char → Option (α × List Char)} (hf : ReadsWithin f cs)
    (k : Reader → α → Reader) (hk : ∀ a, k (p.under gs) a = (k p a).under gs) :
    ((f (cs ++ closing)).map fun e => (k (p.under gs) e.1, e.2)) =
      ((f cs).map fun e => (k p e.1, e.2)).map (enclosed gs) := by
  rw [hf.append, Option.map_map, Option.map_map]
  refine congrArg (Option.map · (f cs)) (funext fun e => ?_)
  exact Prod.ext (hk e.1) rfl

theorem class_enclosed {f : List Char → Option (CharSet × List Char)} (hf : ReadsWithin f cs) :
    ((f (cs ++ closing)).map fun e => ((p.under gs).push (.one e.1), e.2)) =
      ((f cs).map fun e => (p.push (.one e.1), e.2)).map (enclosed gs) :=
  map_enclosed hf (fun p s => p.push (.one s)) fun _ => rfl

theorem escape?_cons (p : Reader) (hc : c ∉ ['A', 'b', 'B', 'C', 'Q', 'z', 'p', 'P'])
    (rest : List Char) :
    p.escape? (c :: rest) =
      ((perlClass? c p.flags.fold).map fun s => (p.push (.one s), rest)).or
        ((escapePoint? (c :: rest)).map fun e => (p.literal e.1, e.2)) := by
  have hne : ∀ d ∈ ['A', 'b', 'B', 'C', 'Q', 'z', 'p', 'P'], ∀ r, c :: rest = d :: r → False :=
    fun d hd r heq => hc ((List.cons.inj heq).1 ▸ hd)
  rw [escape?.eq_9 p c rest (hne 'A' (by decide)) (hne 'b' (by decide)) (hne 'B' (by decide))
    (hne 'C' (by decide))
    (hne 'Q' (by decide)) (hne 'z' (by decide)) (hne 'p' (by decide)) (hne 'P' (by decide))]
  cases perlClass? c p.flags.fold <;> rfl

theorem escape?_agree (hgs : gs ≠ []) (p : Reader) (h : p.Inside ('\\' :: cs)) :
    Agree gs (p.escape? cs) ((p.under gs).escape? (cs ++ closing)) := by
  cases cs with
  | nil =>
    refine .inr ⟨spent_none, fun e he => ?_⟩
    have hparen : (p.under gs).escape? closing = some ((p.under gs).literal 0x29, ['$']) := rfl
    rw [List.nil_append, hparen] at he
    cases he
    exact ⟨List.append_ne_nil_of_right_ne_nil _ hgs, List.suffix_refl _⟩
  | cons c rest =>
    by_cases hc : c ∈ ['A', 'b', 'B', 'C', 'Q', 'z', 'p', 'P']
    · simp only [List.mem_cons, List.not_mem_nil, or_false] at hc
      obtain rfl | rfl | rfl | rfl | rfl | rfl | rfl | rfl := hc
      · exact .inl rfl
      · exact .inl rfl
      · exact .inl rfl
      · exact .inl rfl
      · refine literalText_agree hgs ((h.2 (List.prefix_append ['\\', 'Q'] rest)).imp_right
          fun hend => ?_)
        rwa [infix_cons_iff_of_not_end (by simp), infix_cons_iff_of_not_end (by simp)] at hend
      · exact .inl rfl
      · exact .inl (class_enclosed (readsWithin_unicodeClass? false p.flags.fold rest))
      · exact .inl (class_enclosed (readsWithin_unicodeClass? true p.flags.fold rest))
    · left
      rw [List.cons_append, escape?_cons _ hc, escape?_cons _ hc, under_flags]
      cases perlClass? c p.flags.fold with
      | some s => rfl
      | none =>
        exact map_enclosed (readsWithin_escapePoint? (List.cons_ne_nil c rest)) literal fun _ => rfl

/-! ### Steps -/

theorem step?_enclosed_of_plain (p : Reader) (gs : List Group) (hc : c ∉ ['(', ')', '\\'])
    (rest : List Char) :
    (p.under gs).step? c (rest ++ closing) = (p.step? c rest).map (enclosed gs) := by
  fun_cases step? p c rest with
  | case1 | case2 | case13 => exact absurd (by decide) hc
  | case3 | case4 | case5 | case6 => rfl
  | case7 => exact class_enclosed (readsWithin_bracketClass? p.flags.fold rest)
  | case8 => exact repeat?_enclosed p gs 0 none rest
  | case9 => exact repeat?_enclosed p gs 1 none rest
  | case10 => exact repeat?_enclosed p gs 0 (some 1) rest
  | case11 min max rest' hbounds =>
    have hbounds' := (readsWithin_bounds? rest).append
    rw [hbounds] at hbounds'
    rw [step?, hbounds']
    exact repeatCounted?_enclosed p gs min max rest'
  | case12 hbounds =>
    have hbounds' := (readsWithin_bounds? rest).append
    rw [hbounds] at hbounds'
    rw [step?, hbounds']
    rfl
  | case14 rest h1 h2 h3 h4 h5 h6 h7 h8 h9 h10 h11 h12 =>
    exact step?.eq_13 _ _ _ h1 h2 h3 h4 h5 h6 h7 h8 h9 h10 h11 h12

theorem step?_agree (hgs : gs ≠ []) (p : Reader) (h : p.Inside (c :: rest))
    (hclose : c = ')' → p.around ≠ []) :
    Agree gs (p.step? c rest) ((p.under gs).step? c (rest ++ closing)) := by
  by_cases hc : c ∈ ['(', ')', '\\']
  · simp only [List.mem_cons, List.not_mem_nil, or_false] at hc
    obtain rfl | rfl | rfl := hc
    · exact paren?_agree hgs p rest
    · left
      simp only [step?, close?_under (hclose rfl), Option.map_map]
      rfl
    · exact escape?_agree hgs p h
  · exact .inl (step?_enclosed_of_plain p gs hc rest)

/-! ## What a step does to the open groups -/

/-- What reading a construct that starts with `c` can do to the groups that are open. -/
inductive Follows (p : Reader) (c : Char) (q : Reader) : Prop where
  | stays (h : p.SameGroups q)
  | opens (hc : c = '(') (h : q.around = p.group :: p.around)
  | closes (hc : c = ')') (g : Group) (h : p.around = g :: q.around) (outer : q.group.outer = g.outer)
      (captures : q.group.captures = g.captures)

theorem repeat?_sameGroups {min : Nat} {max : Option Nat} {e : Reader × List Char}
    (h : p.repeat? min max rest = some e) : p.SameGroups e.1 ∧ e.2 <:+ rest := by
  rw [repeat?_eq] at h
  split at h
  · cases h
  · obtain ⟨r, -, rfl⟩ := Option.map_eq_some_iff.mp h
    exact ⟨⟨rfl, rfl, rfl⟩, afterLazy_suffix rest⟩

theorem repeatCounted?_sameGroups {min : Nat} {max : Option Nat} {e : Reader × List Char}
    (h : p.repeatCounted? min max rest = some e) : p.SameGroups e.1 ∧ e.2 <:+ rest := by
  rw [repeatCounted?_eq] at h
  split at h
  · cases h
  · obtain ⟨e', he', h⟩ := Option.bind_eq_some_iff.mp h
    split at h
    · cases h
    · cases h
      exact repeat?_sameGroups he'

theorem flagGroup?_follows {flags : Flags} {clear sawFlag : Bool} {e : Reader × List Char}
    (h : p.flagGroup? flags clear sawFlag cs = some e) : p.Follows '(' e.1 ∧ e.2 <:+ cs := by
  revert h
  fun_induction flagGroup? p flags clear sawFlag cs with
  | case1 _ _ _ rest ih | case2 _ _ _ rest ih | case3 _ _ _ rest ih | case4 _ _ _ rest ih =>
    exact fun h => ⟨(ih h).1, (ih h).2.trans (List.suffix_cons _ rest)⟩
  | case6 _ _ _ rest _ ih => exact fun h => ⟨(ih h).1, (ih h).2.trans (List.suffix_cons _ rest)⟩
  | case5 | case7 | case9 | case11 => rintro ⟨⟩
  | case8 flags clear sawFlag rest =>
    rintro ⟨⟩
    exact ⟨.opens rfl rfl, List.suffix_cons _ rest⟩
  | case10 flags clear sawFlag rest =>
    rintro ⟨⟩
    exact ⟨.stays ⟨rfl, rfl, rfl⟩, List.suffix_cons _ rest⟩

theorem namedGroup?_follows {e : Reader × List Char} (h : p.namedGroup? cs = some e) :
    p.Follows '(' e.1 ∧ e.2 <:+ cs := by
  rw [namedGroup?_eq] at h
  obtain ⟨e', he', h⟩ := Option.bind_eq_some_iff.mp h
  obtain ⟨q, hq, rfl⟩ := Option.map_eq_some_iff.mp h
  refine ⟨.opens rfl ?_, ((readsWithin_upTo? (by decide) cs).left e' he').suffix⟩
  unfold openNamed? at hq
  split at hq
  · cases hq
  · cases hq
    rfl

theorem paren?_follows {e : Reader × List Char} (h : p.paren? cs = some e) :
    p.Follows '(' e.1 ∧ e.2 <:+ cs := by
  revert h
  fun_cases paren? p cs with
  | case1 rest =>
    intro h
    obtain ⟨hfollows, hsuffix⟩ := namedGroup?_follows h
    exact ⟨hfollows, hsuffix.trans (List.suffix_append ['?', 'P', '<'] rest)⟩
  | case2 rest =>
    intro h
    obtain ⟨hfollows, hsuffix⟩ := namedGroup?_follows h
    exact ⟨hfollows, hsuffix.trans (List.suffix_append ['?', '<'] rest)⟩
  | case3 rest =>
    intro h
    obtain ⟨hfollows, hsuffix⟩ := flagGroup?_follows h
    exact ⟨hfollows, hsuffix.trans (List.suffix_cons _ rest)⟩
  | case4 =>
    rintro ⟨⟩
    exact ⟨.opens rfl rfl, List.suffix_refl _⟩

theorem map_sameGroups {α : Type} {f : List Char → Option (α × List Char)} (hf : ReadsWithin f cs)
    {k : α → Reader} (hk : ∀ a, p.SameGroups (k a)) {e : Reader × List Char}
    (h : ((f cs).map fun e => (k e.1, e.2)) = some e) : p.SameGroups e.1 ∧ e.2 <:+ cs := by
  obtain ⟨e', he', rfl⟩ := Option.map_eq_some_iff.mp h
  exact ⟨hk e'.1, (hf.left e' he').suffix⟩

theorem class_sameGroups {f : List Char → Option (CharSet × List Char)} (hf : ReadsWithin f cs)
    {e : Reader × List Char} (h : ((f cs).map fun e => (p.push (.one e.1), e.2)) = some e) :
    p.SameGroups e.1 ∧ e.2 <:+ cs :=
  map_sameGroups (k := fun s => p.push (.one s)) hf (fun _ => ⟨rfl, rfl, rfl⟩) h

theorem escape?_sameGroups {e : Reader × List Char} (h : p.escape? cs = some e) :
    p.SameGroups e.1 ∧ e.2 <:+ cs := by
  revert h
  fun_cases escape? p cs with
  | case1 rest | case2 rest | case3 rest | case6 rest =>
    rintro ⟨⟩
    exact ⟨⟨rfl, rfl, rfl⟩, List.suffix_cons _ rest⟩
  | case4 | case11 => rintro ⟨⟩
  | case5 rest =>
    rintro ⟨⟩
    have hquoted := literalText_sameGroups p rest
    exact ⟨hquoted.1, hquoted.2.trans (List.suffix_cons _ rest)⟩
  | case7 rest =>
    intro h
    have hclass := class_sameGroups (readsWithin_unicodeClass? false p.flags.fold rest) h
    exact ⟨hclass.1, hclass.2.trans (List.suffix_cons _ rest)⟩
  | case8 rest =>
    intro h
    have hclass := class_sameGroups (readsWithin_unicodeClass? true p.flags.fold rest) h
    exact ⟨hclass.1, hclass.2.trans (List.suffix_cons _ rest)⟩
  | case9 c rest =>
    rintro ⟨⟩
    exact ⟨⟨rfl, rfl, rfl⟩, List.suffix_cons _ rest⟩
  | case10 c rest =>
    exact map_sameGroups (k := p.literal) (readsWithin_escapePoint? (List.cons_ne_nil c rest))
      fun _ => ⟨rfl, rfl, rfl⟩

theorem step?_follows {e : Reader × List Char} (h : p.step? c rest = some e) :
    p.Follows c e.1 ∧ e.2 <:+ rest := by
  revert h
  fun_cases step? p c rest with
  | case1 => exact paren?_follows
  | case2 =>
    intro h
    obtain ⟨q, hq, rfl⟩ := Option.map_eq_some_iff.mp h
    refine ⟨?_, List.suffix_refl rest⟩
    unfold close? at hq
    split at hq
    · cases hq
    · rename_i g around hp
      cases hq
      exact .closes rfl g hp rfl rfl
  | case3 | case4 | case5 | case6 | case12 | case14 =>
    rintro ⟨⟩
    exact ⟨.stays ⟨rfl, rfl, rfl⟩, List.suffix_refl _⟩
  | case7 =>
    intro h
    have hclass := class_sameGroups (readsWithin_bracketClass? p.flags.fold rest) h
    exact ⟨.stays hclass.1, hclass.2⟩
  | case8 | case9 | case10 => exact fun h =>
    ⟨.stays (repeat?_sameGroups h).1, (repeat?_sameGroups h).2⟩
  | case11 min max rest' hbounds =>
    intro h
    have hcounted := repeatCounted?_sameGroups h
    exact ⟨.stays hcounted.1, hcounted.2.trans ((readsWithin_bounds? rest).left _ hbounds).suffix⟩
  | case13 => exact fun h => ⟨.stays (escape?_sameGroups h).1, (escape?_sameGroups h).2⟩

/-! ## Runs -/

/-- The readers on the way through an expression, each with what is still to be read. -/
def trace : Nat → Reader → List Char → List (Reader × List Char)
  | 0, p, cs => [(p, cs)]
  | _ + 1, p, [] => [(p, [])]
  | n + 1, p, c :: rest => (p, c :: rest) :: (p.step? c rest).elim [] fun e => trace n e.1 e.2

/-- A group stays open at the end. -/
def Rejected (o : Option Reader) : Prop := ∀ q ∈ o, q.around ≠ []

theorem rejected_none : Rejected none := fun q hq => by cases hq

theorem Spent.rejected {o : Option (Reader × List Char)} (h : Spent o) (n : Nat) :
    Rejected (o.bind fun e => run? n e.1 e.2) := by
  intro q hq
  obtain ⟨e, he, hq⟩ := Option.bind_eq_some_iff.mp hq
  obtain ⟨haround, hrest⟩ := h e he
  obtain hrest | hrest := List.suffix_cons_iff.mp hrest
  · rw [hrest] at hq
    cases n with
    | zero => cases hq
    | succ n =>
      cases n <;> cases hq <;> exact haround
  · rw [List.suffix_nil.mp hrest] at hq
    cases n <;> cases hq <;> exact haround

theorem run?_cons (n : Nat) (p : Reader) (c : Char) (rest : List Char) :
    run? (n + 1) p (c :: rest) = (p.step? c rest).bind fun e => run? n e.1 e.2 := rfl

theorem run?_eq_none (n : Nat) (hp : p.around = []) (hopen : '(' ∉ cs) (hescape : '\\' ∉ cs) :
    run? n p (cs ++ closing) = none := by
  induction n generalizing p cs with
  | zero => cases cs <;> rfl
  | succ n ih =>
    cases cs with
    | nil =>
      rw [List.nil_append, closing, run?_cons]
      simp [step?, close?, hp]
    | cons c rest =>
      rw [List.cons_append, run?_cons]
      by_cases hc : c = ')'
      · simp [hc, step?, close?, hp]
      · have hplain : c ∉ ['(', ')', '\\'] := by
          simp only [List.mem_cons, not_or] at hopen hescape ⊢
          exact ⟨Ne.symm hopen.1, hc, Ne.symm hescape.1, List.not_mem_nil⟩
        have hstep : p.step? c (rest ++ closing) = (p.step? c rest).map (enclosed []) := by
          rw [← step?_enclosed_of_plain p [] hplain rest, under_nil]
        rw [hstep]
        cases he : p.step? c rest with
        | none => rfl
        | some e =>
          obtain ⟨hfollows, hsuffix⟩ := step?_follows he
          have haround : (enclosed [] e).1.around = [] := by
            rw [enclosed, under_nil]
            cases hfollows with
            | stays h => exact h.around.trans hp
            | opens hc' => exact absurd (hc' ▸ List.mem_cons_self) hopen
            | closes hc' => exact absurd hc' hc
          exact ih haround (fun hmem => hopen (List.mem_cons_of_mem c (hsuffix.subset hmem)))
            fun hmem => hescape (List.mem_cons_of_mem c (hsuffix.subset hmem))

/-- **A run in a group** reads an expression that stays inside as it is read alone. -/
theorem run?_enclosed {g : Group} {n m : Nat} (hn : cs.length ≤ n) (hm : n + 2 ≤ m)
    (h : ∀ e ∈ trace n p cs, e.1.Inside e.2) :
    (∃ q k, run? n p cs = some q ∧
      run? m (p.under [g]) (cs ++ closing) = run? (k + 2) (q.under [g]) closing) ∨
      Rejected (run? n p cs) ∧ Rejected (run? m (p.under [g]) (cs ++ closing)) := by
  induction n generalizing m p cs with
  | zero =>
    obtain rfl := List.length_eq_zero_iff.mp (Nat.le_zero.mp hn)
    obtain ⟨k, rfl⟩ : ∃ k, m = k + 2 := ⟨m - 2, by omega⟩
    exact .inl ⟨p, k, rfl, rfl⟩
  | succ n ih =>
    cases cs with
    | nil =>
      obtain ⟨k, rfl⟩ : ∃ k, m = k + 2 := ⟨m - 2, by omega⟩
      exact .inl ⟨p, k, rfl, rfl⟩
    | cons c rest =>
      obtain ⟨m, rfl⟩ : ∃ m', m = m' + 1 := ⟨m - 1, by omega⟩
      have hinside : p.Inside (c :: rest) := h (p, c :: rest) List.mem_cons_self
      rw [List.cons_append, run?_cons, run?_cons]
      by_cases hstray : c = ')' ∧ p.around = []
      · -- the parenthesis closes the group around the expression, and nothing after it opens another
        obtain ⟨rfl, hp⟩ := hstray
        obtain ⟨hopen, hescape⟩ :=
          (hinside.1 (List.prefix_append [')'] rest)).resolve_left fun hne => hne hp
        have halone : p.step? ')' rest = none := by simp [step?, close?, hp]
        have hgroup : ((p.under [g]).step? ')' (rest ++ closing)).bind (fun e => run? m e.1 e.2) =
            none := by
          simp only [step?, close?, under_around, hp, List.nil_append, Option.map_some,
            Option.bind_some]
          exact run?_eq_none m rfl (fun hmem => hopen (List.mem_cons_of_mem _ hmem))
            fun hmem => hescape (List.mem_cons_of_mem _ hmem)
        rw [halone, hgroup]
        exact .inr ⟨rejected_none, rejected_none⟩
      · have hclose : c = ')' → p.around ≠ [] := fun hc hp => hstray ⟨hc, hp⟩
        obtain heq | ⟨halone, hgroup⟩ := step?_agree (List.cons_ne_nil g []) p hinside hclose
        · rw [heq]
          cases he : p.step? c rest with
          | none => exact .inr ⟨rejected_none, rejected_none⟩
          | some e =>
            have hlength := (step?_follows he).2.length_le
            have htrace : ∀ e' ∈ trace n e.1 e.2, e'.1.Inside e'.2 := fun e' he' => by
              refine h e' (List.mem_cons_of_mem _ ?_)
              rw [he]
              exact he'
            exact ih (by simp at hn; omega) (by omega) htrace
        · exact .inr ⟨halone.rejected n, hgroup.rejected m⟩

/-! ## The outermost group -/

/-- What happens at the ends of the open groups, from the inside out: the flags that hold again
after a group, and whether it remembers. -/
def ends (p : Reader) : List (Flags × Bool) := (p.group :: p.around).map fun g => (g.outer, g.captures)

/-- The outermost group is not in parentheses: no flag holds again after it, and it does not
remember. -/
def Rooted (p : Reader) : Prop := p.ends.getLast? = some ({}, false)

theorem Follows.rooted {q : Reader} (h : p.Follows c q) (hp : p.Rooted) : q.Rooted := by
  rw [Rooted] at hp ⊢
  cases h with
  | stays h =>
    have hends : q.ends = p.ends := by simp only [ends, List.map_cons, h.around, h.outer, h.captures]
    rw [hends, hp]
  | opens hc h =>
    have hends : q.ends = (q.group.outer, q.group.captures) :: p.ends := by
      simp only [ends, List.map_cons, h]
    rw [hends, ← hp]
    exact List.getLast?_cons_cons
  | closes hc g h houter hcaptures =>
    have hends : p.ends = (p.group.outer, p.group.captures) :: q.ends := by
      simp only [ends, List.map_cons, h, houter, hcaptures]
    rw [← hp, hends]
    exact List.getLast?_cons_cons.symm

theorem rooted_of_run? {n : Nat} {q : Reader} (hp : p.Rooted) (h : run? n p cs = some q) :
    q.Rooted := by
  induction n generalizing p cs with
  | zero =>
    cases cs with
    | nil => exact Option.some.inj h ▸ hp
    | cons c rest => cases h
  | succ n ih =>
    cases cs with
    | nil => exact Option.some.inj h ▸ hp
    | cons c rest =>
      obtain ⟨e, he, h⟩ := Option.bind_eq_some_iff.mp h
      exact ih ((step?_follows he).1.rooted hp) h

theorem Rooted.eq_of_around (hp : p.Rooted) (h : p.around = []) :
    p.group.outer = {} ∧ p.group.captures = false := by
  rw [Rooted, ends, h] at hp
  exact Prod.mk.inj (Option.some.inj hp)

end Reader

end FlagFlow.Regex
