import FlagFlow.Proofs.Positions
import Mathlib.Data.Prod.Lex
import Mathlib.Order.Lattice

/-!
# Trees and texts

A tree that is read from a text is a form of this text: nothing of the text is lost, and the braces
of the tree are where the text has them. In particular the blocks of the tree come in the order of
their opening braces.

* `Verbatim`, `content`: comments that are printed as they were read.
* **`Tree.print_ofText`**: printing gives back the text that was read.
* **`Tree.located_read`**: the braces of a tree that was read are where they were found.
* `Tree.arms`: the blocks of the conditional statements, in the order of the source.
* `Tree.placed_located`, **`Tree.placed_ofText`**: their opening braces are in this order, too.
-/

namespace FlagFlow

/-! ## Spots in a text -/

namespace Spot

theorem before_iff_toLex {a b : Spot} : Spot.before a b = true ↔ toLex a < toLex b := by
  rw [before_iff, Prod.Lex.toLex_lt_toLex]

theorem toLex_lt_next (s : Spot) (c : Char) : toLex s < toLex (s.next c) := by
  rw [← before_iff_toLex, before_iff, next]
  have := c.utf8Size_pos
  split
  · exact .inl (Nat.lt_succ_self s.1)
  · exact .inr ⟨rfl, by omega⟩

theorem toLex_le_after (s : Spot) (text : String) : toLex s ≤ toLex (s.after text) := by
  unfold after
  induction text.toList generalizing s with
  | nil => exact le_refl _
  | cons c cs ih => exact (toLex_lt_next s c).le.trans (ih (s.next c))

@[simp] theorem after_append (s : Spot) (a b : String) : s.after (a ++ b) = (s.after a).after b := by
  simp [after]

@[simp] theorem after_ofList (s : Spot) (cs : List Char) :
    s.after (String.ofList cs) = cs.foldl Spot.next s := by
  simp [after]

@[simp] theorem after_empty (s : Spot) : s.after "" = s := rfl

@[simp] theorem after_closing (s : Spot) : s.after "\x7d" = s.next '\x7d' := by
  simp [after]

end Spot

namespace Source

/-! ## Comments that are read -/

/-- The blanks before all comments are known. -/
def Verbatim (cs : List Note) : Prop := ∀ c ∈ cs, c.blanks.isSome = true

/-- The characters of comments and of the blanks before them. -/
def content (cs : List Note) : List Char :=
  cs.flatMap fun c => (c.blanks.getD "").toList ++ c.text.toList

theorem Verbatim.print {cs : List Note} (h : Verbatim cs) (indent : String)
    (alone afterLine : Bool) : printNotes indent alone afterLine cs = String.ofList (content cs) := by
  induction cs generalizing afterLine with
  | nil => rfl
  | cons c cs ih =>
    obtain ⟨hc, hcs⟩ := List.forall_mem_cons.mp h
    obtain ⟨blanks, hblanks⟩ := Option.isSome_iff_exists.mp hc
    rw [printNotes, ih hcs, hblanks, ← String.toList_inj]
    simp [content, hblanks]

theorem Verbatim.opens {b : Braces} (h : Verbatim b.notes) (alone : Bool) (inside : String) :
    b.opens alone inside = String.ofList ('\x7b' :: content b.notes) := by
  have hlast : b.notes.getLast?.any (·.blanks.isNone) = false := by
    rw [Option.any_eq_false]
    intro c hc
    simpa using h c (List.mem_of_getLast? hc)
  rw [Braces.opens, hlast, h.print, ← String.toList_inj]
  simp

theorem toLex_lt_after_opens (s : Spot) (b : Braces) (alone : Bool) (inside : String) :
    toLex s < toLex (s.after (b.opens alone inside)) := by
  have hbrace : s.after "\x7b" = s.next '\x7b' := by simp [Spot.after]
  simp only [Braces.opens, Spot.after_append, hbrace]
  exact (s.toLex_lt_next _).trans_le ((Spot.toLex_le_after _ _).trans (Spot.toLex_le_after _ _))

/-- What of a text has been read but not returned yet. -/
def Lead.pending (gap read : List Char) : Lead → List Char
  | .blanks => gap.reverse
  | .lineComment | .blockComment => gap.reverse ++ read.reverse

theorem Lead.pending_of_ne {state : Lead} (h : state ≠ .blanks) (gap read : List Char) :
    state.pending gap read = gap.reverse ++ read.reverse := by
  cases state <;> first | rfl | exact absurd rfl h

/-- **No comment is lost** before a statement, nor anything of what follows. -/
theorem content_leading (state : Lead) (gap read cs : List Char) :
    content (leading state gap read cs).1 ++ (leading state gap read cs).2 =
      state.pending gap read ++ cs := by
  fun_induction leading state gap read cs with
  | case8 state gap read c cs _ _ hstate _ _ ih =>
    rw [ih, Lead.pending_of_ne hstate, Lead.pending_of_ne hstate]
    simp
  | case9 state gap read hstate => simp [content, Lead.pending_of_ne hstate]
  | _ => simp_all [content, Lead.pending]

theorem verbatim_leading (state : Lead) (gap read cs : List Char) :
    Verbatim (leading state gap read cs).1 := by
  fun_induction leading state gap read cs <;> simp_all [Verbatim]

theorem verbatim_readNotes (inside : List Char) : Verbatim (readNotes inside).1 := by
  have h := verbatim_leading .blanks [] [] inside
  unfold readNotes
  dsimp only
  split
  · exact h
  · exact fun c hc => h c (List.takeWhile_subset _ hc)

theorem content_readNotes (inside : List Char) :
    content (readNotes inside).1 ++ (readNotes inside).2 = inside := by
  have h := content_leading .blanks [] [] inside
  have hverbatim := verbatim_leading .blanks [] [] inside
  unfold readNotes
  dsimp only
  split
  · exact h
  · -- the comments on the lines below go back before the text
    rw [Verbatim.print fun c hc => hverbatim c (List.dropWhile_subset _ hc), String.toList_ofList,
      ← List.append_assoc, content, content, ← List.flatMap_append, List.takeWhile_append_dropWhile]
    exact h

/-! ## Blocks that are read -/

/-- What is known of a block that was read, with the text behind its comments. -/
structure Braces.Read (span : BlockSpan) (inside : List Char) (b : Braces) (rest : List Char) :
    Prop where
  span_eq : b.span = span
  verbatim : Verbatim b.notes
  content_append : content b.notes ++ rest = inside

namespace Braces.Read

variable {span : BlockSpan} {inside rest : List Char} {b : Braces}

theorem of_readBraces (h : readBraces span inside = (b, rest)) : b.Read span inside rest := by
  obtain ⟨rfl, rfl⟩ := Prod.mk.inj h
  exact ⟨rfl, verbatim_readNotes inside, content_readNotes inside⟩

theorem eta (h : b.Read span inside rest) :
    (⟨⟨span.opening, span.closing⟩, b.indent, b.notes⟩ : Braces) = b := by
  rw [← h.span_eq]

theorem after_opens (h : b.Read span inside rest) (alone : Bool) (text : String) :
    span.opening.after (b.opens alone text) = b.inside := by
  rw [Braces.inside, h.span_eq, h.verbatim.opens, h.verbatim.print]
  simp [Spot.after]

theorem foldl_next (h : b.Read span inside rest) :
    rest.foldl Spot.next b.inside = ('\x7b' :: inside).foldl Spot.next span.opening := by
  rw [← h.after_opens false "", h.verbatim.opens, Spot.after_ofList, ← List.foldl_append,
    List.cons_append, h.content_append]

end Braces.Read

/-! ## Cutting a text -/

theorem cut?_eq_some {target start : Spot} {cs before rest : List Char}
    (h : cut? target start cs = some (before, rest)) :
    cs = before ++ rest ∧ before.foldl Spot.next start = target := by
  fun_induction cut? target start cs generalizing before with
  | case1 | case3 => simp_all
  | case2 => simp at h
  | case4 start c cs hne ih =>
    obtain ⟨⟨before', rest'⟩, hcut, heq⟩ := Option.map_eq_some_iff.mp h
    obtain ⟨rfl, rfl⟩ := Prod.mk.inj heq
    obtain ⟨rfl, hspot⟩ := ih hcut
    exact ⟨rfl, hspot⟩

theorem cutBlock?_eq_some {span : BlockSpan} {start : Spot} {cs before inside behind : List Char}
    (h : cutBlock? span start cs = some (before, inside, behind)) :
    cs = before ++ '\x7b' :: (inside ++ '\x7d' :: behind) ∧
      before.foldl Spot.next start = span.opening ∧
      ('\x7b' :: inside).foldl Spot.next span.opening = span.closing := by
  unfold cutBlock? at h
  split at h
  · rename_i hopening
    split at h
    · rename_i hclosing
      obtain ⟨rfl, rfl, rfl⟩ : _ ∧ _ ∧ _ := by simpa using h
      obtain ⟨rfl, hopen⟩ := cut?_eq_some hopening
      obtain ⟨rfl, hclose⟩ := cut?_eq_some hclosing
      exact ⟨rfl, hopen, hclose⟩
    · cases h
  · cases h

/-! ## Trees that are read -/

namespace Tree

theorem toList_print_ofCode (cs : List Char) : (ofCode cs).print.toList = cs := by
  unfold ofCode
  dsimp only
  split
  · simp [print]
  · have h := content_leading .blanks [] [] cs
    simpa [print, (verbatim_leading .blanks [] [] cs).print, Lead.pending] using h

theorem located_ofCode (start : Spot) (cs : List Char) : (ofCode cs).located start = ofCode cs := by
  unfold ofCode
  dsimp only
  split <;> rfl

theorem toList_print_read (ifs : List IfSpan) (start : Spot) (cs : List Char) :
    (read ifs start cs).print.toList = cs := by
  fun_induction read ifs start cs with
  | case1 => exact toList_print_ofCode _
  | case2 _ _ _ _ _ ih => exact ih
  | case3 i is start cs before inside behind hcut b rest hread _ _ ihbefore ihrest ihbehind =>
    have hb := Braces.Read.of_readBraces hread
    obtain ⟨rfl, -, -⟩ := cutBlock?_eq_some hcut
    simp [print, hb.verbatim.opens, ihbefore, ihrest, ihbehind, ← hb.content_append]
  | case4 _ _ _ _ _ _ _ _ _ _ _ _ _ _ _ ih => exact ih
  | case5 i is start cs before inside behind hcut b rest hread _ e _ link inside' behind' hcut' b'
      rest' hread' ihbefore ihrest ihrest' ihbehind =>
    have hb := Braces.Read.of_readBraces hread
    have hb' := Braces.Read.of_readBraces hread'
    obtain ⟨rfl, -, -⟩ := cutBlock?_eq_some hcut
    obtain ⟨rfl, -, -⟩ := cutBlock?_eq_some hcut'
    simp [print, hb.verbatim.opens, hb'.verbatim.opens, ihbefore, ihrest, ihrest', ihbehind,
      ← hb.content_append, ← hb'.content_append]

/-- **Printing gives back the text** that was read. -/
theorem print_ofText (text : String) (ifs : List IfSpan) : (ofText text ifs).print = text := by
  rw [← String.toList_inj, ofText, toList_print_read]

theorem after_print_read (ifs : List IfSpan) (start s : Spot) (cs : List Char) :
    s.after (read ifs start cs).print = cs.foldl Spot.next s := by
  rw [Spot.after, toList_print_read]

/-- **The braces are where the text has them.** -/
theorem located_read (ifs : List IfSpan) (start : Spot) (cs : List Char) :
    (read ifs start cs).located start = read ifs start cs := by
  fun_induction read ifs start cs with
  | case1 => exact located_ofCode _ _
  | case2 _ _ _ _ _ ih => exact ih
  | case3 i is start cs before inside behind hcut b rest hread _ _ ihbefore ihrest ihbehind =>
    have hb := Braces.Read.of_readBraces hread
    obtain ⟨-, hopening, hclosing⟩ := cutBlock?_eq_some hcut
    simp only [located, after_print_read, hopening, hb.after_opens, hb.foldl_next, hclosing, hb.eta,
      Spot.after_append, Spot.after_closing, Spot.after_empty, print, ihbefore, ihrest]
    rw [ihbehind]
  | case4 _ _ _ _ _ _ _ _ _ _ _ _ _ _ _ ih => exact ih
  | case5 i is start cs before inside behind hcut b rest hread _ e _ link inside' behind' hcut' b'
      rest' hread' ihbefore ihrest ihrest' ihbehind =>
    have hb := Braces.Read.of_readBraces hread
    have hb' := Braces.Read.of_readBraces hread'
    obtain ⟨-, hopening, hclosing⟩ := cutBlock?_eq_some hcut
    obtain ⟨-, hopening', hclosing'⟩ := cutBlock?_eq_some hcut'
    simp only [located, after_print_read, hopening, hb.after_opens, hb.foldl_next, hclosing, hb.eta,
      Spot.after_append, Spot.after_closing, Spot.after_ofList, ihbefore, ihrest]
    rw [hopening']
    simp only [hb'.after_opens, hb'.foldl_next, hclosing', hb'.eta, ihrest', ihbehind]

/-! ## Blocks in the order of the source -/

end Tree

/-- A block of a conditional statement, with the comments before the first statement in it. -/
structure Arm where
  braces : Braces
  start : List Note

/-- The opening brace of a block. -/
def Arm.opening (b : Arm) : Spot := b.braces.span.opening

/-- A block starts before another one. -/
def Arm.Before (b c : Arm) : Prop := Spot.before b.opening c.opening = true

/-- The block that runs otherwise, if there is one, with the comments before its first statement. -/
def elseArm (otherwise : Option Braces) (rest : Tree) : List Arm :=
  (otherwise.map fun b => Arm.mk b rest.start).toList

namespace Tree

/-- The blocks of the conditional statements, in the order of the source. -/
def arms : Tree → List Arm
  | done _ => []
  | code _ _ next => next.arms
  | branch head body inner _ otherwise rest next =>
    head.arms ++ (⟨body, inner.start⟩ :: (inner.arms ++
      (elseArm otherwise rest ++ (rest.arms ++ next.arms))))

/-- The blocks are where the source has them. -/
def Placed (t : Tree) : Prop := t.arms.Pairwise Arm.Before

/-- Blocks stand between two spots of a text, in this order. -/
structure Within (a b : Spot) (l : List Arm) : Prop where
  le : toLex a ≤ toLex b
  pairwise : l.Pairwise Arm.Before
  le_opening : ∀ c ∈ l, toLex a ≤ toLex c.opening
  opening_lt : ∀ c ∈ l, toLex c.opening < toLex b

namespace Within

variable {a b c : Spot} {l m : List Arm} {x : Arm}

theorem of_le (hab : toLex a ≤ toLex b) (hl : Within b c l) : Within a c l :=
  ⟨hab.trans hl.le, hl.pairwise, fun x hx => hab.trans (hl.le_opening x hx), hl.opening_lt⟩

theorem append (hl : Within a b l) (hm : Within b c m) : Within a c (l ++ m) where
  le := hl.le.trans hm.le
  pairwise := List.pairwise_append.mpr ⟨hl.pairwise, hm.pairwise, fun x hx y hy =>
    Spot.before_iff_toLex.mpr ((hl.opening_lt x hx).trans_le (hm.le_opening y hy))⟩
  le_opening x hx := (List.mem_append.mp hx).elim (hl.le_opening x)
    fun hx => hl.le.trans (hm.le_opening x hx)
  opening_lt x hx := (List.mem_append.mp hx).elim (fun hx => (hl.opening_lt x hx).trans_le hm.le)
    (hm.opening_lt x)

theorem cons (hx : x.opening = a) (hab : toLex a < toLex b) (hl : Within b c l) :
    Within a c (x :: l) where
  le := hab.le.trans hl.le
  pairwise := List.pairwise_cons.mpr ⟨fun y hy =>
    Spot.before_iff_toLex.mpr (hx ▸ hab.trans_le (hl.le_opening y hy)), hl.pairwise⟩
  le_opening := List.forall_mem_cons.mpr ⟨hx ▸ le_refl _,
    fun y hy => hab.le.trans (hl.le_opening y hy)⟩
  opening_lt := List.forall_mem_cons.mpr ⟨hx ▸ hab.trans_le hl.le, hl.opening_lt⟩

end Within

/-- The blocks of a tree stand in its text, each behind those that start before it. -/
theorem within_located (t : Tree) (start : Spot) :
    Within start (start.after t.print) (t.located start).arms := by
  induction t generalizing start with
  | done text =>
    exact ⟨Spot.toLex_le_after _ _, .nil, by simp [located, arms], by simp [located, arms]⟩
  | code comments text next ih =>
    simp only [print, Spot.after_append _ _ next.print]
    exact (ih _).of_le (Spot.toLex_le_after _ _)
  | branch head body inner link otherwise rest next ihh ihi ihr ihn =>
    cases otherwise with
    | none =>
      simp only [located, arms, elseArm, print, Spot.after_append, Option.map_none,
        Option.toList_none, List.nil_append]
      refine (ihh _).append (.cons rfl (toLex_lt_after_opens _ _ _ _) ((ihi _).append ?_))
      refine .of_le ((Spot.toLex_le_after _ "\x7d").trans (Spot.toLex_le_after _ link)) ?_
      exact (ihr _).append (ihn _)
    | some b =>
      simp only [located, arms, elseArm, print, Spot.after_append, Option.map_some,
        Option.toList_some, List.singleton_append]
      refine (ihh _).append (.cons rfl (toLex_lt_after_opens _ _ _ _) ((ihi _).append ?_))
      refine .of_le ((Spot.toLex_le_after _ "\x7d").trans (Spot.toLex_le_after _ link)) ?_
      refine .cons rfl (toLex_lt_after_opens _ _ _ _) ((ihr _).append ?_)
      exact .of_le (Spot.toLex_le_after _ _) (ihn _)

theorem placed_located (t : Tree) (start : Spot) : (t.located start).Placed :=
  (t.within_located start).pairwise

/-- **A tree that is read has its blocks in the order of the text.** -/
theorem placed_ofText (text : String) (ifs : List IfSpan) : (ofText text ifs).Placed := by
  rw [ofText, ← located_read]
  exact placed_located _ _

end Tree

end Source

end FlagFlow
