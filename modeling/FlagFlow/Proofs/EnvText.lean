import FlagFlow.Proofs.Env
import Mathlib.Data.List.Nodup
import Mathlib.Data.String.Basic

/-!
# The text of an environment

The text of an environment shows its path condition and its facts, sorted by the names of their
variables. If distinct variables have distinct names, the order in which the facts were added is not
seen. If no name has a comma or an equals sign, the text can be taken apart again: at the commas
into facts, and a fact at its equals sign.

* `FlagValue.text_append_inj`: no text of a value starts that of another one.
* `Text.splitOn_intercalate_cons`: a list with separators is taken apart at their first characters.
* `Env.factText_inj`: a fact is read from its text.
* `Env.Readable.factsByName_eq_iff`: the sorted facts are the same exactly if all answers are.
* **`Env.render_eq_iff_same`**: environments have the same text exactly if they are the same.
-/

namespace FlagFlow

namespace FlagValue

theorem text_append_inj {x y : FlagValue} {cs ds : List Char}
    (h : x.text.toList ++ cs = y.text.toList ++ ds) : x = y ∧ cs = ds := by
  cases x <;> cases y <;> simp_all [text]

theorem not_mem_text {c : Char} (hc : c = ',' ∨ c = '=') (x : FlagValue) : c ∉ x.text.toList := by
  rcases hc with rfl | rfl <;> cases x <;> decide

end FlagValue

namespace Text

/-- **Taking a list apart** at the first characters of its separators. -/
theorem splitOn_intercalate_cons {c : Char} {sep part : List Char} {parts : List (List Char)}
    (hsep : c ∉ sep) (hpart : c ∉ part) (hparts : ∀ p ∈ parts, c ∉ p) :
    ((c :: sep).intercalate (part :: parts)).splitOn c = part :: parts.map (sep ++ ·) := by
  induction parts generalizing part with
  | nil => simp [List.splitOn_eq_singleton hpart]
  | cons next rest ih =>
    have hnext : c ∉ sep ++ next := by
      simp [hsep, hparts next List.mem_cons_self]
    have hmove : sep ++ (c :: sep).intercalate (next :: rest) =
        (c :: sep).intercalate ((sep ++ next) :: rest) := by
      cases rest <;> simp
    rw [List.intercalate_cons_cons, List.append_assoc, List.cons_append,
      List.splitOn_append_cons_self, hmove,
      ih hnext fun p hp => hparts p (List.mem_cons_of_mem _ hp), List.splitOn_eq_singleton hpart]
    simp

theorem intercalate_inj {c : Char} {sep : List Char} {ps qs : List (List Char)} (hsep : c ∉ sep)
    (hps : ∀ p ∈ ps, p ≠ [] ∧ c ∉ p) (hqs : ∀ q ∈ qs, q ≠ [] ∧ c ∉ q)
    (h : (c :: sep).intercalate ps = (c :: sep).intercalate qs) : ps = qs := by
  have hnil : ∀ (p : List Char) (ps : List (List Char)), p ≠ [] →
      (c :: sep).intercalate (p :: ps) ≠ [] := by
    intro p ps hp
    cases ps <;> simp [hp]
  cases ps with
  | nil =>
    cases qs with
    | nil => rfl
    | cons q qs => exact absurd h.symm (hnil q qs (hqs q List.mem_cons_self).1)
  | cons p ps =>
    cases qs with
    | nil => exact absurd h (hnil p ps (hps p List.mem_cons_self).1)
    | cons q qs =>
      have hsplit := congrArg (List.splitOn c) h
      rw [splitOn_intercalate_cons hsep (hps p List.mem_cons_self).2 fun r hr =>
        (hps r (by simp [hr])).2,
        splitOn_intercalate_cons hsep (hqs q List.mem_cons_self).2 fun r hr =>
        (hqs r (by simp [hr])).2,
        List.cons.injEq] at hsplit
      rw [hsplit.1, List.map_injective_iff.mpr (fun _ _ => List.append_cancel_left) hsplit.2]

end Text

namespace Env

variable {V : Type} {name : V → String} {s t : Env V}

/-! ## Facts and their texts -/

/-- The text of a fact. -/
def factText (name : V → String) (e : V × FlagValue) : String := name e.1 ++ "=" ++ e.2.text

theorem toList_factText (e : V × FlagValue) :
    (factText name e).toList = (name e.1).toList ++ '=' :: e.2.text.toList := by
  simp [factText]

/-- **A fact is read from its text.** -/
theorem factText_inj {e f : V × FlagValue} (he : '=' ∉ (name e.1).toList)
    (h : factText name e = factText name f) : name e.1 = name f.1 ∧ e.2 = f.2 := by
  have hchars := congrArg String.toList h
  rw [toList_factText, toList_factText,
    List.append_cons_inj_of_notMem he (FlagValue.not_mem_text (.inr rfl) e.2)] at hchars
  exact ⟨String.toList_inj.mp hchars.1, (FlagValue.text_append_inj (congrArg (· ++ []) hchars.2.2)).1⟩

theorem toList_render (name : V → String) (s : Env V) :
    (s.render name).toList = s.path.text.toList ++ (" -- \x7b".toList ++
      ((", ".toList.intercalate ((s.factsByName name).map fun e => (factText name e).toList)) ++
      "\x7d".toList)) := by
  simp [render, factText, String.toList_intercalate, Function.comp_def]

/-! ## Sorted facts -/

theorem factsByName_perm (name : V → String) (s : Env V) : (s.factsByName name).Perm s.facts.entries :=
  List.mergeSort_perm _ _

theorem pairwise_factsByName (name : V → String) (s : Env V) :
    (s.factsByName name).Pairwise fun e f => name e.1 ≤ name f.1 := by
  have hsorted : (s.factsByName name).Pairwise fun e f => decide (name e.1 ≤ name f.1) = true := by
    refine List.pairwise_mergeSort (fun a b c => ?_) (fun a b => ?_) _
    · simpa using fun hab hbc => String.le_trans hab hbc
    · simpa using String.le_total _ _
  exact hsorted.imp of_decide_eq_true

theorem fst_mem_vars {e : V × FlagValue} (he : e ∈ s.factsByName name) : e.1 ∈ s.vars :=
  List.mem_map_of_mem ((factsByName_perm name s).mem_iff.mp he)

/-- The names of variables can be read in a text: distinct variables have distinct names, and no
name has a comma or an equals sign. -/
structure Readable (name : V → String) (vars : List V) : Prop where
  inj : ∀ v ∈ vars, ∀ w ∈ vars, name v = name w → v = w
  plain : ∀ v ∈ vars, ',' ∉ (name v).toList ∧ '=' ∉ (name v).toList

theorem Readable.of_subset {vars vars' : List V} (h : Readable name vars) (hsub : vars' ⊆ vars) :
    Readable name vars' :=
  ⟨fun v hv w hw => h.inj v (hsub hv) w (hsub hw), fun v hv => h.plain v (hsub hv)⟩

theorem Readable.parts (h : Readable name s.vars) :
    ∀ p ∈ (s.factsByName name).map (fun e => (factText name e).toList), p ≠ [] ∧ ',' ∉ p := by
  intro p hp
  obtain ⟨e, he, rfl⟩ := List.mem_map.mp hp
  rw [toList_factText]
  have hcomma := (h.plain _ (fst_mem_vars he)).1
  exact ⟨by simp, by simp [hcomma, FlagValue.not_mem_text (.inl rfl) e.2]⟩

theorem Readable.factTexts_inj (h : Readable name (s.vars ++ t.vars))
    (htexts : (s.factsByName name).map (fun e => (factText name e).toList) =
      (t.factsByName name).map fun e => (factText name e).toList) :
    s.factsByName name = t.factsByName name := by
  have hlen : (s.factsByName name).length = (t.factsByName name).length := by
    simpa using congrArg List.length htexts
  refine List.ext_getElem hlen fun i hi hi' => ?_
  have hs := List.mem_append_left t.vars (fst_mem_vars (List.getElem_mem hi))
  have ht := List.mem_append_right s.vars (fst_mem_vars (List.getElem_mem hi'))
  have hith := congrArg (·[i]?) htexts
  have htext : factText name (s.factsByName name)[i] = factText name (t.factsByName name)[i] :=
    String.toList_inj.mp (by simpa [hi, hi'] using hith)
  obtain ⟨hfst, hsnd⟩ := factText_inj (h.plain _ hs).2 htext
  exact Prod.ext (h.inj _ hs _ ht hfst) hsnd

variable [DecidableEq V]

theorem mem_factsByName {e : V × FlagValue} : e ∈ s.factsByName name ↔ s.find? e.1 = some e.2 := by
  rw [(factsByName_perm name s).mem_iff]
  exact Table.find?_eq_some_iff.symm

/-- **The sorted facts are the same if all answers are.** -/
theorem Readable.factsByName_eq_iff (hname : Readable name (s.vars ++ t.vars)) :
    s.factsByName name = t.factsByName name ↔ ∀ v, s.find? v = t.find? v := by
  constructor
  · intro h v
    refine Option.ext fun x => ?_
    have hmem : (v, x) ∈ s.factsByName name ↔ (v, x) ∈ t.factsByName name := by rw [h]
    simpa only [mem_factsByName] using hmem
  · intro h
    have hmem : ∀ e, e ∈ s.factsByName name ↔ e ∈ t.factsByName name := fun e => by
      rw [mem_factsByName, mem_factsByName, h]
    have hnodup : ∀ u : Env V, (u.factsByName name).Nodup := fun u =>
      (factsByName_perm name u).nodup_iff.mpr (List.Nodup.of_map _ u.facts.distinct)
    refine List.Perm.eq_of_pairwise (fun e f he hf hef hfe => ?_) (pairwise_factsByName name s)
      (pairwise_factsByName name t) ((List.perm_ext_iff_of_nodup (hnodup s) (hnodup t)).mpr hmem)
    -- facts with the same name are about the same variable, which has one fact
    have hfst : e.1 = f.1 := hname.inj _ (List.mem_append_left _ (fst_mem_vars he)) _
      (List.mem_append_right _ (fst_mem_vars hf)) (String.le_antisymm hef hfe)
    have hsnd := mem_factsByName.mp hf
    rw [← hfst, ← h, mem_factsByName.mp he] at hsnd
    exact Prod.ext hfst (Option.some.inj hsnd)

/-- **The text of an environment identifies it**, if the names of all variables that occur can be
read. -/
theorem render_eq_iff_same (h : Readable name (s.vars ++ t.vars)) :
    s.render name = t.render name ↔ s.same t = true := by
  rw [same_iff]
  constructor
  · intro htext
    have hs := (h.of_subset (List.subset_append_left _ _)).parts
    have ht := (h.of_subset (List.subset_append_right _ _)).parts
    have hchars := congrArg String.toList htext
    rw [toList_render, toList_render] at hchars
    obtain ⟨hpath, hrest⟩ := FlagValue.text_append_inj hchars
    have hparts := List.append_cancel_right (List.append_cancel_left hrest)
    have hsep : ',' ∉ [' '] := by decide
    exact ⟨hpath, h.factsByName_eq_iff.mp (h.factTexts_inj (Text.intercalate_inj hsep hs ht hparts))⟩
  · intro hagrees
    rw [render, render, hagrees.path, h.factsByName_eq_iff.mpr hagrees.facts]

/-- Names with the other characters that occur in a text. -/
def oddName : Bool → String
  | true => "\x7d -- A"
  | false => " ?\x7b"

theorem render_eq_iff_same_odd :
    Readable oddName (((ofPath .flag).set true .one).set false .notFlag).vars ∧
      (((ofPath .flag).set true .one).set false .notFlag).render oddName =
        (((ofPath .flag).set false .notFlag).set true .one).render oddName ∧
      (((ofPath .flag).set true .one).set false .notFlag).render oddName ≠
        ((ofPath .flag).set true .one).render oddName := by
  have hsame : Readable oddName ((((ofPath .flag).set true .one).set false .notFlag).vars ++
      (((ofPath .flag).set false .notFlag).set true .one).vars) := ⟨by decide, by decide⟩
  have hfewer : Readable oddName ((((ofPath .flag).set true .one).set false .notFlag).vars ++
      ((ofPath .flag).set true .one).vars) := ⟨by decide, by decide⟩
  refine ⟨hsame.of_subset (List.subset_append_left _ _),
    (render_eq_iff_same hsame).mpr (by decide), ?_⟩
  rw [ne_eq, render_eq_iff_same hfewer]
  decide

end Env

end FlagFlow
