import FlagFlow.Lint
import Mathlib.Data.List.Basic
import Mathlib.Data.List.TakeWhile

/-!
# The callees of the linter

The linter is made for a list of callees, but keeps them as one text with commas between them and
takes them apart again when it runs. A callee that has a comma of its own, such as a counted
repetition, comes out as several callees; all others come out as they were.

* `Text.splitCommas_intercalate`: taking apart what was put together.
* `CalleeSpec.mem_cleanNames`, `CalleeSpec.mem_cleanNames_of_comma`: where names come from, and that
  a comma stays.
* **`Analyzer.callees_kept_iff`**: the callees that the linter uses, and when they are the ones that
  it was made for.
-/

namespace FlagFlow

/-! ## Commas -/

namespace Text

theorem not_mem_of_mem_splitOn {c : Char} {cs part : List Char} (h : part ∈ cs.splitOn c) :
    c ∉ part := by
  induction cs generalizing part with
  | nil =>
    rw [List.splitOn_nil, List.mem_singleton] at h
    simp [h]
  | cons d cs ih =>
    rw [List.splitOn_cons_eq_if_modifyHead] at h
    split at h
    · obtain rfl | h := List.mem_cons.mp h
      · simp
      · exact ih h
    · rename_i hd
      obtain ⟨first, parts, hparts⟩ := List.exists_cons_of_ne_nil (List.splitOn_ne_nil c cs)
      rw [hparts] at h ih
      obtain rfl | h := List.mem_cons.mp h
      · have hdc : c ≠ d := fun hcd => hd (beq_iff_eq.mpr hcd.symm)
        exact List.not_mem_cons_of_ne_of_not_mem hdc (ih List.mem_cons_self)
      · exact ih (List.mem_cons_of_mem _ h)

theorem splitOn_intercalate_eq_flatMap (c : Char) {parts : List (List Char)} (hne : parts ≠ []) :
    ([c].intercalate parts).splitOn c = parts.flatMap (·.splitOn c) := by
  induction parts with
  | nil => exact absurd rfl hne
  | cons part parts ih =>
    cases parts with
    | nil => simp
    | cons next rest =>
      rw [List.intercalate_cons_cons, List.append_assoc, List.singleton_append,
        List.splitOn_append_cons_self, ih (List.cons_ne_nil _ _)]
      rfl

/-- **Taking apart what was put together** takes each part apart. -/
theorem splitCommas_intercalate {names : List String} (hne : names ≠ []) :
    splitCommas (",".intercalate names) = names.flatMap splitCommas := by
  have hcomma : ",".toList = [','] := rfl
  rw [splitCommas, String.toList_intercalate, hcomma,
    splitOn_intercalate_eq_flatMap ',' (by simpa using hne), List.flatMap_map, List.map_flatMap]
  rfl

theorem splitCommas_of_not_mem {s : String} (h : ',' ∉ s.toList) : splitCommas s = [s] := by
  rw [splitCommas, List.splitOn_eq_singleton h, List.map_singleton, String.ofList_toList]

theorem not_mem_of_mem_splitCommas {s part : String} (h : part ∈ splitCommas s) :
    ',' ∉ part.toList := by
  obtain ⟨cs, hcs, rfl⟩ := List.mem_map.mp h
  rw [String.toList_ofList]
  exact not_mem_of_mem_splitOn hcs

theorem mem_trim {s : String} {c : Char} (hc : isBlank c = false) :
    c ∈ (trim s).toList ↔ c ∈ s.toList := by
  have hdrop : ∀ cs : List Char, c ∈ cs.dropWhile isBlank ↔ c ∈ cs := by
    intro cs
    refine ⟨fun h => (List.dropWhile_suffix _).subset h, fun h => ?_⟩
    rw [← List.takeWhile_append_dropWhile (p := isBlank) (l := cs), List.mem_append] at h
    refine h.resolve_left fun h => ?_
    rw [List.mem_takeWhile_imp h] at hc
    cases hc
  rw [trim, String.toList_ofList, List.mem_reverse, hdrop, List.mem_reverse, hdrop]

end Text

/-! ## Names -/

namespace CalleeSpec

theorem cleanNames_eq (names : List String) : cleanNames names =
    if ((names.map Text.trim).filter (· != "")).isEmpty then [defaultCallee]
    else (names.map Text.trim).filter (· != "") := rfl

theorem mem_cleanNames {names : List String} {r : String} (hr : r ∈ cleanNames names) :
    r = defaultCallee ∨ ∃ n ∈ names, r = Text.trim n := by
  rw [cleanNames_eq] at hr
  split at hr
  · exact .inl (List.mem_singleton.mp hr)
  · obtain ⟨n, hn, rfl⟩ := List.mem_map.mp (List.mem_of_mem_filter hr)
    exact .inr ⟨n, hn, rfl⟩

theorem mem_cleanNames_of_comma {names : List String} {n : String} (hn : n ∈ names)
    (hcomma : ',' ∈ n.toList) :
    Text.trim n ∈ cleanNames names := by
  have hmem : ',' ∈ (Text.trim n).toList := (Text.mem_trim rfl).mpr hcomma
  have hkept : Text.trim n ∈ (names.map Text.trim).filter (· != "") := by
    rw [List.mem_filter]
    refine ⟨List.mem_map_of_mem hn, ?_⟩
    rw [bne_iff_ne]
    rintro hempty
    rw [hempty] at hmem
    cases hmem
  rw [cleanNames_eq]
  split
  · rename_i hnil
    rw [List.isEmpty_iff.mp hnil] at hkept
    cases hkept
  · exact hkept

theorem ofNames_inj {names names' : List String} :
    ofNames names = ofNames names' ↔ cleanNames names = cleanNames names' := by
  refine ⟨fun h => ?_, fun h => by rw [ofNames, h, ofNames]⟩
  have hname : ∀ names : List String, (ofNames names).map CalleeSpec.name = cleanNames names :=
    fun names => by
    rw [ofNames, List.map_map]
    exact List.map_id' _
  rw [← hname, h, hname]

end CalleeSpec

/-! ## The linter -/

namespace Analyzer

open CalleeSpec

theorem callees_ofSettings (callees : List String) : (ofSettings callees).callees =
    if ",".intercalate callees = "" then defaultCallee else ",".intercalate callees := rfl

theorem settings_ofSettings (callees : List String) :
    (ofSettings callees).settings = ({} : Settings).withCallees
    (callees.flatMap Text.splitCommas) := by
  have hdefault : Text.splitCommas defaultCallee = [defaultCallee] :=
    Text.splitCommas_of_not_mem (by decide)
  have hnames : cleanNames (Text.splitCommas (ofSettings callees).callees) =
      cleanNames (callees.flatMap Text.splitCommas) := by
    rw [callees_ofSettings]
    by_cases hnil : callees = []
    · subst hnil
      rw [String.intercalate_nil, if_pos rfl, hdefault]
      rfl
    · rw [← Text.splitCommas_intercalate hnil]
      split
      · rename_i htext
        rw [htext, hdefault]
        decide
      · rfl
  unfold settings Settings.withCallees
  rw [ofNames_inj.mpr hnames]

/-- **The callees of the linter** are used as given if and only if none has a comma. -/
theorem callees_kept_iff (callees : List String) :
    (ofSettings callees).settings = ({} : Settings).withCallees (callees.flatMap Text.splitCommas) ∧
      ((ofSettings callees).settings = ({} : Settings).withCallees callees ↔
        ∀ c ∈ callees, ',' ∉ c.toList) := by
  refine ⟨settings_ofSettings callees, fun h c hc hcomma => ?_, fun h => ?_⟩
  · -- a part between commas has none, but the callee has one after cleaning
    rw [settings_ofSettings] at h
    have hnames := ofNames_inj.mp (congrArg Settings.callees h)
    have hmem := mem_cleanNames_of_comma hc hcomma
    have hcomma' : ',' ∈ (Text.trim c).toList := (Text.mem_trim rfl).mpr hcomma
    rw [← hnames] at hmem
    obtain hdefault | ⟨part, hpart, htrim⟩ := mem_cleanNames hmem
    · rw [hdefault] at hcomma'
      exact absurd hcomma' (by decide)
    · obtain ⟨callee, -, hpart⟩ := List.mem_flatMap.mp hpart
      rw [htrim, Text.mem_trim rfl] at hcomma'
      exact Text.not_mem_of_mem_splitCommas hpart hcomma'
  · have hparts : callees.flatMap Text.splitCommas = callees := by
      rw [List.flatMap_congr fun c hc => Text.splitCommas_of_not_mem (h c hc)]
      exact List.flatMap_singleton' callees
    rw [settings_ofSettings, hparts]

/-- A callee that is given with a count. -/
theorem counted_callee_lost :
    (({} : Settings).withCallees ["Enable{1,1}"]).isFeature "Enable" = true ∧
      (ofSettings ["Enable{1,1}"]).settings.isFeature "Enable" = false := by
  decide +kernel

end Analyzer

end FlagFlow
