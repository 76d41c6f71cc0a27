import FlagFlow.Files
import FlagFlow.Proofs.Table
import Mathlib.Data.List.Basic

/-!
# Reading what was written

* `Path.toList_join`: the path of a name in a directory is a stem, which the directory gives, and
  the name.
* `FileTree.getLast?_of_resolve`: the place that such a path leads to ends with the name.
* `FileTree.resolve_put`: writing a file does not change where paths lead.
* `FileTree.Writable`: a file can be made at a path, which writing other files does not change
  (`FileTree.writable_write`).
* **`FileTree.read_write_same`**: what was written is read.
* **`FileTree.read_write_other`**: the other names in the directory are read as before.
-/

namespace FlagFlow

namespace Path

/-- A name that a directory can give to a file. -/
structure IsName (x : String) : Prop where
  ne_empty : x ≠ ""
  ne_point : x ≠ "."
  ne_above : x ≠ FileTree.above
  no_slash : '/' ∉ x.toList

/-- The text before a name in a path: empty, or up to a slash. -/
def IsStem (s : List Char) : Prop := s = [] ∨ s.getLast? = some '/'

theorem IsStem.append {s t : List Char} (hs : IsStem s) (ht : IsStem t) : IsStem (s ++ t) := by
  rcases ht with rfl | ht
  · rwa [List.append_nil]
  · exact .inr (by rw [List.getLast?_append, ht, Option.some_or])

theorem IsStem.drop {s : List Char} (hs : IsStem s) (n : Nat) : IsStem (s.drop n) := by
  rcases hs with rfl | hs
  · exact .inl List.drop_nil
  · by_cases hn : s.length ≤ n
    · exact .inl (List.drop_eq_nil_of_le hn)
    · exact .inr (by rw [List.getLast?_drop, if_neg hn, hs])

/-! ## The path of a name in a directory -/

theorem splitOn_stem {s x : List Char} (hs : IsStem s) (hx : '/' ∉ x) :
    ∃ before, (s ++ x).splitOn '/' = before ++ [x] := by
  rcases hs with rfl | hs
  · exact ⟨[], List.splitOn_eq_singleton hx⟩
  · obtain ⟨s', rfl⟩ := List.getLast?_eq_some_iff.mp hs
    refine ⟨s'.splitOn '/', ?_⟩
    rw [List.append_assoc, List.singleton_append, List.splitOn_append_cons_self,
      List.splitOn_eq_singleton hx]

theorem parts_stem {p : String} {s : List Char} {x : String} (hp : p.toList = s ++ x.toList)
    (hs : IsStem s) (hx : IsName x) : ∃ before, parts p = before ++ [x] := by
  obtain ⟨before, hbefore⟩ := splitOn_stem hs hx.no_slash
  refine ⟨before.map String.ofList, ?_⟩
  rw [parts, hp, hbefore, List.map_append, List.map_singleton, String.ofList_toList]

theorem cleanParts_concat (rooted : Bool) {x : String} (hx : IsName x) (done ps : List String) :
    cleanParts rooted done (ps ++ [x]) = x :: cleanParts rooted done ps := by
  induction ps generalizing done with
  | nil => simp [cleanParts, hx.ne_empty, hx.ne_point, show x ≠ ".." from hx.ne_above]
  | cons part ps ih =>
    cases done <;> simp only [List.cons_append, cleanParts, ih] <;> split_ifs <;> rfl

theorem toList_intercalate_concat (names : List String) (x : String) :
    ("/".intercalate (names ++ [x])).toList =
      (names.flatMap fun name => name.toList ++ ['/']) ++ x.toList := by
  rw [String.toList_intercalate, List.map_append, List.map_singleton]
  induction names with
  | nil => simp [List.intercalate]
  | cons name names ih =>
    obtain ⟨y, ys, hy⟩ : ∃ y ys, names.map String.toList ++ [x.toList] = y :: ys :=
      List.exists_cons_of_ne_nil (by simp)
    rw [List.map_cons, List.cons_append, hy, List.intercalate_cons_cons, ← hy, ih]
    simp

/-- The text that a directory puts before the names in it. -/
def stem (dir : String) : List Char :=
  (if isAbsolute dir then ['/'] else []) ++
    (cleanParts (isAbsolute dir) [] (parts dir)).reverse.flatMap fun name => name.toList ++ ['/']

theorem isStem_stem (dir : String) : IsStem (stem dir) := by
  refine IsStem.append ?_ ?_
  · split
    · exact .inr rfl
    · exact .inl rfl
  · induction (cleanParts (isAbsolute dir) [] (parts dir)).reverse with
    | nil => exact .inl rfl
    | cons name names ih =>
      rw [List.flatMap_cons]
      exact IsStem.append (.inr List.getLast?_concat) ih

theorem toList_clean_concat {p : String} {ps : List String} {x : String} (hx : IsName x)
    (hp : parts p = ps ++ [x]) :
    (clean p).toList = (if isAbsolute p then ['/'] else []) ++
      ((cleanParts (isAbsolute p) [] ps).reverse.flatMap fun name => name.toList ++ ['/']) ++
      x.toList := by
  have hbody : (cleanParts (isAbsolute p) [] (parts p)).reverse =
      (cleanParts (isAbsolute p) [] ps).reverse ++ [x] := by
    rw [hp, cleanParts_concat _ hx, List.reverse_cons]
  have hne : "/".intercalate ((cleanParts (isAbsolute p) [] ps).reverse ++ [x]) ≠ "" := by
    intro h
    have hnil := congrArg String.toList h
    rw [toList_intercalate_concat] at hnil
    exact hx.ne_empty (String.toList_inj.mp (List.append_eq_nil_iff.mp hnil).2)
  simp only [clean, hbody, if_neg hne]
  split
  · rw [String.toList_append, toList_intercalate_concat, List.append_assoc]
    rfl
  · rw [toList_intercalate_concat, List.nil_append]

/-- **The path of a name in a directory is the stem of the directory and the name.** -/
theorem toList_join (dir : String) {x : String} (hx : IsName x) :
    (join [dir, x]).toList = stem dir ++ x.toList := by
  have hxne : (x != "") = true := bne_iff_ne.mpr hx.ne_empty
  by_cases hdir : dir = ""
  · subst hdir
    have hparts : parts x = [] ++ [x] := by
      rw [parts, List.splitOn_eq_singleton hx.no_slash, List.map_singleton, String.ofList_toList]
      rfl
    have habs : isAbsolute x = false := by
      rw [isAbsolute, decide_eq_false_iff_not]
      exact fun h => hx.no_slash (List.mem_of_head? h)
    have hjoin : join ["", x] = clean x := by simp [join, hxne]
    rw [hjoin, toList_clean_concat hx hparts, habs]
    rfl
  · have hjoin : join [dir, x] = clean (dir ++ "/" ++ x) := by
      have hdirne : (dir != "") = true := bne_iff_ne.mpr hdir
      have htwo : "/".intercalate [dir, x] = dir ++ "/" ++ x := by rw [← String.toList_inj]; simp
      simp [join, hdirne, hxne, htwo]
    have htoList : (dir ++ "/" ++ x).toList = dir.toList ++ '/' :: x.toList := by
      simp
    have hparts : parts (dir ++ "/" ++ x) = parts dir ++ [x] := by
      rw [parts, htoList, List.splitOn_append_cons_self, List.splitOn_eq_singleton hx.no_slash,
        List.map_append, List.map_singleton, String.ofList_toList, parts]
    have habs : isAbsolute (dir ++ "/" ++ x) = isAbsolute dir := by
      have hne : dir.toList ≠ [] := fun h => hdir (String.toList_inj.mp h)
      rw [isAbsolute, isAbsolute, htoList, List.head?_append_of_ne_nil _ hne]
    rw [hjoin, toList_clean_concat hx hparts, habs, stem]

theorem join_inj {dir x y : String} (hx : IsName x) (hy : IsName y) :
    join [dir, x] = join [dir, y] ↔ x = y := by
  refine ⟨fun h => ?_, fun h => h ▸ rfl⟩
  have htoList := congrArg String.toList h
  rw [toList_join dir hx, toList_join dir hy] at htoList
  exact String.toList_inj.mp (List.append_cancel_left htoList)

end Path

namespace FileTree

open FlagFlow.Path

/-! ## Where a path leads -/

theorem length_le_of_isPrefixOf {top s x : List Char} (hx : '/' ∉ x)
    (h : (top ++ ['/']).isPrefixOf (s ++ x) = true) :
    (top ++ ['/']).length ≤ s.length := by
  obtain ⟨rest, hrest⟩ := List.isPrefixOf_iff_prefix.mp h
  rw [List.append_assoc, List.singleton_append] at hrest
  rcases List.append_eq_append_iff.mp hrest with ⟨a, rfl, ha⟩ | ⟨a, -, rfl⟩
  · cases a with
    | nil =>
      rw [List.nil_append] at ha
      exact absurd (ha ▸ List.mem_cons_self) hx
    | cons c a => simp
  · exact absurd (List.mem_append_right a List.mem_cons_self) hx

theorem fromRoot_stem (t : FileTree) {path : String} {s : List Char} {x : String}
    (hpath : path.toList = s ++ x.toList) (hs : IsStem s) (hx : IsName x) :
    ∃ s', IsStem s' ∧ (t.fromRoot path).toList = s' ++ x.toList := by
  rw [fromRoot]
  cases t.root with
  | none => exact ⟨s, hs, hpath⟩
  | some root =>
    simp only
    split
    next htop =>
      have htoList : (root ++ "/").toList = root.toList ++ ['/'] := String.toList_append
      rw [hpath, htoList] at htop
      refine ⟨s.drop (root ++ "/").toList.length, hs.drop _, ?_⟩
      rw [String.toList_ofList, hpath, htoList,
        List.drop_append_of_le_length (length_le_of_isPrefixOf hx.no_slash htop)]
    next => exact ⟨s, hs, hpath⟩

theorem step_eq_ok {t : FileTree} {p q : List String} {name : String} (h : t.step p name = .ok q) :
    t.node? p = some .directory := by
  rw [step] at h
  split at h
  · cases h
  · cases h
  · assumption

theorem step_name {t : FileTree} {p q : List String} {x : String} (hx : IsName x)
    (h : t.step p x = .ok q) :
    q = p ++ [x] := by
  have hdir := step_eq_ok h
  simp only [step, hdir, hx.ne_empty, hx.ne_point, hx.ne_above, decide_false, Bool.or_false,
    Bool.false_eq_true, if_false] at h
  split at h
  · cases h
  · exact (Except.ok.inj h).symm

theorem foldlM_step_concat {t : FileTree} {names : List String} {x : String} (hx : IsName x)
    {p q : List String} (h : (names ++ [x]).foldlM t.step p = .ok q) : q.getLast? = some x := by
  rw [List.foldlM_append] at h
  cases hnames : names.foldlM t.step p with
  | error e => rw [hnames] at h; cases h
  | ok r =>
    rw [hnames] at h
    have hstep : t.step r x = .ok q := by
      rw [← h]
      exact (bind_pure (t.step r x)).symm
    rw [step_name hx hstep, List.getLast?_concat]

theorem resolve_eq_ok_iff {t : FileTree} {path : String} {q : List String} :
    t.resolve path = .ok q ↔
      (Char.ofNat 0 ∉ (t.fromRoot path).toList ∧ t.fromRoot path ≠ "" ∧
      (t.fromRoot path).utf8ByteSize ≤ maxPath) ∧
      if isAbsolute (t.fromRoot path) then
        (∀ name ∈ parts (t.fromRoot path), name = "" ∨ name = "." ∨ name = above) ∧ q = [above]
      else (parts (t.fromRoot path)).foldlM t.step [] = .ok q := by
  simp only [resolve]
  by_cases hzero : Char.ofNat 0 ∈ (t.fromRoot path).toList
  · simp [hzero]
  by_cases hempty : t.fromRoot path = ""
  · simp [hempty]
  by_cases hlong : maxPath < (t.fromRoot path).utf8ByteSize
  · simp [hzero, hempty, hlong, Nat.not_le.mpr hlong]
  · have hpath : Char.ofNat 0 ∉ (t.fromRoot path).toList ∧ t.fromRoot path ≠ "" ∧
        (t.fromRoot path).utf8ByteSize ≤ maxPath := ⟨hzero, hempty, Nat.not_lt.mp hlong⟩
    rw [and_iff_right hpath]
    simp only [List.contains_iff_mem, hzero, hempty, hlong, if_false]
    split
    · simp only [List.all_eq_true, Bool.or_eq_true, decide_eq_true_eq, or_assoc]
      split
      next hall => rw [and_iff_right hall, Except.ok.injEq, eq_comm]
      next hall => simp [hall]
    · rfl

/-- **The path of a name in a directory leads to a place with that name.** -/
theorem getLast?_of_resolve {t : FileTree} {dir x : String} (hx : IsName x) {p : List String}
    (h : t.resolve (join [dir, x]) = .ok p) : p.getLast? = some x := by
  obtain ⟨s, hs, hpath⟩ := t.fromRoot_stem (toList_join dir hx) (isStem_stem dir) hx
  obtain ⟨before, hparts⟩ := parts_stem hpath hs hx
  have hplace := (resolve_eq_ok_iff.mp h).2
  rw [hparts] at hplace
  split at hplace
  · -- a path that stays at the root has no names
    rcases hplace.1 x (by simp) with hempty | hpoint | habove
    · exact absurd hempty hx.ne_empty
    · exact absurd hpoint hx.ne_point
    · exact absurd habove hx.ne_above
  · exact foldlM_step_concat hx hplace

/-! ## Putting a file at a place -/

variable {t : FileTree} {p : List String}

theorem node?_put (hp : t.node? p ≠ some .directory) (n : FileNode) (q : List String) :
    (t.put p n).node? q = if q = p then some n else t.node? q := by
  have hall : ¬ p.all (· = above) = true := fun hall => hp (if_pos hall)
  simp only [node?, put, Table.find?_set]
  by_cases hq : q = p
  · subst hq
    rw [if_neg hall, if_pos rfl, if_pos rfl]
  · rw [if_neg hq, if_neg hq]

theorem isDirectory_put (hp : t.node? p ≠ some .directory) (c : Content) (q : List String) :
    (t.put p (.file c)).node? q = some .directory ↔ t.node? q = some .directory := by
  rw [node?_put hp]
  split
  next hq =>
    subst hq
    simp [hp]
  next => rfl

theorem step_put (hp : t.node? p ≠ some .directory) (c : Content) {q r : List String} {name : String} :
    (t.put p (.file c)).step q name = .ok r ↔ t.step q name = .ok r := by
  -- both steps go from a directory, and from there they are the same
  have hsame : t.node? q = some .directory → (t.put p (.file c)).step q name = t.step q name := by
    intro hq
    rw [step, step, (isDirectory_put hp c q).mpr hq, hq]
  constructor
  · intro h
    rw [← hsame ((isDirectory_put hp c q).mp (step_eq_ok h)), h]
  · intro h
    rw [hsame (step_eq_ok h), h]

theorem foldlM_eq_ok_of_step {t u : FileTree}
    (hstep : ∀ {q name r}, t.step q name = .ok r → u.step q name = .ok r)
    {names : List String} {q r : List String} (h : names.foldlM t.step q = .ok r) :
    names.foldlM u.step q = .ok r := by
  induction names generalizing q with
  | nil => exact h
  | cons name names ih =>
    rw [List.foldlM_cons] at h ⊢
    cases hname : t.step q name with
    | error e => rw [hname] at h; cases h
    | ok s =>
      rw [hname] at h
      rw [hstep hname]
      exact ih h

/-- Every path leads to the same place after a file was put where no directory was. -/
theorem resolve_put (hp : t.node? p ≠ some .directory) (c : Content) {path : String}
    {q : List String} :
    (t.put p (.file c)).resolve path = .ok q ↔ t.resolve path = .ok q := by
  have hroot : (t.put p (.file c)).fromRoot path = t.fromRoot path := rfl
  have hfold : ∀ names : List String,
      names.foldlM (t.put p (.file c)).step [] = .ok q ↔ names.foldlM t.step [] = .ok q := fun names =>
    ⟨foldlM_eq_ok_of_step (step_put hp c).mp, foldlM_eq_ok_of_step (step_put hp c).mpr⟩
  rw [resolve_eq_ok_iff, resolve_eq_ok_iff, hroot, hfold]

/-! ## Writing and reading -/

/-- A file can be made or replaced at a path. -/
def Writable (t : FileTree) (path : String) : Prop :=
  ∃ p, t.resolve path = .ok p ∧ t.node? p ≠ some .directory

theorem write_eq_ok_iff {path : String} {c : Content} {t' : FileTree} :
    t.write path c = .ok t' ↔
      ∃ p, t.resolve path = .ok p ∧ t.node? p ≠ some .directory ∧ t' = t.put p (.file c) := by
  rw [write]
  cases hpath : t.resolve path with
  | error e => simp
  | ok p =>
    simp only
    split
    next hdir => simp [hdir]
    next hdir =>
      constructor
      · intro h
        exact ⟨p, rfl, hdir, (Except.ok.inj h).symm⟩
      · rintro ⟨q, hq, -, rfl⟩
        rw [Except.ok.inj hq]

theorem exists_write_eq_ok_iff {path : String} {c : Content} :
    (∃ t', t.write path c = .ok t') ↔ t.Writable path := by
  simp only [write_eq_ok_iff, Writable]
  constructor
  · rintro ⟨_, p, hpath, hp, -⟩
    exact ⟨p, hpath, hp⟩
  · rintro ⟨p, hpath, hp⟩
    exact ⟨_, p, hpath, hp, rfl⟩

/-- Writing a file changes neither what can be written nor what cannot. -/
theorem writable_write {path : String} {c : Content} {t' : FileTree} (h : t.write path c = .ok t')
    (other : String) :
    t'.Writable other ↔ t.Writable other := by
  obtain ⟨p, -, hp, rfl⟩ := write_eq_ok_iff.mp h
  simp only [Writable, resolve_put hp, ne_eq, isDirectory_put hp]

theorem read_eq_ok_iff {path : String} {c : Content} :
    t.read path = .ok c ↔ ∃ p, t.resolve path = .ok p ∧ t.node? p = some (.file c) := by
  rw [read, find]
  cases hpath : t.resolve path with
  | error e => simp
  | ok p =>
    cases hnode : t.node? p with
    | none => simp [hnode]
    | some n => cases n <;> simp [hnode]

/-- **What was written is read.** -/
theorem read_write_same {path : String} {c : Content} {t' : FileTree} (h : t.write path c = .ok t') :
    t'.read path = .ok c := by
  obtain ⟨p, hpath, hp, rfl⟩ := write_eq_ok_iff.mp h
  exact read_eq_ok_iff.mpr ⟨p, (resolve_put hp c).mpr hpath, by rw [node?_put hp, if_pos rfl]⟩

/-- **Another name in the directory is read as before.** -/
theorem read_write_other {dir x y : String} (hx : IsName x) (hy : IsName y) (hne : y ≠ x)
    {c d : Content}
    {t' : FileTree} (h : t.write (join [dir, x]) c = .ok t') (hread : t.read (join [dir, y]) = .ok d) :
    t'.read (join [dir, y]) = .ok d := by
  obtain ⟨p, hpath, hp, rfl⟩ := write_eq_ok_iff.mp h
  obtain ⟨q, hq, hnode⟩ := read_eq_ok_iff.mp hread
  have hqp : q ≠ p := by
    rintro rfl
    have hlast := (getLast?_of_resolve hy hq).symm.trans (getLast?_of_resolve hx hpath)
    exact hne (Option.some.inj hlast)
  exact read_eq_ok_iff.mpr ⟨q, (resolve_put hp c).mpr hq, by rw [node?_put hp, if_neg hqp, hnode]⟩

end FileTree

end FlagFlow
