import Entrypoint.Files.Tree
import Entrypoint.Proofs.Text.CharSplit

/-! Names joined to a path. A plain name has no slash and leads one step down, so the path with the
name joined names the place below, and the directory of a name joined to a path that ends in a plain
name is that path as it is written. -/

namespace Entrypoint

/-- Where a segment leads from a place, whatever stands there. -/
def Place.step (place : Place) (segment : String) : Place :=
  if Path.isIdle segment then place
  else if segment = ".." then place.dropLast
  else place ++ [segment]

/-- The place that a path names, whatever stands there. -/
def Tree.placeOf (t : Tree) (path : String) : Place :=
  (Path.segments path).foldl Place.step (t.start path)

namespace Path

/-- A name without slashes that leads one step down. -/
structure IsPlain (name : String) : Prop where
  slash : '/' ∉ name.toList
  idle : isIdle name = false
  up : name ≠ ".."

variable {base key name s : String} {segs : List String}

theorem IsPlain.step (h : IsPlain name) (place : Place) : place.step name = place ++ [name] := by
  rw [Place.step, h.idle, if_neg Bool.false_ne_true, if_neg h.up]

theorem IsPlain.ne_empty (h : IsPlain name) : name ≠ "" := by
  rintro rfl
  exact absurd h.idle (by decide)

theorem IsPlain.toList_ne_nil (h : IsPlain name) : name.toList ≠ [] := by
  simpa using h.ne_empty

theorem IsPlain.isRooted (h : IsPlain name) : Path.isRooted name = false := by
  rw [Path.isRooted, beq_eq_false_iff_ne]
  exact fun heq => h.slash (List.mem_of_head? heq)

/-! ### Segments -/

theorem intercalate_segments (path : String) : "/".intercalate (segments path) = path := by
  rw [← String.toList_inj, String.toList_intercalate, segments, List.map_map]
  simp only [Function.comp_def, String.toList_ofList, List.map_id']
  exact Text.intercalate_splitAt '/' path.toList

theorem segments_append (before after : String) :
    segments (before ++ "/" ++ after) = segments before ++ segments after := by
  have hchars : (before ++ "/" ++ after).toList = before.toList ++ '/' :: after.toList := by
    rw [String.toList_append, String.toList_append, List.append_assoc]
    rfl
  rw [segments, hchars, Text.splitAt_append, List.map_append]
  rfl

theorem IsPlain.segments (h : IsPlain name) : Path.segments name = [name] := by
  rw [Path.segments, Text.splitAt_of_notMem h.slash, List.map_singleton, String.ofList_toList]

theorem exists_append_slash (h : base.toList.getLast? = some '/') :
    ∃ before : String, base = before ++ "/" ++ "" := by
  obtain ⟨front, hfront⟩ := List.getLast?_eq_some_iff.mp h
  refine ⟨String.ofList front, ?_⟩
  rw [← String.toList_inj, hfront]
  simp

theorem IsPlain.segments_join_cases (h : IsPlain name) (hbase : base ≠ "") :
    Path.segments (join base name) = Path.segments base ++ [name] ∨
      ∃ before, Path.segments base = before ++ [""] ∧
        Path.segments (join base name) = before ++ [name] := by
  rw [join, h.isRooted, if_neg Bool.false_ne_true]
  by_cases hslash : base.toList.getLast? = some '/'
  · obtain ⟨before, rfl⟩ := exists_append_slash hslash
    refine .inr ⟨Path.segments before, segments_append before "", ?_⟩
    rw [if_pos (.inr hslash), String.append_empty, segments_append, h.segments]
  · refine .inl ?_
    rw [if_neg (not_or.mpr ⟨hbase, hslash⟩), segments_append, h.segments]

theorem IsPlain.segments_join (h : IsPlain name) (base : String) :
    ∃ before, Path.segments (join base name) = before ++ [name] ∧
      ∀ place, before.foldl Place.step place = (Path.segments base).foldl Place.step place := by
  have hidle : ∀ place : Place, place.step "" = place := fun place => rfl
  by_cases hempty : base = ""
  · subst hempty
    refine ⟨[], ?_, fun place => (hidle place).symm⟩
    rw [join, h.isRooted, if_neg Bool.false_ne_true, if_pos (.inl rfl), String.empty_append,
      h.segments, List.nil_append]
  rcases h.segments_join_cases hempty with hsegments | ⟨before, hbefore, hsegments⟩
  · exact ⟨Path.segments base, hsegments, fun _ => rfl⟩
  · refine ⟨before, hsegments, fun place => ?_⟩
    rw [hbefore, List.foldl_append]
    exact (hidle _).symm

theorem IsPlain.join_ne_empty (h : IsPlain name) (base : String) : join base name ≠ "" := by
  rw [join, h.isRooted, if_neg Bool.false_ne_true]
  split <;> exact fun heq => h.ne_empty (String.append_eq_empty_iff.mp heq).2

theorem IsPlain.isRooted_join (h : IsPlain name) (base : String) :
    Path.isRooted (join base name) = Path.isRooted base := by
  rw [join, h.isRooted, if_neg Bool.false_ne_true]
  by_cases hempty : base = ""
  · subst hempty
    rw [if_pos (.inl rfl), String.empty_append, h.isRooted]
    rfl
  · obtain ⟨c, rest, hc⟩ := List.exists_cons_of_ne_nil (show base.toList ≠ [] by simpa using hempty)
    split
    · rw [Path.isRooted, Path.isRooted, String.toList_append, hc]
      rfl
    · rw [Path.isRooted, Path.isRooted, String.toList_append, String.toList_append, hc]
      rfl

theorem IsPlain.placeOf_join (h : IsPlain name) (t : Tree) (base : String) :
    t.placeOf (join base name) = t.placeOf base ++ [name] := by
  obtain ⟨before, hsegments, hfold⟩ := h.segments_join base
  rw [Tree.placeOf, hsegments, List.foldl_append, hfold, Tree.placeOf, Tree.start, Tree.start,
    h.isRooted_join]
  exact h.step _

/-! ### Parents -/

theorem dropIdle_concat (h : isIdle s = false) : dropIdle (segs ++ [s]) = segs ++ [s] := by
  rw [dropIdle, List.reverse_append, List.reverse_singleton, List.singleton_append,
    List.dropWhile_cons_of_neg (by simp [h]), List.reverse_cons, List.reverse_reverse]

/-- A name joined to a path that ends in a plain name comes after a slash. -/
theorem IsPlain.join_join (hkey : IsPlain key) (hname : IsPlain name) (base : String) :
    join (join base key) name = join base key ++ "/" ++ name := by
  obtain ⟨front, hfront⟩ : ∃ front, (join base key).toList = front ++ key.toList := by
    rw [join, hkey.isRooted, if_neg Bool.false_ne_true]
    split
    · exact ⟨base.toList, String.toList_append⟩
    · exact ⟨(base ++ "/").toList, String.toList_append⟩
  have hlast : (join base key).toList.getLast? ≠ some '/' := by
    obtain ⟨c, hc⟩ := Option.ne_none_iff_exists'.mp
      (mt List.getLast?_eq_none_iff.mp hkey.toList_ne_nil)
    rw [hfront, List.getLast?_append, hc, Option.some_or, ← hc]
    exact fun heq => hkey.slash (List.mem_of_getLast? heq)
  have hempty : join base key ≠ "" := by
    intro heq
    rw [heq] at hfront
    exact hkey.toList_ne_nil (List.append_eq_nil_iff.mp hfront.symm).2
  rw [join, hname.isRooted, if_neg Bool.false_ne_true, if_neg (not_or.mpr ⟨hempty, hlast⟩)]

theorem IsPlain.segments_join_join (hkey : IsPlain key) (hname : IsPlain name) (base : String) :
    Path.segments (join (join base key) name) = Path.segments (join base key) ++ [name] := by
  rw [hkey.join_join hname, segments_append, hname.segments]

/-- The directory of a name joined to a path that ends in a plain name is the path. -/
theorem IsPlain.parent_join_join (hkey : IsPlain key) (hname : IsPlain name) (base : String) :
    parent (join (join base key) name) = join base key := by
  obtain ⟨before, hsegments, _⟩ := hkey.segments_join base
  have hdirectory := intercalate_segments (join base key)
  rw [hkey.join_join hname, parent, segments_append, hname.segments]
  generalize join base key = directory at *
  rw [hsegments] at hdirectory ⊢
  have hdrop : ∀ front, dropIdle (dropIdle (front ++ [key] ++ [name])).dropLast = front ++ [key] := by
    intro front
    rw [dropIdle_concat hname.idle, List.dropLast_concat, dropIdle_concat hkey.idle]
  cases before with
  | nil =>
    simp only [List.nil_append, List.singleton_append, hkey.idle]
    rw [if_neg Bool.false_ne_true]
    exact (congrArg ("/".intercalate ·) (hdrop [])).trans hdirectory
  | cons first rest =>
    simp only [List.cons_append]
    split
    · rw [hdrop, if_neg (by simp)]
      exact hdirectory
    · exact (congrArg ("/".intercalate ·) (hdrop (first :: rest))).trans hdirectory

end Path

end Entrypoint
