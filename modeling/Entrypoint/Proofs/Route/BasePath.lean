import Entrypoint.Proofs.Route.CleanForm
import Entrypoint.Service.Basic

/-! Paths below a base path. The segments of a path are put on those of its base, so only these
matter of the base, and a path without steps back only adds to them. -/

namespace Entrypoint

namespace Route

open Text (splitAt)

/-- The segments of a text that say something: they are neither empty nor a single dot. -/
def parts (path : List Char) : List (List Char) :=
  (splitAt '/' path).filter fun segment => segment ≠ [] ∧ segment ≠ ['.']

variable {rooted : Bool} {base path : List Char} {stack pieces : List (List Char)}

theorem back_mem_parts : back ∈ parts path ↔ back ∈ splitAt '/' path := by
  simp [parts, back]

/-- Segments that do not lead back are put on the stack, but for those that stay. -/
theorem foldl_push_of_notMem (h : back ∉ pieces) : pieces.foldl (push rooted) stack =
    (pieces.filter fun segment => segment ≠ [] ∧ segment ≠ ['.']).reverse ++ stack := by
  induction pieces generalizing stack with
  | nil => rfl
  | cons segment pieces ih =>
    obtain ⟨hsegment, hpieces⟩ := not_or.mp fun hmem => h (List.mem_cons.mpr hmem)
    rw [List.foldl_cons, ih hpieces]
    rcases segment_cases segment with hname | rfl | rfl | rfl
    · rw [push_name hname, List.filter_cons_of_pos (by simpa using ⟨hname.1, hname.2.1⟩),
        List.reverse_cons, List.append_assoc, List.singleton_append]
    · exact absurd rfl hsegment
    · rw [push_nil, List.filter_cons_of_neg (by simp)]
    · rw [push_dot, List.filter_cons_of_neg (by simp)]

theorem segments_of_notMem (h : back ∉ splitAt '/' path) : segments path = parts path := by
  rw [segments, foldl_push_of_notMem h, List.append_nil, List.reverse_reverse, parts]

/-- The text of clean segments has these parts. -/
theorem IsClean.parts_ofSegments (H : IsClean rooted pieces.reverse)
    (hslash : ∀ segment ∈ pieces, '/' ∉ segment) : parts (ofSegments rooted pieces) = pieces := by
  have hkeep : pieces.filter (fun segment => segment ≠ [] ∧ segment ≠ ['.']) = pieces := by
    obtain ⟨ups, names, rfl, hnames, _⟩ := isClean_iff.mp H
    refine List.filter_eq_self.mpr fun segment hsegment => ?_
    rcases List.mem_append.mp hsegment with hback | hname
    · rw [List.eq_of_mem_replicate hback]
      decide
    · simpa using ⟨(hnames segment hname).1, (hnames segment hname).2.1⟩
  cases pieces with
  | nil => cases rooted <;> rfl
  | cons segment pieces =>
    have hsplit := Text.splitAt_joinWith hslash (List.cons_ne_nil _ _)
    cases rooted with
    | true => rw [parts, ofSegments, if_pos rfl, splitAt_slash, hsplit,
        List.filter_cons_of_neg (by simp), hkeep]
    | false => rw [parts, ofSegments, if_neg Bool.false_ne_true, List.isEmpty_cons,
        if_neg Bool.false_ne_true, hsplit, hkeep]

theorem parts_clean (path : List Char) : parts (clean path) = segments path :=
  (isClean_segments path).parts_ofSegments fun _ => slash_notMem_segments

theorem back_notMem_clean (h : back ∉ splitAt '/' path) : back ∉ splitAt '/' (clean path) := by
  rwa [← back_mem_parts, parts_clean, segments_of_notMem h, back_mem_parts]

/-! ### Joined paths -/

theorem isRooted_append (hbase : base ≠ []) : isRooted (base ++ '/' :: path) = isRooted base := by
  obtain ⟨c, rest, rfl⟩ := List.exists_cons_of_ne_nil hbase
  rfl

/-- The segments of a path are put on those of its base. -/
theorem segments_append (hbase : base ≠ []) : segments (base ++ '/' :: path) =
    ((splitAt '/' path).foldl (push (isRooted base)) (segments base).reverse).reverse := by
  rw [segments, isRooted_append hbase, Text.splitAt_append, List.foldl_append, segments,
    List.reverse_reverse]

theorem clean_ne_nil (path : List Char) : clean path ≠ [] := by
  intro h
  have H := canonical_clean path
  rw [h] at H
  generalize isRooted path = rooted at H
  cases H with
  | @relative _ ups names hsplit hnames =>
    cases ups with
    | zero =>
      obtain rfl : [[]] = names := hsplit
      exact (hnames [] (List.mem_singleton_self _)).1 rfl
    | succ ups => cases hsplit

theorem clean_congr {path' : List Char} (hrooted : isRooted path = isRooted path')
    (hsegments : segments path = segments path') : clean path = clean path' := by
  rw [clean, clean, hrooted, hsegments]

theorem combine_eq (hbase : base ≠ []) : combine base path = clean (base ++ '/' :: path) := by
  rw [combine, List.isEmpty_eq_false_iff.mpr hbase, if_neg Bool.false_ne_true]

/-- Only the segments of a base matter. -/
theorem combine_clean_base (hbase : base ≠ []) : combine (clean base) path = combine base path := by
  rw [combine_eq hbase, combine_eq (clean_ne_nil base)]
  refine clean_congr ?_ ?_
  · rw [isRooted_append hbase, isRooted_append (clean_ne_nil base), isRooted_clean]
  · rw [segments_append hbase, segments_append (clean_ne_nil base), isRooted_clean, segments_clean]

theorem isRooted_combine (hbase : base ≠ []) : isRooted (combine base path) = isRooted base := by
  rw [combine_eq hbase, isRooted_clean, isRooted_append hbase]

/-- A path without steps back adds its parts to those of its base. -/
theorem parts_combine (hbase : base ≠ []) (h : back ∉ splitAt '/' path) :
    parts (combine base path) = parts (clean base) ++ parts path := by
  rw [combine_eq hbase, parts_clean, segments_append hbase, foldl_push_of_notMem h, parts_clean,
    List.reverse_append, List.reverse_reverse, List.reverse_reverse, parts]

/-- A path without steps back may be cleaned first. -/
theorem combine_clean_path (hbase : base ≠ []) (h : back ∉ splitAt '/' path) :
    combine base (clean path) = combine base path := by
  rw [combine_eq hbase, combine_eq hbase]
  refine clean_congr ?_ ?_
  · rw [isRooted_append hbase, isRooted_append hbase]
  · rw [segments_append hbase, segments_append hbase, foldl_push_of_notMem h,
      foldl_push_of_notMem (back_notMem_clean h), ← parts, ← parts, parts_clean, segments_of_notMem h]

/-- **Paths below a base path.** A base may be cleaned first, and the result is rooted as the base
is. A path without steps back may be cleaned first too, and its parts come after those of the clean
base, so the route of a handler does not leave the base path of its service. -/
theorem combinePaths_compositional {base : String} (hbase : base ≠ "") (path : String) :
    combinePaths (cleanPath base) path = combinePaths base path ∧
      isRooted (combinePaths base path).toList = isRooted base.toList ∧
        (back ∉ splitAt '/' path.toList →
          parts (combinePaths base path).toList =
              parts (cleanPath base).toList ++ parts path.toList ∧
            combinePaths base (cleanPath path) = combinePaths base path ∧
            ∀ (service : Service) (handler : Handler), service.basePath? = some base →
              handler.path = path →
                parts (cleanPath base).toList <+: parts (service.effectivePath handler).toList) := by
  have hbase : base.toList ≠ [] := mt String.toList_eq_nil_iff.mp hbase
  have hparts (h : back ∉ splitAt '/' path.toList) : parts (combinePaths base path).toList =
      parts (cleanPath base).toList ++ parts path.toList := by
    rw [combinePaths, cleanPath, String.toList_ofList, String.toList_ofList, parts_combine hbase h]
  refine ⟨?_, ?_, fun h => ⟨hparts h, ?_, fun service handler hservice hpath => ?_⟩⟩
  · rw [combinePaths, cleanPath, String.toList_ofList, combine_clean_base hbase, combinePaths]
  · rw [combinePaths, String.toList_ofList, isRooted_combine hbase]
  · rw [combinePaths, cleanPath, String.toList_ofList, combine_clean_path hbase h, combinePaths]
  · rw [Service.effectivePath, hservice, Option.getD_some, hpath, hparts h]
    exact List.prefix_append _ _

/-- A base with a step back, and a path with empty segments and a dot. -/
theorem combinePaths_below_api :
    "/v1/../api/" ≠ "" ∧ back ∉ splitAt '/' "//users/./all/".toList ∧
      combinePaths "/v1/../api/" "//users/./all/" = "/api/users/all" ∧
      combinePaths (cleanPath "/v1/../api/") "//users/./all/" = "/api/users/all" ∧
        parts "/api/users/all".toList =
          parts (cleanPath "/v1/../api/").toList ++ parts "//users/./all/".toList ∧
        combinePaths "/v1/../api/" (cleanPath "//users/./all/") = "/api/users/all" := by
  have hbase : "/v1/../api/" ≠ "" := by decide
  have hpath : back ∉ splitAt '/' "//users/./all/".toList := by decide
  have hcombined : combinePaths "/v1/../api/" "//users/./all/" = "/api/users/all" := by
    decide
  obtain ⟨hclean, _, hbelow⟩ := combinePaths_compositional hbase "//users/./all/"
  obtain ⟨hparts, hcleaned, _⟩ := hbelow hpath
  rw [hcombined] at hclean hparts hcleaned
  exact ⟨hbase, hpath, hcombined, hclean, hparts, hcleaned⟩

end Route

end Entrypoint
