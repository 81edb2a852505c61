import Entrypoint.Proofs.Files.TreeWriting

/-! Which directories a write makes. A path leads through one place after the other, and these are all
that making its directories can add. On a path that never goes up each place is before the next, so
nothing comes about beside the place that the path names. -/

namespace Entrypoint

/-- The places that segments lead through, from the first one on. -/
def Place.way (place : Place) (segments : List String) : List Place :=
  segments.scanl Place.step place

/-- The places that a path leads through. -/
def Tree.wayOf (t : Tree) (path : String) : List Place :=
  Place.way (t.start path) (Path.segments path)

namespace Place

variable {place q : Place} {front back segs : List String} {s : String}

theorem way_cons (place : Place) (s : String) (segs : List String) :
    way place (s :: segs) = place :: way (place.step s) segs :=
  List.scanl_cons

theorem mem_way_self (place : Place) (segs : List String) : place ∈ way place segs := by
  cases segs with
  | nil => exact List.mem_singleton_self _
  | cons s segs => rw [way_cons]; exact List.mem_cons_self

theorem way_concat (place : Place) (front : List String) (s : String) :
    way place (front ++ [s]) = way place front ++ [(front.foldl step place).step s] := by
  induction front generalizing place with
  | nil => rfl
  | cons first front ih => rw [List.cons_append, way_cons, way_cons, ih]; rfl

theorem prefix_step (hup : s ≠ "..") (place : Place) : place <+: place.step s := by
  rw [step, if_neg hup]
  split
  · exact List.prefix_rfl
  · exact List.prefix_append _ _

/-- Without going up, every place on the way is before the last. -/
theorem prefix_of_mem_way (hup : ".." ∉ segs) (h : q ∈ way place segs) :
    q <+: segs.foldl step place := by
  induction segs generalizing place q with
  | nil => rw [List.mem_singleton.mp h]; exact List.prefix_rfl
  | cons s segs ih =>
    obtain ⟨hs, hup⟩ := not_or.mp fun hmem => hup (List.mem_cons.mpr hmem)
    rw [way_cons] at h
    rcases List.mem_cons.mp h with rfl | h
    · exact (prefix_step (Ne.symm hs) q).trans (ih hup (mem_way_self (q.step s) segs))
    · exact ih hup h

end Place

namespace Path

variable {base key : String}

/-- A plain name leads one place further than the path it is joined to. -/
theorem IsPlain.mem_wayOf_join (h : IsPlain key) {t : Tree} {q : Place}
    (hq : q ∈ t.wayOf (join base key)) : q ∈ t.wayOf base ∨ q = t.placeOf base ++ [key] := by
  have hstart : t.start (join base key) = t.start base := by
    rw [Tree.start, Tree.start, h.isRooted_join]
  have hlast := h.placeOf_join t base
  rw [Tree.placeOf, hstart] at hlast
  rw [Tree.wayOf, hstart] at hq
  obtain ⟨before, hsegments, hbefore⟩ : ∃ before, Path.segments (join base key) = before ++ [key] ∧
      Place.way (t.start base) before ⊆ t.wayOf base := by
    by_cases hempty : base = ""
    · subst hempty
      refine ⟨[], ?_, fun q hq => ?_⟩
      · rw [join, h.isRooted, if_neg Bool.false_ne_true, if_pos (.inl rfl), String.empty_append,
          h.segments, List.nil_append]
      · rw [List.mem_singleton.mp hq]
        exact Place.mem_way_self _ _
    rcases h.segments_join_cases hempty with hsegments | ⟨before, hbefore, hsegments⟩
    · exact ⟨_, hsegments, fun q hq => hq⟩
    · refine ⟨before, hsegments, fun q hq => ?_⟩
      rw [Tree.wayOf, hbefore, Place.way_concat]
      exact List.mem_append_left _ hq
  rw [hsegments] at hlast hq
  rw [Place.way_concat] at hq
  rcases List.mem_append.mp hq with hq | hq
  · exact .inl (hbefore hq)
  · rw [List.foldl_append] at hlast
    exact .inr ((List.mem_singleton.mp hq).trans hlast)

end Path

namespace Tree

variable {t t' : Tree} {place q : Place} {base key name content : String}

/-- Making directories changes nothing but what the segments lead through. -/
theorem entry?_makeDirectories {segs : List String} (h : q ∉ place.way segs) :
    Tree.entry? (t.makeDirectories place segs).1 q = t.entry? q := by
  fun_induction makeDirectories t place segs with
  | case1 t place => rfl
  | case2 t place s rest hidle ih =>
    rw [Place.way_cons, Place.step, if_pos hidle] at h
    exact ih (mt (List.mem_cons_of_mem _) h)
  | case3 t place rest hidle ih =>
    rw [Place.way_cons, Place.step, if_neg hidle, if_pos rfl] at h
    exact ih (mt (List.mem_cons_of_mem _) h)
  | case4 t place s rest hidle hup hdirectory ih =>
    rw [Place.way_cons, Place.step, if_neg hidle, if_neg hup] at h
    exact ih (mt (List.mem_cons_of_mem _) h)
  | case5 t place s rest hidle hup => rfl
  | case6 t place s rest hidle hup hnone hname ih =>
    rw [Place.way_cons, Place.step, if_neg hidle, if_neg hup] at h
    rw [ih (mt (List.mem_cons_of_mem _) h), entry?_set, if_neg]
    rintro rfl
    exact h (List.mem_cons_of_mem _ (Place.mem_way_self _ _))
  | case7 t place s rest hidle hup hnone hname => rfl

/-- A write into a directory below a path changes the file, and else nothing but what the path leads
through and the directory. -/
theorem entry?_write (hkey : Path.IsPlain key) (hname : Path.IsPlain name)
    (h : t.write (Path.join base key) name content = (t', .ok ())) (hway : q ∉ t.wayOf base)
    (hdirectory : q ≠ t.placeOf base ++ [key]) (hfile : q ≠ t.placeOf base ++ [key, name]) :
    Tree.entry? t' q = t.entry? q := by
  obtain ⟨grown, hmade, -, rfl⟩ := write_eq_ok hkey hname h
  rw [hkey.placeOf_join] at hmade ⊢
  have hgrown : grown = (t.makeDirectories (t.start (Path.join base key))
      (Path.segments (Path.join base key))).1 := (congrArg Prod.fst hmade).symm
  rw [entry?_set, if_neg (by rwa [List.append_assoc]), hgrown]
  exact entry?_makeDirectories fun hmem => (hkey.mem_wayOf_join hmem).elim hway hdirectory

theorem Gains.wayOf_eq {files : List (Place × String)} (H : t.Gains t' files) (path : String) :
    t'.wayOf path = t.wayOf path := by
  rw [wayOf, wayOf, start, start, H.working]

theorem write_eq_error {fault : Fault} (h : (t.write base name content).2 = .error fault) :
    ∃ path, fault = .io path := by
  delta write at h
  dsimp only at h
  split at h
  · cases h
    exact ⟨_, rfl⟩
  · split at h
    · cases h
    · cases h
      exact ⟨_, rfl⟩

end Tree

end Entrypoint
