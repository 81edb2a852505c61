import Entrypoint.Proofs.Files.ModuleWalk
import Entrypoint.Proofs.Interspersed

/-! The source files of a tree that gained files. Those from before are found again, in their order,
and of the gained files those below the module come between them. The path that leads to a place
below a module leads to the file there. -/

namespace Entrypoint

namespace Tree

open Discovery (isFound placesBelow placesMet)

variable {t t' : Tree} {base below place p q : Place} {e : Entry} {segs : List String}
  {files : List (Place × String)} {content name s path : String}

/-! ### Trees with one entry a place -/

/-- No place has two entries. -/
def Distinct (t : Tree) : Prop := (t.entries.map (·.1)).Nodup

/-- A tree of files as a file system has it. -/
structure IsProper (t : Tree) : Prop where
  sound : t.Sound
  distinct : t.Distinct
  working : ∀ name ∈ t.working, Path.IsPlain name

theorem Distinct.set (H : t.Distinct) (place : Place) (e : Entry) : (t.set place e).Distinct := by
  have hkept : ((t.entries.filter fun e => e.1 != place).map (·.1)).Nodup :=
    List.Sublist.nodup (List.Sublist.map _ List.filter_sublist) H
  have hfree : place ∉ (t.entries.filter fun e => e.1 != place).map (·.1) := by
    simp
  rw [Distinct, Tree.set, List.map_append, List.map_singleton]
  refine List.nodup_append.mpr ⟨hkept, List.pairwise_singleton _ _, fun q hq q' hq' => ?_⟩
  rw [List.mem_singleton.mp hq']
  rintro rfl
  exact hfree hq

theorem Distinct.makeDirectories (H : t.Distinct) (place : Place) (segs : List String) :
    (t.makeDirectories place segs).1.Distinct := by
  fun_induction Tree.makeDirectories t place segs with
  | case1 | case5 | case7 => exact H
  | case2 _ _ _ _ _ ih | case3 _ _ _ _ ih | case4 _ _ _ _ _ _ _ ih => exact ih H
  | case6 _ _ _ _ _ _ _ _ ih => exact ih (H.set _ _)

theorem Distinct.write (H : t.Distinct) (directory name content : String) :
    (t.write directory name content).1.Distinct := by
  have hmade := H.makeDirectories (t.start (Path.join directory name))
    (Path.segments (Path.parent (Path.join directory name)))
  delta Tree.write
  dsimp only
  generalize t.makeDirectories (t.start (Path.join directory name))
    (Path.segments (Path.parent (Path.join directory name))) = made at hmade ⊢
  obtain ⟨grown, _ | place⟩ := made
  · exact hmade
  · cases hinto : grown.writeInto? place name content with
    | none =>
      simp only [hinto]
      exact hmade
    | some written =>
      simp only [hinto]
      rw [(writeInto?_eq_some hinto).2]
      exact Distinct.set hmade _ _

theorem Distinct.entry?_iff (H : t.Distinct) (hplace : place ≠ []) :
    t.entry? place = some e ↔ (place, e) ∈ t.entries := by
  rw [Tree.entry?, if_neg hplace, List.lookup_eq_some_iff]
  constructor
  · rintro ⟨front, back, hentries, _⟩
    rw [hentries]
    exact List.mem_append_right _ List.mem_cons_self
  · intro hmem
    obtain ⟨front, back, hentries⟩ := List.append_of_mem hmem
    refine ⟨front, back, hentries, fun entry hentry => ?_⟩
    rw [Distinct, hentries, List.map_append, List.map_cons, List.nodup_append] at H
    exact bne_iff_ne.mpr (H.2.2 _ (List.mem_map_of_mem hentry) _ List.mem_cons_self).symm

/-! ### Places below a module -/

theorem Distinct.nodup_listing (H : t.Distinct) (place : Place) : (t.listing place).Nodup := by
  refine List.Pairwise.filterMap _ (fun p q hne name hp name' hq heq => ?_) H
  refine hne ?_
  rw [Discovery.nameIn?_eq_some_iff.mp hp, Discovery.nameIn?_eq_some_iff.mp hq, heq]

/-- The places of one listing are those of another that are found there, if they are so as sets. -/
theorem Distinct.placesBelow_eq_filter (H : t.Distinct) (H' : t'.Distinct)
    (hsubset : ∀ below ∈ placesBelow t base, below ∈ placesBelow t' base) :
    placesBelow t base =
      (placesBelow t' base).filter fun below => decide (below ∈ placesBelow t base) := by
  refine (eq_placesBelow H.nodup_listing ((pairwise_placesBelow t' base).filter _)
    ((nodup_placesBelow H'.nodup_listing base).filter _) fun below => ?_).symm
  rw [List.mem_filter, decide_eq_true_eq]
  exact ⟨And.right, fun h => ⟨hsubset below h, h⟩⟩

theorem Gains.mem_placesBelow (hgains : t.Gains t' files) (hsound : t.Sound) (hsound' : t'.Sound)
    (h : below ∈ placesBelow t base) : below ∈ placesBelow t' base := by
  obtain ⟨hvisible, e, hentry, hfound⟩ := hsound.mem_placesBelow.mp h
  obtain ⟨hfile, hnamed⟩ := isFound_iff.mp hfound
  rw [hsound'.mem_placesBelow]
  by_cases hgained : base ++ below ∈ files.map (·.1)
  · obtain ⟨f, hf, hplace⟩ := List.mem_map.mp hgained
    exact ⟨hvisible, .text f.2, hplace ▸ hgains.file f hf, isFound_iff.mpr ⟨rfl, hnamed⟩⟩
  · exact ⟨hvisible, e, (hgains.file_iff hfile).mpr (.inr ⟨hgained, hentry⟩), hfound⟩

/-- A place has a name of a source file. -/
def IsSourcePlace (place : Place) : Prop := place.getLast?.any Discovery.isSourceName = true

/-- What is found only afterwards is a source file that was gained. -/
theorem Gains.exists_of_mem_placesBelow (hgains : t.Gains t' files) (hsound : t.Sound)
    (hsound' : t'.Sound) (h : below ∈ placesBelow t' base) (hnew : below ∉ placesBelow t base) :
    ∃ f ∈ files, f.1 = base ++ below ∧ IsSourcePlace f.1 := by
  obtain ⟨hvisible, e, hentry, hfound⟩ := hsound'.mem_placesBelow.mp h
  obtain ⟨hfile, hname⟩ := isFound_iff.mp hfound
  rcases (hgains.file_iff hfile).mp hentry with ⟨content, hf, _⟩ | ⟨_, hold⟩
  · refine ⟨_, hf, rfl, ?_⟩
    cases hlast : below.getLast? with
    | none => simp [hlast] at hname
    | some name => rw [IsSourcePlace, List.getLast?_append, hlast, Option.some_or, ← hlast, hname]
  · exact absurd (hsound.mem_placesBelow.mpr ⟨hvisible, e, hold, hfound⟩) hnew

/-! ### Paths to places below a module -/

theorem walk?_of_concat_empty (h : t.walk? place (segs ++ [""]) = some p) :
    t.walk? place segs = some p := by
  rw [walk?_append] at h
  obtain ⟨q, hq, hlast⟩ := Option.bind_eq_some_iff.mp h
  rw [Tree.walk?] at hlast
  split at hlast
  · rw [hq, ← show some q = some p from hlast]
  · cases hlast

/-- The path of a directory leads on to what stands in it. -/
theorem find?_join (hname : Path.IsPlain name) (h : t.find? path = some place)
    (hdirectory : t.isDirectory place = true) (hentry : (t.entry? (place ++ [name])).isSome) :
    t.find? (Path.join path name) = some (place ++ [name]) := by
  have hpath : path ≠ "" := by
    rintro rfl
    cases h
  have hstart : t.start (Path.join path name) = t.start path := by
    rw [start, start, hname.isRooted_join]
  have hlast : t.walk? place [name] = some (place ++ [name]) := by
    rw [Tree.walk?, if_pos hdirectory, hname.idle, if_neg Bool.false_ne_true, if_neg hname.up,
      if_pos hentry]
    rfl
  rw [Tree.find?, if_neg hpath] at h
  rw [Tree.find?, if_neg (hname.join_ne_empty path), hstart]
  rcases hname.segments_join_cases hpath with hsegments | ⟨before, hbefore, hsegments⟩
  · rw [hsegments, walk?_append, h, Option.bind_some, hlast]
  · rw [hbefore] at h
    rw [hsegments, walk?_append, walk?_of_concat_empty h, Option.bind_some, hlast]

/-- The path of a place below a directory leads there. -/
theorem Sound.find?_foldl_join (H : t.Sound) (h : t.find? path = some place)
    (hnames : ∀ name ∈ below, Path.IsPlain name) (hentry : (t.entry? (place ++ below)).isSome) :
    t.find? (below.foldl Path.join path) = some (place ++ below) := by
  induction below generalizing path place with
  | nil => rwa [List.append_nil]
  | cons name below ih =>
    obtain ⟨hname, hnames⟩ := List.forall_mem_cons.mp hnames
    have hsplit : place ++ name :: below = (place ++ [name]) ++ below := by simp
    have hdirectory := H.isDirectory_of_append hentry (List.cons_ne_nil name below)
    rw [hsplit] at hentry ⊢
    exact ih (find?_join hname h hdirectory (H.isSome_of_append hentry)) hnames hentry

theorem Sound.isSome_entry?_of_walk? (H : t.Sound) (hplace : (t.entry? place).isSome)
    (h : t.walk? place segs = some p) : (t.entry? p).isSome := by
  induction segs generalizing place with
  | nil =>
    cases h
    exact hplace
  | cons s rest ih =>
    rw [Tree.walk?] at h
    split at h
    · rename_i hdirectory
      split at h
      · exact ih hplace h
      split at h
      · exact ih (by rw [isDirectory_iff.mp (H.isDirectory_dropLast hdirectory)]; rfl) h
      split at h
      · rename_i hentry
        exact ih hentry h
      · cases h
    · cases h

/-- Something stands at the place that a path leads to. -/
theorem Sound.isSome_entry?_of_find? (H : t.Sound) (h : t.find? path = some place) :
    (t.entry? place).isSome := by
  rw [Tree.find?] at h
  split at h
  · cases h
  · exact H.isSome_entry?_of_walk? (by rw [isDirectory_iff.mp (H.start path)]; rfl) h

/-- Where something stands, a directory stands afterwards only if it did before. -/
theorem Gains.isDirectory_eq (hgains : t.Gains t' files) (h : (t.entry? place).isSome) :
    t'.isDirectory place = t.isDirectory place := by
  by_cases hgained : place ∈ files.map (·.1)
  · obtain ⟨f, hf, rfl⟩ := List.mem_map.mp hgained
    rw [hgains.free f hf, Tree.isDirectory, hgains.file f hf]
    rfl
  · obtain heq | ⟨hnone, _⟩ := hgains.other place hgained
    · rw [Tree.isDirectory, heq, Tree.isDirectory]
    · rw [hnone] at h
      cases h

/-- The names of a path lead down by plain names. -/
theorem isPlain_of_mem_placeOf (hworking : ∀ name ∈ t.working, Path.IsPlain name) (path : String) :
    ∀ name ∈ t.placeOf path, Path.IsPlain name := by
  have hstep : ∀ segs : List String, (∀ s ∈ segs, '/' ∉ s.toList) → ∀ place : Place,
      (∀ name ∈ place, Path.IsPlain name) →
        ∀ name ∈ segs.foldl Place.step place, Path.IsPlain name := by
    intro segs
    induction segs with
    | nil => exact fun _ _ hplace => hplace
    | cons s segs ih =>
      intro hsegs place hplace
      obtain ⟨hs, hsegs⟩ := List.forall_mem_cons.mp hsegs
      refine ih hsegs _ fun name hname => ?_
      rw [Place.step] at hname
      split at hname
      · exact hplace name hname
      rename_i hidle
      split at hname
      · exact hplace name (List.dropLast_subset place hname)
      rename_i hup
      rcases List.mem_append.mp hname with hname | hname
      · exact hplace name hname
      · rw [List.mem_singleton.mp hname]
        exact ⟨hs, Bool.eq_false_iff.mpr hidle, hup⟩
  refine hstep _ (fun s hs => ?_) _ fun name hname => ?_
  · obtain ⟨piece, hpiece, rfl⟩ := List.mem_map.mp hs
    rw [String.toList_ofList]
    exact Text.notMem_of_mem_splitAt hpiece
  · rw [Tree.start] at hname
    split at hname
    · cases hname
    · exact hworking name hname

/-! ### Source files afterwards -/

/-- A path leads to a directory, and a walk through it comes by the source files at the given places,
in this order. -/
def listsSources (t : Tree) (path : String) (places : List Place) : Bool :=
  (t.find? path).any fun place =>
    t.isDirectory place && placesMet t place == places

/-- Source files that are listed in their order are found in this order. -/
theorem sourceFiles_of_listsSources {places : List Place} (h : t.listsSources path places = true)
    (hsorted : places.Pairwise fun a b => Discovery.precedes a b = true) :
    t.sourceFiles path = .ok (places.map fun below => below.foldl Path.join path) := by
  obtain ⟨place, hfind, h⟩ := (Option.any_eq_true _ _).mp h
  rw [Bool.and_eq_true, beq_iff_eq] at h
  rw [Tree.sourceFiles, hfind]
  dsimp only
  rw [if_pos h.1, placesBelow, h.2, List.mergeSort_of_pairwise hsorted]

/-- The source files of a module are those from before, with gained files between them. -/
theorem Gains.sourceFiles (hgains : t.Gains t' files) (hsound : t.Sound) (hsound' : t'.Sound)
    (H : t.Distinct) (H' : t'.Distinct) (hnames : ∀ f ∈ files, ∀ name ∈ f.1, Path.IsPlain name)
    (hmissing : t.find? path = none → t'.find? path = none) :
    (∃ fault, t.sourceFiles path = .error fault ∧ t'.sourceFiles path = .error fault) ∨
      ∃ paths paths', t.sourceFiles path = .ok paths ∧ t'.sourceFiles path = .ok paths' ∧
        Interspersed (fun p => p ∈ paths' ∧
          ∃ f ∈ files, IsSourcePlace f.1 ∧ t'.find? p = some f.1) paths paths' := by
  rw [Tree.sourceFiles, Tree.sourceFiles]
  cases hfind : t.find? path with
  | none =>
    rw [hmissing hfind]
    exact .inl ⟨_, rfl, rfl⟩
  | some place =>
    rw [hgains.find? hfind]
    dsimp only
    rw [hgains.isDirectory_eq (hsound.isSome_entry?_of_find? hfind)]
    split
    · refine .inr ⟨_, _, rfl, rfl, ?_⟩
      rw [H.placesBelow_eq_filter H' fun below => hgains.mem_placesBelow hsound hsound']
      have hplaces : Interspersed (fun below => below ∈ placesBelow t' place ∧
          ∃ f ∈ files, f.1 = place ++ below ∧ IsSourcePlace f.1)
          ((placesBelow t' place).filter fun below => decide (below ∈ placesBelow t place))
          (placesBelow t' place) := .of_filter fun below hbelow hnew =>
        ⟨hbelow, hgains.exists_of_mem_placesBelow hsound hsound' hbelow (of_decide_eq_false hnew)⟩
      refine hplaces.map ?_
      rintro below ⟨hbelow, f, hf, hplace, hsource⟩
      refine ⟨List.mem_map_of_mem hbelow, f, hf, hsource, ?_⟩
      rw [hplace]
      refine hsound'.find?_foldl_join (hgains.find? hfind) (fun name hname => ?_) ?_
      · exact hnames f hf name (hplace ▸ List.mem_append_right _ hname)
      · rw [← hplace, hgains.file f hf]
        rfl
    · split
      · exact .inr ⟨_, _, rfl, rfl, .keep _ .nil⟩
      · exact .inl ⟨_, rfl, rfl⟩

end Tree

end Entrypoint
