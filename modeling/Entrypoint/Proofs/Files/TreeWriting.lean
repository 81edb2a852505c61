import Entrypoint.Proofs.Files.PathJoining

/-! Writing into a tree. What a write does to a tree is that one file is set, directories are added
where nothing stood, and all else stays. Writes one after the other set their files, if no two of
them are at one place. In a tree whose entries stand in directories, the path of a file that was
written leads to it. -/

namespace Entrypoint.Tree

variable {t t' t'' : Tree} {place p q : Place} {e : Entry} {segs : List String}
  {files rest : List (Place × String)} {content s : String}

/-! ### Entries -/

theorem lookup_set (entries : List (Place × Entry)) :
    ((entries.filter fun e => e.1 != place) ++ [(place, e)]).lookup q =
      if q = place then some e else entries.lookup q := by
  induction entries with
  | nil =>
    rw [List.filter_nil, List.nil_append, List.lookup_cons]
    by_cases h : q = place
    · subst h
      simp
    · rw [beq_false_of_ne h, if_neg h]
  | cons entry entries ih =>
    by_cases hentry : entry.1 = place
    · rw [List.filter_cons_of_neg (by simp [hentry]), ih, List.lookup_cons]
      split
      · rfl
      · rename_i hq
        rw [hentry, beq_false_of_ne hq]
    · rw [List.filter_cons_of_pos (by simpa using hentry), List.cons_append, List.lookup_cons,
        List.lookup_cons, ih]
      by_cases hq : q = entry.1
      · subst hq
        simp [hentry]
      · rw [beq_false_of_ne hq]

theorem entry?_set :
    Tree.entry? (t.set (p ++ [s]) e) q = if q = p ++ [s] then some e else t.entry? q := by
  have hne : p ++ [s] ≠ [] := List.append_ne_nil_of_right_ne_nil p (List.cons_ne_nil s [])
  rw [Tree.entry?, Tree.entry?]
  by_cases hq : q = []
  · rw [if_pos hq, if_neg (fun heq : q = p ++ [s] => hne (heq ▸ hq)), if_pos hq]
  · rw [if_neg hq, if_neg hq]
    exact lookup_set t.entries

theorem entry?_set_self : Tree.entry? (t.set (p ++ [s]) e) (p ++ [s]) = some e := by
  rw [entry?_set, if_pos rfl]

theorem isDirectory_iff : t.isDirectory place = true ↔ t.entry? place = some .directory :=
  decide_eq_true_iff

theorem isDirectory_root (t : Tree) : t.isDirectory [] = true := rfl

/-! ### What writes do -/

/-- A tree comes from another by setting files and adding directories where nothing stood. No file
is set where a directory stood. -/
structure Gains (t t' : Tree) (files : List (Place × String)) : Prop where
  working : t'.working = t.working
  file : ∀ f ∈ files, Tree.entry? t' f.1 = some (.text f.2)
  free : ∀ f ∈ files, t.isDirectory f.1 = false
  other : ∀ place, place ∉ files.map (·.1) → Tree.entry? t' place = t.entry? place ∨
    t.entry? place = none ∧ Tree.entry? t' place = some .directory

theorem Gains.refl (t : Tree) : t.Gains t [] :=
  ⟨rfl, (fun _ h => nomatch h), (fun _ h => nomatch h), fun _ _ => .inl rfl⟩

theorem Gains.isDirectory (H : t.Gains t' files) (h : t.isDirectory place = true) :
    t'.isDirectory place = true := by
  have hfree : place ∉ files.map (·.1) := by
    intro hmem
    obtain ⟨f, hf, rfl⟩ := List.mem_map.mp hmem
    exact Bool.false_ne_true ((H.free f hf).symm.trans h)
  rw [isDirectory_iff] at h ⊢
  obtain heq | ⟨_, heq⟩ := H.other place hfree
  · exact heq.trans h
  · exact heq

theorem Gains.isSome_entry? (H : t.Gains t' files) (h : (t.entry? place).isSome) :
    (Tree.entry? t' place).isSome := by
  by_cases hmem : place ∈ files.map (·.1)
  · obtain ⟨f, hf, rfl⟩ := List.mem_map.mp hmem
    rw [H.file f hf]
    rfl
  · obtain heq | ⟨_, heq⟩ := H.other place hmem
    · rwa [heq]
    · rw [heq]
      rfl

/-- Files are gained one after the other, each at its own place. -/
theorem Gains.trans (H : t.Gains t' files) (H' : t'.Gains t'' rest)
    (hdisjoint : ∀ f ∈ files, f.1 ∉ rest.map (·.1)) : t.Gains t'' (files ++ rest) where
  working := H'.working.trans H.working
  file := by
    intro f hf
    rcases List.mem_append.mp hf with hf | hf
    · obtain heq | ⟨heq, _⟩ := H'.other f.1 (hdisjoint f hf)
      · exact heq.trans (H.file f hf)
      · cases (H.file f hf).symm.trans heq
    · exact H'.file f hf
  free := by
    intro f hf
    rcases List.mem_append.mp hf with hf | hf
    · exact H.free f hf
    · exact Bool.eq_false_iff.mpr fun h => Bool.eq_false_iff.mp (H'.free f hf) (H.isDirectory h)
  other := by
    intro place hplace
    rw [List.map_append, List.mem_append, not_or] at hplace
    obtain heq' | ⟨hnone', hdir'⟩ := H'.other place hplace.2
    · rw [heq']
      exact H.other place hplace.1
    · obtain heq | ⟨hnone, _⟩ := H.other place hplace.1
      · exact .inr ⟨heq.symm.trans hnone', hdir'⟩
      · exact .inr ⟨hnone, hdir'⟩

/-- A file is at a place afterwards exactly if it was gained there, or stood there and no other was
gained there. -/
theorem Gains.file_iff (H : t.Gains t' files) (hfile : e.isFile = true) :
    Tree.entry? t' place = some e ↔ (∃ content, (place, content) ∈ files ∧ e = .text content) ∨
      place ∉ files.map (·.1) ∧ t.entry? place = some e := by
  by_cases hmem : place ∈ files.map (·.1)
  · refine ⟨fun h => ?_, ?_⟩
    · obtain ⟨⟨place, content⟩, hf, rfl⟩ := List.mem_map.mp hmem
      exact .inl ⟨content, hf, Option.some.inj (h.symm.trans (H.file _ hf))⟩
    · rintro (⟨content, hf, rfl⟩ | ⟨hnot, _⟩)
      · exact H.file (place, content) hf
      · exact absurd hmem hnot
  · have hnone : ∀ content, (place, content) ∉ files := fun content hf =>
      hmem (List.mem_map_of_mem (f := (·.1)) hf)
    obtain heq | ⟨hnone', hdir⟩ := H.other place hmem
    · rw [heq]
      refine ⟨fun h => .inr ⟨hmem, h⟩, ?_⟩
      rintro (⟨content, hf, _⟩ | ⟨_, h⟩)
      · exact absurd hf (hnone content)
      · exact h
    · rw [hdir, hnone']
      refine iff_of_false ?_ ?_
      · rintro ⟨⟩
        exact Bool.false_ne_true hfile
      · rintro (⟨content, hf, _⟩ | ⟨_, ⟨⟩⟩)
        exact hnone content hf

theorem gains_set (hfree : t.isDirectory (p ++ [s]) = false) :
    t.Gains (t.set (p ++ [s]) (.text content)) [(p ++ [s], content)] := by
  refine ⟨rfl, fun f hf => ?_, fun f hf => ?_, fun place hplace => ?_⟩
  · rw [List.mem_singleton.mp hf, entry?_set_self]
  · rw [List.mem_singleton.mp hf, hfree]
  · refine .inl ?_
    rw [entry?_set, if_neg fun heq : place = p ++ [s] => hplace (heq ▸ List.mem_singleton_self _)]

theorem gains_set_directory (hnone : t.entry? (p ++ [s]) = none) :
    t.Gains (t.set (p ++ [s]) .directory) [] := by
  refine ⟨rfl, (fun _ h => nomatch h), (fun _ h => nomatch h), fun place _ => ?_⟩
  rw [entry?_set]
  split
  · rename_i heq
    exact .inr ⟨heq ▸ hnone, rfl⟩
  · exact .inl rfl

/-- Making directories adds directories, and ends at the place that the segments lead to. -/
theorem makeDirectories_eq_some (h : t.makeDirectories place segs = (t', some p)) :
    t.Gains t' [] ∧ p = segs.foldl Place.step place := by
  fun_induction makeDirectories t place segs with
  | case1 t place =>
    cases h
    exact ⟨.refl _, rfl⟩
  | case2 t place s rest hidle ih =>
    rw [List.foldl_cons, Place.step, if_pos hidle]
    exact ih h
  | case3 t place rest hidle ih =>
    rw [List.foldl_cons, Place.step, if_neg hidle, if_pos rfl]
    exact ih h
  | case4 t place s rest hidle hup hdirectory ih =>
    rw [List.foldl_cons, Place.step, if_neg hidle, if_neg hup]
    exact ih h
  | case5 t place s rest hidle hup => cases h
  | case6 t place s rest hidle hup hnone hname ih =>
    rw [List.foldl_cons, Place.step, if_neg hidle, if_neg hup]
    obtain ⟨hgains, hp⟩ := ih h
    exact ⟨(gains_set_directory hnone).trans hgains (List.forall_mem_nil _), hp⟩
  | case7 t place s rest hidle hup hnone hname => cases h

theorem writeInto?_eq_some {name : String} (h : t.writeInto? p name content = some t') :
    t.isDirectory (p ++ [name]) = false ∧ t' = t.set (p ++ [name]) (.text content) := by
  have hfree : ∀ {e}, t.entry? (p ++ [name]) = e → e ≠ some .directory →
      t.isDirectory (p ++ [name]) = false := fun he hne =>
    decide_eq_false fun hdir => hne (he.symm.trans hdir)
  unfold writeInto? at h
  split at h
  · cases h
  · rename_i e hdir he
    cases h
    exact ⟨hfree he (mt Option.some.inj hdir), rfl⟩
  · rename_i he
    split at h
    · cases h
      exact ⟨hfree he nofun, rfl⟩
    · cases h

section

variable {base key name : String}

theorem write_eq_ok (hkey : Path.IsPlain key) (hname : Path.IsPlain name)
    (h : t.write (Path.join base key) name content = (t', .ok ())) :
    ∃ grown, t.makeDirectories (t.start (Path.join base key))
        (Path.segments (Path.join base key)) = (grown, some (t.placeOf (Path.join base key))) ∧
      grown.isDirectory (t.placeOf (Path.join base key) ++ [name]) = false ∧
        t' = grown.set (t.placeOf (Path.join base key) ++ [name]) (.text content) := by
  have hstart : t.start (Path.join (Path.join base key) name) = t.start (Path.join base key) := by
    rw [start, start, hname.isRooted_join]
  delta write at h
  simp only [hkey.parent_join_join hname, hstart] at h
  split at h
  · cases h
  · rename_i grown reached hmade
    have hreached := (makeDirectories_eq_some hmade).2
    split at h
    · rename_i written hwritten
      cases h
      rw [hreached] at hmade hwritten
      exact ⟨grown, hmade, writeInto?_eq_some hwritten⟩
    · cases h

theorem gains_write (hkey : Path.IsPlain key) (hname : Path.IsPlain name)
    (h : t.write (Path.join base key) name content = (t', .ok ())) :
    t.Gains t' [(t.placeOf (Path.join base key) ++ [name], content)] := by
  obtain ⟨grown, hmade, hfree, rfl⟩ := write_eq_ok hkey hname h
  exact (makeDirectories_eq_some hmade).1.trans (gains_set hfree) fun _ h => nomatch h

end

/-! ### Paths of what was written -/

/-- What stands in a tree stands in a directory, and so does what is looked for without a root. -/
structure Sound (t : Tree) : Prop where
  parent : ∀ place, (t.entry? place).isSome → t.isDirectory place.dropLast = true
  working : t.isDirectory t.working = true

/-- A tree is sound if each entry of its table stands in a directory. -/
theorem sound_of_entries (h : ∀ e ∈ t.entries, t.isDirectory e.1.dropLast = true)
    (hworking : t.isDirectory t.working = true) : t.Sound := by
  refine ⟨fun place hplace => ?_, hworking⟩
  rw [Tree.entry?] at hplace
  split at hplace
  · rename_i hroot
    rw [hroot]
    rfl
  · obtain ⟨entry, hentry⟩ := Option.isSome_iff_exists.mp hplace
    obtain ⟨before, after, hentries, _⟩ := List.lookup_eq_some_iff.mp hentry
    exact h (place, entry) (hentries ▸ List.mem_append_right before List.mem_cons_self)

/-- Setting an entry in a directory keeps a tree sound, if no directory stood there. -/
theorem Sound.set (H : t.Sound) (hp : t.isDirectory p = true)
    (hfree : t.isDirectory (p ++ [s]) = false) : (t.set (p ++ [s]) e).Sound := by
  have hkept : ∀ {q}, t.isDirectory q = true → (t.set (p ++ [s]) e).isDirectory q = true := by
    intro q hq
    have hother : q ≠ p ++ [s] := fun heq => Bool.false_ne_true (hfree.symm.trans (heq ▸ hq))
    rw [isDirectory_iff, entry?_set, if_neg hother]
    exact isDirectory_iff.mp hq
  refine ⟨fun q hq => ?_, hkept H.working⟩
  rw [entry?_set] at hq
  split at hq
  · rename_i heq
    rw [heq, List.dropLast_concat]
    exact hkept hp
  · exact hkept (H.parent q hq)

theorem Sound.isDirectory_dropLast (H : t.Sound) (h : t.isDirectory place = true) :
    t.isDirectory place.dropLast = true := by
  refine H.parent place ?_
  rw [isDirectory_iff.mp h]
  rfl

theorem Sound.start (H : t.Sound) (path : String) : t.isDirectory (t.start path) = true := by
  rw [Tree.start]
  split
  · exact t.isDirectory_root
  · exact H.working

theorem Gains.walk? (H : t.Gains t' files) (h : t.walk? place segs = some p) :
    t'.walk? place segs = some p := by
  induction segs generalizing place with
  | nil => exact h
  | cons s rest ih =>
    rw [Tree.walk?] at h ⊢
    split at h
    · rename_i hplace
      rw [if_pos (H.isDirectory hplace)]
      split at h
      · rename_i hidle
        rw [if_pos hidle]
        exact ih h
      rename_i hidle
      rw [if_neg hidle]
      split at h
      · rename_i hup
        rw [if_pos hup]
        exact ih h
      rename_i hup
      rw [if_neg hup]
      split at h
      · rename_i hentry
        rw [if_pos (H.isSome_entry? hentry)]
        exact ih h
      · cases h
    · cases h

theorem Gains.find? {path : String} (H : t.Gains t' files) (h : t.find? path = some p) :
    t'.find? path = some p := by
  rw [Tree.find?] at h ⊢
  split at h
  · cases h
  · rename_i hpath
    rw [if_neg hpath, Tree.start, H.working]
    exact H.walk? h

/-- After directories are made the segments lead to the last of them. -/
theorem Sound.walk?_makeDirectories (H : t.Sound) (hplace : t.isDirectory place = true)
    (h : t.makeDirectories place segs = (t', some p)) :
    t'.walk? place segs = some p ∧ t'.isDirectory p = true ∧ t'.Sound := by
  -- The walk is over the last tree. What it passes stood in a tree before, and has stayed.
  have hgains := (makeDirectories_eq_some h).1
  fun_induction makeDirectories t place segs with
  | case1 t place =>
    cases h
    exact ⟨rfl, hplace, H⟩
  | case2 t place s rest hidle ih =>
    rw [Tree.walk?, if_pos (hgains.isDirectory hplace), if_pos hidle]
    exact ih H hplace h hgains
  | case3 t place rest hidle ih =>
    rw [Tree.walk?, if_pos (hgains.isDirectory hplace), if_neg hidle, if_pos rfl]
    exact ih H (H.isDirectory_dropLast hplace) h hgains
  | case4 t place s rest hidle hup hdirectory ih =>
    have hnext := isDirectory_iff.mpr hdirectory
    rw [Tree.walk?, if_pos (hgains.isDirectory hplace), if_neg hidle, if_neg hup,
      if_pos (hgains.isSome_entry? (by rw [hdirectory]; rfl))]
    exact ih H hnext h hgains
  | case5 t place s rest hidle hup => cases h
  | case6 t place s rest hidle hup hnone hname ih =>
    have hfree : t.isDirectory (place ++ [s]) = false :=
      decide_eq_false fun heq => nomatch hnone.symm.trans heq
    have hgains' := (makeDirectories_eq_some h).1
    rw [Tree.walk?, if_pos (hgains.isDirectory hplace), if_neg hidle, if_neg hup,
      if_pos (hgains'.isSome_entry? (by rw [entry?_set_self]; rfl))]
    exact ih (H.set hplace hfree) (isDirectory_iff.mpr entry?_set_self) h hgains'
  | case7 t place s rest hidle hup hnone hname => cases h

theorem walk?_append (front back : List String) :
    t.walk? place (front ++ back) = (t.walk? place front).bind (t.walk? · back) := by
  induction front generalizing place with
  | nil => rfl
  | cons s front ih =>
    rw [List.cons_append, Tree.walk?, Tree.walk?]
    split
    · split
      · exact ih
      split
      · exact ih
      split
      · exact ih
      · rfl
    · rfl

/-- In a sound tree the path of a file that was written leads to the file. -/
theorem Sound.write {base key name : String} (H : t.Sound) (hkey : Path.IsPlain key)
    (hname : Path.IsPlain name)
    (h : t.write (Path.join base key) name content = (t', .ok ())) :
    t'.Sound ∧ t'.find? (Path.join (Path.join base key) name) =
      some (t.placeOf (Path.join base key) ++ [name]) := by
  have hgains := gains_write hkey hname h
  obtain ⟨grown, hmade, hfree, rfl⟩ := write_eq_ok hkey hname h
  obtain ⟨hwalk, hdirectory, hsound⟩ := H.walk?_makeDirectories (H.start _) hmade
  refine ⟨hsound.set hdirectory hfree, ?_⟩
  have hstart : (grown.set (t.placeOf (Path.join base key) ++ [name]) (.text content)).start
      (Path.join (Path.join base key) name) = t.start (Path.join base key) := by
    rw [Tree.start, Tree.start, hname.isRooted_join, hgains.working]
  have hset : grown.Gains _ [(_, content)] := gains_set hfree
  have hfile := hset.file _ (List.mem_singleton_self _)
  rw [Tree.find?, if_neg (hname.join_ne_empty _), hstart, hkey.segments_join_join hname, walk?_append,
    hset.walk? hwalk, Option.bind_some, Tree.walk?, if_pos (hset.isDirectory hdirectory),
    hname.idle, if_neg Bool.false_ne_true, if_neg hname.up, hfile]
  rfl

theorem Gains.placeOf_eq (H : t.Gains t' files) (path : String) :
    t'.placeOf path = t.placeOf path := by
  rw [placeOf, placeOf, start, start, H.working]

/-- A tree gains files by their paths. If it is sound, the paths lead to the files. -/
structure Writes (t t' : Tree) (files : List (String × String)) : Prop where
  gains : t.Gains t' (files.map fun f => (t.placeOf f.1, f.2))
  sound : t.Sound → t'.Sound
  find? : t.Sound → ∀ f ∈ files, t'.find? f.1 = some (t.placeOf f.1)

theorem Writes.refl (t : Tree) : t.Writes t [] := ⟨.refl t, id, fun _ _ h => nomatch h⟩

theorem Writes.trans {files rest : List (String × String)} (H : t.Writes t' files)
    (H' : t'.Writes t'' rest)
    (hdisjoint : ∀ f ∈ files, ∀ f' ∈ rest, t.placeOf f.1 ≠ t.placeOf f'.1) :
    t.Writes t'' (files ++ rest) := by
  have hplaces : rest.map (fun f => (t'.placeOf f.1, f.2)) =
      rest.map fun f => (t.placeOf f.1, f.2) := by
    refine List.map_congr_left fun f _ => ?_
    rw [H.gains.placeOf_eq]
  have hgains' := H'.gains
  rw [hplaces] at hgains'
  refine ⟨?_, H'.sound ∘ H.sound, fun hsound f hf => ?_⟩
  · rw [List.map_append]
    refine H.gains.trans hgains' fun f hf hmem => ?_
    rw [List.map_map] at hmem
    obtain ⟨source, hsource, rfl⟩ := List.mem_map.mp hf
    obtain ⟨f', hf', heq⟩ := List.mem_map.mp hmem
    exact hdisjoint source hsource f' hf' heq.symm
  · rcases List.mem_append.mp hf with hf | hf
    · exact hgains'.find? (H.find? hsound f hf)
    · rw [← H.gains.placeOf_eq]
      exact H'.find? (H.sound hsound) f hf

theorem writes_write {base key name : String} (hkey : Path.IsPlain key) (hname : Path.IsPlain name)
    (h : t.write (Path.join base key) name content = (t', .ok ())) :
    t.Writes t' [(Path.join (Path.join base key) name, content)] := by
  have hgains := gains_write hkey hname h
  have hsound := fun H : t.Sound => H.write hkey hname h
  have hplace := hname.placeOf_join t (Path.join base key)
  refine ⟨?_, fun H => (hsound H).1, fun H f hf => ?_⟩
  · rw [List.map_singleton, hplace]
    exact hgains
  · rw [List.mem_singleton.mp hf, hplace]
    exact (hsound H).2

/-- A file is at a place afterwards exactly if it was written there, or stood there and no other was
written there. -/
theorem Writes.file_iff {files : List (String × String)} (H : t.Writes t' files)
    (hfile : e.isFile = true) :
    Tree.entry? t' place = some e ↔ (∃ f ∈ files, t.placeOf f.1 = place ∧ .text f.2 = e) ∨
      (∀ f ∈ files, t.placeOf f.1 ≠ place) ∧ t.entry? place = some e := by
  rw [H.gains.file_iff hfile, List.map_map]
  refine or_congr ⟨?_, ?_⟩ (and_congr_left' ⟨fun h f hf heq => ?_, fun h hmem => ?_⟩)
  · rintro ⟨content, hmem, rfl⟩
    obtain ⟨f, hf, heq⟩ := List.mem_map.mp hmem
    cases heq
    exact ⟨f, hf, rfl, rfl⟩
  · rintro ⟨f, hf, rfl, rfl⟩
    exact ⟨f.2, List.mem_map.mpr ⟨f, hf, rfl⟩, rfl⟩
  · exact h (List.mem_map.mpr ⟨f, hf, heq⟩)
  · obtain ⟨f, hf, heq⟩ := List.mem_map.mp hmem
    exact h f hf heq

/-- Nothing stands at the place that a path names, or below it. -/
def IsAbsent (t : Tree) (path : String) : Prop :=
  ∀ place, t.placeOf path <+: place → t.entry? place = none

/-- Where nothing stood at the places of the files, they are added to the files of the tree. -/
theorem Writes.added_iff {files : List (String × String)} (H : t.Writes t' files)
    (hfile : e.isFile = true) (hfree : ∀ f ∈ files, t.entry? (t.placeOf f.1) = none) :
    Tree.entry? t' place = some e ↔
      t.entry? place = some e ∨ ∃ f ∈ files, t.placeOf f.1 = place ∧ .text f.2 = e := by
  rw [H.file_iff hfile, or_comm]
  refine or_congr_left (and_iff_right_of_imp ?_)
  rintro hold f hf rfl
  cases (hfree f hf).symm.trans hold

theorem Writes.read? {files : List (String × String)} (H : t.Writes t' files) (hsound : t.Sound)
    {path : String} (h : (path, content) ∈ files) : t'.read? path = some content := by
  have hfile : Tree.entry? t' (t.placeOf path) = some (.text content) :=
    H.gains.file (t.placeOf path, content) (List.mem_map.mpr ⟨(path, content), h, rfl⟩)
  have hfind : t'.find? path = some (t.placeOf path) := H.find? hsound (path, content) h
  delta Tree.read? Tree.at?
  rw [hfind, Option.bind_some, hfile]

end Entrypoint.Tree
