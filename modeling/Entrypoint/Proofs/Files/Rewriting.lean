import Entrypoint.Proofs.Files.TreeWriting

/-! Writing at one place again. The second of two writes wins, and leaves nothing of the first. A file
that is written over itself leaves a tree that shows the same at every place, though its table may
list the entries in another order. -/

namespace Entrypoint.Tree

variable {t t' t'' : Tree} {place p : Place} {e : Entry} {segs : List String} {content s : String}
  {files : List (Place × String)}

/-! ### Two writes -/

theorem set_set (t : Tree) (place : Place) (e e' : Entry) :
    (t.set place e).set place e' = t.set place e' := by
  simp [Tree.set, List.filter_append]

/-- Directories that were made are not made again. -/
theorem makeDirectories_again (h : t.makeDirectories place segs = (t', some p))
    (H : t'.Gains t'' files) : t''.makeDirectories place segs = (t'', some p) := by
  fun_induction makeDirectories t place segs with
  | case1 t place =>
    cases h
    rfl
  | case2 t place s rest hidle ih =>
    rw [makeDirectories, if_pos hidle]
    exact ih h
  | case3 t place rest hidle ih =>
    rw [makeDirectories, if_neg hidle, if_pos rfl]
    exact ih h
  | case4 t place s rest hidle hup hdirectory ih =>
    have hstands := (makeDirectories_eq_some h).1.isDirectory (isDirectory_iff.mpr hdirectory)
    rw [makeDirectories, if_neg hidle, if_neg hup, isDirectory_iff.mp (H.isDirectory hstands)]
    exact ih h
  | case5 t place s rest hidle hup => cases h
  | case6 t place s rest hidle hup hnone hname ih =>
    have hstands := (makeDirectories_eq_some h).1.isDirectory (isDirectory_iff.mpr entry?_set_self)
    rw [makeDirectories, if_neg hidle, if_neg hup, isDirectory_iff.mp (H.isDirectory hstands)]
    exact ih h
  | case7 t place s rest hidle hup hnone hname => cases h

/-- Whether a file can be written does not depend on the text. -/
theorem writeInto?_of_writeInto? {name : String} (h : t.writeInto? p name content = some t')
    (s : String) : t.writeInto? p name s = some (t.set (p ++ [name]) (.text s)) := by
  delta writeInto? at h ⊢
  split at h
  · cases h
  · rfl
  · split at h
    · rename_i hname
      exact if_pos hname
    · cases h

/-- **The second of two writes wins.** -/
theorem write_write {directory name : String} (h : t.write directory name content = (t', .ok ()))
    (s : String) : ∃ t'', t.write directory name s = (t'', .ok ()) ∧
      t'.write directory name s = (t'', .ok ()) := by
  delta write at h ⊢
  simp only at h ⊢
  split at h
  · cases h
  rename_i grown place hmade
  split at h
  · rename_i written hwritten
    cases h
    obtain ⟨hfree, rfl⟩ := writeInto?_eq_some hwritten
    have hgains : grown.Gains (grown.set (place ++ [name]) (.text content)) _ := gains_set hfree
    have hstart : (grown.set (place ++ [name]) (.text content)).start (Path.join directory name) =
        t.start (Path.join directory name) := by
      rw [start, start, hgains.working, (makeDirectories_eq_some hmade).1.working]
    have hagain : (grown.set (place ++ [name]) (.text content)).writeInto? place name s =
        some (grown.set (place ++ [name]) (.text s)) := by
      rw [writeInto?, entry?_set_self, set_set]
    rw [hstart, makeDirectories_again hmade hgains]
    simp only [writeInto?_of_writeInto? hwritten, hagain]
    exact ⟨_, rfl, rfl⟩
  · cases h

/-! ### Trees that show the same -/

/-- Every place shows the same in two trees. -/
structure Same (t t' : Tree) : Prop where
  working : t'.working = t.working
  entry? : ∀ place, Tree.entry? t' place = t.entry? place

theorem Same.refl (t : Tree) : t.Same t := ⟨rfl, fun _ => rfl⟩

theorem Same.trans (H : t.Same t') (H' : t'.Same t'') : t.Same t'' :=
  ⟨H'.working.trans H.working, fun place => (H'.entry? place).trans (H.entry? place)⟩

theorem Same.isDirectory (H : t.Same t') (place : Place) :
    t'.isDirectory place = t.isDirectory place := by
  rw [Tree.isDirectory, H.entry?, Tree.isDirectory]

theorem Same.walk? (H : t.Same t') (place : Place) (segs : List String) :
    t'.walk? place segs = t.walk? place segs := by
  induction segs generalizing place with
  | nil => rfl
  | cons s rest ih => simp only [Tree.walk?, H.isDirectory, H.entry?, ih]

theorem Same.find? (H : t.Same t') (path : String) : t'.find? path = t.find? path := by
  rw [Tree.find?, H.walk?, Tree.start, H.working, Tree.find?, Tree.start]

theorem read?_eq_some {path : String} (h : t.read? path = some content) :
    ∃ place, t.find? path = some place ∧ t.entry? place = some (.text content) := by
  delta Tree.read? Tree.at? at h
  split at h
  · rename_i hat
    cases h
    exact Option.bind_eq_some_iff.mp hat
  · cases h

theorem Same.read? (H : t.Same t') (path : String) : t'.read? path = t.read? path := by
  have hat : t'.at? path = t.at? path := by
    rw [Tree.at?, H.find?, Tree.at?]
    exact congrArg _ (funext H.entry?)
  delta Tree.read?
  rw [hat]

theorem same_set (h : t.entry? (p ++ [s]) = some e) : t.Same (t.set (p ++ [s]) e) := by
  refine ⟨rfl, fun place => ?_⟩
  rw [entry?_set]
  split
  · rename_i heq
    rw [heq, h]
  · rfl

/-! ### Directories that stand -/

/-- No directory has to be made on the way to one that stands. -/
theorem makeDirectories_of_walk? (h : t.walk? place segs = some p) (hp : t.isDirectory p = true) :
    t.makeDirectories place segs = (t, some p) := by
  induction segs generalizing place with
  | nil =>
    cases h
    rfl
  | cons s rest ih =>
    rw [Tree.walk?] at h
    rw [Tree.makeDirectories]
    split at h
    · split at h
      · rename_i hidle
        rw [if_pos hidle]
        exact ih h
      rename_i hidle
      rw [if_neg hidle]
      split at h
      · rename_i hup
        rw [if_pos hup]
        exact ih h
      rename_i hup
      rw [if_neg hup]
      split at h
      · -- What is passed is a directory, since the walk goes on from there or ends at one.
        have hnext : t.isDirectory (place ++ [s]) = true := by
          cases rest with
          | nil =>
            cases h
            exact hp
          | cons s' rest =>
            rw [Tree.walk?] at h
            split at h
            · assumption
            · cases h
        rw [isDirectory_iff.mp hnext]
        exact ih h
      · cases h
    · cases h

variable {base key name : String}

/-- A file that its path leads to stands in the directory that the path names. -/
theorem find?_join_join (hkey : Path.IsPlain key) (hname : Path.IsPlain name)
    (h : t.find? (Path.join (Path.join base key) name) = some place) :
    ∃ p, t.walk? (t.start (Path.join base key)) (Path.segments (Path.join base key)) = some p ∧
      t.isDirectory p = true ∧ place = p ++ [name] := by
  have hstart : t.start (Path.join (Path.join base key) name) = t.start (Path.join base key) := by
    rw [start, start, hname.isRooted_join]
  rw [Tree.find?] at h
  split at h
  · cases h
  rw [hstart, hkey.segments_join_join hname, walk?_append] at h
  obtain ⟨p, hp, hlast⟩ := Option.bind_eq_some_iff.mp h
  refine ⟨p, hp, ?_⟩
  rw [Tree.walk?] at hlast
  split at hlast
  · rename_i hdirectory
    rw [hname.idle, if_neg Bool.false_ne_true, if_neg hname.up] at hlast
    split at hlast
    · cases hlast
      exact ⟨hdirectory, rfl⟩
    · cases hlast
  · cases hlast

/-- A text that its path leads to is written over itself. -/
theorem write_of_read? (hkey : Path.IsPlain key) (hname : Path.IsPlain name)
    (h : t.read? (Path.join (Path.join base key) name) = some content) :
    ∃ t', t.write (Path.join base key) name content = (t', .ok ()) ∧ t.Same t' := by
  obtain ⟨place, hfind, hfile⟩ := read?_eq_some h
  obtain ⟨p, hwalk, hdirectory, rfl⟩ := find?_join_join hkey hname hfind
  have hstart : t.start (Path.join (Path.join base key) name) = t.start (Path.join base key) := by
    rw [start, start, hname.isRooted_join]
  have hmade := makeDirectories_of_walk? hwalk hdirectory
  have hinto : t.writeInto? p name content = some (t.set (p ++ [name]) (.text content)) := by
    rw [writeInto?, hfile]
  refine ⟨_, ?_, same_set hfile⟩
  delta Tree.write
  simp only [hkey.parent_join_join hname, hstart, hmade, hinto]

end Entrypoint.Tree
