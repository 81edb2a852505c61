import Entrypoint.Files.Scope
import Entrypoint.Proofs.Catalog.ScopePath
import Entrypoint.Proofs.Files.PathJoining
import Mathlib.Data.List.Basic

/-! Source files of one scope. The scope of a file tells the directories that it is in and its stem,
unless the file stands for a module above it. So two files have one scope only where both stand for
the crate, or where one of them stands for the directory that the other is named for. -/

namespace Entrypoint

namespace Path

variable {name : String} {names : List String}

instance : Decidable (IsPlain name) :=
  decidable_of_iff ('/' ∉ name.toList ∧ isIdle name = false ∧ name ≠ "..")
    ⟨fun h => ⟨h.1, h.2.1, h.2.2⟩, fun h => ⟨h.slash, h.idle, h.up⟩⟩

/-- A plain name joined to a path is one more component. -/
theorem IsPlain.components_join (h : IsPlain name) (base : String) :
    components (join base name) = components base ++ [.name name] := by
  have hcomponent : component name = .name name := if_neg h.up
  have hidle : isIdle "" = true := rfl
  by_cases hempty : base = ""
  · subst hempty
    have hjoin : join "" name = name := by
      rw [join, h.isRooted, if_neg Bool.false_ne_true, if_pos (.inl rfl), String.empty_append]
    have hdot : name ≠ "." := by
      rintro rfl
      exact absurd h.idle (by decide)
    have hlead : lead name = [] := by
      rw [lead, h.isRooted, h.segments, if_neg Bool.false_ne_true, if_neg (by simpa using hdot)]
    rw [hjoin, components, hlead, h.segments]
    have hfilter : [name].filter (fun s => !isIdle s) = [name] :=
      List.filter_eq_self.mpr (by simpa using h.idle)
    rw [hfilter, List.map_singleton, hcomponent]
    rfl
  have hlead : (Path.segments (join base name)).head? = (Path.segments base).head? →
      lead (join base name) = lead base := fun hhead => by
    rw [lead, lead, h.isRooted_join, hhead]
  rcases h.segments_join_cases hempty with hsegments | ⟨before, hbefore, hsegments⟩
  · have hne : Path.segments base ≠ [] := by
      rw [Path.segments]
      simpa using Text.splitAt_ne_nil '/' base.toList
    rw [components, hlead (by rw [hsegments, List.head?_append_of_ne_nil _ hne]), hsegments, components]
    simp [h.idle, hcomponent]
  · have hne : before ≠ [] := by
      rintro rfl
      have hbase := intercalate_segments base
      rw [hbefore] at hbase
      exact hempty hbase.symm
    have hhead : (Path.segments (join base name)).head? = (Path.segments base).head? := by
      rw [hsegments, hbefore, List.head?_append_of_ne_nil _ hne, List.head?_append_of_ne_nil _ hne]
    rw [components, hlead hhead, hsegments, components, hbefore]
    simp [h.idle, hidle, hcomponent]

theorem components_foldl_join (h : ∀ name ∈ names, IsPlain name) (base : String) :
    components (names.foldl join base) = components base ++ names.map .name := by
  induction names generalizing base with
  | nil => exact (List.append_nil _).symm
  | cons name names ih =>
    obtain ⟨hname, hnames⟩ := List.forall_mem_cons.mp h
    rw [List.foldl_cons, ih hnames, hname.components_join, List.append_assoc, List.map_cons,
      List.singleton_append]

theorem below?_append (base rest : List Component) : below? base (base ++ rest) = some rest := by
  induction base with
  | nil => cases rest <;> rfl
  | cons c base ih => rw [List.cons_append, below?, if_pos rfl, ih]

end Path

namespace FileScope

/-- The place of a source file below the source directory: the directories it is in, from the top
down, and its name without the extension. No colon is in any of these names, as in a module's. -/
@[ext]
structure SourcePlace where
  directories : List String
  stem : String
  colon : ∀ name ∈ directories ++ [stem], ':' ∉ name.toList

namespace SourcePlace

variable {place place' : SourcePlace} {sourceRoot file file' : String}

/-- The names on the way to the file, its own last. -/
def names (place : SourcePlace) : List String := place.directories ++ [place.stem ++ ".rs"]

/-- The file is at the place: its path is that of the source directory and then these names. -/
def IsAt (sourceRoot file : String) (place : SourcePlace) : Prop :=
  Path.components file = Path.components sourceRoot ++ place.names.map .name

/-- The file stands for the module above it: `mod.rs` anywhere, and `lib.rs` and `main.rs` right below
the source directory. -/
def NamesParent (place : SourcePlace) : Prop :=
  place.stem = "mod" ∨ place.directories = [] ∧ (place.stem = "lib" ∨ place.stem = "main")

/-- The file is `lib.rs`, `main.rs` or `mod.rs` right below the source directory. -/
def NamesCrate (place : SourcePlace) : Prop :=
  place.directories = [] ∧ (place.stem = "lib" ∨ place.stem = "main" ∨ place.stem = "mod")

/-- The first file is `d/mod.rs` and the second one `d.rs`, which does not stand for the module above
it itself. -/
structure IsModOf (place' place : SourcePlace) : Prop where
  stem : place'.stem = "mod"
  directories : place'.directories = place.directories ++ [place.stem]
  not_namesParent : ¬place.NamesParent

/-- Names that lead one step down each are those of a file below every source directory. -/
theorem isAt_foldl_join (h : ∀ name ∈ place.names, Path.IsPlain name) (sourceRoot : String) :
    IsAt sourceRoot (place.names.foldl Path.join sourceRoot) place :=
  Path.components_foldl_join h sourceRoot

instance : DecidablePred NamesParent := fun _ => inferInstanceAs (Decidable (_ ∨ _))

/-- The modules below the crate that a file at the place stands for. -/
def modulesOf (place : SourcePlace) : List String :=
  if place.NamesParent then place.directories else place.directories ++ [place.stem]

theorem NamesCrate.namesParent (h : place.NamesCrate) : place.NamesParent := by
  obtain ⟨hdirectories, hstem⟩ := h
  rcases hstem with hstem | hstem | hstem
  · exact .inr ⟨hdirectories, .inl hstem⟩
  · exact .inr ⟨hdirectories, .inr hstem⟩
  · exact .inl hstem

theorem NamesParent.namesCrate (h : place.NamesParent) (hdirectories : place.directories = []) :
    place.NamesCrate := by
  rcases h with hstem | ⟨_, hstem | hstem⟩
  · exact ⟨hdirectories, .inr (.inr hstem)⟩
  · exact ⟨hdirectories, .inl hstem⟩
  · exact ⟨hdirectories, .inr (.inl hstem)⟩

/-- Further down, only `mod.rs` stands for the module above it. -/
theorem NamesParent.stem_eq (h : place.NamesParent) (hdirectories : place.directories ≠ []) :
    place.stem = "mod" :=
  h.resolve_right fun hcrate => hdirectories hcrate.1

/-! ### Modules of a file -/

theorem stem_append (name : String) : FileScope.stem (name ++ ".rs") = name := by
  have hstrip : Text.stripPrefix? ".rs".toList.reverse (name ++ ".rs").toList.reverse =
      some name.toList.reverse := by
    rw [Text.stripPrefix?_eq_some_iff, String.toList_append, List.reverse_append]
  rw [FileScope.stem, hstrip]
  simp

theorem inner_append (directories : List String) (name : String) :
    modules.inner (directories ++ [name]) =
      directories ++ if isParent false (FileScope.stem name) then [] else [FileScope.stem name] := by
  induction directories with
  | nil => rw [List.nil_append, modules.inner, List.nil_append]
  | cons first directories ih =>
    rw [List.cons_append, modules.inner, ih, List.cons_append]
    simp

theorem isParent_iff : isParent place.directories.isEmpty place.stem = true ↔ place.NamesParent := by
  rw [isParent, Bool.or_eq_true, decide_eq_true_iff, Bool.and_eq_true, List.isEmpty_iff,
    List.contains_iff_mem]
  simp only [crateStems, List.mem_cons, List.not_mem_nil, or_false]
  rfl

theorem modules_names (place : SourcePlace) : modules place.names = place.modulesOf := by
  have hread : modules place.names = place.directories ++
      if isParent place.directories.isEmpty place.stem then [] else [place.stem] := by
    rw [names]
    cases place.directories with
    | nil => rw [List.nil_append, modules, stem_append, List.nil_append]; rfl
    | cons first directories =>
      rw [List.cons_append, modules, inner_append, stem_append, List.cons_append]
      · rfl
      · simp
  rw [hread, modulesOf]
  by_cases h : place.NamesParent
  · rw [if_pos h, if_pos (isParent_iff.mpr h), List.append_nil]
  · rw [if_neg h, if_neg (mt isParent_iff.mp h)]

/-- **The scope of a file** is the crate with the modules below it. -/
theorem IsAt.ofFile_eq (h : IsAt sourceRoot file place) (crateName : String) :
    ofFile crateName sourceRoot file = Scope.ofSegments (crateName :: place.modulesOf) := by
  have hnames : (place.names.map Path.Component.name).filterMap Path.Component.name? = place.names := by
    rw [List.filterMap_map]
    exact List.filterMap_some
  rw [ofFile, show Path.components file = _ from h, Path.below?_append]
  simp only [hnames, modules_names]
  rfl

theorem colon_modulesOf (place : SourcePlace) : ∀ name ∈ place.modulesOf, ':' ∉ name.toList := by
  intro name hname
  rw [modulesOf] at hname
  split at hname
  · exact place.colon name (List.mem_append_left _ hname)
  · exact place.colon name hname

/-! ### Files of one scope -/

/-- The place of a file that stands for a module of its own is told by its modules. -/
theorem eq_of_modulesOf (h : ¬place.NamesParent) (h' : ¬place'.NamesParent)
    (heq : place.modulesOf = place'.modulesOf) : place = place' := by
  rw [modulesOf, modulesOf, if_neg h, if_neg h'] at heq
  obtain ⟨hdirectories, hstem⟩ := List.append_inj' heq rfl
  exact SourcePlace.ext hdirectories (List.singleton_inj.mp hstem)

/-- Files that stand for one module above them stand for the crate, or are one file. -/
theorem namesCrate_of_modulesOf (hne : place ≠ place') (h : place.NamesParent)
    (h' : place'.NamesParent) :
    place.modulesOf = place'.modulesOf ↔ place.NamesCrate ∧ place'.NamesCrate := by
  rw [modulesOf, modulesOf, if_pos h, if_pos h']
  constructor
  · intro hdirectories
    by_cases hnil : place.directories = []
    · exact ⟨h.namesCrate hnil, h'.namesCrate (hdirectories ▸ hnil)⟩
    · have hstem := (h.stem_eq hnil).trans (h'.stem_eq (hdirectories ▸ hnil)).symm
      exact absurd (SourcePlace.ext hdirectories hstem) hne
  · rintro ⟨hcrate, hcrate'⟩
    exact hcrate.1.trans hcrate'.1.symm

/-- A file that stands for the module above it shares this module with the file that is named for it. -/
theorem isModOf_iff (h : ¬place.NamesParent) (h' : place'.NamesParent) :
    place.modulesOf = place'.modulesOf ↔ place'.IsModOf place := by
  rw [modulesOf, modulesOf, if_neg h, if_pos h']
  constructor
  · intro hdirectories
    exact ⟨h'.stem_eq (by simp [← hdirectories]), hdirectories.symm, h⟩
  · intro hmod
    exact hmod.directories.symm

theorem IsModOf.namesParent (h : place'.IsModOf place) : place'.NamesParent := .inl h.stem

theorem modulesOf_eq_iff (hne : place ≠ place') : place.modulesOf = place'.modulesOf ↔
    place.NamesCrate ∧ place'.NamesCrate ∨ place'.IsModOf place ∨ place.IsModOf place' := by
  by_cases h : place.NamesParent <;> by_cases h' : place'.NamesParent
  · have hmod : ¬(place'.IsModOf place ∨ place.IsModOf place') := fun hmod =>
      hmod.elim (fun hmod => hmod.not_namesParent h) fun hmod => hmod.not_namesParent h'
    rw [namesCrate_of_modulesOf hne h h', or_iff_left hmod]
  · have hcrate : ¬(place.NamesCrate ∧ place'.NamesCrate) := fun hcrate => h' hcrate.2.namesParent
    have hmod : ¬place'.IsModOf place := fun hmod => h' hmod.namesParent
    rw [or_iff_right hcrate, or_iff_right hmod, ← isModOf_iff h' h, eq_comm]
  · have hcrate : ¬(place.NamesCrate ∧ place'.NamesCrate) := fun hcrate => h hcrate.1.namesParent
    have hmod : ¬place.IsModOf place' := fun hmod => h hmod.namesParent
    rw [or_iff_right hcrate, or_iff_left hmod, ← isModOf_iff h h']
  · refine iff_of_false (fun heq => hne (eq_of_modulesOf h h' heq)) ?_
    rintro (hcrate | hmod | hmod)
    · exact h hcrate.1.namesParent
    · exact h' hmod.namesParent
    · exact h hmod.namesParent

end SourcePlace

open SourcePlace (IsAt)

/-- **Files with one scope.** Two source files at different places have the same scope exactly if both
are files of the crate itself, or one of them is `d/mod.rs` and the other one `d.rs`, where `d.rs` does
not itself stand for the module above it. -/
theorem ofFile_eq_iff (crateName sourceRoot file file' : String) (place place' : SourcePlace)
    (h : IsAt sourceRoot file place) (h' : IsAt sourceRoot file' place') (hne : place ≠ place') :
    ofFile crateName sourceRoot file = ofFile crateName sourceRoot file' ↔
      place.NamesCrate ∧ place'.NamesCrate ∨ place'.IsModOf place ∨ place.IsModOf place' := by
  rw [h.ofFile_eq, h'.ofFile_eq,
    Scope.ofSegments_cons_inj place.colon_modulesOf place'.colon_modulesOf]
  exact SourcePlace.modulesOf_eq_iff hne

/-- The place `api/v1.rs`. -/
def versionFile : SourcePlace := ⟨["api"], "v1", by decide⟩

/-- The place `api/v1/mod.rs`. -/
def versionMod : SourcePlace := ⟨["api", "v1"], "mod", by decide⟩

theorem ofFile_version :
    (IsAt "/project/src/" "/project/src/api/v1.rs" versionFile ∧
      IsAt "/project/src/" "/project/src/api/v1/mod.rs" versionMod ∧ versionFile ≠ versionMod) ∧
    ofFile "hr" "/project/src/" "/project/src/api/v1.rs" =
      ofFile "hr" "/project/src/" "/project/src/api/v1/mod.rs" := by
  have hplain : (∀ name ∈ versionFile.names, Path.IsPlain name) ∧
      ∀ name ∈ versionMod.names, Path.IsPlain name := by decide
  have hfile : IsAt "/project/src/" "/project/src/api/v1.rs" versionFile := by
    have hpath : versionFile.names.foldl Path.join "/project/src/" = "/project/src/api/v1.rs" := by
      decide
    exact hpath ▸ SourcePlace.isAt_foldl_join hplain.1 "/project/src/"
  have hmod : IsAt "/project/src/" "/project/src/api/v1/mod.rs" versionMod := by
    have hpath : versionMod.names.foldl Path.join "/project/src/" = "/project/src/api/v1/mod.rs" := by
      decide
    exact hpath ▸ SourcePlace.isAt_foldl_join hplain.2 "/project/src/"
  have hne : versionFile ≠ versionMod := fun heq =>
    absurd (congrArg SourcePlace.stem heq) (by decide)
  refine ⟨⟨hfile, hmod, hne⟩, ?_⟩
  exact (ofFile_eq_iff "hr" _ _ _ versionFile versionMod hfile hmod hne).mpr
    (.inr (.inl ⟨rfl, rfl, by decide⟩))

end FileScope

end Entrypoint
