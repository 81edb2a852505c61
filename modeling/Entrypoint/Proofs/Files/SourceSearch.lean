import Entrypoint.Proofs.Files.Listing
import Entrypoint.Proofs.Files.Rewriting
import Entrypoint.Proofs.Files.SharedScope
import Mathlib.Data.List.Lex
import Mathlib.Data.List.Nodup

/-! The search for the source files of a module that is a directory. It finds every source file below
the directory once, except those that are hidden or in build output, and nothing else. The paths come
in the order of their components, so they are the same in whatever order directories list their
entries. What the module's own directory is called does not matter. -/

namespace Entrypoint

namespace Path

variable {name ext : String} {p q : Place}

/-! ### Extensions -/

/-- What is behind the last dot of a name is its extension, unless the name begins with that dot. -/
theorem extensionOf?_append (h : '.' ∉ ext.toList) (stem : String) :
    extensionOf? (stem ++ "." ++ ext) = if stem = "" then none else some ext := by
  have hpieces : (Text.splitAt '.' (stem ++ "." ++ ext).toList).reverse =
      ext.toList :: (Text.splitAt '.' stem.toList).reverse := by
    have hchars : (stem ++ "." ++ ext).toList = stem.toList ++ '.' :: ext.toList := by simp
    rw [hchars, Text.splitAt_append, Text.splitAt_of_notMem h, List.reverse_append,
      List.reverse_singleton, List.singleton_append]
  have hstem : (Text.splitAt '.' stem.toList).reverse = [[]] ↔ stem = "" := by
    rw [List.reverse_eq_iff, List.reverse_singleton, Text.splitAt_eq_singleton_nil,
      String.toList_eq_nil_iff]
  obtain ⟨piece, pieces, hbefore⟩ := List.exists_cons_of_ne_nil
    (mt List.reverse_eq_nil_iff.mp (Text.splitAt_ne_nil '.' stem.toList))
  rw [hbefore] at hpieces hstem
  rw [extensionOf?, hpieces]
  simp only [hstem, String.ofList_toList]

theorem extensionOf?_of_notMem (h : '.' ∉ name.toList) : extensionOf? name = none := by
  rw [extensionOf?, Text.splitAt_of_notMem h]
  rfl

theorem exists_append_of_mem (h : '.' ∈ name.toList) :
    ∃ stem ext : String, '.' ∉ ext.toList ∧ name = stem ++ "." ++ ext := by
  obtain ⟨after, before, hname, hafter⟩ := List.eq_append_cons_of_mem (List.mem_reverse.mpr h)
  refine ⟨String.ofList before.reverse, String.ofList after.reverse, ?_, ?_⟩
  · rwa [String.toList_ofList, List.mem_reverse]
  · rw [← String.toList_inj, ← List.reverse_inj, hname]
    simp

theorem extensionOf?_eq_some_iff : extensionOf? name = some ext ↔
    '.' ∉ ext.toList ∧ ∃ stem, stem ≠ "" ∧ name = stem ++ "." ++ ext := by
  constructor
  · intro h
    by_cases hdot : '.' ∈ name.toList
    · obtain ⟨stem, ext', hext, rfl⟩ := exists_append_of_mem hdot
      rw [extensionOf?_append hext] at h
      split at h
      · cases h
      · rename_i hstem
        cases h
        exact ⟨hext, stem, hstem, rfl⟩
    · rw [extensionOf?_of_notMem hdot] at h
      cases h
  · rintro ⟨hext, stem, hstem, rfl⟩
    rw [extensionOf?_append hext, if_neg hstem]

/-! ### The order of paths -/

/-- The rank of a component. What is no name comes before the names. -/
def Component.rank : Component → Nat
  | .root => 0
  | .here => 1
  | .up => 2
  | .name _ => 3

/-- A component comes before another: by rank, and of two names by their characters. -/
inductive Component.Before : Component → Component → Prop
  | rank {c d : Component} (h : c.rank < d.rank) : Before c d
  | name {a b : String} (h : a < b) : Before (.name a) (.name b)

/-- A path comes before another, component by component. -/
def Before (path path' : String) : Prop :=
  List.Lex Component.Before (components path) (components path')

theorem lex_of_precedes (h : Discovery.precedes p q = true) (hne : p ≠ q) :
    List.Lex Component.Before (p.map .name) (q.map .name) := by
  induction p generalizing q with
  | nil =>
    cases q with
    | nil => exact absurd rfl hne
    | cons b q => exact .nil
  | cons a p ih =>
    cases q with
    | nil => cases h
    | cons b q =>
      rw [Discovery.precedes] at h
      split at h
      · rename_i heq
        subst heq
        exact .cons (ih h fun heq => hne (congrArg _ heq))
      · exact .rel (.name (of_decide_eq_true h))

/-- Paths below a directory come in the order of the places that they lead to. -/
theorem before_foldl_join (h : Discovery.precedes p q = true) (hne : p ≠ q)
    (hp : ∀ name ∈ p, IsPlain name) (hq : ∀ name ∈ q, IsPlain name) (path : String) :
    Before (p.foldl join path) (q.foldl join path) := by
  rw [Before, components_foldl_join hp, components_foldl_join hq]
  exact .append_left _ (lex_of_precedes h hne) _

end Path

namespace Discovery

variable {name : String}

/-- What has the name is passed over, with all that is below it. -/
def IsPassedOver (name : String) : Prop := name.toList.head? = some '.' ∨ name = "target"

theorem isVisible_iff : isVisible name = true ↔ ¬IsPassedOver name := by
  rw [isVisible, Bool.and_eq_true, bne_iff_ne, bne_iff_ne, IsPassedOver, not_or]
  rfl

theorem isSourceName_iff : isSourceName name = true ↔ ∃ stem, stem ≠ "" ∧ name = stem ++ ".rs" := by
  have hext : '.' ∉ sourceExtension.toList := by decide
  rw [isSourceName, decide_eq_true_iff, Path.extensionOf?_eq_some_iff, and_iff_right hext]
  refine exists_congr fun stem => and_congr_right fun _ => ?_
  rw [String.append_assoc]
  rfl

end Discovery

namespace Tree

open Discovery (isSourceName placesBelow)

variable {t t' : Tree} {below place : Place} {path : String}

/-! ### Trees whose directories list their entries in another order -/

/-- A proper tree with the names of a file system: none has a slash, and none is empty or consists of
one or two dots. -/
structure IsFileSystem (t : Tree) : Prop extends IsProper t where
  names : ∀ entry ∈ t.entries, ∀ name ∈ entry.1, Path.IsPlain name

/-- Two trees show the same at every place, and each directory lists the same names, in whatever
order. -/
structure Relisted (t t' : Tree) : Prop where
  same : t.Same t'
  listing : ∀ directory, (t'.listing directory).Perm (t.listing directory)

/-- A tree whose table is in another order. -/
theorem Distinct.relisted_of_perm (H : t.Distinct) (hentries : t'.entries.Perm t.entries)
    (hworking : t'.working = t.working) : t.Relisted t' := by
  have H' : t'.Distinct := (hentries.map _).nodup_iff.mpr H
  refine ⟨⟨hworking, fun place => ?_⟩, fun directory => (hentries.map _).filterMap _⟩
  by_cases hplace : place = []
  · subst hplace
    rfl
  · ext e
    rw [H'.entry?_iff hplace, H.entry?_iff hplace, hentries.mem_iff]

theorem Same.sound (H : t.Same t') (hsound : t.Sound) : t'.Sound where
  parent place hplace := by
    rw [H.isDirectory]
    exact hsound.parent place (H.entry? place ▸ hplace)
  working := by
    rw [H.isDirectory, H.working]
    exact hsound.working

theorem Relisted.placesBelow_eq (H : t.Relisted t') (hsound : t.Sound)
    (hlisting : ∀ place, (t.listing place).Nodup) (base : Place) :
    placesBelow t' base = placesBelow t base := by
  refine eq_placesBelow hlisting (pairwise_placesBelow t' base)
    (nodup_placesBelow (fun place => (H.listing place).nodup_iff.mpr (hlisting place)) base)
    fun below => ?_
  rw [(H.same.sound hsound).mem_placesBelow, hsound.mem_placesBelow, H.same.entry?]

theorem Relisted.sourceFiles_eq (H : t.Relisted t') (hsound : t.Sound)
    (hlisting : ∀ place, (t.listing place).Nodup) (path : String) :
    t'.sourceFiles path = t.sourceFiles path := by
  rw [Tree.sourceFiles, Tree.sourceFiles, H.same.find?]
  cases t.find? path with
  | none => rfl
  | some place =>
    dsimp only
    rw [H.same.isDirectory, H.placesBelow_eq hsound hlisting]

/-! ### Source files below a place -/

/-- A source file is below a place, `below` being the names that lead to it from there: a file with
the extension `rs`. No name below the place, that of the file included, is one to pass over. -/
structure HasSource (t : Tree) (place below : Place) : Prop where
  file : ∃ e, t.entry? (place ++ below) = some e ∧ e.isFile = true
  extension : ∃ above stem, stem ≠ "" ∧ below = above ++ [stem ++ ".rs"]
  visible : ∀ name ∈ below, ¬Discovery.IsPassedOver name

theorem Sound.mem_placesBelow_iff (H : t.Sound) :
    below ∈ placesBelow t place ↔ t.HasSource place below := by
  have hname : below.getLast?.any isSourceName = true ↔
      ∃ above stem, stem ≠ "" ∧ below = above ++ [stem ++ ".rs"] := by
    simp only [Option.any_eq_true, Discovery.isSourceName_iff, List.getLast?_eq_some_iff]
    constructor
    · rintro ⟨_, ⟨above, rfl⟩, stem, hstem, rfl⟩
      exact ⟨above, stem, hstem, rfl⟩
    · rintro ⟨above, stem, hstem, rfl⟩
      exact ⟨_, ⟨above, rfl⟩, stem, hstem, rfl⟩
  rw [H.mem_placesBelow]
  simp only [isFound_iff, Discovery.isVisible_iff, hname]
  constructor
  · rintro ⟨hvisible, e, hentry, hfile, hextension⟩
    exact ⟨⟨e, hentry, hfile⟩, hextension, hvisible⟩
  · rintro ⟨⟨e, hentry, hfile⟩, hextension, hvisible⟩
    exact ⟨hvisible, e, hentry, hfile, hextension⟩

theorem IsFileSystem.isPlain (H : t.IsFileSystem) (h : (t.entry? place).isSome) :
    ∀ name ∈ place, Path.IsPlain name := by
  by_cases hplace : place = []
  · rw [hplace]
    exact nofun
  · obtain ⟨e, hentry⟩ := Option.isSome_iff_exists.mp h
    exact H.names (place, e) ((H.distinct.entry?_iff hplace).mp hentry)

theorem HasSource.isPlain (h : t.HasSource place below) (H : t.IsFileSystem) :
    ∀ name ∈ below, Path.IsPlain name := by
  obtain ⟨e, hentry, _⟩ := h.file
  intro name hname
  exact H.isPlain (by rw [hentry]; rfl) name (List.mem_append_right place hname)

theorem HasSource.find?_foldl_join (h : t.HasSource place below) (H : t.IsFileSystem)
    (hfind : t.find? path = some place) :
    t.find? (below.foldl Path.join path) = some (place ++ below) := by
  obtain ⟨e, hentry, _⟩ := h.file
  exact H.sound.find?_foldl_join hfind (h.isPlain H) (by rw [hentry]; rfl)

/-! ### The search -/

/-- Paths are those of all source files below a place that a path leads to. Exactly one of them leads
to each source file, each is the path followed by the names that lead to a source file, and they come
in the order of their components. -/
structure Finds (t : Tree) (path : String) (place : Place) (files : List String) : Prop where
  once : ∀ below, t.HasSource place below → (files.map t.find?).count (some (place ++ below)) = 1
  only : ∀ file ∈ files, ∃ below, t.HasSource place below ∧ file = below.foldl Path.join path ∧
    t.find? file = some (place ++ below)
  ordered : files.Pairwise Path.Before

theorem IsFileSystem.finds_placesBelow (H : t.IsFileSystem) (hfind : t.find? path = some place) :
    t.Finds path place ((placesBelow t place).map fun below => below.foldl Path.join path) := by
  have hnodup := nodup_placesBelow H.distinct.nodup_listing place
  have hsource : ∀ below ∈ placesBelow t place, t.HasSource place below := fun below =>
    H.sound.mem_placesBelow_iff.mp
  refine ⟨fun below hbelow => ?_, List.forall_mem_map.mpr fun below hbelow => ?_,
    List.pairwise_map.mpr ?_⟩
  · have hplaces : ((placesBelow t place).map fun below => below.foldl Path.join path).map t.find? =
        (placesBelow t place).map fun below => some (place ++ below) := by
      rw [List.map_map]
      exact List.map_congr_left fun below hbelow => (hsource below hbelow).find?_foldl_join H hfind
    rw [hplaces]
    refine List.count_eq_one_of_mem (hnodup.map fun _ _ heq => ?_)
      (List.mem_map_of_mem (H.sound.mem_placesBelow_iff.mpr hbelow))
    exact List.append_cancel_left (Option.some.inj heq)
  · exact ⟨below, hsource below hbelow, rfl, (hsource below hbelow).find?_foldl_join H hfind⟩
  · refine ((pairwise_placesBelow t place).and hnodup).imp_of_mem fun hp hq h => ?_
    exact Path.before_foldl_join h.1 h.2 ((hsource _ hp).isPlain H) ((hsource _ hq).isPlain H) path

/-- **The source files of a module** that is a directory are found, each once and nothing else, in
the order of their paths, in whatever order the directories list their entries. -/
theorem finds_of_isDirectory (H : t.IsFileSystem) (hfind : t.find? path = some place)
    (hdirectory : t.isDirectory place = true) :
    ∃ files, t.sourceFiles path = .ok files ∧ t.Finds path place files ∧
      ∀ t', t.Relisted t' → t'.sourceFiles path = .ok files := by
  have hfiles : t.sourceFiles path =
      .ok ((placesBelow t place).map fun below => below.foldl Path.join path) := by
    rw [Tree.sourceFiles, hfind]
    exact if_pos hdirectory
  refine ⟨_, hfiles, H.finds_placesBelow hfind, fun t' ht' => ?_⟩
  rw [ht'.sourceFiles_eq H.sound H.distinct.nodup_listing, hfiles]

/-- A module in a hidden directory that is called like build output, and in it source files, a hidden
one, one in build output and a file of another kind. -/
def hiddenModule : Tree where
  entries := [([".w"], .directory), ([".w", "target"], .directory),
    ([".w", "target", "a"], .directory), ([".w", "target", "a", "b.rs"], .text ""),
    ([".w", "target", "a-b.rs"], .binary), ([".w", "target", "a.rs"], .text ""),
    ([".w", "target", "target"], .directory), ([".w", "target", "target", "c.rs"], .text ""),
    ([".w", "target", ".d.rs"], .text ""), ([".w", "target", "a.md"], .text "")]
  working := []

theorem isFileSystem_hiddenModule : hiddenModule.IsFileSystem := by
  obtain ⟨hparents, hplaces, hnames⟩ :
      (∀ e ∈ hiddenModule.entries, hiddenModule.isDirectory e.1.dropLast = true) ∧
        (hiddenModule.entries.map (·.1)).Nodup ∧
        ∀ e ∈ hiddenModule.entries, ∀ name ∈ e.1, Path.IsPlain name := by decide
  exact ⟨⟨sound_of_entries hparents rfl, hplaces, nofun⟩, hnames⟩

/-- The search in a module that its own name would exclude, and in the same with its table turned
around. -/
theorem finds_of_isDirectory_hiddenModule :
    hiddenModule.IsFileSystem ∧ hiddenModule.find? ".w/target" = some [".w", "target"] ∧
      hiddenModule.isDirectory [".w", "target"] = true ∧
      hiddenModule.Finds ".w/target" [".w", "target"]
        [".w/target/a/b.rs", ".w/target/a-b.rs", ".w/target/a.rs"] ∧
      { hiddenModule with entries := hiddenModule.entries.reverse }.sourceFiles ".w/target" =
        .ok [".w/target/a/b.rs", ".w/target/a-b.rs", ".w/target/a.rs"] := by
  have H := isFileSystem_hiddenModule
  obtain ⟨hfind, hdirectory, hlists⟩ :
      hiddenModule.find? ".w/target" = some [".w", "target"] ∧
        hiddenModule.isDirectory [".w", "target"] = true ∧
        hiddenModule.listsSources ".w/target" [["a", "b.rs"], ["a-b.rs"], ["a.rs"]] = true := by
    decide +kernel
  obtain ⟨files, hfiles, hfinds, hrelisted⟩ := finds_of_isDirectory H hfind hdirectory
  cases (sourceFiles_of_listsSources hlists (by decide)).symm.trans hfiles
  exact ⟨H, hfind, hdirectory, hfinds,
    hrelisted _ (H.distinct.relisted_of_perm (List.reverse_perm _) rfl)⟩

end Tree

end Entrypoint
