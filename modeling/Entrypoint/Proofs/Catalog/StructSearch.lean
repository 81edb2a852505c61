import Entrypoint.Proofs.Catalog.ImportedAlias
import Entrypoint.Proofs.Catalog.Tables

/-! The order in which a bare name is looked for among the structs. A declaration of the scope comes
before what an import of the name leads to, and this before any struct of that name
(`declarationFirst`). A scope that imports the name is not looked at for a declaration of its own,
and nor is the scope without a name: there the search starts with the import. The struct that the
scope declares is then found only if the rest of the search happens to end at it. -/

namespace Entrypoint

namespace Catalog

/-- A way to look for the struct that a bare name means in a scope. -/
inductive StructSearch
  /-- The first struct that the scope declares under the name. -/
  | declared
  /-- The first struct that an import of the name leads to. -/
  | imported
  /-- The first struct of that name in any scope. -/
  | byName

/-- What a search finds. -/
def StructSearch.found? (c : Catalog) (scope name : String) : StructSearch → Option CatalogStruct
  | declared => c.structs.find? fun s => s.scope == scope && s.name == name
  | imported => (c.importOf? scope name).bind fun path =>
      c.structs.find? (·.qualifiedName.path == path)
  | byName => c.structs.find? (·.name == name)

/-- What the first successful search of a row finds. -/
def firstFound (c : Catalog) (scope name : String) (searches : List StructSearch) :
    Option CatalogStruct :=
  searches.findSome? (·.found? c scope name)

/-- A declaration of the scope, an import, any struct of the name. -/
def declarationFirst : List StructSearch := [.declared, .imported, .byName]

/-- The searches that are made: a name that is imported, or stands in the scope without a name, is
not looked for in its own scope. -/
def searchesMade (c : Catalog) (scope name : String) : List StructSearch :=
  if scope ≠ "" ∧ c.importOf? scope name = none then declarationFirst else [.imported, .byName]

variable {c : Catalog} {scope : String} {name : PathWord}

/-- The path below a scope is that of a struct which the scope declares, unless the scope has no
name: there the path of a struct is its name alone. -/
theorem path_eq_below_iff {s : CatalogStruct} : s.qualifiedName.path = scope ++ "::" ++ name.text ↔
    scope ≠ "" ∧ s.scope = scope ∧ s.name = name.text := by
  constructor
  · intro h
    have hcut : s.qualifiedName = ⟨scope, name.text⟩ :=
      (s.ofPath_path.symm.trans (congrArg QualifiedName.ofPath h)).trans
        (QualifiedName.ofPath_child scope name)
    refine ⟨?_, congrArg QualifiedName.scope hcut, congrArg QualifiedName.name hcut⟩
    rintro rfl
    rw [hcut, QualifiedName.path, if_pos rfl] at h
    have hlength : name.text.length = ("" ++ "::").length + name.text.length :=
      (congrArg String.length h).trans (String.length_append _ _)
    have hbelow : ("" ++ "::").length = 2 := rfl
    omega
  · rintro ⟨hscope, rfl, hname⟩
    rw [QualifiedName.path, CatalogStruct.qualifiedName, if_neg hscope, hname]

/-- Without an import the path below the scope is looked for. -/
theorem find?_below (c : Catalog) (scope : String) (name : PathWord) :
    c.structs.find? (·.qualifiedName.path == scope ++ "::" ++ name.text) =
      if scope = "" then none else StructSearch.declared.found? c scope name.text := by
  split
  · rename_i hscope
    refine List.find?_eq_none.mpr fun s _ heq => ?_
    exact (path_eq_below_iff.mp (beq_iff_eq.mp heq)).1 hscope
  · rename_i hscope
    rw [StructSearch.found?]
    congr 1
    funext s
    rw [Bool.eq_iff_iff, beq_iff_eq, path_eq_below_iff, Bool.and_eq_true, beq_iff_eq, beq_iff_eq]
    exact and_iff_right hscope

theorem firstFound_cons (search : StructSearch) (searches : List StructSearch) (name : String) :
    c.firstFound scope name (search :: searches) =
      (search.found? c scope name).or (c.firstFound scope name searches) := by
  rw [firstFound, List.findSome?_cons]
  cases search.found? c scope name with
  | none => rfl
  | some s => rfl

theorem findStruct?_bare (c : Catalog) (scope : String) (name : PathWord) :
    c.findStruct? scope (.bare name.text) =
      c.firstFound scope name.text (c.searchesMade scope name.text) := by
  rw [findStruct?, exactPath, searchesMade]
  cases himport : c.importOf? scope name.text with
  | some path =>
    rw [if_neg (by simp), firstFound_cons, firstFound_cons, StructSearch.found?, himport]
    exact congrArg _ Option.or_none.symm
  | none =>
    have himported : StructSearch.imported.found? c scope name.text = none := by
      rw [StructSearch.found?, himport]
      rfl
    rw [Option.getD_none, find?_below]
    by_cases hscope : scope = ""
    · rw [if_pos hscope, if_neg (by simp [hscope]), firstFound_cons, himported, firstFound_cons]
      exact congrArg _ Option.or_none.symm
    · rw [if_neg hscope, if_pos ⟨hscope, rfl⟩, declarationFirst, firstFound_cons, firstFound_cons,
        himported, firstFound_cons]
      exact congrArg _ Option.or_none.symm

/-- **The order of the search for structs.** A bare name of a scope means what the first successful
one of the searches made finds. This is what it means if declarations of the scope come first
exactly if a struct that the scope declares under the name is looked for, as it is in every scope
with a name that does not import this one, or else is what the import, or the name alone, leads to. -/
theorem findStruct?_order (c : Catalog) (scope : String) (name : PathWord) :
    c.findStruct? scope (.bare name.text) =
        c.firstFound scope name.text (c.searchesMade scope name.text) ∧
      (c.findStruct? scope (.bare name.text) = c.firstFound scope name.text declarationFirst ↔
        ∀ s, StructSearch.declared.found? c scope name.text = some s →
          (scope ≠ "" ∧ c.importOf? scope name.text = none) ∨
            c.firstFound scope name.text [.imported, .byName] = some s) := by
  refine ⟨findStruct?_bare c scope name, ?_⟩
  rw [findStruct?_bare, searchesMade]
  by_cases hmade : scope ≠ "" ∧ c.importOf? scope name.text = none
  · rw [if_pos hmade]
    exact iff_of_true rfl fun _ _ => .inl hmade
  · rw [if_neg hmade, declarationFirst, firstFound_cons .declared]
    cases StructSearch.declared.found? c scope name.text with
    | none => exact iff_of_true rfl nofun
    | some s =>
      rw [Option.some_or]
      refine ⟨fun h s' hs' => .inr (h.trans hs'), fun h => ?_⟩
      exact (h s rfl).resolve_left hmade

end Catalog

/-! ### A derived name

The scope `e` declares a struct `B` and imports a macro of that name; another scope declares a
struct `B` before it. -/

namespace Sample

def earlierFile : SourceFile := ⟨"d.rs", "d", [.record ⟨"", textAlias, .absent⟩]⟩

def derivingFile : SourceFile :=
  ⟨"e.rs", "e", [.imports (.path (.ofIdent integerAlias) (.name (.ofIdent textAlias))),
    .record ⟨"", textAlias, .absent⟩]⟩

/-- The name means the struct of the other scope. -/
example :
    ((Catalog.ofFiles [earlierFile, derivingFile]).findStruct? "e" (.bare "B")).map
        (·.qualifiedName) = some ⟨"d", "B"⟩ ∧
      ((Catalog.ofFiles [earlierFile, derivingFile]).firstFound "e" "B"
        Catalog.declarationFirst).map (·.qualifiedName) = some ⟨"e", "B"⟩ := by
  decide

end Sample

end Entrypoint
