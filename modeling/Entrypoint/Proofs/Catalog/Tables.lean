import Entrypoint.Catalog.Lookup
import Entrypoint.Proofs.Catalog.Paths
import Mathlib.Data.List.Induction

/-! The tables of a catalogue against the declarations it is made from. Structs and aliases come in
the order of the declarations. A name is imported by the last binding of it, and the path behind it
was made absolute when the binding came: what was declared by then decides whether a path that may
begin at a child scope does. -/

namespace Entrypoint

open Scope (IsPath)
open PathWord (spell)

/-! ### Names in declarations -/

/-- An alias is declared under a name, and an import is of a path. -/
def Declaration.IsNamed : Declaration → Prop
  | .alias entry => ∃ name : PathWord, entry.name = name.text
  | .binding _ _ written => IsPath written
  | _ => True

namespace Item

mutual

theorem isNamed_declarations (scope : String) : (item : Item) →
    ∀ d ∈ item.declarations scope, d.IsNamed
  | .record s, d, hd => by rw [List.mem_singleton.mp hd]; trivial
  | .alias name target, d, hd => by rw [List.mem_singleton.mp hd]; exact ⟨.ofIdent name, rfl⟩
  | .function f, d, hd => by rw [List.mem_singleton.mp hd]; trivial
  | .methods selfType list, d, hd => by
    rw [declarations] at hd
    split at hd
    · rw [List.mem_singleton.mp hd]; trivial
    · cases hd
  | .imports tree, d, hd => by
    obtain ⟨b, hb, rfl⟩ := List.mem_map.mp hd
    exact UseTree.isPath_bindings [] tree b hb
  | .inlineModule name items, d, hd => isNamed_declarationsAll _ items d hd

theorem isNamed_declarationsAll (scope : String) : (items : List Item) →
    ∀ d ∈ declarationsAll scope items, d.IsNamed
  | [], d, hd => nomatch hd
  | item :: rest, d, hd => by
    rcases List.mem_append.mp hd with hd | hd
    · exact isNamed_declarations scope item d hd
    · exact isNamed_declarationsAll scope rest d hd

end

end Item

theorem QualifiedName.ofPath_path (scope : String) (name : PathWord) :
    ofPath (QualifiedName.mk scope name.text).path = ⟨scope, name.text⟩ := by
  rw [path]
  split
  · rename_i hscope
    rw [ofPath, PathWord.cutLast_text, show scope = "" from hscope]
  · exact ofPath_child scope name

theorem QualifiedName.path_inj {scope scope' : String} {name name' : PathWord}
    (h : (QualifiedName.mk scope name.text).path = (QualifiedName.mk scope' name'.text).path) :
    scope = scope' ∧ name.text = name'.text := by
  have hcut := congrArg ofPath h
  rw [ofPath_path, ofPath_path] at hcut
  exact QualifiedName.mk.inj hcut

theorem CatalogStruct.ofPath_path (s : CatalogStruct) :
    QualifiedName.ofPath s.qualifiedName.path = s.qualifiedName :=
  QualifiedName.ofPath_path s.scope (.ofIdent s.item.name)

/-- The struct that a declaration adds to a catalogue. -/
def Declaration.struct? : Declaration → Option CatalogStruct
  | .record entry => some entry
  | _ => none

/-- The alias that a declaration adds to a catalogue. -/
def Declaration.alias? : Declaration → Option CatalogAlias
  | .alias entry => some entry
  | _ => none

/-- The scope and the name that a declaration binds. -/
def Declaration.bound? : Declaration → Option (String × String)
  | .binding scope name _ => some (scope, name)
  | _ => none

namespace Catalog

variable {c c' : Catalog} {scope name current written below : String} {d : Declaration}
  {declarations before after : List Declaration} {wanted : WrittenName}

/-- A table that each declaration adds its entry to lists the entries in the order of the
declarations. -/
theorem foldl_add_table {α : Type} (table : Catalog → List α) {added : Declaration → Option α}
    (hadd : ∀ c d, table (add c d) = table c ++ (added d).toList) (c : Catalog)
    (declarations : List Declaration) :
    table (declarations.foldl add c) = table c ++ declarations.filterMap added := by
  induction declarations generalizing c with
  | nil => exact (List.append_nil _).symm
  | cons d declarations ih =>
    rw [List.foldl_cons, ih, hadd, List.append_assoc]
    cases hd : added d with
    | none => rw [List.filterMap_cons_none hd]; rfl
    | some entry => rw [List.filterMap_cons_some hd]; rfl

/-- The catalogue of declarations, in their order. -/
def ofDeclarations (declarations : List Declaration) : Catalog := declarations.foldl add empty

theorem ofFiles_eq (files : List SourceFile) :
    ofFiles files = ofDeclarations (files.flatMap SourceFile.declarations) := rfl

theorem isNamed_of_mem_files {files : List SourceFile} :
    ∀ d ∈ files.flatMap SourceFile.declarations, d.IsNamed := by
  intro d hd
  obtain ⟨file, _, hd⟩ := List.mem_flatMap.mp hd
  exact Item.isNamed_declarationsAll file.scope file.items d hd

theorem structs_ofDeclarations (declarations : List Declaration) :
    (ofDeclarations declarations).structs = declarations.filterMap Declaration.struct? := by
  refine foldl_add_table structs (fun c d => ?_) empty declarations
  cases d with
  | record entry => rfl
  | methods | «alias» | function | binding => exact (List.append_nil _).symm

theorem aliases_ofDeclarations (declarations : List Declaration) :
    (ofDeclarations declarations).aliases = declarations.filterMap Declaration.alias? := by
  refine foldl_add_table aliases (fun c d => ?_) empty declarations
  cases d with
  | «alias» entry => rfl
  | methods | record | function | binding => exact (List.append_nil _).symm

/-! ### Imports -/

/-- What a catalogue imports is what the declarations bind, the last of them first. -/
theorem keys_imports_ofDeclarations (declarations : List Declaration) :
    ((ofDeclarations declarations).imports.map fun i => (i.scope, i.localName)).reverse =
      declarations.filterMap Declaration.bound? := by
  refine foldl_add_table (fun c => (c.imports.map fun i => (i.scope, i.localName)).reverse)
    (fun c d => ?_) empty declarations
  cases d with
  | binding => exact List.reverse_cons
  | methods | record | function | «alias» => exact (List.append_nil _).symm

theorem importOf?_add (c : Catalog) (d : Declaration) (scope name : String) :
    (c.add d).importOf? scope name = match d with
      | .binding scope' local' written =>
        if scope' = scope ∧ local' = name then some (c.absolutePath scope' written)
        else c.importOf? scope name
      | _ => c.importOf? scope name := by
  cases d with
  | binding scope' local' written =>
    simp only [importOf?, add, List.find?_cons]
    by_cases h : scope' = scope ∧ local' = name
    · obtain ⟨rfl, rfl⟩ := h
      simp
    · rw [if_neg h]
      split
      · rename_i heq
        simp only [Bool.and_eq_true, beq_iff_eq] at heq
        exact absurd heq h
      · rfl
  | _ => rfl

theorem importOf?_foldl_add (h : ∀ d ∈ declarations, d.bound? ≠ some (scope, name))
    (c : Catalog) :
    (declarations.foldl add c).importOf? scope name = c.importOf? scope name := by
  induction declarations generalizing c with
  | nil => rfl
  | cons d declarations ih =>
    obtain ⟨hd, hrest⟩ := List.forall_mem_cons.mp h
    rw [List.foldl_cons, ih hrest, importOf?_add]
    split
    · rename_i scope' local' written
      refine if_neg fun heq => hd ?_
      rw [Declaration.bound?, heq.1, heq.2]
    · rfl

theorem mem_bound?_iff : (scope, name) ∈ declarations.filterMap Declaration.bound? ↔
    ∃ written, .binding scope name written ∈ declarations := by
  rw [List.mem_filterMap]
  constructor
  · rintro ⟨d, hd, hbound⟩
    cases d with
    | binding =>
      cases hbound
      exact ⟨_, hd⟩
    | record | «alias» | function | methods => cases hbound
  · rintro ⟨written, hd⟩
    exact ⟨_, hd, rfl⟩

theorem importOf?_eq_none_iff : (ofDeclarations declarations).importOf? scope name = none ↔
    (scope, name) ∉ declarations.filterMap Declaration.bound? := by
  rw [← keys_imports_ofDeclarations, List.mem_reverse, importOf?, Option.map_eq_none_iff,
    List.find?_eq_none, List.mem_map]
  simp only [Bool.and_eq_true, beq_iff_eq, Prod.mk.injEq, not_exists, not_and]

/-- The last binding of a name imports what its path meant when it came. -/
theorem importOf?_of_binding (h : ∀ d ∈ after, d.bound? ≠ some (scope, name)) :
    (ofDeclarations (before ++ .binding scope name written :: after)).importOf? scope name =
      some ((ofDeclarations before).absolutePath scope written) := by
  rw [ofDeclarations, List.foldl_append, List.foldl_cons, importOf?_foldl_add h, importOf?_add]
  exact if_pos ⟨rfl, rfl⟩

/-! ### Child scopes -/

/-- The child scope that a scope written in another one is looked for in, if it is written so that
it may be a child. -/
def childScope? (current written : String) : Option String :=
  let written := String.ofList (Text.dropColons written.toList)
  match (Scope.segments written).filter (· ≠ "") with
  | first :: _ =>
    if first = "crate" ∨ first = "self" ∨ first = "super" then none
    else some (current ++ "::" ++ written)
  | [] => some (current ++ "::" ++ written)

theorem absoluteScope_of_childScope? (h : childScope? current written = some below)
    (c : Catalog) : c.absoluteScope current written =
      if c.declaresIn below then below else String.ofList (Text.dropColons written.toList) := by
  unfold childScope? at h
  unfold absoluteScope
  dsimp only at h ⊢
  generalize (Scope.segments (String.ofList (Text.dropColons written.toList))).filter (· ≠ "") =
    segments at h ⊢
  cases segments with
  | nil =>
    cases h
    rfl
  | cons first rest =>
    dsimp only at h ⊢
    split at h
    · cases h
    · rename_i hfirst
      obtain ⟨hcrate, hsteps⟩ := not_or.mp hfirst
      cases h
      rw [if_neg hcrate, if_neg hsteps]
      rfl

theorem absoluteScope_of_childScope?_eq_none (h : childScope? current written = none)
    (c c' : Catalog) : c.absoluteScope current written = c'.absoluteScope current written := by
  unfold childScope? at h
  unfold absoluteScope
  dsimp only at h ⊢
  generalize (Scope.segments (String.ofList (Text.dropColons written.toList))).filter (· ≠ "") =
    segments at h ⊢
  cases segments with
  | nil => cases h
  | cons first rest =>
    dsimp only at h ⊢
    split at h
    · rename_i hfirst
      split
      · rfl
      · rename_i hcrate
        rw [if_pos (hfirst.resolve_left hcrate), if_pos (hfirst.resolve_left hcrate)]
    · cases h

theorem ne_of_childScope? (h : childScope? current written = some below) :
    below ≠ String.ofList (Text.dropColons written.toList) := by
  have hbelow : below = current ++ "::" ++ String.ofList (Text.dropColons written.toList) := by
    unfold childScope? at h
    dsimp only at h
    split at h
    · split at h
      · cases h
      · exact (Option.some.inj h).symm
    · exact (Option.some.inj h).symm
  intro heq
  have hlength := congrArg String.length (hbelow.symm.trans heq)
  rw [String.length_append, String.length_append] at hlength
  have hcolons : "::".length = 2 := rfl
  omega

/-- What a scope means depends on whether something is declared in the child scope, and on nothing
else. -/
theorem absoluteScope_eq_iff : c.absoluteScope current written = c'.absoluteScope current written ↔
    ∀ below, childScope? current written = some below →
      c.declaresIn below = c'.declaresIn below := by
  cases h : childScope? current written with
  | none => exact iff_of_true (absoluteScope_of_childScope?_eq_none h c c') fun _ h => nomatch h
  | some below =>
    rw [absoluteScope_of_childScope? h, absoluteScope_of_childScope? h]
    have hne := ne_of_childScope? h
    constructor
    · rintro heq _ ⟨⟩
      cases hc : c.declaresIn below <;> cases hc' : c'.declaresIn below <;>
        simp [hc, hc', hne, hne.symm] at heq ⊢
    · intro heq
      rw [heq below rfl]

/-! ### Where written names point -/

/-- A written name points to one place in two catalogues: a bare name through one import, a name
behind a path through one scope. -/
def PointsAlike (c c' : Catalog) (scope : String) : WrittenName → Prop
  | .bare name => c.importOf? scope name = c'.importOf? scope name
  | .qualified inside _ => c.absoluteScope scope inside = c'.absoluteScope scope inside

theorem PointsAlike.exactPath_eq (h : PointsAlike c c' scope wanted) :
    c.exactPath scope wanted = c'.exactPath scope wanted := by
  cases wanted with
  | bare | qualified => rw [exactPath, exactPath, h]

theorem PointsAlike.aliasScope_eq (h : PointsAlike c c' scope wanted) :
    c.aliasScope scope wanted = c'.aliasScope scope wanted := by
  cases wanted with
  | bare | qualified => rw [aliasScope, aliasScope, h]

theorem PointsAlike.typeName?_eq (h : PointsAlike c c' scope wanted)
    (hfind : c.findStruct? scope wanted = c'.findStruct? scope wanted) :
    c.typeName? scope wanted = c'.typeName? scope wanted := by
  unfold typeName?
  rw [hfind]
  cases c'.findStruct? scope wanted with
  | some found => rfl
  | none =>
    cases wanted with
    | bare | qualified => simp only [show _ = _ from h]

/-- A name written in a scope points to a struct of the catalogue. -/
def PointsToStruct (c : Catalog) (scope : String) (wanted : WrittenName) : Prop :=
  ∃ s ∈ c.structs, s.qualifiedName.path = c.exactPath scope wanted

theorem PointsToStruct.typeName?_eq (h : c.PointsToStruct scope wanted) :
    c.typeName? scope wanted = some (.ofPath (c.exactPath scope wanted)) := by
  obtain ⟨s, hs, hpath⟩ := h
  have hsome : (c.structs.find? (·.qualifiedName.path == c.exactPath scope wanted)).isSome :=
    List.find?_isSome.mpr ⟨s, hs, beq_iff_eq.mpr hpath⟩
  obtain ⟨found, hfound⟩ := Option.isSome_iff_exists.mp hsome
  have hexact := List.find?_some hfound
  have hfind : c.findStruct? scope wanted = some found := by
    rw [findStruct?, hfound]
    rfl
  unfold typeName?
  rw [hfind, ← beq_iff_eq.mp hexact, found.ofPath_path]

theorem findStruct?_of_not_pointsToStruct (h : ¬c.PointsToStruct scope wanted) :
    c.findStruct? scope wanted = c.structs.find? (·.name == wanted.name) := by
  have hnone : c.structs.find? (·.qualifiedName.path == c.exactPath scope wanted) = none :=
    List.find?_eq_none.mpr fun s hs heq => h ⟨s, hs, beq_iff_eq.mp heq⟩
  rw [findStruct?, hnone, Option.none_or]

/-! ### Absolute paths -/

/-- The child scope that an imported path is looked for in. -/
def childOfPath? (current path : String) : Option String :=
  match Text.cutLast path.toList with
  | some (scope, _) => childScope? current (String.ofList scope)
  | none => none

/-- A path is a name alone, which means itself, or a name within a scope. -/
theorem absolutePath_cases (current : String) (h : IsPath written) :
    (∃ name : PathWord, childOfPath? current written = none ∧
      ∀ c : Catalog, c.absolutePath current written = name.text) ∨
    ∃ (inside : String) (name : PathWord),
      childOfPath? current written = childScope? current inside ∧
        ∀ c : Catalog, c.absolutePath current written =
          (QualifiedName.mk (c.absoluteScope current inside) name.text).path := by
  obtain ⟨names, hne, rfl⟩ := h
  obtain ⟨names, name, rfl⟩ := (List.eq_nil_or_concat names).resolve_left hne
  rw [List.concat_eq_append]
  by_cases hnames : names = []
  · subst hnames
    have htext : spell [name] = name.text := by simp [spell]
    rw [List.nil_append, htext, childOfPath?, PathWord.cutLast_text]
    refine .inl ⟨name, rfl, fun c => ?_⟩
    rw [absolutePath, PathWord.cutLast_text]
  · rw [childOfPath?, PathWord.cutLast_spell hnames]
    refine .inr ⟨spell names, name, by simp only [String.ofList_toList], fun c => ?_⟩
    rw [absolutePath, PathWord.cutLast_spell hnames]
    simp only [String.ofList_toList]

/-- What an imported path means depends on whether something is declared in its child scope, and on
nothing else. -/
theorem absolutePath_eq_iff (h : IsPath written) :
    c.absolutePath current written = c'.absolutePath current written ↔
      ∀ below, childOfPath? current written = some below →
        c.declaresIn below = c'.declaresIn below := by
  obtain ⟨name, hchild, hpath⟩ | ⟨inside, name, hchild, hpath⟩ := absolutePath_cases current h
  · rw [hpath, hpath, hchild]
    exact iff_of_true rfl fun _ h => nomatch h
  · rw [hpath, hpath, hchild, ← absoluteScope_eq_iff]
    exact ⟨fun heq => (QualifiedName.path_inj heq).1, fun heq => by rw [heq]⟩

theorem path_ofPath_absolutePath (h : IsPath written) (c : Catalog) :
    (QualifiedName.ofPath (c.absolutePath current written)).path =
      c.absolutePath current written := by
  obtain ⟨name, _, hpath⟩ | ⟨inside, name, _, hpath⟩ := absolutePath_cases current h
  · rw [hpath, QualifiedName.ofPath, PathWord.cutLast_text]
    rfl
  · rw [hpath, QualifiedName.ofPath_path]

theorem path_ofPath_importOf? {path : String} (hnamed : ∀ d ∈ declarations, d.IsNamed)
    (h : (ofDeclarations declarations).importOf? scope name = some path) :
    (QualifiedName.ofPath path).path = path := by
  induction declarations using List.reverseRecOn with
  | nil => cases h
  | append_singleton before d ih =>
    rw [ofDeclarations, List.foldl_append, List.foldl_cons, List.foldl_nil, importOf?_add] at h
    have hbefore := fun e he => hnamed e (List.mem_append_left _ he)
    have hd := hnamed d (List.mem_append_right _ (List.mem_singleton_self d))
    cases d with
    | binding scope' local' written =>
      dsimp only at h
      split at h
      · cases h
        exact path_ofPath_absolutePath hd _
      · exact ih hbefore h
    | record | «alias» | function | methods => exact ih hbefore h

end Catalog

end Entrypoint
