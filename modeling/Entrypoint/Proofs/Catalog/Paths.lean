import Entrypoint.Catalog.Lookup
import Entrypoint.Proofs.Catalog.ScopePath

/-! The scopes and the imported paths of a catalogue are spelled by names, if the scopes of the files
are. Adding a declaration keeps this, and every name that the catalogue then makes absolute is
spelled by names. -/

namespace Entrypoint

open Scope (IsSpelled IsPath IsModulePath)
open PathWord (spell)

/-- The scope of a file is a path of identifiers. -/
def SourceFile.HasModuleScope (file : SourceFile) : Prop :=
  ∃ names : List Ident, names ≠ [] ∧ file.scope = "::".intercalate (names.map (·.text))

theorem SourceFile.HasModuleScope.isModulePath {file : SourceFile} (h : file.HasModuleScope) :
    IsModulePath file.scope := by
  obtain ⟨names, hne, hscope⟩ := h
  obtain ⟨first, names, rfl⟩ := List.exists_cons_of_ne_nil hne
  refine ⟨first, names.map .ofIdent, ?_⟩
  rw [hscope, spell, List.map_cons, List.map_cons, List.map_map]
  rfl

/-- A declaration stands in a module and imports a path. -/
def Declaration.IsScoped : Declaration → Prop
  | .record entry => IsModulePath entry.scope
  | .alias entry => IsModulePath entry.scope
  | .function entry => IsModulePath entry.scope
  | .methods entry => IsModulePath entry.scope
  | .binding scope _ written => IsModulePath scope ∧ IsPath written

namespace UseTree

theorem isPath_pathText {above : List PathWord} (hne : above ≠ []) :
    IsPath (pathText (above.map (·.text))) := ⟨above, hne, rfl⟩

mutual

/-- An import tree binds paths. -/
theorem isPath_bindings (above : List PathWord) :
    (tree : UseTree) → ∀ b ∈ tree.bindings (above.map (·.text)), IsPath b.2
  | .path first rest, b, hb => by
    have happend : above.map (·.text) ++ [first.text] = (above ++ [first]).map (·.text) := by simp
    rw [bindings, happend] at hb
    exact isPath_bindings (above ++ [first]) rest b hb
  | .name last, b, hb => by
    have happend : above.map (·.text) ++ [last.text] = (above ++ [last]).map (·.text) := by simp
    rw [bindings, happend] at hb
    split at hb
    · split at hb
      · rename_i hparent
        rw [List.mem_singleton.mp hb]
        refine isPath_pathText fun hnil => ?_
        simp [hnil] at hparent
      · cases hb
    · rw [List.mem_singleton.mp hb]
      exact isPath_pathText (by simp)
  | .renamed last localName, b, hb => by
    have happend : above.map (·.text) ++ [last.text] = (above ++ [last]).map (·.text) := by simp
    rw [bindings, happend] at hb
    rw [List.mem_singleton.mp hb]
    exact isPath_pathText (by simp)
  | .group trees, b, hb => isPath_bindingsAll above trees b hb
  | .all, b, hb => nomatch hb

theorem isPath_bindingsAll (above : List PathWord) :
    (trees : List UseTree) → ∀ b ∈ bindingsAll (above.map (·.text)) trees, IsPath b.2
  | [], b, hb => nomatch hb
  | tree :: rest, b, hb => by
    rcases List.mem_append.mp hb with hb | hb
    · exact isPath_bindings above tree b hb
    · exact isPath_bindingsAll above rest b hb

end

end UseTree

namespace Item

mutual

/-- The declarations of an item stand in modules. -/
theorem isScoped_declarations {scope : String} (h : IsModulePath scope) :
    (item : Item) → ∀ d ∈ item.declarations scope, d.IsScoped
  | .record s, d, hd => by
    rw [List.mem_singleton.mp hd]
    exact h
  | .alias name target, d, hd => by
    rw [List.mem_singleton.mp hd]
    exact h
  | .function f, d, hd => by
    rw [List.mem_singleton.mp hd]
    exact h
  | .methods selfType list, d, hd => by
    rw [declarations] at hd
    split at hd
    · rw [List.mem_singleton.mp hd]
      exact h
    · cases hd
  | .imports tree, d, hd => by
    obtain ⟨b, hb, rfl⟩ := List.mem_map.mp hd
    exact ⟨h, UseTree.isPath_bindings [] tree b hb⟩
  | .inlineModule name items, d, hd => isScoped_declarationsAll (h.child name) items d hd

theorem isScoped_declarationsAll {scope : String} (h : IsModulePath scope) :
    (items : List Item) → ∀ d ∈ declarationsAll scope items, d.IsScoped
  | [], d, hd => nomatch hd
  | item :: rest, d, hd => by
    rcases List.mem_append.mp hd with hd | hd
    · exact isScoped_declarations h item d hd
    · exact isScoped_declarationsAll h rest d hd

end

end Item

namespace Catalog

variable {catalog : Catalog} {current scope written : String}

/-- **The scopes of a catalogue.** What the catalogue holds stands in modules, and what it imports
are paths. -/
structure IsScoped (catalog : Catalog) : Prop where
  structs : ∀ s ∈ catalog.structs, IsModulePath s.scope
  aliases : ∀ a ∈ catalog.aliases, IsModulePath a.scope
  functions : ∀ f ∈ catalog.functions, IsModulePath f.scope
  methods : ∀ block ∈ catalog.methods, IsModulePath block.scope
  imports : ∀ i ∈ catalog.imports, IsPath i.path

theorem isScoped_empty : empty.IsScoped := by
  constructor <;> exact fun _ h => nomatch h

theorem IsScoped.of_declaresIn (H : catalog.IsScoped) (h : catalog.declaresIn scope = true) :
    IsModulePath scope := by
  rw [declaresIn, Bool.or_eq_true, List.any_eq_true, List.any_eq_true] at h
  rcases h with ⟨s, hs, hscope⟩ | ⟨a, ha, hscope⟩
  · exact beq_iff_eq.mp hscope ▸ H.structs s hs
  · exact beq_iff_eq.mp hscope ▸ H.aliases a ha

theorem IsScoped.child (H : catalog.IsScoped) (h : IsSpelled written) :
    IsSpelled (absoluteScope.child catalog current written) := by
  rw [absoluteScope.child]
  split
  · rename_i hdeclares
    exact (H.of_declaresIn hdeclares).isSpelled
  · exact h

/-- An absolute scope is spelled by names. -/
theorem IsScoped.absoluteScope (H : catalog.IsScoped) (hcurrent : IsModulePath current)
    (h : IsSpelled (String.ofList (Text.dropColons written.toList))) :
    IsSpelled (catalog.absoluteScope current written) := by
  obtain ⟨names, hnames⟩ := h
  have hsegments : (Scope.segments (spell names)).filter (· ≠ "") = names.map (·.text) := by
    by_cases hne : names = []
    · subst hne
      rfl
    · rw [PathWord.segments_spell hne, List.filter_eq_self]
      intro text htext
      obtain ⟨name, _, rfl⟩ := List.mem_map.mp htext
      simpa using name.ne_empty
  obtain ⟨first, below, hfirst⟩ := hcurrent
  have hbase : Scope.segments current = (NameOr.ofIdent first :: below).map (·.text) := by
    rw [hfirst, PathWord.segments_spell (List.cons_ne_nil _ _)]
  simp only [Catalog.absoluteScope, hnames, hsegments]
  cases names with
  | nil =>
    -- Nothing is written before the name but a double colon.
    exact H.child ⟨[], rfl⟩
  | cons name names =>
    simp only [List.map_cons]
    split
    · rw [hbase]
      exact ⟨.ofIdent first :: names, rfl⟩
    split
    · obtain ⟨reached, hreached⟩ := Scope.exists_follow (.ofIdent first :: below) (name :: names)
      rw [hbase, ← List.map_cons (f := (NameOr.text ·)), hreached]
      exact ⟨reached, rfl⟩
    · exact H.child ⟨name :: names, rfl⟩

/-- An absolute path is spelled by names. -/
theorem IsScoped.absolutePath (H : catalog.IsScoped) (hcurrent : IsModulePath current)
    (h : IsPath written) : IsPath (catalog.absolutePath current written) := by
  obtain ⟨names, hne, rfl⟩ := h
  rcases List.eq_nil_or_concat names with rfl | ⟨names, name, rfl⟩
  · exact absurd rfl hne
  rw [List.concat_eq_append] at hne ⊢
  by_cases hnames : names = []
  · subst hnames
    have htext : spell [name] = name.text := by simp [spell]
    rw [List.nil_append, htext, Catalog.absolutePath, PathWord.cutLast_text]
    exact ⟨[name], List.cons_ne_nil _ _, htext.symm⟩
  · have hscope : IsSpelled (catalog.absoluteScope current (spell names)) := by
      refine H.absoluteScope hcurrent ⟨names, ?_⟩
      rw [PathWord.dropColons_spell, String.ofList_toList]
    rw [Catalog.absolutePath, PathWord.cutLast_spell hnames]
    simp only [String.ofList_toList]
    exact QualifiedName.isPath_of_scope hscope ⟨name, rfl⟩

/-- Adding a declaration keeps the scopes of a catalogue. -/
theorem IsScoped.add {d : Declaration} (H : catalog.IsScoped) (h : d.IsScoped) :
    (catalog.add d).IsScoped := by
  cases d with
  | record entry =>
    refine { H with structs := fun s hs => ?_ }
    rcases List.mem_append.mp hs with hs | hs
    · exact H.structs s hs
    · exact List.mem_singleton.mp hs ▸ h
  | «alias» entry =>
    refine { H with aliases := fun a ha => ?_ }
    rcases List.mem_append.mp ha with ha | ha
    · exact H.aliases a ha
    · exact List.mem_singleton.mp ha ▸ h
  | function entry =>
    refine { H with functions := fun f hf => ?_ }
    rcases List.mem_append.mp hf with hf | hf
    · exact H.functions f hf
    · exact List.mem_singleton.mp hf ▸ h
  | methods entry =>
    refine { H with methods := fun block hblock => ?_ }
    rcases List.mem_append.mp hblock with hblock | hblock
    · exact H.methods block hblock
    · exact List.mem_singleton.mp hblock ▸ h
  | binding scope localName written =>
    refine { H with imports := fun i hi => ?_ }
    rcases List.mem_cons.mp hi with rfl | hi
    · exact H.absolutePath h.1 h.2
    · exact H.imports i hi

theorem IsScoped.foldl {declarations : List Declaration} (H : catalog.IsScoped)
    (h : ∀ d ∈ declarations, d.IsScoped) : (declarations.foldl Catalog.add catalog).IsScoped := by
  induction declarations generalizing catalog with
  | nil => exact H
  | cons d declarations ih =>
    obtain ⟨hd, hrest⟩ := List.forall_mem_cons.mp h
    exact ih (H.add hd) hrest

/-- The catalogue of files in modules keeps to its scopes. -/
theorem isScoped_ofFiles {files : List SourceFile} (h : ∀ file ∈ files, file.HasModuleScope) :
    (ofFiles files).IsScoped := by
  refine isScoped_empty.foldl fun d hd => ?_
  obtain ⟨file, hfile, hd⟩ := List.mem_flatMap.mp hd
  exact Item.isScoped_declarationsAll (h file hfile).isModulePath file.items d hd

end Catalog

/-! ### Names as written -/

/-- The parts of a written name are names of paths; double colons may begin it. -/
structure WrittenName.IsSpelled (written : WrittenName) : Prop where
  name : ∃ name : PathWord, written.name = name.text
  scope : ∀ scope name, written = .qualified scope name →
    Scope.IsSpelled (String.ofList (Text.dropColons scope.toList))

theorem PathExpr.isSpelled_writtenName? {path : PathExpr} {written : WrittenName}
    (h : path.writtenName? = some written) : written.IsSpelled := by
  have hparents : "::".intercalate (path.parents.map (·.name.text)) =
      spell (path.parents.map (·.name)) := by
    rw [spell, List.map_map]
    rfl
  rw [writtenName?] at h
  split at h
  · simp only [hparents] at h
    split at h
    · cases h
      refine ⟨⟨path.last.name, rfl⟩, fun scope name heq => ?_⟩
      cases heq
      have hcolons : ("::" ++ spell (path.parents.map (·.name))).toList =
          ':' :: ':' :: (spell (path.parents.map (·.name))).toList := String.toList_append
      rw [hcolons, Text.dropColons, PathWord.dropColons_spell, String.ofList_toList]
      exact ⟨_, rfl⟩
    split at h
    · cases h
      refine ⟨⟨path.last.name, rfl⟩, fun scope name heq => ?_⟩
      cases heq
    · cases h
      refine ⟨⟨path.last.name, rfl⟩, fun scope name heq => ?_⟩
      cases heq
      rw [PathWord.dropColons_spell, String.ofList_toList]
      exact ⟨_, rfl⟩
  · cases h

theorem TypeExpr.isSpelled_writtenName? {type : TypeExpr} {written : WrittenName}
    (h : type.writtenName? = some written) : written.IsSpelled := by
  cases type with
  | path p => exact PathExpr.isSpelled_writtenName? h
  | _ => cases h

namespace Catalog

variable {catalog : Catalog} {scope : String} {written : WrittenName}

theorem IsScoped.isModulePath_struct (H : catalog.IsScoped) {s : CatalogStruct}
    (h : s ∈ catalog.structs) : IsModulePath s.qualifiedName.path :=
  QualifiedName.path_isModulePath (H.structs s h) (.ofIdent s.item.name)

theorem IsScoped.isPath_importOf? (H : catalog.IsScoped) {name path : String}
    (h : catalog.importOf? scope name = some path) : IsPath path := by
  obtain ⟨i, hi, rfl⟩ := Option.map_eq_some_iff.mp h
  exact H.imports i (List.mem_of_find?_eq_some hi)

/-- The full name of a type is a path. -/
theorem IsScoped.isPath_typeName? (H : catalog.IsScoped) (hscope : IsModulePath scope)
    (hwritten : written.IsSpelled) {name : QualifiedName}
    (h : catalog.typeName? scope written = some name) : IsPath name.path := by
  unfold typeName? at h
  split at h
  · rename_i s hs
    cases h
    exact (H.isModulePath_struct (findStruct?_mem hs)).isPath
  · cases written with
    | bare text =>
      obtain ⟨path, hpath, rfl⟩ := Option.map_eq_some_iff.mp h
      have hisPath := H.isPath_importOf? hpath
      rwa [QualifiedName.path_ofPath hisPath]
    | qualified inside text =>
      rw [← Option.some.inj h]
      exact QualifiedName.isPath_of_scope
        (H.absoluteScope hscope (hwritten.scope inside text rfl)) hwritten.name

end Catalog

end Entrypoint
