import Entrypoint.Proofs.Catalog.Tables

/-! The blocks of methods in files that belong to no trait. A catalogue lists a block under the last
name of its type. A type that is no path has no name, so the catalogue lists the blocks of paths, in
the order of the files, and no others. -/

namespace Entrypoint

/-- A block of methods where it stands in a file, with its type as written. -/
structure InherentBlock where
  scope : String
  selfType : TypeExpr
  methods : List Function

/-- The block as a catalogue lists it. -/
def InherentBlock.catalogued? (block : InherentBlock) : Option CatalogMethods :=
  block.selfType.lastName?.map fun name => ⟨block.scope, name, block.methods⟩

namespace Item

mutual

/-- The blocks that an item of a scope holds. -/
def inherentBlocks (scope : String) : Item → List InherentBlock
  | .methods selfType list => [⟨scope, selfType, list⟩]
  | .inlineModule name items => inherentBlocksAll (scope ++ "::" ++ name.text) items
  | _ => []

/-- The blocks of items in a row. -/
def inherentBlocksAll (scope : String) : List Item → List InherentBlock
  | [] => []
  | item :: rest => item.inherentBlocks scope ++ inherentBlocksAll scope rest

end

end Item

/-- The blocks of a file. -/
def SourceFile.inherentBlocks (file : SourceFile) : List InherentBlock :=
  Item.inherentBlocksAll file.scope file.items

/-- The methods that a declaration adds to a catalogue. -/
def Declaration.methods? : Declaration → Option CatalogMethods
  | .methods entry => some entry
  | _ => none

namespace Item

mutual

theorem filterMap_declarations (scope : String) : (item : Item) →
    (item.declarations scope).filterMap Declaration.methods? =
      (item.inherentBlocks scope).filterMap (·.catalogued?)
  | .record s => rfl
  | .alias name target => rfl
  | .function f => rfl
  | .methods selfType list => by
    rw [declarations, inherentBlocks]
    cases hname : selfType.lastName? with
    | none => simp [InherentBlock.catalogued?, hname]
    | some name => simp [InherentBlock.catalogued?, hname, Declaration.methods?]
  | .imports tree => by
    rw [declarations, List.filterMap_map]
    exact List.filterMap_eq_nil_iff.mpr fun _ _ => rfl
  | .inlineModule name items => filterMap_declarationsAll (scope ++ "::" ++ name.text) items

theorem filterMap_declarationsAll (scope : String) : (items : List Item) →
    (declarationsAll scope items).filterMap Declaration.methods? =
      (inherentBlocksAll scope items).filterMap (·.catalogued?)
  | [] => rfl
  | item :: rest => by
    rw [declarationsAll, inherentBlocksAll, List.filterMap_append, List.filterMap_append,
      filterMap_declarations scope item, filterMap_declarationsAll scope rest]

end

end Item

namespace Catalog

theorem methods_add (catalog : Catalog) (d : Declaration) :
    (catalog.add d).methods = catalog.methods ++ d.methods?.toList := by
  cases d with
  | methods entry => rfl
  | record | «alias» | function | binding => exact (List.append_nil _).symm

/-- A catalogue lists the blocks of its files that are of a path. -/
theorem methods_ofFiles (files : List SourceFile) : (ofFiles files).methods =
    (files.flatMap (·.inherentBlocks)).filterMap (·.catalogued?) := by
  rw [ofFiles, foldl_add_table methods methods_add, List.filterMap_flatMap,
    List.filterMap_flatMap]
  exact congrArg files.flatMap
    (funext fun file => Item.filterMap_declarationsAll file.scope file.items)

end Catalog

end Entrypoint
