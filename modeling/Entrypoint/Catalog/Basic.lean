import Entrypoint.Source.Item
import Entrypoint.Text.Split

/-! The catalogue of a module's declarations, each with the scope it is declared in, and of the
imports of each scope. The declarations of a file come in the order of its text, those of an inline
module at the place of the module. -/

namespace Entrypoint

/-- A struct with its scope. -/
structure CatalogStruct where
  scope : String
  item : StructItem

namespace CatalogStruct

/-- The name of a struct. -/
def name (s : CatalogStruct) : String := s.item.name.text

/-- The name of a struct within its scope. -/
def qualifiedName (s : CatalogStruct) : QualifiedName := ⟨s.scope, s.name⟩

end CatalogStruct

/-- A type alias with its scope. -/
structure CatalogAlias where
  scope : String
  name : String
  target : TypeExpr

/-- The text that names an alias within its scope. -/
def CatalogAlias.key (a : CatalogAlias) : String := a.scope ++ "::" ++ a.name

/-- A free function with its scope. -/
structure CatalogFunction where
  scope : String
  function : Function

namespace CatalogFunction

/-- The name of a function within its scope. -/
def qualifiedName (f : CatalogFunction) : QualifiedName := ⟨f.scope, f.function.name⟩

end CatalogFunction

/-- Methods of a type that belong to no trait, with the scope they are written in. -/
structure CatalogMethods where
  scope : String
  selfName : String
  methods : List Function

/-- A name that a scope imports, with the path behind it. -/
structure CatalogImport where
  scope : String
  localName : String
  path : String

/-- A catalogue. Of two imports of a name into a scope the first in the list counts; later ones are
put in front. -/
structure Catalog where
  structs : List CatalogStruct
  aliases : List CatalogAlias
  functions : List CatalogFunction
  methods : List CatalogMethods
  imports : List CatalogImport

/-- A declaration or import of a scope, as it enters the catalogue. -/
inductive Declaration
  | record (entry : CatalogStruct)
  | alias (entry : CatalogAlias)
  | function (entry : CatalogFunction)
  | methods (entry : CatalogMethods)
  /-- A local name for a path as written. -/
  | binding (scope localName written : String)

namespace UseTree

/-- The segments of a path as text. -/
def pathText (segments : List String) : String := "::".intercalate segments

mutual

/-- The local names that an import tree binds below a path, with the paths as written. The name
`self` binds the last segment of the path above it. -/
def bindings (above : List String) : UseTree → List (String × String)
  | .path first rest => bindings (above ++ [first.text]) rest
  | .name last =>
    if last.text = "self" then
      match above.getLast? with
      | some parent => [(parent, pathText above)]
      | none => []
    else [(last.text, pathText (above ++ [last.text]))]
  | .renamed last localName => [(localName.text, pathText (above ++ [last.text]))]
  | .group trees => bindingsAll above trees
  | .all => []

/-- The bindings of trees in a group. -/
def bindingsAll (above : List String) : List UseTree → List (String × String)
  | [] => []
  | tree :: rest => tree.bindings above ++ bindingsAll above rest

end

end UseTree

namespace Item

mutual

/-- The declarations that an item of a scope contributes. An inline module extends the scope. -/
def declarations (scope : String) : Item → List Declaration
  | .record s => [.record ⟨scope, s⟩]
  | .alias name target => [.alias ⟨scope, name.text, target⟩]
  | .function f => [.function ⟨scope, f⟩]
  | .methods selfType list =>
    match selfType.lastName? with
    | some name => [.methods ⟨scope, name, list⟩]
    | none => []
  | .imports tree => (tree.bindings []).map fun b => .binding scope b.1 b.2
  | .inlineModule name items => declarationsAll (scope ++ "::" ++ name.text) items

/-- The declarations of items in a row. -/
def declarationsAll (scope : String) : List Item → List Declaration
  | [] => []
  | item :: rest => item.declarations scope ++ declarationsAll scope rest

end

end Item

/-- The declarations of a file. -/
def SourceFile.declarations (file : SourceFile) : List Declaration :=
  Item.declarationsAll file.scope file.items

/-- A path cut before its last segment. -/
def QualifiedName.ofPath (path : String) : QualifiedName :=
  match Text.cutLast path.toList with
  | some (scope, name) => ⟨String.ofList scope, String.ofList name⟩
  | none => ⟨"", path⟩

end Entrypoint
