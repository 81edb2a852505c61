import Entrypoint.Source.TypeExpr

/-! Declarations of a source file. What the catalogue does not address is left out of a
declaration, and a declaration of another kind counts only through those in its blocks. -/

namespace Entrypoint

/-- A field of a struct. -/
structure Field where
  documentation : String
  /-- The underscore stands for no name. -/
  name : NameOr ["_"]
  type : TypeExpr

/-- The fields of a struct. -/
inductive Fields
  | named (fields : List Field)
  | positional
  | absent

/-- A struct. -/
structure StructItem where
  documentation : String
  name : Ident
  fields : Fields

/-- The receiver of a method, with its tokens as written. -/
structure Receiver where
  tokens : List TokenTree
  type : TypeExpr

/-- What a caller sees of a function. The parameters are those besides the receiver. -/
structure Signature where
  name : Ident
  isAsync : Bool
  receiver : Option Receiver
  parameters : List TypeExpr
  result : Option TypeExpr

/-- A function or a method. -/
structure Function where
  documentation : String
  signature : Signature

/-- The name of a function. -/
def Function.name (function : Function) : String := function.signature.name.text

/-- What an import brings in. -/
inductive UseTree
  | path (first : PathWord) (rest : UseTree)
  | name (name : PathWord)
  | renamed (name : PathWord) (localName : Word)
  | group (trees : List UseTree)
  | all

/-- A declaration. -/
inductive Item
  | record (item : StructItem)
  | alias (name : Ident) (target : TypeExpr)
  | function (function : Function)
  /-- The methods of a type that belong to no trait. -/
  | methods (selfType : TypeExpr) (methods : List Function)
  | imports (tree : UseTree)
  /-- A module with the declarations met in it. -/
  | inlineModule (name : PathWord) (items : List Item)

/-- A source file. -/
structure SourceFile where
  path : String
  scope : String
  items : List Item

end Entrypoint
