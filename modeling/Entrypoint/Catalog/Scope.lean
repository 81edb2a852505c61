import Entrypoint.Catalog.Basic

/-! Scopes as written. A scope may begin with the crate, with the current scope or with steps out of
it; any other scope is a child of the current scope if the catalogue has declarations there, and
stands for itself otherwise. -/

namespace Entrypoint

namespace Scope

/-- The segments of a scope. -/
def segments (scope : String) : List String := (Text.splitPath scope.toList).map String.ofList

/-- The scope of segments. -/
def ofSegments (segments : List String) : String := "::".intercalate segments

/-- Follows leading steps from a scope: `self` stays, `super` leaves the last segment, and what
comes after them is added. -/
def follow (base : List String) : List String → List String
  | [] => base
  | segment :: rest =>
    if segment = "self" then follow base rest
    else if segment = "super" then follow base.dropLast rest
    else base ++ segment :: rest

end Scope

namespace Catalog

/-- The catalogue of nothing. -/
def empty : Catalog := ⟨[], [], [], [], []⟩

/-- The catalogue has a struct or an alias in a scope. -/
def declaresIn (catalog : Catalog) (scope : String) : Bool :=
  catalog.structs.any (·.scope == scope) || catalog.aliases.any (·.scope == scope)

/-- The absolute scope that a scope written in another one means. -/
def absoluteScope (catalog : Catalog) (current written : String) : String :=
  let written := String.ofList (Text.dropColons written.toList)
  let segments := (Scope.segments written).filter (· ≠ "")
  match segments with
  | first :: rest =>
    if first = "crate" then
      Scope.ofSegments ((Scope.segments current).headD "" :: rest)
    else if first = "self" ∨ first = "super" then
      Scope.ofSegments (Scope.follow (Scope.segments current) segments)
    else child current written
  | [] => child current written
where
  /-- A child of the current scope with declarations, or the scope itself. -/
  child (current written : String) : String :=
    let below := current ++ "::" ++ written
    if catalog.declaresIn below then below else written

/-- The absolute path that a path written in a scope means. -/
def absolutePath (catalog : Catalog) (current written : String) : String :=
  match Text.cutLast written.toList with
  | none => written
  | some (scope, name) =>
    (QualifiedName.mk (catalog.absoluteScope current (String.ofList scope))
      (String.ofList name)).path

/-- Adds a declaration. -/
def add (catalog : Catalog) : Declaration → Catalog
  | .record entry => { catalog with structs := catalog.structs ++ [entry] }
  | .alias entry => { catalog with aliases := catalog.aliases ++ [entry] }
  | .function entry => { catalog with functions := catalog.functions ++ [entry] }
  | .methods entry => { catalog with methods := catalog.methods ++ [entry] }
  | .binding scope localName written =>
    { catalog with
      imports := ⟨scope, localName, catalog.absolutePath scope written⟩ :: catalog.imports }

/-- The catalogue of files, in their order. -/
def ofFiles (files : List SourceFile) : Catalog :=
  (files.flatMap SourceFile.declarations).foldl add empty

end Catalog

end Entrypoint
