import Entrypoint.Catalog.Scope
import Entrypoint.Scalar

/-! Looking up what a written name means in a scope: a struct, the full name of a type, an alias,
and the scalar at the end of a chain of aliases. -/

namespace Entrypoint.Catalog

/-- The path that a scope imports under a name. -/
def importOf? (catalog : Catalog) (scope name : String) : Option String :=
  (catalog.imports.find? fun i => i.scope == scope && i.localName == name).map (·.path)

/-- The path of the struct that a written name means if it is declared where the name points. -/
def exactPath (catalog : Catalog) (scope : String) : WrittenName → String
  | .bare name => (catalog.importOf? scope name).getD (scope ++ "::" ++ name)
  | .qualified written name => catalog.absoluteScope scope written ++ "::" ++ name

/-- The struct that a written name means. Where none is declared where the name points, the first
struct of that name counts. -/
def findStruct? (catalog : Catalog) (scope : String) (written : WrittenName) :
    Option CatalogStruct :=
  let exact := catalog.exactPath scope written
  (catalog.structs.find? (·.qualifiedName.path == exact)).or
    (catalog.structs.find? (·.name == written.name))

theorem findStruct?_mem {catalog : Catalog} {scope : String} {written : WrittenName}
    {found : CatalogStruct} (h : catalog.findStruct? scope written = some found) :
    found ∈ catalog.structs := by
  rw [findStruct?, Option.or_eq_some_iff] at h
  rcases h with h | ⟨_, h⟩ <;> exact List.mem_of_find?_eq_some h

/-- The full name of the type that a written name means. A bare name must be a struct or imported;
a path means itself, made absolute. -/
def typeName? (catalog : Catalog) (scope : String) (written : WrittenName) :
    Option QualifiedName :=
  match catalog.findStruct? scope written with
  | some found => some found.qualifiedName
  | none =>
    match written with
    | .bare name => (catalog.importOf? scope name).map .ofPath
    | .qualified inside name => some ⟨catalog.absoluteScope scope inside, name⟩

/-- The scope in which the alias of a written name is declared. -/
def aliasScope (catalog : Catalog) (scope : String) : WrittenName → String
  | .bare name =>
    match catalog.importOf? scope name with
    | some path => (QualifiedName.ofPath path).scope
    | none => scope
  | .qualified written _ => catalog.absoluteScope scope written

/-- The alias that a written name means. -/
def findAlias? (catalog : Catalog) (scope : String) (written : WrittenName) :
    Option CatalogAlias :=
  catalog.aliases.find? fun a =>
    a.scope == catalog.aliasScope scope written && a.name == written.name

/-- What the search for a scalar ends with. -/
inductive Resolution
  | scalar (scalar : Scalar)
  | unknown
  /-- The chain of aliases comes back to an alias that it passed. -/
  | circular (key : String)
  deriving DecidableEq, Repr

/-- The scalar of a resolution. -/
def Resolution.scalar? : Resolution → Option Scalar
  | scalar s => some s
  | _ => none

/-- The scopes in which the string type is known. -/
def stringScopes : List String := ["std::string", "alloc::string"]

/-- The scopes in which the primitive types are known. -/
def primitiveScopes : List String := ["std::primitive", "core::primitive"]

/-- The resolution of a name that does not depend on any declaration. -/
def builtin? : WrittenName → Option Resolution
  | .bare name => (Scalar.ofName? name).map .scalar
  | .qualified written name =>
    let scope := String.ofList (Text.dropColons written.toList)
    if scope ∈ stringScopes ∧ name = "String" then some (.scalar .string)
    else if scope ∈ primitiveScopes then
      some (((Scalar.ofName? name).map .scalar).getD .unknown)
    else none

/-- The aliases of a catalogue that are not among the visited ones. -/
def unvisited (catalog : Catalog) (visited : List String) : List CatalogAlias :=
  catalog.aliases.filter fun a => !visited.contains a.key

theorem findAlias?_mem {catalog : Catalog} {scope : String} {written : WrittenName}
    {found : CatalogAlias} (h : catalog.findAlias? scope written = some found) :
    found ∈ catalog.aliases := List.mem_of_find?_eq_some h

/-- Visiting an alias leaves fewer unvisited. -/
theorem unvisited_length_lt {catalog : Catalog} {visited : List String} {a : CatalogAlias}
    (mem : a ∈ catalog.aliases) (fresh : a.key ∉ visited) :
    (catalog.unvisited (a.key :: visited)).length < (catalog.unvisited visited).length := by
  have split : catalog.unvisited (a.key :: visited) =
      (catalog.unvisited visited).filter fun b => b.key != a.key := by
    simp only [unvisited, List.filter_filter, List.contains_cons, Bool.not_or]
    rfl
  have kept : a ∈ catalog.unvisited visited := by simp [unvisited, mem, fresh]
  rw [split]
  exact List.length_filter_lt_length_iff_exists.2 ⟨a, kept, by simp⟩

/-- Follows aliases from a type written in a scope. An alias is looked into at most once, so the
chain ends. -/
def resolveFrom (catalog : Catalog) (visited : List String) (scope : String) (type : TypeExpr) :
    Resolution :=
  match type.writtenName? with
  | none => .unknown
  | some written =>
    match builtin? written with
    | some resolution => resolution
    | none =>
      match _h : catalog.findAlias? scope written with
      | none => .unknown
      | some found =>
        if _fresh : found.key ∈ visited then .circular found.key
        else resolveFrom catalog (found.key :: visited) found.scope found.target
termination_by (catalog.unvisited visited).length
decreasing_by exact unvisited_length_lt (findAlias?_mem _h) _fresh

/-- What a type written in a scope resolves to. -/
def resolve (catalog : Catalog) (scope : String) (type : TypeExpr) : Resolution :=
  catalog.resolveFrom [] scope type

/-- The scalar that a type written in a scope stands for. -/
def scalar? (catalog : Catalog) (scope : String) (type : TypeExpr) : Option Scalar :=
  (catalog.resolve scope type).scalar?

/-- The methods of the types with a given name. -/
def methodsOf (catalog : Catalog) (name : String) : List CatalogMethods :=
  catalog.methods.filter (·.selfName == name)

end Entrypoint.Catalog
