import Entrypoint.Catalog.Lookup
import Entrypoint.Fault
import Entrypoint.Role.Tag

/-! A catalogue read for tags. The owner says which tags count. -/

namespace Entrypoint

/-- A catalogue with the owner of the tags that count. -/
structure TaggedCatalog where
  owner : String
  catalog : Catalog

namespace TaggedCatalog

/-- The role that a documentation text gives. -/
def role? (t : TaggedCatalog) (documentation : String) : Option Role :=
  Role.ofText? t.owner documentation

/-- A documentation text gives a role of a kind. -/
def hasRole (t : TaggedCatalog) (kind : RoleKind) (documentation : String) : Bool :=
  (t.role? documentation).any (·.kind == kind)

/-- The structs tagged as services, in the order of the catalogue. -/
def serviceStructs (t : TaggedCatalog) : List CatalogStruct :=
  t.catalog.structs.filter fun s => t.hasRole .service s.item.documentation

/-- Faults of structs whose role is not for structs. -/
def misplacedRoles (t : TaggedCatalog) : List Fault :=
  t.catalog.structs.filterMap fun s =>
    match t.role? s.item.documentation with
    | none => none
    | some role =>
      if role.kind = .service then none
      else some (.breach s.qualifiedName.path (.roleOnStruct role.kind))

/-- Some service has the given name. -/
def isServiceName (t : TaggedCatalog) (name : String) : Bool :=
  t.serviceStructs.any (·.name == name)

end TaggedCatalog

end Entrypoint
