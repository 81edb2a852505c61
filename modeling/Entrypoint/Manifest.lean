import Entrypoint.Toml.Reading

/-! The manifest of a project, read for the name of its library: the name of the library section, or
else that of the package section. Dashes are written as underscores. -/

namespace Entrypoint

/-- Why a manifest gives no name. -/
inductive ManifestFault
  | unreadable
  | malformed
  | unnamed
  deriving DecidableEq, Repr

namespace Manifest

/-- The file name of a manifest. -/
def fileName : String := "Cargo.toml"

/-- A name with underscores for dashes. -/
def identifier (name : String) : String := name.map fun c => if c = '-' then '_' else c

/-- The name in a package section, which must have one. A section may also be a list of values. -/
def packageName? : Toml → Option String
  | .table _ entries | .inline entries =>
    match entries.lookup "name" with
    | some (.text name) => some name
    | _ => none
  | .list (.text name :: _) => some name
  | _ => none

/-- The name in a library section, if it has one; none where the section is no section. -/
def libraryName? : Toml → Option (Option String)
  | .table _ entries | .inline entries =>
    match entries.lookup "name" with
    | none => some none
    | some (.text name) => some (some name)
    | some _ => none
  | .list (.text name :: _) => some (some name)
  | .moment _ => some none
  | _ => none

/-- The library name of a manifest's text. -/
def crateName (text : String) : Except ManifestFault String := do
  let some entries := Toml.ofText? text | throw .malformed
  let some package := (entries.lookup "package").mapM packageName? | throw .malformed
  let some library := (entries.lookup "lib").mapM libraryName? | throw .malformed
  let some name := library.join.or package | throw .unnamed
  return identifier name

end Manifest

end Entrypoint
