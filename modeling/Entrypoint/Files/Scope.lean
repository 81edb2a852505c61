import Entrypoint.Files.Path

/-! The scope of a source file: the path of modules that its place below the source directory
stands for. Some names stand for the module of the directory they are in. -/

namespace Entrypoint.FileScope

/-- The stem of a file that stands for the module of its directory. -/
def moduleStem : String := "mod"

/-- The stems of files that stand for the crate itself, right below the source directory. -/
def crateStems : List String := ["lib", "main"]

/-- A name without the extension of source files. -/
def stem (name : String) : String :=
  match Text.stripPrefix? ".rs".toList.reverse name.toList.reverse with
  | some rest => String.ofList rest.reverse
  | none => name

/-- The file stands for the module of its directory. `top` says that it is right below the source
directory. -/
def isParent (top : Bool) (stem : String) : Bool :=
  stem = moduleStem || (top && crateStems.contains stem)

/-- The modules that names below the source directory stand for. -/
def modules : List String → List String
  | [] => []
  | [name] => if isParent true (stem name) then [] else [stem name]
  | name :: rest => name :: inner rest
where
  /-- The modules of names further below. -/
  inner : List String → List String
    | [] => []
    | [name] => if isParent false (stem name) then [] else [stem name]
    | name :: rest => name :: inner rest

/-- The scope of a file. A file that is not below the source directory belongs to the crate
itself. -/
def ofFile (crateName sourceRoot file : String) : String :=
  match Path.below? (Path.components sourceRoot) (Path.components file) with
  | none => crateName
  | some rest => "::".intercalate (crateName :: modules (rest.filterMap (·.name?)))

end Entrypoint.FileScope
