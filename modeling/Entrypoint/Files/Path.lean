import Entrypoint.Text.Split

/-! Paths of files as they are written. A path is cut at its slashes; empty segments and single dots
stay in place. Joining keeps both paths as written, and two paths are compared component by
component. -/

namespace Entrypoint.Path

/-- A part of a path. A single dot counts only at the start of a path that is not rooted. -/
inductive Component
  | root
  | here
  | up
  | name (name : String)
  deriving DecidableEq, Repr

/-- The name of a component, if it has one. -/
def Component.name? : Component → Option String
  | name n => some n
  | _ => none

/-- The segments between slashes. -/
def segments (path : String) : List String := (Text.splitAt '/' path.toList).map String.ofList

/-- A segment that stays in place. -/
def isIdle (segment : String) : Bool := segment = "" || segment = "."

/-- The path begins at the root of all files. -/
def isRooted (path : String) : Bool := path.toList.head? == some '/'

/-- What a path begins with, if it is no name. -/
def lead (path : String) : List Component :=
  if isRooted path then [.root]
  else if (segments path).head? = some "." then [.here]
  else []

/-- The component of a segment that does not stay in place. -/
def component (segment : String) : Component := if segment = ".." then .up else .name segment

/-- The components of a path. -/
def components (path : String) : List Component :=
  lead path ++ ((segments path).filter fun s => !isIdle s).map component

/-- A path below another. A rooted path stands for itself. -/
def join (base path : String) : String :=
  if isRooted path then path
  else if base = "" ∨ base.toList.getLast? = some '/' then base ++ path
  else base ++ "/" ++ path

/-- The last name of a path, if it ends in a name. -/
def fileName? (path : String) : Option String := (components path).getLast?.bind Component.name?

/-- The part of a name after its last dot, unless that dot begins the name. -/
def extensionOf? (name : String) : Option String :=
  match (Text.splitAt '.' name.toList).reverse with
  | [] | [_] => none
  | last :: before => if before = [[]] then none else some (String.ofList last)

/-- The extension of the last name of a path. -/
def extension? (path : String) : Option String := (fileName? path).bind extensionOf?

/-- What is left of components after a beginning. -/
def below? : List Component → List Component → Option (List Component)
  | [], rest => some rest
  | _ :: _, [] => none
  | b :: base, c :: rest => if b = c then below? base rest else none

/-- Drops the segments at the end that stay in place. -/
def dropIdle (segments : List String) : List String :=
  (segments.reverse.dropWhile isIdle).reverse

/-- The path of the directory that a path of a file stands in. -/
def parent (path : String) : String :=
  match segments path with
  | [] => ""
  | first :: rest =>
    if isIdle first then
      let before := dropIdle (dropIdle rest).dropLast
      if before.isEmpty ∧ first = "" then "/" else "/".intercalate (first :: before)
    else "/".intercalate (dropIdle (dropIdle (first :: rest)).dropLast)

end Entrypoint.Path
