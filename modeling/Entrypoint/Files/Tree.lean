import Entrypoint.Fault
import Entrypoint.Files.Path

/-! A tree of directories and files, as a table from places to entries. A place is the row of names
that leads to it from the root, and the root itself is a directory. Paths are resolved one segment
at a time: every segment but the first needs a directory before it. -/

namespace Entrypoint

/-- A place in a tree. -/
abbrev Place := List String

/-- What stands at a place. -/
inductive Entry
  | directory
  | text (content : String)
  /-- A file whose bytes are no text. -/
  | binary
  deriving DecidableEq, Repr

namespace Entry

/-- The entry is a file. -/
def isFile : Entry → Bool
  | directory => false
  | text _ | binary => true

end Entry

/-- A tree of files, and the place that paths without a root begin at. -/
structure Tree where
  entries : List (Place × Entry)
  working : Place
  deriving DecidableEq, Repr

namespace Tree

/-- The entry of a place. -/
def entry? (t : Tree) (place : Place) : Option Entry :=
  if place = [] then some .directory else t.entries.lookup place

/-- The place is a directory. -/
def isDirectory (t : Tree) (place : Place) : Bool := t.entry? place = some .directory

/-- Sets the entry of a place. -/
def set (t : Tree) (place : Place) (entry : Entry) : Tree :=
  { t with entries := (t.entries.filter fun e => e.1 != place) ++ [(place, entry)] }

/-- The place that segments lead to, if there is one. -/
def walk? (t : Tree) (place : Place) : List String → Option Place
  | [] => some place
  | s :: rest =>
    if t.isDirectory place then
      if Path.isIdle s then t.walk? place rest
      else if s = ".." then t.walk? place.dropLast rest
      else if (t.entry? (place ++ [s])).isSome then t.walk? (place ++ [s]) rest
      else none
    else none

/-- The place a path begins at. -/
def start (t : Tree) (path : String) : Place := if Path.isRooted path then [] else t.working

/-- The place of a path, if something stands there. -/
def find? (t : Tree) (path : String) : Option Place :=
  if path = "" then none else t.walk? (t.start path) (Path.segments path)

/-- What a path leads to. -/
def at? (t : Tree) (path : String) : Option Entry := (t.find? path).bind t.entry?

/-- The text of the file that a path leads to. -/
def read? (t : Tree) (path : String) : Option String :=
  match t.at? path with
  | some (.text content) => some content
  | _ => none

/-! ### Writing -/

/-- The greatest size of a name in bytes. -/
def greatestName : Nat := 255

/-- A new entry may have the name. -/
def isName (name : String) : Bool :=
  name.utf8ByteSize ≤ greatestName && !name.toList.contains '\x00'

/-- Makes the directories that segments lead through. Gives the last place, or none where a file
stands in the way; directories made before stay. -/
def makeDirectories (t : Tree) (place : Place) : List String → Tree × Option Place
  | [] => (t, some place)
  | s :: rest =>
    if Path.isIdle s then t.makeDirectories place rest
    else if s = ".." then t.makeDirectories place.dropLast rest
    else
      match t.entry? (place ++ [s]) with
      | some .directory => t.makeDirectories (place ++ [s]) rest
      | some _ => (t, none)
      | none =>
        if isName s then (t.set (place ++ [s]) .directory).makeDirectories (place ++ [s]) rest
        else (t, none)

/-- Writes a file into a directory, over an earlier one. -/
def writeInto? (t : Tree) (directory : Place) (name content : String) : Option Tree :=
  match t.entry? (directory ++ [name]) with
  | some .directory => none
  | some _ => some (t.set (directory ++ [name]) (.text content))
  | none => if isName name then some (t.set (directory ++ [name]) (.text content)) else none

/-- Writes a file of a directory, after making the directories that are missing. The fault names the
directory or the file that cannot be written; directories made before stay. -/
def write (t : Tree) (directory name content : String) : Tree × Except Fault Unit :=
  let path := Path.join directory name
  let parent := Path.parent path
  match t.makeDirectories (t.start path) (Path.segments parent) with
  | (t, none) => (t, .error (.io parent))
  | (t, some place) =>
    match t.writeInto? place name content with
    | some t => (t, .ok ())
    | none => (t, .error (.io path))

end Tree

end Entrypoint
