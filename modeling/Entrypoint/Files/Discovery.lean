import Entrypoint.Files.Tree

/-! The source files of a module: a file of its own, or all files that a walk through a directory
comes by. The walk goes down into every directory but those that are hidden or hold build output. The
files come in the order of their names, part by part, so the order of a directory's entries does not
matter. Every entry of a tree can be read, so a walk has nothing to warn of. -/

namespace Entrypoint

/-- Why a path is no module. -/
inductive DiscoveryFault
  | missing (path : String)
  | notSource (path : String)
  deriving DecidableEq, Repr

/-- The wording of a discovery fault. -/
def DiscoveryFault.message : DiscoveryFault → String
  | missing path => "Module path does not exist: " ++ path
  | notSource path => "Module path is not a Rust file: " ++ path

namespace Discovery

/-- The extension of source files. -/
def sourceExtension : String := "rs"

/-- The directory of build output, which is passed over. -/
def buildDirectory : String := "target"

/-- A name that is neither hidden nor the one of build output. -/
def isVisible (name : String) : Bool := name.toList.head? != some '.' && name != buildDirectory

/-- A name with the extension of source files. -/
def isSourceName (name : String) : Bool := Path.extensionOf? name = some sourceExtension

/-- A place below a module is a source file. -/
def isFound (below : Place) (entry : Entry) : Bool :=
  entry.isFile && below.getLast?.any isSourceName

/-- A walk enters a place below a module: the module itself, whatever its name, and what has a
visible name. -/
def isEntered (below : Place) : Bool := below.getLast?.all isVisible

/-- The part of a place below another. -/
def below? : Place → Place → Option Place
  | [], place => some place
  | _ :: _, [] => none
  | b :: base, p :: place => if b = p then below? base place else none

theorem below?_eq_some_iff {base below place : Place} :
    below? base place = some below ↔ place = base ++ below := by
  induction base generalizing place with
  | nil => exact ⟨fun h => Option.some.inj h, fun h => congrArg some h⟩
  | cons b base ih =>
    cases place with
    | nil => exact iff_of_false nofun nofun
    | cons p place =>
      rw [below?, List.cons_append, List.cons.injEq]
      split
      · rename_i heq
        rw [ih, and_iff_right heq.symm]
      · rename_i hne
        exact iff_of_false nofun fun h => hne h.1.symm

/-- The name of a place that stands in a directory. -/
def nameIn? (directory place : Place) : Option String :=
  match below? directory place with
  | some [name] => some name
  | _ => none

theorem nameIn?_eq_some_iff {directory place : Place} {name : String} :
    nameIn? directory place = some name ↔ place = directory ++ [name] := by
  rw [← below?_eq_some_iff, nameIn?]
  split
  · rename_i heq
    rw [heq]
    simp
  · rename_i hne
    exact iff_of_false nofun (hne name)

/-- The order of places: name by name, a place before those below it. -/
def precedes : Place → Place → Bool
  | [], _ => true
  | _ :: _, [] => false
  | a :: p, b :: q => if a = b then precedes p q else decide (a < b)

end Discovery

namespace Tree

/-- The names of what stands in a directory, in the order of the table. -/
def listing (t : Tree) (directory : Place) : List String :=
  (t.entries.map (·.1)).filterMap (Discovery.nameIn? directory)

/-- The greatest number of names that lead to an entry. -/
def depth (t : Tree) : Nat := (t.entries.map (·.1.length)).max?.getD 0

theorem mem_listing_iff {t : Tree} {directory : Place} {name : String} :
    name ∈ t.listing directory ↔ directory ++ [name] ∈ t.entries.map (·.1) := by
  rw [listing, List.mem_filterMap]
  simp only [Discovery.nameIn?_eq_some_iff, exists_eq_right]

theorem length_lt_depth_of_mem_listing {t : Tree} {directory : Place} {name : String}
    (h : name ∈ t.listing directory) : directory.length < t.depth := by
  have hlength := List.mem_map_of_mem (f := List.length) (mem_listing_iff.mp h)
  rw [List.map_map, List.length_append, List.length_singleton] at hlength
  exact List.le_max?_getD_of_mem hlength

end Tree

namespace Discovery

/-- What a walk through a module comes by from a place on, each by the names that lead to it from the
module: the place and, if it is a directory, what the walk comes by from each of its entries. Nothing
is looked at below a place that is not entered. -/
def walk (t : Tree) (base below : Place) : List Place :=
  if isEntered below then
    if t.isDirectory (base ++ below) then
      below ::
        (t.listing (base ++ below)).attach.flatMap fun ⟨name, _⟩ => walk t base (below ++ [name])
    else [below]
  else []
termination_by t.depth - (base ++ below).length
decreasing_by
  have hdepth := Tree.length_lt_depth_of_mem_listing ‹name ∈ t.listing (base ++ below)›
  simp only [List.length_append, List.length_singleton] at hdepth ⊢
  omega

/-- The source files below a place as a walk comes by them, each by the names that lead to it. -/
def placesMet (t : Tree) (base : Place) : List Place :=
  (walk t base []).filter fun below => (t.entry? (base ++ below)).any (isFound below)

/-- The source files below a place, each by the names that lead to it from there. -/
def placesBelow (t : Tree) (base : Place) : List Place := (placesMet t base).mergeSort precedes

end Discovery

/-- The paths of the source files of a module. -/
def Tree.sourceFiles (t : Tree) (path : String) : Except DiscoveryFault (List String) :=
  match t.find? path with
  | none => .error (.missing path)
  | some place =>
    if t.isDirectory place then
      .ok ((Discovery.placesBelow t place).map fun below => below.foldl Path.join path)
    else if Path.extension? path = some Discovery.sourceExtension then .ok [path]
    else .error (.notSource path)

end Entrypoint
