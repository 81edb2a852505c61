import Entrypoint.Service.Handler
import Entrypoint.Service.Initializer

/-! The services of a catalogue. A service without exactly one good initializer ends the build; a
faulty declaration of another kind is left out and reported. -/

namespace Entrypoint

/-- The services of a module, and the faults of the declarations left out. -/
structure Outcome where
  services : List Service
  skipped : List Fault
  deriving DecidableEq, Repr

namespace TaggedCatalog

/-- The settings of a service struct. -/
def settings (t : TaggedCatalog) (s : CatalogStruct) : Settings :=
  RoleArgs.serviceSettings (((t.role? s.item.documentation).map (·.args)).getD "")

/-- The results that are good. -/
def accepted (results : List (Except Fault Handler)) : List Handler :=
  results.filterMap fun
    | .ok handler => some handler
    | .error _ => none

/-- The faults of the others. -/
def rejected (results : List (Except Fault Handler)) : List Fault :=
  results.filterMap fun
    | .ok _ => none
    | .error fault => some fault

/-- The service of a struct with its initializer. -/
def serviceOf (t : TaggedCatalog) (s : CatalogStruct) (initializer : Initializer) : Service :=
  ⟨s.qualifiedName, t.settings s, initializer, accepted (t.handlerResults s.name)⟩

/-- The service of a struct, or the fault of its initializer. -/
def service (t : TaggedCatalog) (s : CatalogStruct) : Except Fault Service :=
  (t.initializer s.name).map (t.serviceOf s)

/-- Faults of declarations that belong to no service. -/
def orphans (t : TaggedCatalog) : List Fault :=
  t.misplacedRoles ++ t.orphanedCandidates ++ t.freeHandlers ++ t.orphanedHandlers

/-- The services of a catalogue and what is left out, or the fault of the first service without a
good initializer. -/
def build (t : TaggedCatalog) : Except Fault Outcome :=
  (t.serviceStructs.mapM t.service).map fun services =>
    ⟨services, t.orphans ++ t.serviceStructs.flatMap fun s => rejected (t.handlerResults s.name)⟩

/-- The report of a service. -/
def foundNote (s : CatalogStruct) (count : Nat) : LogEntry :=
  ⟨.info, "Found service " ++ s.qualifiedName.path ++ " with " ++ toString count ++ " handler(s)"⟩

/-- The report of a declaration left out. -/
def skippedNote (fault : Fault) : LogEntry := ⟨.warn, "Skipped: " ++ fault.message⟩

/-- What reading the services reports, up to the first fault. -/
def serviceNotes (t : TaggedCatalog) : List CatalogStruct → List LogEntry
  | [] => []
  | s :: rest =>
    match t.initializer s.name with
    | .error _ => []
    | .ok _ =>
      t.handlerResultNotes s.name ++
        foundNote s (accepted (t.handlerResults s.name)).length :: t.serviceNotes rest

/-- What a build reports. Declarations left out are reported only if it succeeds. -/
def buildNotes (t : TaggedCatalog) : List LogEntry :=
  t.serviceNotes t.serviceStructs ++
    match t.build with
    | .ok outcome => outcome.skipped.map skippedNote
    | .error _ => []

end TaggedCatalog

end Entrypoint
