import Entrypoint.Run.Module
import Entrypoint.Run.Writing

/-! A run: the modules are read and registered one after the other, then everything registered is
written. A module that fails is reported and leaves no trace in the registry; a fault of writing
ends the run. -/

namespace Entrypoint

/-- What a run has done. -/
structure Summary where
  modulesProcessed : Nat
  modulesFailed : Nat
  services : Nat
  handlersRegistered : Nat
  declarationsSkipped : Nat
  unitsWritten : Nat
  deriving DecidableEq, Repr

namespace Summary

/-- Nothing is done yet. -/
def zero : Summary := ⟨0, 0, 0, 0, 0, 0⟩

/-- The report of a summary. -/
def notes (s : Summary) : List LogEntry :=
  ["Generation complete!",
    "Summary:",
    "  - Modules processed: " ++ toString s.modulesProcessed,
    "  - Modules failed: " ++ toString s.modulesFailed,
    "  - Services: " ++ toString s.services,
    "  - Handlers: " ++ toString s.handlersRegistered,
    "  - Declarations skipped: " ++ toString s.declarationsSkipped,
    "  - Units written: " ++ toString s.unitsWritten].map (⟨.info, ·⟩)

end Summary

/-- What the modules of a run have given so far. -/
structure Gathering where
  registry : Registry
  summary : Summary
  log : List LogEntry

namespace Gathering

/-- No module has been read yet. -/
def start : Gathering := ⟨.empty, .zero, []⟩

/-- Adds to the log. -/
def report (g : Gathering) (entries : List LogEntry) : Gathering :=
  { g with log := g.log ++ entries }

/-- Counts a module that is read. -/
def begin (g : Gathering) (name : String) : Gathering :=
  let g := g.report [⟨.info, "Processing module " ++ name⟩]
  { g with summary := { g.summary with modulesProcessed := g.summary.modulesProcessed + 1 } }

/-- Counts a module that failed. -/
def fail (g : Gathering) (name message : String) : Gathering :=
  let g := g.report [⟨.error, "Module " ++ name ++ " failed: " ++ message⟩]
  { g with summary := { g.summary with modulesFailed := g.summary.modulesFailed + 1 } }

/-- Counts the declarations that an outcome leaves out. -/
def skip (g : Gathering) (outcome : Outcome) : Gathering :=
  { g with summary :=
      { g.summary with
        declarationsSkipped := g.summary.declarationsSkipped + outcome.skipped.length } }

/-- Counts services and handlers that were registered. -/
def accept (g : Gathering) (services handlers : Nat) : Gathering :=
  { g with summary :=
      { g.summary with
        services := g.summary.services + services
        handlersRegistered := g.summary.handlersRegistered + handlers } }

/-- Registers the services of a module. -/
def register (g : Gathering) (name : String) (services : List Service) : Gathering :=
  match g.registry.register services with
  | (registry, .ok count) => { g with registry }.accept services.length count
  | (registry, .error fault) => { g with registry }.fail name fault.message

/-- Reads and registers a module. -/
def addModule (c : RunConfig) (t : Tree) (g : Gathering) (name : String) : Gathering :=
  let (log, result) := c.moduleOutcome t name
  let g := (g.begin name).report log
  match result with
  | .error fault => g.fail name fault.message
  | .ok outcome => (g.skip outcome).register name outcome.services

end Gathering

namespace RunConfig

/-- Reads and registers modules. -/
def gather (c : RunConfig) (t : Tree) (modules : List String) : Gathering :=
  modules.foldl (Gathering.addModule c t) .start

/-- The report that a run begins. -/
def startNote (c : RunConfig) : LogEntry :=
  ⟨.info, "Starting generation for crate " ++ c.crateName ++ "..."⟩

/-- The report that nothing is registered. -/
def emptyNotes (r : Registry) : List LogEntry :=
  if r.units.isEmpty then [⟨.warn, "No handlers found"⟩] else []

/-- Runs over modules. Gives the tree afterwards, the log, and the summary or the fault of
writing. -/
def run (c : RunConfig) (t : Tree) (modules : List String) : Written Summary :=
  let g := c.gather t modules
  let written := c.write t g.registry
  let log := c.startNote :: g.log ++ emptyNotes g.registry ++ written.log
  match written.result with
  | .error fault => ⟨written.tree, log, .error fault⟩
  | .ok count =>
    let summary := { g.summary with unitsWritten := count }
    ⟨written.tree, log ++ summary.notes, .ok summary⟩

end RunConfig

end Entrypoint
