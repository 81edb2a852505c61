import Entrypoint.Files.Tree
import Entrypoint.Registry
import Entrypoint.Run.Config
import Entrypoint.Service.Descriptor

/-! Writing the units of a registry: for each, a directory with the entry point and the route
descriptor. An entry point is rendered before anything of its unit is written, and the first fault
ends the writing; what was written before it stays. -/

namespace Entrypoint

/-- The files of a unit and its place in the output. -/
structure UnitFiles where
  location : String
  entryPoint : Except Fault String
  descriptor : RouteDescriptor

namespace UnitFiles

/-- The file name of an entry point. -/
def entryPointName : String := "main.rs"

/-- The file name of a route descriptor. -/
def descriptorName : String := "spec.json"

end UnitFiles

/-- The files of the units of a registry. -/
def Registry.unitFiles (r : Registry) (policy : FailurePolicy) : List UnitFiles :=
  r.units.filterMap fun unit =>
    (r.target? unit).map fun (service, handler) =>
      ⟨unit.location, service.render policy handler, RouteDescriptor.ofHandler service handler⟩

/-- Where a writing stands: the tree, what was reported, and the fault that ended it, or what was
done. -/
structure Written (α : Type) where
  tree : Tree
  log : List LogEntry
  result : Except Fault α

namespace RunConfig

/-- What is reported about formatting an entry point. -/
def formatNotes (c : RunConfig) (path program : String) : List LogEntry :=
  match (c.formatted? path program).bind (·.complaint?) with
  | some complaint => [⟨.warn, "Could not format " ++ path ++ ": " ++ complaint⟩]
  | none => []

/-- Formats an entry point, which is there already. The formatter writes the text that it makes over
the one that it was given. -/
def format (c : RunConfig) (t : Tree) (directory program : String) : Tree :=
  match c.formatted? (Path.join directory UnitFiles.entryPointName) program with
  | some formatted => (t.write directory UnitFiles.entryPointName (formatted.left program)).1
  | none => t

/-- Writes the files of a unit. -/
def writeUnit (c : RunConfig) (t : Tree) (files : UnitFiles) : Written Unit :=
  let directory := Path.join c.outputRoot files.location
  match files.entryPoint with
  | .error fault => ⟨t, [], .error fault⟩
  | .ok program =>
    match t.write directory UnitFiles.entryPointName program with
    | (t, .error fault) => ⟨t, [], .error fault⟩
    | (t, .ok ()) =>
      let log := c.formatNotes (Path.join directory UnitFiles.entryPointName) program
      let (t, result) := (c.format t directory program).write directory UnitFiles.descriptorName
        files.descriptor.text
      ⟨t, log, result⟩

/-- Writes units one after the other. -/
def writeUnits (c : RunConfig) (t : Tree) : List UnitFiles → Written Unit
  | [] => ⟨t, [], .ok ()⟩
  | files :: rest =>
    let first := c.writeUnit t files
    match first.result with
    | .error fault => ⟨first.tree, first.log, .error fault⟩
    | .ok () =>
      let others := c.writeUnits first.tree rest
      ⟨others.tree, first.log ++ others.log, others.result⟩

/-- Writes a registry. Gives the number of its units. -/
def write (c : RunConfig) (t : Tree) (r : Registry) : Written Nat :=
  let count := r.units.length
  let written := c.writeUnits t (r.unitFiles c.policy)
  ⟨written.tree,
    ⟨.info, "Rendering " ++ toString count ++ " unit(s) into " ++ c.outputRoot⟩ :: written.log,
    written.result.map fun _ => count⟩

end RunConfig

end Entrypoint
