import Entrypoint.Files.Discovery
import Entrypoint.Files.Scope
import Entrypoint.Run.Config
import Entrypoint.Service.Build
import Entrypoint.Source.File

/-! Reading one module of a run: its files are found, all of them are read, and its services are
built. A module is read whole or not at all. -/

namespace Entrypoint

/-- Why a module has no services. -/
inductive ModuleFault
  | discovery (fault : DiscoveryFault)
  | declaration (fault : Fault)
  deriving DecidableEq, Repr

/-- The wording of a module's fault. -/
def ModuleFault.message : ModuleFault → String
  | discovery fault => fault.message
  | declaration fault => fault.message

namespace RunConfig

/-- The source file at a path. -/
def sourceFile (c : RunConfig) (t : Tree) (path : String) : Except Fault SourceFile :=
  match t.read? path with
  | some content => SourceFile.ofText path (FileScope.ofFile c.crateName c.sourceRoot path) content
  | none => .error (.source path .unreadable)

/-- The catalogue of a module, from all of its files. -/
def moduleCatalog (c : RunConfig) (t : Tree) (name : String) : Except ModuleFault TaggedCatalog := do
  let paths ← (t.sourceFiles (c.modulePath name)).mapError .discovery
  let files ← (paths.mapM (c.sourceFile t)).mapError .declaration
  return ⟨c.owner, Catalog.ofFiles files⟩

/-- What reading a module gives, and what it reports. -/
def moduleOutcome (c : RunConfig) (t : Tree) (name : String) :
    List LogEntry × Except ModuleFault Outcome :=
  match c.moduleCatalog t name with
  | .error fault => ([], .error fault)
  | .ok catalog => (catalog.buildNotes, catalog.build.mapError .declaration)

end RunConfig

end Entrypoint
