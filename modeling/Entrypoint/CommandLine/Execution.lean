import Entrypoint.CommandLine.Basic
import Entrypoint.Manifest
import Entrypoint.Run.Basic

/-! Running a command line: the project is looked at, the crate name is read unless it is given, and
the modules are run over. -/

namespace Entrypoint

/-- Why a run has no summary. -/
inductive RunFault
  | projectMissing (path : String)
  | projectNotDirectory (path : String)
  | manifest (path : String) (fault : ManifestFault)
  /-- Not all units could be written. -/
  | unwritten (fault : Fault)
  deriving DecidableEq, Repr

/-- What is behind a fault of a manifest. -/
def ManifestFault.message : ManifestFault → String
  | unreadable => "the file cannot be read"
  | malformed => "the text is not a manifest"
  | unnamed => "manifest has neither [lib] name nor [package] name"

namespace RunFault

/-- The wording of a fault. -/
def message : RunFault → String
  | projectMissing path => "Project path does not exist: " ++ path
  | projectNotDirectory path => "Project path is not a directory: " ++ path
  | manifest path .unreadable => "Failed to read manifest: " ++ path
  | manifest path _ => "Invalid manifest: " ++ path
  | unwritten _ => "Failed to write generated units"

/-- The wording of what is behind a fault. -/
def cause? : RunFault → Option String
  | projectMissing _ | projectNotDirectory _ => none
  | manifest _ fault => some fault.message
  | unwritten fault => some fault.message

end RunFault

/-- The library name in the manifest of a project. -/
def Tree.crateName (t : Tree) (project : String) : Except RunFault String :=
  let path := Path.join project Manifest.fileName
  match t.read? path with
  | some text => (Manifest.crateName text).mapError (.manifest path)
  | none => .error (.manifest path .unreadable)

/-- How a run ended: the tree it leaves, its log, and its summary or the fault that ended it. -/
structure Ending where
  tree : Tree
  log : List LogEntry
  result : Except RunFault Summary

namespace CommandLine

/-- The project is a directory. -/
def checkProject (c : CommandLine) (t : Tree) : Except RunFault Unit :=
  match t.at? c.project with
  | none => .error (.projectMissing c.project)
  | some .directory => .ok ()
  | some _ => .error (.projectNotDirectory c.project)

/-- The report of arguments. -/
def notes (c : CommandLine) : List LogEntry :=
  (["Project path: " ++ c.project, "Output directory: " ++ c.output,
    "Modules: " ++ ", ".intercalate c.modules] ++
    if c.owner = Tag.defaultOwner then [] else ["Annotation namespace: " ++ c.owner]).map (⟨.info, ·⟩)

/-- The crate name of a run. -/
def crateNameIn (c : CommandLine) (t : Tree) : Except RunFault String :=
  match c.crateName with
  | some name => .ok (Manifest.identifier name)
  | none => t.crateName c.project

/-- The settings of a run. -/
def config (c : CommandLine) (t : Tree) (formatter : Formatter) : Except RunFault RunConfig :=
  (c.crateNameIn t).map fun crateName =>
    ⟨c.project, c.output, c.owner, crateName, c.policy,
      if c.leavesUnformatted then none else some formatter⟩

/-- Runs what arguments ask for. -/
def run (c : CommandLine) (t : Tree) (formatter : Formatter) : Ending :=
  match c.checkProject t with
  | .error fault => ⟨t, [], .error fault⟩
  | .ok () =>
    match c.config t formatter with
    | .error fault => ⟨t, c.notes, .error fault⟩
    | .ok config =>
      let written := config.run t c.modules
      ⟨written.tree, c.notes ++ written.log, written.result.mapError .unwritten⟩

end CommandLine

/-- What the program leaves and prints. -/
structure Invocation where
  tree : Tree
  log : List LogEntry
  output : String
  fault : Option RunFault
  /-- Why there was no run, where that is a mistake of the command line. -/
  mistake : Option Stop
  exitCode : Nat

namespace Invocation

/-- The name of the program and its version. -/
def version : String := "lambdagen 0.1.0"

/-- How the program is called. -/
def usage : String := "Usage: lambdagen [OPTIONS] <MODULE>..."

/-- What is left and printed when there is no run. Help and version are no mistakes. -/
def ofStop (t : Tree) : Stop → Invocation
  | .help => ⟨t, [], usage ++ "\n", none, none, 0⟩
  | .version => ⟨t, [], version ++ "\n", none, none, 0⟩
  | stop => ⟨t, [], "", none, some stop, 2⟩

/-- The report of failed modules. -/
def failureNotes : Except RunFault Summary → List LogEntry
  | .ok summary =>
    if summary.modulesFailed = 0 then []
    else [⟨.info, toString summary.modulesFailed ++ " module(s) failed, see errors above"⟩]
  | .error _ => []

/-- The fault of a result. -/
def faultOf : Except RunFault Summary → Option RunFault
  | .ok _ => none
  | .error fault => some fault

/-- Calls the program with the words of a command line. -/
def ofWords (t : Tree) (formatter : Formatter) (words : List String) : Invocation :=
  match CommandLine.ofWords words with
  | .error stop => ofStop t stop
  | .ok line =>
    let ending := line.run t formatter
    let fault := faultOf ending.result
    ⟨ending.tree, ⟨.info, "lambdagen starting..."⟩ :: ending.log ++ failureNotes ending.result, "",
      fault, none, if fault.isSome then 1 else 0⟩

end Invocation

end Entrypoint
