import Entrypoint.CommandLine.Execution

/-! The program. It takes a picture of the files that a command line names, calls the library on it,
and brings what the library changed back to disk. It starts no other program, so entry points stay
as they are rendered, and each is reported as not formatted unless formatting is off. -/

namespace Entrypoint.Main

/-- The path of a place on disk. -/
def pathOf (place : Place) : String := "/" ++ "/".intercalate place

/-- The place of a path that is rooted and has no dots. -/
def placeOf (path : String) : Place := (Path.segments path).filter fun s => !Path.isIdle s

/-- The content of a file matters to a run. -/
def isRead (name : String) : Bool := Discovery.isSourceName name || name == Manifest.fileName

/-- The entry of a file. -/
def fileEntry (path name : String) : IO Entry := do
  if !isRead name then return .binary
  return ((String.fromUTF8? (← IO.FS.readBinFile path)).map Entry.text).getD .binary

/-- Adds what stands at a place on disk and below it. -/
partial def load (t : Tree) (place : Place) : IO Tree := do
  let path := (← IO.currentDir) / pathOf place
  if ← path.isDir then
    (← path.readDir).foldlM (fun t e => load t (place ++ [e.fileName])) (t.set place .directory)
  else if ← path.pathExists then
    return t.set place (← fileEntry (pathOf place) (place.getLast?.getD ""))
  else return t

/-- Adds what stands at a path, and the directories that lead there. -/
def loadPath (t : Tree) (path : String) : IO Tree := do
  let full := (← IO.currentDir) / path
  if !(← full.pathExists) then return t
  let place := placeOf (← IO.FS.realPath full).toString
  let above := (List.range place.length).map place.take
  load (above.foldl (fun t a => t.set a .directory) t) place

/-- The files that a command line names. -/
def picture (line : CommandLine) : IO Tree := do
  let here := placeOf (← IO.currentDir).toString
  let paths := [".", line.project, Path.join line.project line.output] ++
    line.modules.map (Path.join line.project)
  paths.foldlM loadPath ⟨[], here⟩

/-- Brings the changed entries of a tree to disk. -/
def save (before after : Tree) : IO Unit := do
  for (place, entry) in after.entries do
    if before.entry? place ≠ some entry then
      match entry with
      | .directory => IO.FS.createDirAll (pathOf place)
      | .text content => IO.FS.writeFile (pathOf place) content
      | .binary => pure ()

/-- The name of a level in the log. -/
def levelName : LogLevel → String
  | .error => "ERROR"
  | .warn => "WARN "
  | .info => "INFO "

/-- Prints what an invocation reports. -/
def report (i : Invocation) : IO Unit := do
  for e in i.log do
    IO.eprintln ("[" ++ levelName e.level ++ " lambdagen] " ++ e.text)
  IO.print i.output
  if let some stop := i.mistake then
    IO.eprintln ("error: " ++ stop.message ++ "\n\n" ++ Invocation.usage)
  if let some fault := i.fault then
    IO.eprintln ("Error: " ++ fault.message)
    if let some cause := fault.cause? then IO.eprintln ("\nCaused by:\n    " ++ cause)

/-- Calls the program and gives its exit code. -/
def call (words : List String) : IO UInt32 := do
  let tree ← match CommandLine.ofWords words with
    | .ok line => picture line
    | .error _ => pure ⟨[], []⟩
  let invocation := Invocation.ofWords tree .missing words
  save tree invocation.tree
  report invocation
  return UInt32.ofNat invocation.exitCode

end Entrypoint.Main

/-- The program. -/
def main (words : List String) : IO UInt32 := Entrypoint.Main.call words
