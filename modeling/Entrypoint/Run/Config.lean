import Entrypoint.Files.Path
import Entrypoint.Program.Statement

/-! The settings of a run and the paths that follow from them. -/

namespace Entrypoint

/-- What the formatter makes of a file. A file that it rejects may have been rewritten, too. -/
inductive Formatted
  | accepted (text : String)
  | rejected (status : String) (text : String)
  /-- The formatter could not be started. -/
  | unstarted (error : String)
  deriving DecidableEq, Repr

namespace Formatted

/-- The text that is left in a file which had the given one. -/
def left (text : String) : Formatted → String
  | accepted left | rejected _ left => left
  | unstarted _ => text

/-- What is reported when a file is not accepted. -/
def complaint? : Formatted → Option String
  | accepted _ => none
  | rejected status _ => some ("rustfmt exited with " ++ status)
  | unstarted error => some error

end Formatted

/-- A formatter of entry points, which is another program. It is given the path of a file and works
on the text that is there. -/
def Formatter := String → String → Formatted

namespace Formatter

/-- Accepts files as they are. -/
def accepts : Formatter := fun _ text => .accepted text

/-- Ends with a status and leaves files as they are. -/
def fails (status : Nat) : Formatter := fun _ text =>
  .rejected ("exit status: " ++ toString status) text

/-- There is no such program. -/
def missing : Formatter := fun _ _ => .unstarted "No such file or directory (os error 2)"

end Formatter

/-- The settings of a run. -/
structure RunConfig where
  projectRoot : String
  outputDirectory : String
  /-- The word that tags begin with. -/
  owner : String
  crateName : String
  policy : FailurePolicy
  /-- The formatter of entry points, unless they stay as they are written. -/
  formatter : Option Formatter

namespace RunConfig

/-- The output directory unless another is given. -/
def defaultOutput : String := "lambda"

/-- The directory that scopes are counted from. -/
def sourceRoot (c : RunConfig) : String := Path.join c.projectRoot "src"

/-- The directory that units are written into. -/
def outputRoot (c : RunConfig) : String := Path.join c.projectRoot c.outputDirectory

/-- The path of a module. -/
def modulePath (c : RunConfig) (name : String) : String := Path.join c.projectRoot name

/-- What the formatter makes of a text at a path, if there is a formatter. -/
def formatted? (c : RunConfig) (path text : String) : Option Formatted :=
  c.formatter.map fun formatter => formatter path text

/-- The text that is left at a path where one was written. Without a formatter it is the same. -/
def finished (c : RunConfig) (path text : String) : String :=
  (c.formatted? path text).elim text (·.left text)

theorem finished_of_none {c : RunConfig} (h : c.formatter = none) (path text : String) :
    c.finished path text = text := by
  rw [finished, formatted?, h]
  rfl

end RunConfig

end Entrypoint
