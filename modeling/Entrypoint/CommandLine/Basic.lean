import Entrypoint.Program.Statement
import Entrypoint.Role.Tag
import Entrypoint.Run.Config

/-! The command line: options, switches and the modules of a run. Words are taken one after the
other. An option may get its value with an equals sign, right behind its letter, or as the next
word; each option and switch may be given once, and after a double dash every word is a module. -/

namespace Entrypoint

/-- What a command line asks for. -/
structure CommandLine where
  project : String
  output : String
  owner : String
  crateName : Option String
  policy : FailurePolicy
  leavesUnformatted : Bool
  isVerbose : Bool
  modules : List String
  deriving DecidableEq, Repr

/-- Why a command line asks for no run. -/
inductive Stop
  | help
  | version
  | unknownWord
  | badValue
  | repeated
  | valueForSwitch
  | noModule
  deriving DecidableEq, Repr

/-- The wording of a stop that is a mistake. -/
def Stop.message : Stop → String
  | help | version => ""
  | unknownWord => "unexpected argument found"
  | badValue => "a value is required or not allowed"
  | repeated => "an argument cannot be used multiple times"
  | valueForSwitch => "a switch takes no value"
  | noModule => "the required argument <MODULE>... was not provided"

namespace CommandLine

/-- An option, which takes a value. -/
inductive ValueOption
  | project
  | output
  | owner
  | crateName
  | policy
  deriving DecidableEq, Repr

/-- A switch, which takes none. -/
inductive Switch
  | leaveUnformatted
  | verbose
  | help
  | version
  deriving DecidableEq, Repr

/-- What a word with dashes names. -/
inductive Flag
  | value (option : ValueOption)
  | switch (switch : Switch)
  deriving DecidableEq, Repr

namespace Flag

/-- The flag of a name. -/
def ofName? : String → Option Flag
  | "project" => some (value .project)
  | "output" => some (value .output)
  | "namespace" => some (value .owner)
  | "crate-name" => some (value .crateName)
  | "on-coercion-failure" => some (value .policy)
  | "no-format" => some (switch .leaveUnformatted)
  | "verbose" => some (switch .verbose)
  | "help" => some (switch .help)
  | "version" => some (switch .version)
  | _ => none

/-- The flag of a letter. -/
def ofLetter? : Char → Option Flag
  | 'p' => some (value .project)
  | 'o' => some (value .output)
  | 'v' => some (switch .verbose)
  | 'h' => some (switch .help)
  | 'V' => some (switch .version)
  | _ => none

end Flag

/-- The failure policy of a name. -/
def policyOf? : String → Option FailurePolicy
  | "respond" => some .respond
  | "abort" => some .abort
  | _ => none

/-- What the words so far ask for. -/
structure Draft where
  project : Option String
  output : Option String
  owner : Option String
  crateName : Option String
  policy : Option FailurePolicy
  leavesUnformatted : Bool
  isVerbose : Bool
  modules : List String
  /-- The option given last, with its value if that has come; it is not looked at yet. -/
  pending : Option (ValueOption × Option String)
  /-- A double dash has come. -/
  isPlain : Bool

namespace Draft

/-- No word has come. -/
def empty : Draft := ⟨none, none, none, none, none, false, false, [], none, false⟩

/-- Fills what may be given once. -/
def once (earlier : Option α) (value : Except Stop α) : Except Stop (Option α) :=
  if earlier.isSome then .error .repeated else value.map some

/-- Sets the value of an option. The project may not be empty, and a policy must be one. -/
def setOption (d : Draft) (option : ValueOption) (value : String) : Except Stop Draft :=
  match option with
  | .project =>
    (once d.project (if value = "" then .error .badValue else .ok value)).map
      ({ d with project := · })
  | .output => (once d.output (.ok value)).map ({ d with output := · })
  | .owner => (once d.owner (.ok value)).map ({ d with owner := · })
  | .crateName => (once d.crateName (.ok value)).map ({ d with crateName := · })
  | .policy =>
    (once d.policy ((policyOf? value).elim (.error .badValue) .ok)).map ({ d with policy := · })

/-- Sets a switch. -/
def setSwitch (d : Draft) : Switch → Except Stop Draft
  | .leaveUnformatted =>
    if d.leavesUnformatted then .error .repeated else .ok { d with leavesUnformatted := true }
  | .verbose => if d.isVerbose then .error .repeated else .ok { d with isVerbose := true }
  | .help => .error .help
  | .version => .error .version

/-- Looks at the option given last. -/
def settle (d : Draft) : Except Stop Draft :=
  match d.pending with
  | none => .ok d
  | some (_, none) => .error .badValue
  | some (option, some value) => { d with pending := none }.setOption option value

/-- Takes an option with the value that came with it, if one did. -/
def takeOption (d : Draft) (option : ValueOption) (value : Option String) : Except Stop Draft := do
  let d ← d.settle
  match value with
  | some value => d.setOption option value
  | none => return { d with pending := some (option, none) }

/-- Takes a switch. -/
def takeSwitch (d : Draft) (switch : Switch) : Except Stop Draft := do
  (← d.settle).setSwitch switch

/-- Takes a module. -/
def takeModule (d : Draft) (name : String) : Except Stop Draft := do
  let d ← d.settle
  return { d with modules := d.modules ++ [name] }

/-- Takes a name behind two dashes and the text behind its equals sign. -/
def takeName (d : Draft) (name : String) (value : Option String) : Except Stop Draft :=
  match Flag.ofName? name, value with
  | some (.value option), value => d.takeOption option value
  | some (.switch switch), none => d.takeSwitch switch
  | some (.switch _), some _ => .error .valueForSwitch
  | none, _ => .error .unknownWord

/-- The value that stands right behind a letter. -/
def attached : List Char → Option String
  | [] => none
  | '=' :: rest => some (String.ofList rest)
  | rest => some (String.ofList rest)

/-- Takes letters behind one dash. What follows the letter of an option is its value. -/
def takeLetters (d : Draft) : List Char → Except Stop Draft
  | [] => .ok d
  | c :: rest =>
    match Flag.ofLetter? c with
    | some (.value option) => d.takeOption option (attached rest)
    | some (.switch switch) => (d.takeSwitch switch).bind fun d => d.takeLetters rest
    | none => .error .unknownWord

/-- Takes a word that is no flag: the value of the option before it, or else a module. -/
def takePlain (d : Draft) (word : String) : Except Stop Draft :=
  match d.pending with
  | some (option, none) => .ok { d with pending := some (option, some word) }
  | _ => d.takeModule word

/-- Takes a word. A single dash is no flag. -/
def take (d : Draft) (word : String) : Except Stop Draft :=
  if d.isPlain then d.takeModule word
  else
    match word.toList with
    | ['-', '-'] => .ok { d with isPlain := true }
    | '-' :: '-' :: rest =>
      let (name, value) := Text.cutAt '=' rest
      d.takeName (String.ofList name) (value.map String.ofList)
    | '-' :: c :: rest => d.takeLetters (c :: rest)
    | _ => d.takePlain word

/-- What the words ask for in the end. At least one module must be named. -/
def finish (d : Draft) : Except Stop CommandLine := do
  let d ← d.settle
  if d.modules.isEmpty then throw .noModule
  return {
    project := d.project.getD "."
    output := d.output.getD RunConfig.defaultOutput
    owner := d.owner.getD Tag.defaultOwner
    crateName := d.crateName
    policy := d.policy.getD .respond
    leavesUnformatted := d.leavesUnformatted
    isVerbose := d.isVerbose
    modules := d.modules }

end Draft

/-- What the words of a command line ask for. -/
def ofWords (words : List String) : Except Stop CommandLine := do
  (← words.foldlM Draft.take .empty).finish

end CommandLine

end Entrypoint
