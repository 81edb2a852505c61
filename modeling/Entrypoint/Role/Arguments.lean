import Entrypoint.Role.Tag
import Entrypoint.Fault
import Entrypoint.Route.Basic
import Entrypoint.Keyed
import Entrypoint.Text.WordChar

/-! The arguments of roles: settings of a service, the route of a handler and the external name of
a field. -/

namespace Entrypoint.RoleArgs

/-- A character that may begin a key. -/
def isKeyStart (c : Char) : Bool := c.isAlpha || c == '_'

/-- The entries of service arguments, from left to right. A key is a run of word characters from a
letter or an underscore on, an equals sign follows it, and the value runs to the next blank and is
not empty. The fuel is the number of characters. -/
def entriesFrom : Nat → List Char → List (String × String)
  | 0, _ | _, [] => []
  | fuel + 1, c :: rest =>
    if isKeyStart c then
      match rest.dropWhile Text.isWordChar with
      | '=' :: v :: after =>
        if Text.isBlank v then entriesFrom fuel rest
        else
          (String.ofList (c :: rest.takeWhile Text.isWordChar),
            String.ofList (v :: after.takeWhile (!Text.isBlank ·))) ::
            entriesFrom fuel (after.dropWhile (!Text.isBlank ·))
      | _ => entriesFrom fuel rest
    else entriesFrom fuel rest

/-- The settings that service arguments give. -/
def serviceSettings (args : String) : Settings :=
  Keyed.ofEntries (entriesFrom args.toList.length args.toList)

/-- The verb and path a handler is bound to. -/
structure Binding where
  verb : Verb
  path : String
  deriving DecidableEq, Repr

/-- The words that the arguments of a handler may begin with. -/
def verbWords : List String := ["GET", "POST", "PUT", "PATCH", "DELETE"]

/-- The path behind a verb's word: a blank at least, and then no blank up to the end. -/
def pathAfter? : List Char → Option String
  | [] => none
  | c :: rest =>
    let path := Text.trimStart rest
    if !Text.isBlank c || path.isEmpty || path.any Text.isBlank then none
    else some (String.ofList path)

/-- The parts of the arguments of a handler: one of the words for verbs, and a path. -/
def bindingParts? (args : List Char) : Option (String × String) :=
  verbWords.findSome? fun word =>
    ((Text.stripPrefix? word.toList args).bind pathAfter?).map (word, ·)

/-- The binding of a handler, or the fault of its declaration. -/
def handlerBinding (declaration args : String) : Except Fault Binding :=
  let trimmed := Text.trim args.toList
  match bindingParts? trimmed with
  | none => .error (.binding declaration (.malformed (String.ofList trimmed)))
  | some (word, path) =>
    match Verb.ofName? word with
    | none => .error (.binding declaration (.unsupportedVerb word))
    | some verb => .ok ⟨verb, path⟩

/-- The external name that field arguments give: the text before the first comma. -/
def externalName? (args : String) : Option String :=
  match Text.trim (Text.cutAt ',' args.toList).1 with
  | [] => none
  | name => some (String.ofList name)

end Entrypoint.RoleArgs
