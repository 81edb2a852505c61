import Entrypoint.Role.Basic
import Entrypoint.Text.Split

/-! Tags in documentation text. A tag is an owner, a colon and a body, and begins at the start of a
line or after a blank. A body that opens with a quote closed on the same line is the text between
the quotes; any other body runs to the next blank and loses the quotes at its edges. The first tag
of the owner with a known role decides the role of the text. -/

namespace Entrypoint

/-- A tag and the text of its line after it. -/
structure Tag where
  owner : List Char
  body : List Char
  rest : List Char

namespace Tag

/-- The owner used when none is configured. -/
def defaultOwner : String := "lambdagen"

/-- A character that may stand in an owner. -/
def isOwnerChar (c : Char) : Bool := !Text.isBlank c && c != ':' && c != '"'

/-- Drops double quotes from both ends. -/
def trimQuotes (text : List Char) : List Char :=
  ((text.dropWhile (· == '"')).reverse.dropWhile (· == '"')).reverse

/-- The text up to a closing quote and the text after it. -/
def closed? : List Char → Option (List Char × List Char)
  | [] => none
  | '"' :: rest => some ([], rest)
  | c :: rest => (closed? rest).map fun r => (c :: r.1, r.2)

/-- A body that runs to the next blank. -/
def bare (text : List Char) : List Char × List Char :=
  (trimQuotes (text.takeWhile (!Text.isBlank ·)), text.dropWhile (!Text.isBlank ·))

/-- The body at the start of a text, and what follows it. -/
def bodyOf (text : List Char) : List Char × List Char :=
  match text with
  | '"' :: inside => (closed? inside).getD (bare text)
  | _ => bare text

/-- The tag that begins at the start of a text. -/
def at? (text : List Char) : Option Tag :=
  match text.takeWhile isOwnerChar, text.dropWhile isOwnerChar with
  | [], _ => none
  | owner, ':' :: after => some ⟨owner, (bodyOf after).1, (bodyOf after).2⟩
  | _, _ => none

/-- The tags of a line from left to right. `atStart` says that a tag may begin here. The fuel is
the number of steps at most taken; each step reads a character or more. -/
def fromLine : Nat → Bool → List Char → List Tag
  | 0, _, _ => []
  | fuel + 1, atStart, line =>
    match if atStart then at? line else none with
    | some tag => tag :: fromLine fuel false tag.rest
    | none =>
      match line with
      | [] => []
      | c :: rest => fromLine fuel (Text.isBlank c) rest

/-- The tags of a line. -/
def ofLine (line : List Char) : List Tag := fromLine (line.length + 1) true line

/-- The arguments after a tag: the rest of the line without a leading double colon. -/
def trailingArgs (rest : List Char) : List Char :=
  let rest := Text.trim rest
  match Text.stripPrefix? [':', ':'] rest with
  | some after => Text.trim after
  | none => rest

/-- The role of a tag of the given owner. Text after the first comma of the body is its arguments;
a body without a comma takes the rest of the line. -/
def role? (owner : String) (tag : Tag) : Option Role :=
  if String.ofList tag.owner = owner then
    let (kind, inline) := Text.cutAt ',' tag.body
    (RoleKind.ofToken? (String.ofList (Text.trim kind))).map fun kind =>
      ⟨kind, String.ofList ((inline.map Text.trim).getD (trailingArgs tag.rest))⟩
  else none

end Tag

/-- The role that a documentation text gives in the tags of an owner. -/
def Role.ofText? (owner text : String) : Option Role :=
  (Text.lines text.toList).findSome? fun line => (Tag.ofLine line).findSome? (Tag.role? owner)

end Entrypoint
