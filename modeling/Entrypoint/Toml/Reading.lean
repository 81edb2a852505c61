import Entrypoint.Text.Split
import Entrypoint.Toml.Basic
import Entrypoint.Toml.Number
import Entrypoint.Toml.Quotation

/-! Reading configuration documents: statements line by line, and the values in them. Lists and
tables written as values may be nested at most 79 deep, and so may keys. -/

namespace Entrypoint

/-- A reader of characters. -/
abbrev TomlReading (α : Type) := StateT (List Char) Option α

namespace TomlReading

open Toml (Quotation.isBlank Quotation.isPlain Quotation.lineEnd?)

/-- Takes what a function takes, and gives what it gives. -/
def take (f : List Char → Option (α × List Char)) : TomlReading α := f

/-- The next character. -/
def peek : TomlReading (Option Char) := do return (← get).head?

/-- Takes one character. -/
def skip : TomlReading Unit := modify (·.drop 1)

/-- Takes a given character. -/
def exactly (c : Char) : TomlReading Unit := do
  if (← peek) = some c then skip else failure

/-- Takes blanks. -/
def blanks : TomlReading Unit := modify (·.dropWhile Quotation.isBlank)

/-- Takes a comment if one comes next, up to the line end. -/
def comment : TomlReading Unit := do
  if (← peek) = some '#' then modify (·.dropWhile Quotation.isPlain)

/-- Takes a line end. -/
def lineEnd : TomlReading Unit := fun text => (Quotation.lineEnd? text).map fun rest => ((), rest)

/-- Takes what may stand after a statement: blanks, a comment, and the end of the line or of the
document. -/
def statementEnd : TomlReading Unit := do
  blanks
  comment
  unless (← get).isEmpty do lineEnd

/-- Takes blanks, comments and line ends. The fuel bounds the number of lines. -/
def gaps : Nat → TomlReading Unit
  | 0 => return
  | fuel + 1 => do
    modify Toml.Quotation.dropLines
    if (← peek) = some '#' then
      comment
      gaps fuel

/-- Takes blanks, comments and line ends. -/
def gap : TomlReading Unit := do gaps ((← get).length + 1)

/-- The greatest nesting of values, and the greatest length of dotted keys. -/
def greatestDepth : Nat := 79

/-- A character of a key without quotes. -/
def isKeyChar (c : Char) : Bool := c.isAlphanum || c == '-' || c == '_'

/-- Takes a single key. -/
def simpleKey : TomlReading String := do
  match ← peek with
  | some '"' | some '\'' => return String.ofList (← take Toml.Quotation.line?)
  | _ =>
    let key := (← get).takeWhile isKeyChar
    if key.isEmpty then failure
    modify (·.dropWhile isKeyChar)
    return String.ofList key

/-- Takes keys with dots between them. The fuel bounds their number. -/
def dottedKeys : Nat → TomlReading (List String)
  | 0 => failure
  | fuel + 1 => do
    blanks
    let key ← simpleKey
    blanks
    if (← peek) = some '.' then
      skip
      return key :: (← dottedKeys fuel)
    else return [key]

/-- Takes the keys of a statement. -/
def keys : TomlReading (List String) := dottedKeys greatestDepth

/-- Takes a given word. -/
def word (text : String) : TomlReading Unit := fun rest =>
  (Text.stripPrefix? text.toList rest).map fun rest => ((), rest)

/-- Takes a number or a moment. -/
def numberOrMoment : TomlReading Toml := do
  let text ← get
  let ended (make : String → Toml) (rest : List Char) : Toml × List Char :=
    (make (String.ofList (Toml.Number.taken text rest)), rest)
  let found := ((Toml.Number.moment? text).map (ended .moment)).or
    ((((Toml.Number.real? text).or (Toml.Number.special? text)).or
      (Toml.Number.integer? text)).map (ended .number))
  take fun _ => found

/-- Takes the items of a list and its closing bracket. -/
def items (item : TomlReading Toml) : Nat → TomlReading (List Toml)
  | 0 => failure
  | fuel + 1 => do
    gap
    if (← peek) = some ']' then
      skip
      return []
    else
      let value ← item
      gap
      if (← peek) = some ',' then
        skip
        return value :: (← items item fuel)
      else
        exactly ']'
        return [value]

/-- Takes keys, an equals sign and a value. -/
def setting (value : TomlReading Toml) : TomlReading (List String × Toml) := do
  let keys ← keys
  exactly '='
  blanks
  return (keys, ← value)

/-- Takes the settings of a table written as a value, and its closing brace. At least one comes
next. -/
def settings (value : TomlReading Toml) : Nat → TomlReading (List (List String × Toml))
  | 0 => failure
  | fuel + 1 => do
    let first ← setting value
    blanks
    if (← peek) = some ',' then
      skip
      return first :: (← settings value fuel)
    else
      exactly '\x7d'
      return [first]

/-- Takes a table written as a value, after its opening brace. -/
def inlineTable (value : TomlReading Toml) : TomlReading Toml := do
  blanks
  if (← peek) = some '\x7d' then
    skip
    return .inline []
  else
    let found ← settings value ((← get).length + 1)
    match Toml.ofSettings? found with
    | some entries => return .inline entries
    | none => failure

/-- Takes a value, given how nested values are taken. -/
def valueWith (nested : Option (TomlReading Toml)) : TomlReading Toml := do
  match ← peek with
  | some '"' | some '\'' => return .text (String.ofList (← take Toml.Quotation.any?))
  | some 't' =>
    word "true"
    return .boolean true
  | some 'f' =>
    word "false"
    return .boolean false
  | some '[' =>
    skip
    match nested with
    | none => failure
    | some value => return .list (← items value ((← get).length + 1))
  | some '\x7b' =>
    skip
    match nested with
    | none => failure
    | some value => inlineTable value
  | _ => numberOrMoment

/-- Takes a value with at most so many levels of nesting. -/
def value : Nat → TomlReading Toml
  | 0 => valueWith none
  | depth + 1 => valueWith (some (value depth))

/-- Takes the statements of a document. The fuel bounds their number and that of empty lines. -/
def statements : Nat → TomlReading (List TomlStatement)
  | 0 => failure
  | fuel + 1 => do
    blanks
    match ← get with
    | [] => return []
    | '#' :: _ | '\n' :: _ | '\r' :: _ =>
      statementEnd
      statements fuel
    | '[' :: '[' :: rest =>
      set rest
      let keys ← keys
      exactly ']'
      exactly ']'
      statementEnd
      return .rowHeader keys :: (← statements fuel)
    | '[' :: rest =>
      set rest
      let keys ← keys
      exactly ']'
      statementEnd
      return .header keys :: (← statements fuel)
    | _ =>
      let (keys, value) ← setting (value greatestDepth)
      statementEnd
      return .setting keys value :: (← statements fuel)

end TomlReading

/-- The entries of a document's text, if it is well formed. A byte order mark may come first. -/
def Toml.ofText? (text : String) : Option TomlEntries :=
  let chars := Text.dropMark text.toList
  ((TomlReading.statements (chars.length + 1)).run chars).bind fun (statements, _) =>
    Toml.ofStatements? statements

end Entrypoint
