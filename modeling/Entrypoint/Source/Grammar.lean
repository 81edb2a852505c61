import Entrypoint.Source.Attribute
import Entrypoint.Source.Expression
import Entrypoint.Source.Reading

/-! The readers that call each other. A reader of a larger thing takes the readers for what is
nested in it as one value, so that the depth of nesting is the only recursion among them. What every
reader needs is here too: attributes, paths of words, and visibility.

A reader gives the tokens of what it takes, spaced as one writes it: the characters of an operator
together and all else apart. Some things are kept as written, with the spacing that they have. -/

namespace Entrypoint

/-- The readers for what is nested one level deeper. -/
structure Grammar where
  /-- A type; the flag says that bounds may follow a plus. -/
  type : Bool → Reading TypeExpr
  /-- A path as types have it. -/
  path : Reading PathExpr
  /-- The lifetimes that a type ranges over, if any are listed. -/
  lifetimes : Reading (List TokenTree)
  /-- An operand with the operators before it; the flag says that it may be a struct literal. -/
  operand : Bool → Reading Expression
  /-- The operators after an operand that bind no less than the given one. -/
  operators : Precedence → Bool → Expression → Reading Expression
  /-- An expression where a statement or the body of an arm begins. -/
  leading : Reading Expression
  /-- A pattern without alternatives. -/
  pattern : Reading Pattern
  /-- Statements up to the end. -/
  statements : Reading (List TokenTree)
  /-- A declaration. -/
  item : Reading (List TokenTree)

namespace Grammar

open Reading
open TokenTree (operator mark)

/-- An expression. -/
def expression (g : Grammar) (structs : Bool) : Reading Expression := do
  g.operators .least structs (← g.operand structs)

/-- The tokens of an expression that may be a struct literal. -/
def expressionTokens (g : Grammar) : Reading (List TokenTree) := do
  return (← g.expression true).tokens

/-- The tokens of a type with bounds. -/
def typeTokens (g : Grammar) : Reading (List TokenTree) := do return (← g.type true).tokens

/-- Statements in braces. -/
def block (g : Grammar) : Reading (List TokenTree) := grouped .brace g.statements

/-! ### Paths of words -/

/-- The words of a path without arguments, after its first double colon. The fuel bounds their
number. -/
def wordPathRest : Nat → Reading (List TokenTree)
  | 0 => failure
  | fuel + 1 => do
    expect Ahead.pathWord
    let first ← anyWord
    if ← sees (.punct "::") then
      let colons ← punct "::"
      return .word first :: colons ++ (← wordPathRest fuel)
    else return [.word first]

/-- A path without arguments; it may be rooted. -/
def wordPath : Reading (List TokenTree) := do
  let root ← punctIfAny "::"
  return root ++ (← wordPathRest (← room))

/-! ### Attributes -/

/-- The value of an attribute: a literal alone, or an expression. -/
def attributeValue (g : Grammar) : Reading (List TokenTree) := do
  let alone ← attempt do
    let value ← literal
    expect .atEnd
    return value
  match alone with
  | some value => return value
  | none =>
    expect (.not (.both (.punct "#") (.second (.group .bracket))))
    g.expressionTokens

/-- The inside of an attribute: a path alone, with a group, or with a value. -/
def attributeBody (g : Grammar) : Reading (List TokenTree) := do
  let path ← if ← sees (.word "unsafe") then word "unsafe" else wordPath
  if ← sees (.any [.group .paren, .group .bracket, .group .brace]) then
    return path ++ (← anyGroup)
  else if ← sees (.punctBut "=" ["==", "=>"]) then
    let equals ← punct "="
    return path ++ equals ++ (← attributeValue g)
  else return path

/-- An attribute before what it describes. -/
def outerAttribute (g : Grammar) : Reading Attribute := do
  let _ ← punct "#"
  return ⟨false, ← within (← group .bracket) (attributeBody g)⟩

/-- An attribute inside what it describes. -/
def innerAttribute (g : Grammar) : Reading Attribute := do
  let _ ← punct "#"
  let _ ← punct "!"
  return ⟨true, ← within (← group .bracket) (attributeBody g)⟩

/-- The attributes before something. -/
def outerAttributeList (g : Grammar) : Reading (List Attribute) := do
  many (.not (.punct "#")) g.outerAttribute (← room)

/-- The attributes at the start of the inside of something. -/
def innerAttributeList (g : Grammar) : Reading (List Attribute) := do
  many (.not (.both (.punct "#") (.second (.punct "!")))) g.innerAttribute (← room)

/-- The tokens of the attributes before something. -/
def outerAttributes (g : Grammar) : Reading (List TokenTree) := do
  return Attribute.allTokens (← g.outerAttributeList)

/-- The tokens of the attributes at the start of the inside of something. -/
def innerAttributes (g : Grammar) : Reading (List TokenTree) := do
  return Attribute.allTokens (← g.innerAttributeList)

/-- Statements in braces, with attributes at their start. -/
def attributedBlock (g : Grammar) : Reading (List TokenTree) :=
  grouped .brace do return (← g.innerAttributes) ++ (← g.statements)

/-! ### Visibility -/

/-- A restricted visibility comes next. Round brackets with anything else in them are a type. -/
def restrictionBegins : Ahead
  | .group .paren body :: _ =>
    Ahead.word "in" body ||
      (Ahead.wordOf ["crate", "self", "super"] body && (Ahead.skip body).isEmpty)
  | _ => false

/-- The scope that a visibility is restricted to. -/
def restriction : Reading (List TokenTree) := do
  if ← sees (.word "in") then return (← word "in") ++ (← wordPath)
  else return [.word (← anyWord)]

/-- A visibility, if one is written. -/
def visibility : Reading (List TokenTree) := do
  if ← sees (.word "pub") then
    let mark ← word "pub"
    if restrictionBegins (← trees) then return mark ++ (← grouped .paren restriction)
    else return mark
  else return []

/-! ### Macro calls -/

/-- The trees after a path may call a macro. -/
def callBegins : Ahead := .punctBut "!" ["!="]

/-- A declaration may begin with the path of a macro. -/
def callPathBegins : Ahead :=
  .any [.ident, .wordOf ["self", "super", "crate"], .punct "::"]

/-- The end of a macro call among declarations: none after braces, else a semicolon. -/
def callEnd (body : List TokenTree) : Reading (List TokenTree) :=
  match body with
  | [.group .brace _] => return []
  | _ => punct ";"

/-- A call of a macro among members. -/
def memberCall : Reading (List TokenTree) := do
  let path ← wordPath
  let bang ← punct "!"
  let body ← anyGroup
  return path ++ bang ++ body ++ (← callEnd body)

/-- The mark of a foreign function, with the text that names its conventions. -/
def foreignMark : Reading (List TokenTree) := do
  if ← sees (.word "extern") then
    let mark ← word "extern"
    match ← trees with
    | .literal text :: _ =>
      if (Attribute.textValue? text).isSome then return mark ++ [← tree] else return mark
    | _ => return mark
  else return []

end Grammar

end Entrypoint
