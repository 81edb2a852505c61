import Entrypoint.Source.TokenTree
import Entrypoint.Text.Quoted

/-! Attributes. An attribute stands before what it describes, or inside it behind an exclamation
mark. Documentation is an attribute with a text value; a documentation comment abbreviates one. -/

namespace Entrypoint

/-- An attribute with the tokens between its brackets. -/
structure Attribute where
  isInner : Bool
  body : List TokenTree

namespace Attribute

/-- The tokens of an attribute. -/
def tokens (a : Attribute) : List TokenTree :=
  .punct '#' false :: (if a.isInner then [.punct '!' false] else []) ++
    [.group .bracket a.body]

/-- The tokens of attributes in a row. -/
def allTokens (attributes : List Attribute) : List TokenTree := attributes.flatMap tokens

/-- The text that a literal denotes, if it is a text literal. A raw literal denotes what stands
between its first and its last quote. -/
def textValue? (literal : String) : Option String :=
  match literal.toList with
  | '"' :: inside => some (String.ofList (Text.Quoted.decode inside))
  | 'r' :: rest =>
    let inside := (rest.dropWhile (· != '"')).drop 1
    some (String.ofList ((inside.reverse.dropWhile (· != '"')).drop 1).reverse)
  | _ => none

/-- The text of a documentation attribute. -/
def documentation? (a : Attribute) : Option String :=
  match a.body with
  | [.word name, .punct '=' _, .literal text] =>
    if name.text = "doc" then textValue? text else none
  | _ => none

/-- Documentation, one text an attribute, joined by line feeds. -/
def documentation (attributes : List Attribute) : String :=
  "\n".intercalate (attributes.filterMap documentation?)

end Attribute

end Entrypoint
