import Entrypoint.Source.Grammar

/-! Reading bounds: traits, lifetimes and captured names. Which of them may stand depends on the
place of the bound. -/

namespace Entrypoint

/-- What may stand among bounds besides traits and lifetimes. -/
structure BoundPlace where
  captures : Bool
  constants : Bool

namespace BoundPlace

/-- The bounds of a trait object. -/
def object : BoundPlace := ⟨false, false⟩

/-- The bounds of a parameter, an associated type or a trait. -/
def declared : BoundPlace := ⟨false, true⟩

/-- The bounds of a type that is known by them alone. -/
def anonymous : BoundPlace := ⟨true, true⟩

end BoundPlace

namespace Grammar

open Reading
open TokenTree (operator mark ofLifetime)

/-- The type behind an arrow, if there is one. -/
def result? (g : Grammar) (plus : Bool) : Reading (Option TypeExpr) := do
  if ← punct? "->" then return some (← g.type plus) else return none

/-- The tokens of a result. -/
def resultTokens : Option TypeExpr → List TokenTree
  | none => []
  | some type => operator "->" ++ type.tokens

/-- Arguments in round brackets come next, perhaps behind a double colon. -/
def argumentsBegin : Ahead :=
  .any [.group .paren, .both (.punct "::") (.third (.group .paren))]

/-- The arguments of a trait in round brackets and its result. -/
def callArguments (g : Grammar) : Reading Arguments := do
  let _ ← punct? "::"
  let arguments ← grouped .paren (commas g.typeTokens)
  return .call (arguments ++ resultTokens (← g.result? false))

/-- The mark of a trait that holds in constants. -/
def constantMark : Reading Bool := do
  if ← sees (.group .bracket) then
    within (← group .bracket) do
      let _ ← word "const"
      return true
  else word? "const"

/-- A trait with what may stand before it, and whether it is marked as constant. One over lifetimes
takes no question mark. -/
def traitBound (g : Grammar) (place : BoundPlace) :
    Reading (List TokenTree × PathExpr × Bool) := do
  let lifetimes ← g.lifetimes
  let isConstant ← constantMark
  if isConstant && !place.constants then failure
  let question ← punctIfAny "?"
  if !question.isEmpty then
    if !lifetimes.isEmpty then failure
    expect (.not (.word "for"))
  let modifiers := lifetimes ++ question
  let path ← g.path
  match path with
  | .mk rooted parents last =>
    if last.isBare && argumentsBegin (← trees) then
      let called := Segment.mk last.name (← g.callArguments)
      return (modifiers, .mk rooted parents called, isConstant)
    else return (modifiers, path, isConstant)

/-- The names that a bound on captures lists. -/
def captures : Reading (List TokenTree) := do
  let mark ← word "use"
  let opening ← punct "<"
  let (names, trailing) ← separated "," (.punct ">") (do
    if ← sees .lifetime then return (true, ofLifetime (← lifetime))
    else return (false, [.word (← identOr ["Self"])])) (← room)
  let closing ← punct ">"
  return mark ++ opening ++ TokenTree.markedFirst names trailing ++ closing

/-- A bound. One with a constant trait is kept as written. -/
def bound (g : Grammar) (place : BoundPlace) : Reading Bound := do
  if ← sees .lifetime then return .lifetime (← lifetime)
  if ← sees (.word "use") then
    let names ← captures
    if place.captures then return .captures names else failure
  let start ← get
  let inParens ← sees (.group .paren)
  let (modifiers, path, isConstant) ←
    if inParens then within (← group .paren) (g.traitBound place) else g.traitBound place
  if isConstant then return .constant (← writtenSince start)
  else return .named inParens modifiers path

/-- What may begin a further bound. -/
def boundBegins (place : BoundPlace) : Ahead := fun trees =>
  Ahead.any [.anyWord, .punct "::", .punct "?", .lifetime, .group .paren] trees ||
    (place.constants && Ahead.group .bracket trees)

/-- Bounds of a type, of which one has to be a trait. -/
def traitBounds (g : Grammar) (place : BoundPlace) (plus : Bool) : Reading (List Bound × Bool) := do
  let (bounds, trailing) ←
    if plus then joined "+" (boundBegins place) (g.bound place) (← room)
    else pure ([← g.bound place], false)
  let isTrait : Bound → Bool
    | .named .. | .constant _ => true
    | _ => false
  if bounds.any isTrait then return (bounds, trailing) else failure

/-- The tokens of the bounds of a declaration, up to a stop. -/
def declaredBounds (g : Grammar) (place : BoundPlace) (stop : Ahead) :
    Reading (List TokenTree) := do
  let (bounds, trailing) ← separated "+" stop (g.bound place) (← room)
  return Bound.allTokens bounds trailing

/-- Tokens behind a colon, which is dropped where there are none. -/
def behindColon (tokens : List TokenTree) : List TokenTree :=
  if tokens.isEmpty then [] else mark ':' ++ tokens

end Grammar

end Entrypoint
