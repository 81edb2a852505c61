import Entrypoint.Source.TypeExpr.Reading

/-! Reading the parameters of declarations, the lifetimes that a type ranges over, and conditions.
Brackets without parameters and conditions without a predicate are not written out, though their
presence may matter. -/

namespace Entrypoint.Grammar

open Reading
open TokenTree (operator mark ofLifetime)

/-- A parameter, after its attributes, with whether it is a lifetime. -/
def parameterBody (g : Grammar) : Reading (Bool × List TokenTree) := do
  if ← sees .lifetime then
    let name ← lifetime
    let bounds ← if ← punct? ":" then
        listed "+" (.any [.punct ",", .punct ">"]) do return ofLifetime (← lifetime)
      else pure []
    return (true, ofLifetime name ++ behindColon bounds)
  else if ← sees (.word "const") then
    let keyword ← word "const"
    let name ← ident
    let colon ← punct ":"
    let type ← g.typeTokens
    let value ← if ← sees (.punct "=") then pure ((← punct "=") ++ (← g.constantArgument))
      else pure []
    return (false, keyword ++ .word name.word :: colon ++ type ++ value)
  else
    let name ← ident
    let bounds ← if ← punct? ":" then
        g.declaredBounds .declared (.any [.punct ",", .punct ">", .punct "="])
      else pure []
    let value ← if ← sees (.punct "=") then pure ((← punct "=") ++ (← g.typeTokens)) else pure []
    return (false, .word name.word :: behindColon bounds ++ value)

/-- A parameter with its attributes, and whether it is a lifetime. -/
def parameter (g : Grammar) : Reading (Bool × List TokenTree) := do
  let attributes ← g.outerAttributes
  let (isLifetime, tokens) ← g.parameterBody
  return (isLifetime, attributes ++ tokens)

/-- A parameter of a declaration, which may have an underscore for a name. -/
def declaredParameter (g : Grammar) : Reading (Bool × List TokenTree) := do
  let attributes ← g.outerAttributes
  let (isLifetime, tokens) ←
    if ← sees (.word "_") then pure (false, ← word "_") else g.parameterBody
  return (isLifetime, attributes ++ tokens)

/-- The lifetimes that a type ranges over, if any are listed. -/
def lifetimesWith (g : Grammar) : Reading (List TokenTree) := do
  if ← sees (.word "for") then
    let keyword ← word "for"
    let opening ← punct "<"
    let names ← listed "," (.punct ">") do return (← g.parameter).2
    let closing ← punct ">"
    return keyword ++ opening ++ names ++ closing
  else return []

/-- The parameters of a declaration in angle brackets. -/
structure Parameters where
  /-- The brackets are written, perhaps with nothing between them. -/
  areWritten : Bool
  tokens : List TokenTree

/-- The parameters of a declaration, if it has any. Lifetimes are written first. -/
def parameters (g : Grammar) : Reading Parameters := do
  if ← sees (.punct "<") then
    let opening ← punct "<"
    let (items, trailing) ← separated "," (.punct ">") g.declaredParameter (← room)
    let closing ← punct ">"
    return ⟨true, if items.isEmpty then []
      else opening ++ TokenTree.markedFirst items trailing ++ closing⟩
  else return ⟨false, []⟩

/-- Parameters and not a projected type come next, as an angle bracket alone does not tell. -/
def parametersBegin : Ahead :=
  .both (.punct "<") (.any [
    .second (.any [.punct ">", .punct "#", .word "const"]),
    .both (.second (.any [.lifetime, .ident]))
      (.third (.any [.punct ">", .punct ",", .singleColon, .punct "="]))])

/-- What ends conditions. -/
def conditionsEnd : Ahead :=
  .any [.atEnd, .group .brace, .punct ",", .punct ";", .singleColon, .punct "="]

/-- A condition. -/
def condition (g : Grammar) : Reading (List TokenTree) := do
  if ← sees (.both .lifetime (.second (.punct ":"))) then
    let name ← lifetime
    let colon ← punct ":"
    let bounds ← listed "+" (.any [conditionsEnd, .punct ":"]) do return ofLifetime (← lifetime)
    return ofLifetime name ++ colon ++ bounds
  else
    let lifetimes ← g.lifetimes
    let type ← g.typeTokens
    let colon ← punct ":"
    return lifetimes ++ type ++ colon ++ (← g.declaredBounds .declared conditionsEnd)

/-- The conditions of a declaration. -/
structure Conditions where
  /-- The keyword is written, perhaps with nothing after it. -/
  areWritten : Bool
  tokens : List TokenTree

/-- The conditions of a declaration, if it has any. -/
def conditions (g : Grammar) : Reading Conditions := do
  if ← sees (.word "where") then
    let keyword ← word "where"
    expect (.not parametersBegin)
    let predicates ← listed "," conditionsEnd g.condition
    return ⟨true, if predicates.isEmpty then [] else keyword ++ predicates⟩
  else return ⟨false, []⟩

end Entrypoint.Grammar
