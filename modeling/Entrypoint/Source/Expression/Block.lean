import Entrypoint.Source.Expression.Operator
import Entrypoint.Source.Pattern

/-! Reading the expressions that end with a block or with arms: conditions, loops, choices and plain
blocks. Attributes at the start of a body belong to the whole expression, so that declarations in
them come before those in its head. -/

namespace Entrypoint.Grammar

open Reading

/-- A head and a body in braces that may begin with attributes. -/
def headed (g : Grammar) (head body : Reading (List TokenTree)) : Reading (List TokenTree) := do
  let (head, met) ← gathered head
  return head ++ (← grouped .brace do
    let attributes ← g.innerAttributes
    record met
    return attributes ++ (← body))

/-- A condition with its branches. The fuel bounds their number. -/
def conditional (g : Grammar) : Nat → Reading (List TokenTree)
  | 0 => failure
  | fuel + 1 => do
    let keyword ← word "if"
    let test ← g.expression false
    let branch ← g.block
    if ← sees (.word "else") then
      let otherwise ← word "else"
      let other ← if ← sees (.word "if") then conditional g fuel else g.block
      return keyword ++ test.tokens ++ branch ++ otherwise ++ other
    else return keyword ++ test.tokens ++ branch

/-- An arm of a choice. A comma ends it unless its body is a block or it is the last one. -/
def arm (g : Grammar) : Reading (List TokenTree) := do
  let attributes ← g.outerAttributes
  let pattern ← g.anyPatternTokens
  let guard ← if ← sees (.word "if") then pure ((← word "if") ++ (← g.expressionTokens))
    else pure []
  let arrow ← punct "=>"
  let body ← g.leading
  let comma ← if body.needsComma && !(← sees .atEnd) then punct "," else punctIfAny ","
  return attributes ++ pattern ++ guard ++ arrow ++ body.tokens ++ comma

/-- A loop. -/
def loopBody (g : Grammar) : Reading (List TokenTree) := do
  if ← sees (.word "while") then
    g.headed (do return (← word "while") ++ (← g.expression false).tokens) g.statements
  else if ← sees (.word "for") then
    let head : Reading (List TokenTree) := do
      let keyword ← word "for"
      let pattern ← g.anyPatternTokens
      let source ← word "in"
      return keyword ++ pattern ++ source ++ (← g.expression false).tokens
    g.headed head g.statements
  else g.headed (word "loop") g.statements

/-- A loop comes next. -/
def loopBegins : Ahead := .wordOf ["while", "for", "loop"]

/-- A list of lifetimes begins a function value, which a loop does not. -/
def lifetimesBegin : Ahead :=
  .both (.word "for") (.both (.second (.punct "<")) (.third (.any [.lifetime, .punct ">"])))

/-- An expression that ends by itself comes next. -/
def blockBegins : Ahead :=
  .any [.wordOf ["if", "match", "unsafe"], .both loopBegins (.not lifetimesBegin),
    .both (.wordOf ["try", "const"]) (.second (.group .brace)), .group .brace, .lifetime]

/-- An expression that ends by itself. -/
def blockExpression (g : Grammar) : Reading Expression := do
  let tokens ←
    if ← sees (.word "if") then g.conditional (← room)
    else if ← sees loopBegins then g.loopBody
    else if ← sees (.word "match") then
      g.headed (do return (← word "match") ++ (← g.expression false).tokens)
        do return (← many .atEnd g.arm (← room)).flatten
    else if ← sees (.word "try") then pure ((← word "try") ++ (← g.block))
    else if ← sees (.wordOf ["unsafe", "const"]) then
      pure (.word (← anyWord) :: (← g.attributedBlock))
    else if ← sees .lifetime then do
      let label := TokenTree.ofLifetime (← lifetime)
      let colon ← punct ":"
      let body ← if ← sees loopBegins then g.loopBody else g.attributedBlock
      pure (label ++ colon ++ body)
    else g.attributedBlock
  return ⟨.block, tokens, true⟩

end Entrypoint.Grammar
