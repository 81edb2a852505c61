import Entrypoint.Source.TypeExpr.Bound

/-! Reading paths with their arguments. In an expression an opening bracket after a name compares,
so arguments there follow a double colon. -/

namespace Entrypoint.Grammar

open Reading
open TokenTree (operator mark)

/-- The value of a constant argument. -/
def constantArgument (g : Grammar) : Reading (List TokenTree) := do
  if ← sees .literal then literal
  else if ← sees .ident then return [.word (← ident).word]
  else g.attributedBlock

/-- A constant argument comes next, and not a type. -/
def constantBegins : Ahead := .any [.literal, .group .brace]

/-- A type argument that names a single unrooted segment may go on with an equals sign or a colon;
its tokens before that. -/
def bindingName? : TypeExpr → Option (List TokenTree)
  | .path (.mk false [] last) =>
    match last.arguments with
    | .call _ => none
    | _ => some last.tokens
  | _ => none

/-- An argument in angle brackets. -/
def argument (g : Grammar) : Reading Argument := do
  if ← sees (.both .lifetime (.not (.second (.punct "+")))) then return .lifetime (← lifetime)
  if ← sees constantBegins then return .other (← g.constantArgument)
  let type ← g.type true
  match bindingName? type with
  | none => return .type type
  | some name =>
    if ← punct? "=" then
      let value ← if ← sees constantBegins then g.constantArgument else g.typeTokens
      return .other (name ++ mark '=' ++ value)
    else if ← punct? ":" then
      return .other (name ++ mark ':' ++
        (← g.declaredBounds .declared (.any [.punct ",", .punct ">"])))
    else return .type type

/-- Arguments in angle brackets. -/
def angle (g : Grammar) : Reading Arguments := do
  let marked ← punct? "::"
  let _ ← punct "<"
  let (items, trailing) ← separated "," (.punct ">") g.argument (← room)
  let _ ← punct ">"
  return .angle marked items trailing

/-- A segment of a path. The words that lead paths have no arguments. -/
def segment (g : Grammar) (inExpression : Bool) : Reading Segment := do
  if ← sees (.wordOf ["super", "self", "crate", "try"]) then
    return .mk (← nameOr _) .absent
  expect (.any [.ident, .word "Self"])
  let name ← nameOr _
  if (!inExpression && (← sees .angle)) || (← sees (.both (.punct "::") (.third (.punct "<")))) then
    return .mk name (← g.angle)
  else return .mk name .absent

/-- The segments after a double colon, for as long as one comes next. The last segment is given
apart. -/
def segments (g : Grammar) (inExpression : Bool) (last : Segment) : Nat →
    Reading (List Segment × Segment)
  | 0 => failure
  | fuel + 1 => do
    if ← sees (.both (.punct "::") (.not (.third (.group .paren)))) then
      let _ ← punct "::"
      let next ← g.segment inExpression
      let (parents, final) ← segments g inExpression next fuel
      return (last :: parents, final)
    else return ([], last)

/-- A path. -/
def plainPath (g : Grammar) (inExpression : Bool) : Reading PathExpr := do
  let rooted ← punct? "::"
  let first ← g.segment inExpression
  let (parents, last) ← g.segments inExpression first (← room)
  return .mk rooted parents last

/-- Segments after a projected type, each behind a double colon. -/
def projected (g : Grammar) (inExpression : Bool) : Nat → Reading (List Segment × Segment)
  | 0 => failure
  | fuel + 1 => do
    let first ← g.segment inExpression
    if ← punct? "::" then
      let (parents, last) ← projected g inExpression fuel
      return (first :: parents, last)
    else return ([], first)

/-- A path that may lead on from a type. -/
def qualifiedPath (g : Grammar) (inExpression : Bool) : Reading TypeExpr := do
  if ← punct? "<" then
    let self ← g.type true
    let seenAs ← if ← word? "as" then pure (some (← g.path)) else pure none
    let _ ← punct ">"
    let _ ← punct "::"
    let (parents, last) ← g.projected inExpression (← room)
    return .projection self seenAs parents last
  else return .path (← g.plainPath inExpression)

end Entrypoint.Grammar
