import Entrypoint.Source.TypeExpr.Path

/-! Reading patterns. A name before a bracket, a double colon or a range begins a path; any other
name binds a value. -/

namespace Entrypoint.Grammar

open Reading
open TokenTree (operator mark)

/-- A pattern of no special kind. -/
def plainPattern (tokens : List TokenTree) : Pattern := ⟨.plain, tokens⟩

/-- Further alternatives, each behind a bar. -/
def alternatives (g : Grammar) : Nat → Reading (List TokenTree)
  | 0 => failure
  | fuel + 1 => do
    if ← sees (.punctBut "|" ["||", "|="]) then
      let bar ← punct "|"
      let next ← g.pattern
      return bar ++ next.tokens ++ (← alternatives g fuel)
    else return []

/-- A pattern with alternatives. A bar may stand before the first one. -/
def anyPattern (g : Grammar) : Reading Pattern := do
  let bar ← punctIfAny "|"
  let first ← g.pattern
  let further ← g.alternatives (← room)
  if bar.isEmpty && further.isEmpty then return first
  else return plainPattern (bar ++ first.tokens ++ further)

/-- The tokens of a pattern with alternatives. -/
def anyPatternTokens (g : Grammar) : Reading (List TokenTree) := do
  return (← g.anyPattern).tokens

/-! ### Ranges -/

/-- No bound follows a range. -/
def rangeEnds : Ahead :=
  .any [.atEnd, .punct "|", .punct "=", .singleColon, .punct ",", .punct ";", .word "if"]

/-- A value that can be a bound of a range: a literal, a path or a constant block. -/
def patternValue (g : Grammar) : Reading (List TokenTree) := do
  if ← sees .literal then literal
  else if ← sees (.any [.pathWord, .punct "::", .punct "<"]) then
    return (← g.qualifiedPath true).tokens
  else return (← word "const") ++ (← g.attributedBlock)

/-- The operator of a range and its upper bound, which a closed range must have. Three points, where
they may stand, mean a closed range. -/
def rangeEnd (g : Grammar) (threePoints : Bool) : Reading (List TokenTree × Bool) := do
  let dots ←
    if ← sees (.punct "..=") then punct "..="
    else if ← sees (.punct "...") then
      if threePoints then
        let _ ← punct "..."
        pure (operator "..=")
      else failure
    else punct ".."
  if ← sees rangeEnds then
    if dots.length = 2 then return (dots, false) else failure
  else return (dots ++ (← g.patternValue), true)

/-- A pattern that begins with a value: the value or a range from it. -/
def rangeFrom (g : Grammar) (value : List TokenTree) : Reading Pattern := do
  if ← sees (.punct "..") then
    let (range, hasBound) ← g.rangeEnd true
    return ⟨if hasBound then .plain else .openRange, value ++ range⟩
  else return plainPattern value

/-- A range without a lower bound, or two points alone. -/
def rangeTo (g : Grammar) : Reading Pattern := do
  let (range, hasBound) ← g.rangeEnd false
  return ⟨if hasBound then .openRange else .plain, range⟩

/-! ### Structures -/

/-- The position or the name of a field. Gives its tokens and whether it is a name. -/
def member : Reading (List TokenTree × Bool) := do
  match ← tree with
  | .word w => if w.isKeyword then failure else return ([.word w], true)
  | .literal text =>
    match Expression.position? text.toList with
    | some n => return ([.literal (toString n)], false)
    | none => failure
  | _ => failure

/-- A field of a struct in a pattern, after its attributes. One in a box is kept as written. -/
def fieldPattern (g : Grammar) : Reading (List TokenTree) := orWritten do
  let boxed ← word? "box"
  let byReference ← wordIfAny "ref"
  let mutable ← wordIfAny "mut"
  let marks := byReference ++ mutable
  let (name, isName) ← member
  if !isName && (boxed || !marks.isEmpty) then failure
  if !isName || (!boxed && marks.isEmpty && (← sees (.punct ":"))) then
    let colon ← punct ":"
    return some (name ++ colon ++ (← g.anyPatternTokens))
  else return if boxed then none else some (marks ++ name)

/-- The fields of a struct in a pattern; two points stand for the others. -/
def fieldPatterns (g : Grammar) : Nat → Reading (List TokenTree)
  | 0 => failure
  | fuel + 1 => do
    if ← sees .atEnd then return []
    let attributes ← g.outerAttributes
    if ← sees (.punct "..") then return attributes ++ (← punct "..")
    let field ← g.fieldPattern
    if ← sees .atEnd then return attributes ++ field
    let comma ← punct ","
    return attributes ++ field ++ comma ++ (← fieldPatterns g fuel)

/-- A pattern that begins with a path: a macro call, a struct, a range or the path. -/
def pathPattern (g : Grammar) : Reading Pattern := do
  let type ← g.qualifiedPath true
  let isPlain := match type with
    | .path p => p.isPlain
    | _ => false
  if isPlain && callBegins (← trees) then
    let bang ← punct "!"
    return plainPattern (type.tokens ++ bang ++ (← anyGroup))
  if ← sees (.group .brace) then
    return plainPattern (type.tokens ++ (← grouped .brace do g.fieldPatterns (← room)))
  if ← sees (.group .paren) then
    return plainPattern (type.tokens ++ (← grouped .paren (commas g.anyPatternTokens)))
  g.rangeFrom type.tokens

/-! ### Patterns -/

/-- A name for a value, perhaps with a pattern that the value has to match. -/
def namePattern (g : Grammar) : Reading Pattern := do
  let byReference ← wordIfAny "ref"
  let mutable ← wordIfAny "mut"
  let name ← identOr ["self"]
  let inner ← if ← sees (.punct "@") then pure ((← punct "@") ++ (← g.pattern).tokens) else pure []
  return plainPattern (byReference ++ mutable ++ .word name :: inner)

/-- An element of a slice, where a range without one of its bounds has to stand in brackets. -/
def sliceElement (g : Grammar) : Reading (List TokenTree) := do
  let element ← g.anyPattern
  if element.kind = .openRange then failure else return element.tokens

/-- A name that begins a path comes next. -/
def pathPatternBegins : Ahead :=
  .any [
    .both .ident (.second (.any [.punct "::", .punct "!", .group .brace, .group .paren,
      .punct ".."])),
    .both (.word "self") (.second (.punct "::")),
    .punct "::", .punct "<", .wordOf ["Self", "super", "crate"]]

/-- A pattern without alternatives. -/
def patternWith (g : Grammar) : Reading Pattern := do
  if ← sees pathPatternBegins then g.pathPattern
  else if ← sees (.word "_") then return plainPattern (← word "_")
  else if ← sees (.word "box") then
    let start ← get
    let _ ← word "box"
    let _ ← g.pattern
    return ⟨.written, ← writtenSince start⟩
  else if ← sees (.any [.punct "-", .literal, .word "const"]) then
    g.rangeFrom (← g.patternValue)
  else if ← sees (.any [.wordOf ["ref", "mut", "self"], .ident]) then g.namePattern
  else if ← sees (.punct "&") then
    let mark ← punct "&"
    let mutable ← wordIfAny "mut"
    return plainPattern (mark ++ mutable ++ (← g.pattern).tokens)
  else if ← sees (.group .paren) then
    return plainPattern (← grouped .paren (commas g.anyPatternTokens))
  else if ← sees (.group .bracket) then
    return plainPattern (← grouped .bracket (commas g.sliceElement))
  else
    expect (.punct "..")
    g.rangeTo

end Entrypoint.Grammar
