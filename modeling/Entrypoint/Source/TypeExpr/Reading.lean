import Entrypoint.Source.TypeExpr.Path

/-! Reading types. The first trees decide what a type is; only round brackets leave open whether
they hold a type, several, or the first trait of an object. -/

namespace Entrypoint.Grammar

open Reading
open TokenTree (operator mark ofWord)

/-! ### Function types -/

/-- Any number of further arguments comes next, perhaps with a name. -/
def openArgumentsBegin : Ahead :=
  .any [.punct "...", .both (.any [.ident, .word "_"])
    (.both (.second (.punct ":")) (.third (.punct "...")))]

/-- Any number of further arguments, which end the list. -/
def openArguments : Reading (List TokenTree) := do
  let name ← if ← sees .anyWord then pure (.word (← anyWord) :: (← punct ":")) else pure []
  let dots ← punct "..."
  return name ++ dots ++ (← punctIfAny ",")

/-- The implementing value that may change comes next. -/
def mutableSelfBegins : Ahead := .both (.word "mut") (.second (.word "self"))

/-- An argument of a function type, after its attributes. Only the first one may be the implementing
value; where that may change, the argument is kept as written. -/
def functionArgument (g : Grammar) (isFirst : Bool) : Reading (List TokenTree) := orWritten do
  let isMutable := isFirst && mutableSelfBegins (← trees)
  if isMutable then
    let _ ← word "mut"
  let named := Ahead.any [.ident, .wordOf (if isFirst then ["_", "self"] else ["_"])]
  let isNamed ← sees (.both named (.second .singleColon))
  let isSelf := isNamed && Ahead.word "self" (← trees)
  let name ← if isNamed then pure (.word (← anyWord) :: (← punct ":")) else pure []
  if isFirst && !isSelf && mutableSelfBegins (← trees) then
    let _ ← word "mut"
    let _ ← word "self"
    return none
  else if isMutable && !isNamed then
    let _ ← word "self"
    return none
  else
    let type ← g.typeTokens
    return if isMutable then none else some (name ++ type)

/-- The arguments of a function type. -/
def functionArguments (g : Grammar) (isFirst : Bool) : Nat → Reading (List TokenTree)
  | 0 => failure
  | fuel + 1 => do
    if ← sees .atEnd then return []
    let attributes ← g.outerAttributes
    if ← sees openArgumentsBegin then return attributes ++ (← openArguments)
    let argument ← g.functionArgument isFirst
    if ← sees .atEnd then return attributes ++ argument
    let comma ← punct ","
    return attributes ++ argument ++ comma ++ (← functionArguments g false fuel)

/-- A function type, after the lifetimes that it ranges over. -/
def functionType (g : Grammar) (lifetimes : List TokenTree) : Reading TypeExpr := do
  let unsafety ← wordIfAny "unsafe"
  let foreign ← foreignMark
  let mark ← word "fn"
  let arguments ← grouped .paren do g.functionArguments true (← room)
  let result ← g.result? false
  return .other (lifetimes ++ unsafety ++ foreign ++ mark ++ arguments ++ resultTokens result)

/-! ### Trait objects -/

/-- The bounds after a first one, each behind a plus. -/
def furtherBounds (g : Grammar) : Nat → Reading (List Bound)
  | 0 => failure
  | fuel + 1 => do
    if ← punct? "+" then return (← g.bound .object) :: (← furtherBounds g fuel) else return []

/-- The bounds after a first one in a type without a mark; a plus may end them. -/
def bareBounds (g : Grammar) : Reading (List Bound × Bool) := do
  if ← punct? "+" then
    if boundBegins .object (← trees) then
      joined "+" (boundBegins .object) (g.bound .object) (← room)
    else return ([], true)
  else return ([], false)

/-- The trait in round brackets that begins a trait object, if the type is one. -/
def boundInParens? : TypeExpr → Option Bound
  | .path path => some (.named true [] path)
  | .object false [.named _ modifiers path] false => some (.named true modifiers path)
  | .object false [bound] false => some bound
  | _ => none

/-- A trait object, perhaps with its mark. One with a star is kept as written. -/
def objectType (g : Grammar) (plus : Bool) : Reading TypeExpr := do
  let start ← get
  let marked ← word? "dyn"
  let starred ← if marked then punct? "*" else pure false
  let (bounds, trailing) ← g.traitBounds .object plus
  if starred then return .other (← writtenSince start) else return .object marked bounds trailing

/-! ### Types in brackets -/

/-- A type that stands alone in round brackets. -/
def enclosed (inner : TypeExpr) : TypeExpr := .other [.group .paren inner.tokens]

/-- A type in round brackets: a tuple, a single type, or the first trait of several. -/
def parenType (g : Grammar) (plus : Bool) : Reading TypeExpr := do
  let body ← group .paren
  if body.isEmpty then return .other [.group .paren []]
  if Ahead.lifetime body then
    let (bounds, trailing) ← within body (g.traitBounds .object true)
    return enclosed (.object false bounds trailing)
  if Ahead.punct "?" body then
    let (modifiers, path, _) ← within body (g.traitBound .object)
    return .object false (.named true modifiers path :: (← g.furtherBounds (← room))) false
  let (types, trailing) ← within body do separated "," .atEnd (g.type true) (← room)
  match types, trailing with
  | [first], false =>
    if plus && (← sees (.punct "+")) then
      match boundInParens? first with
      | some bound => return .object false (bound :: (← g.furtherBounds (← room))) false
      | none => return enclosed first
    else return enclosed first
  | _, _ => return .other [.group .paren (TokenTree.listed "," (types.map (·.tokens)) trailing)]

/-- A type in square brackets, perhaps with a number of elements. -/
def bracketType (g : Grammar) : Reading TypeExpr := do
  return .other (← grouped .bracket do
    let element ← g.typeTokens
    if ← sees (.punct ";") then return element ++ (← punct ";") ++ (← g.expressionTokens)
    else return element)

/-! ### Other types -/

/-- A type that begins with a path: a macro call, a trait object or the path. A macro call does not
keep the lifetimes before it. -/
def pathType (g : Grammar) (plus : Bool) (lifetimes : List TokenTree) (met : List Item) :
    Reading TypeExpr := do
  let (type, metInType) ← gathered (g.qualifiedPath false)
  match type with
  | .path p =>
    if p.isPlain && callBegins (← trees) then
      let bang ← punct "!"
      return .other (p.tokens ++ bang ++ (← anyGroup))
    record (met ++ metInType)
    if !lifetimes.isEmpty || (plus && (← sees (.punct "+"))) then
      let (more, trailing) ← if plus then g.bareBounds else pure ([], false)
      return .object false (.named false lifetimes p :: more) trailing
    else return type
  | _ =>
    record (met ++ metInType)
    return type

/-- What may follow the lifetimes that a type ranges over. -/
def lifetimesGoOn : Ahead := .any [.pathWord, .wordOf ["fn", "unsafe", "extern"]]

/-- A type. -/
def typeWith (g : Grammar) (plus : Bool) : Reading TypeExpr := do
  let (lifetimes, met) ← gathered g.lifetimes
  unless lifetimes.isEmpty do expect lifetimesGoOn
  if ← sees (.any [.pathWord, .punct "::", .punct "<"]) then g.pathType plus lifetimes met
  else
    record met
    if ← sees (.group .paren) then g.parenType plus
    else if ← sees (.wordOf ["fn", "unsafe", "extern"]) then g.functionType lifetimes
    else if ← sees (.any [.word "dyn", .lifetime]) then
      let isMarked ← sees (.word "dyn")
      g.objectType (plus || !isMarked)
    else if ← sees (.group .bracket) then g.bracketType
    else if ← sees (.punct "*") then
      let star ← punct "*"
      let kind ← if ← sees (.word "const") then word "const" else word "mut"
      return .other (star ++ kind ++ (← g.type false).tokens)
    else if ← punct? "&" then
      let name ← lifetime?
      let mutable ← word? "mut"
      return .reference name mutable (← g.type false)
    else if ← sees (.punct "!") then return .other (← punct "!")
    else if ← sees (.word "impl") then
      let mark ← word "impl"
      let (bounds, trailing) ← g.traitBounds .anonymous plus
      return .other (mark ++ Bound.allTokens bounds trailing)
    else return .other (← word "_")

end Entrypoint.Grammar
