import Entrypoint.Source.Item.Field
import Entrypoint.Source.Item.Member
import Entrypoint.Source.Item.Use

/-! Reading declarations. What the catalogue addresses is recorded and not searched any further. In
another declaration those in its blocks are recorded, attributes included; one that is kept as
written counts for nothing. -/

namespace Entrypoint.Grammar

open Reading
open TokenTree (mark)

/-! ### What the catalogue addresses -/

/-- A function after its visibility. One without a body is kept as written. -/
def functionItem (g : Grammar) (attributes : List Attribute) :
    Reading (Option (List TokenTree)) := do
  let signature ← unrecorded (g.signature false)
  if ← punct? ";" then return none
  let (function, tokens) ← unrecorded (g.functionBody attributes signature)
  record [.function function]
  return some tokens

/-- A type definition after its visibility. One with bounds or without a type is kept as written. -/
def aliasItem (g : Grammar) : Reading (Option (List TokenTree)) := do
  let type ← unrecorded (g.typeDefinition .before)
  let semicolon ← punct ";"
  match type.target with
  | none => return none
  | some target =>
    if type.isBounded then return none
    record [.alias type.name target]
    return some (TokenTree.ofWord "type" ++ .word type.name.word :: type.parameters ++
      type.conditions ++ mark '=' ++ target.tokens ++ semicolon)

/-- A struct after its visibility. -/
def recordItem (g : Grammar) (attributes : List Attribute) : Reading (List TokenTree) := do
  let (item, tokens) ← unrecorded (g.structBody attributes)
  record [.record item]
  return tokens

/-- The type is a path. -/
def isPath : TypeExpr → Bool
  | .path _ => true
  | _ => false

/-- An implementation after its visibility. Gives the methods of a type if it is of a type alone,
and its tokens unless it is kept as written: with a visibility, in constants, or of what is no path.
-/
def implementation (g : Grammar) (isVisible : Bool) :
    Reading (Option Item × Option (List TokenTree)) := do
  let start := (← wordIfAny "default") ++ (← wordIfAny "unsafe") ++ (← word "impl")
  let parameters ← if parametersBegin (← trees) then pure (← g.parameters).tokens else pure []
  let isConstant ← sees (.any [.word "const", .both (.punct "?") (.second (.word "const"))])
  if isConstant then
    let _ ← punct? "?"
    let _ ← word "const"
  let negative ← if ← sees (.both (.punct "!") (.not (.second (.group .brace)))) then punct "!"
    else pure []
  let first ← g.type true
  let target ← if ← sees (.word "for") then do
      let keyword ← word "for"
      pure (some (keyword ++ (← g.typeTokens)))
    else pure none
  if target.isNone && !negative.isEmpty then failure
  let conditions ← g.conditions
  let (attributes, members) ← within (← group .brace) do
    let attributes ← g.innerAttributes
    return (attributes, ← many .atEnd g.implementationMember (← room))
  if isVisible || isConstant || (target.isSome && !isPath first) then return (none, none)
  return (if target.isNone then some (.methods first (members.filterMap (·.1))) else none,
    some (start ++ parameters ++ negative ++ first.tokens ++ target.getD [] ++
      conditions.tokens ++ [.group .brace (attributes ++ members.flatMap (·.2))]))

/-- An implementation after its visibility. Its inside is not searched. -/
def implementationItem (g : Grammar) (isVisible : Bool) :
    Reading (Option (List TokenTree)) := do
  let (methods, tokens) ← unrecorded (g.implementation isVisible)
  record methods.toList
  return tokens

/-! ### What is searched -/

/-- A static value after its visibility. One without a type or a value is kept as written. -/
def staticItem (g : Grammar) : Reading (Option (List TokenTree)) := do
  let keyword ← word "static"
  let mutable ← wordIfAny "mut"
  let name ← ident
  if ← punct? "=" then
    let _ ← g.expressionTokens
    let _ ← punct ";"
    return none
  let colon ← punct ":"
  let type ← g.typeTokens
  if ← punct? ";" then return none
  let equals ← punct "="
  let value ← g.expressionTokens
  let semicolon ← punct ";"
  return some (keyword ++ mutable ++ .word name.word :: colon ++ type ++ equals ++ value ++
    semicolon)

/-- A constant after its visibility. One with parameters or without a value is kept as written. -/
def constantItem (g : Grammar) : Reading (Option (List TokenTree)) := do
  let constant ← g.constantDefinition
  return if constant.isGeneral || !constant.hasValue then none else some constant.tokens

/-- A variant of an enumeration. A visibility before it is dropped. -/
def variant (g : Grammar) : Reading (List TokenTree) := do
  let attributes ← g.outerAttributes
  let _ ← visibility
  let name ← ident
  let fields ←
    if ← sees (.group .brace) then pure (← g.fieldsInBraces).2
    else if ← sees (.group .paren) then g.positionalFields
    else pure []
  let value ← if ← sees (.punct "=") then pure ((← punct "=") ++ (← g.expressionTokens))
    else pure []
  return attributes ++ .word name.word :: fields ++ value

/-- An enumeration after its visibility. -/
def enumeration (g : Grammar) : Reading (List TokenTree) := do
  let keyword ← word "enum"
  let name ← ident
  let parameters ← g.parameters
  let conditions ← g.conditions
  return keyword ++ .word name.word :: parameters.tokens ++ conditions.tokens ++
    (← grouped .brace (commas g.variant))

/-- A union after its visibility. -/
def union (g : Grammar) : Reading (List TokenTree) := do
  let keyword ← word "union"
  let name ← ident
  let parameters ← g.parameters
  let conditions ← g.conditions
  return keyword ++ .word name.word :: parameters.tokens ++ conditions.tokens ++
    (← g.fieldsInBraces).2

/-- A name for bounds, behind its parameters. -/
def traitAlias (g : Grammar) (start : List TokenTree) : Reading (List TokenTree) := do
  let equals ← punct "="
  let (bounds, met) ← gathered
    (g.declaredBounds .object (.any [.word "where", .punct ";"]))
  let conditions ← g.conditions
  record met
  return start ++ equals ++ bounds ++ conditions.tokens ++ (← punct ";")

/-- A trait after its visibility, or a name for bounds. Attributes at the start of its inside belong
to it. -/
def traitItem (g : Grammar) : Reading (List TokenTree) := do
  let unsafety ← wordIfAny "unsafe"
  let automatic ← wordIfAny "auto"
  let keyword ← word "trait"
  let name ← ident
  let start := unsafety ++ automatic ++ keyword ++ [.word name.word]
  let (parameters, metInParameters) ← gathered g.parameters
  if unsafety.isEmpty && automatic.isEmpty && (← sees (.punct "=")) then
    record metInParameters
    g.traitAlias (start ++ parameters.tokens)
  else
    let (bounds, metInBounds) ← gathered do
      if ← punct? ":" then
        g.declaredBounds .declared (.any [.word "where", .group .brace])
      else return []
    let (conditions, metInConditions) ← gathered g.conditions
    let body ← grouped .brace do
      let attributes ← g.innerAttributes
      record (metInParameters ++ metInConditions ++ metInBounds)
      return attributes ++ (← many .atEnd g.traitMember (← room)).flatten
    return start ++ parameters.tokens ++ behindColon bounds ++ conditions.tokens ++ body

/-- A block of foreign declarations. -/
def foreignBlock (g : Grammar) : Reading (List TokenTree) := do
  let unsafety ← wordIfAny "unsafe"
  expect (.word "extern")
  let start ← foreignMark
  return unsafety ++ start ++ (← grouped .brace do
    let attributes ← g.innerAttributes
    return attributes ++ (← many .atEnd g.foreignMember (← room)).flatten)

/-- A foreign crate under its own or another name. -/
def foreignCrate : Reading (List TokenTree) := do
  let start := (← word "extern") ++ (← word "crate")
  let name ← identOr ["self"]
  let localName ← if ← sees (.word "as") then pure ((← word "as") ++ [.word (← identOr ["_"])])
    else pure []
  return start ++ .word name :: localName ++ (← punct ";")

/-- A module after its visibility. One with content is recorded with what is met in it; one without
leaves nothing. -/
def moduleItem (g : Grammar) (met : List Item) : Reading (List TokenTree) := do
  let unsafety ← wordIfAny "unsafe"
  let keyword ← word "mod"
  expect (.any [.ident, .word "try"])
  let name ← nameOr _
  let start := unsafety ++ keyword ++ [.word name.word]
  if ← sees (.punct ";") then return start ++ (← punct ";")
  let (body, metInBody) ← gathered (grouped .brace do
    let attributes ← g.innerAttributes
    return attributes ++ (← many .atEnd g.item (← room)).flatten)
  record [.inlineModule name (met ++ metInBody)]
  return start ++ body

/-- A macro defined by the keyword; it is kept as written. -/
def macroDefinition : Reading Unit := do
  let _ ← word "macro"
  let _ ← ident
  if ← sees (.group .paren) then
    let _ ← group .paren
  let _ ← group .brace

/-- A call of a macro as a declaration. It may name what it declares. -/
def macroCall : Reading (List TokenTree) := do
  let path ← wordPath
  let bang ← punct "!"
  let name ← if ← sees (.any [.ident, .word "try"]) then pure [.word (← anyWord)] else pure []
  let body ← anyGroup
  return path ++ bang ++ name ++ body ++ (← callEnd body)

/-! ### Declarations -/

/-- A block of foreign declarations comes next. -/
def foreignBlockBegins : Ahead := fun trees =>
  match trees with
  | .word w :: .literal text :: rest =>
    w.text == "extern" && (Attribute.textValue? text).isSome && Ahead.group .brace rest
  | .word w :: rest => w.text == "extern" && Ahead.group .brace rest
  | _ => false

/-- A trait comes next. -/
def traitBegins : Ahead :=
  .any [.word "trait", .both (.word "auto") (.second (.word "trait")),
    .both (.word "unsafe") (.second (.word "trait")),
    .both (.word "unsafe") (.both (.second (.word "auto")) (.third (.word "trait")))]

/-- An implementation comes next. -/
def implementationBegins : Ahead :=
  .any [.word "impl", .both (.word "unsafe") (.second (.word "impl")), defaultBegins]

/-- A declaration that is searched, after its visibility: its tokens, if it is not kept as
written. -/
def searchedItem (g : Grammar) (isVisible : Bool) : Reading (Option (List TokenTree)) := do
  if ← sees (.both (.word "extern") (.second (.word "crate"))) then return some (← foreignCrate)
  else if ← sees (.any [foreignBlockBegins, .both (.word "unsafe") (.second (.word "extern"))]) then
    if isVisible then failure
    return some (← g.foreignBlock)
  else if ← sees (.word "static") then g.staticItem
  else if ← sees (.word "const") then g.constantItem
  else if ← sees (.word "enum") then return some (← g.enumeration)
  else if ← sees (.both (.word "union") (.second .ident)) then return some (← g.union)
  else if ← sees traitBegins then return some (← g.traitItem)
  else if ← sees (.word "macro") then
    macroDefinition
    return none
  else
    if isVisible then failure
    expect callPathBegins
    return some (← macroCall)

/-- A declaration after its attributes and its visibility: its tokens, if it is not kept as written.
`met` are the declarations in its attributes, which count where it is searched. -/
def itemBody (g : Grammar) (attributes : List Attribute) (met : List Item) (isVisible : Bool) :
    Reading (Option (List TokenTree)) := do
  if signatureBegins false (← trees) then g.functionItem attributes
  else if ← sees (.word "use") then useItem
  else if ← sees (.word "type") then g.aliasItem
  else if ← sees (.word "struct") then return some (← g.recordItem attributes)
  else if ← sees (.any [.word "mod", .both (.word "unsafe") (.second (.word "mod"))]) then
    return some (← g.moduleItem met)
  else if ← sees implementationBegins then g.implementationItem isVisible
  else
    record met
    g.searchedItem isVisible

/-- A declaration. -/
def itemWith (g : Grammar) : Reading (List TokenTree) := orWritten do
  let (attributes, met) ← gathered g.outerAttributeList
  let visible ← visibility
  let tokens ← g.itemBody attributes met (!visible.isEmpty)
  return tokens.map (Attribute.allTokens attributes ++ visible ++ ·)

end Entrypoint.Grammar
