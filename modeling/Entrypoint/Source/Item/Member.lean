import Entrypoint.Source.Item.Function

/-! Reading the members of traits, implementations and foreign blocks. A member of a kind that its
place does not have is kept as written. -/

namespace Entrypoint.Grammar

open Reading
open TokenTree (mark)

/-! ### Definitions -/

/-- Where the conditions of a type definition may stand: before the type that it stands for, after
that, or at one of both places. -/
inductive ConditionsPlace
  | before
  | after
  | either
  deriving DecidableEq, Repr

/-- A definition of a type. -/
structure TypeDefinition where
  name : Ident
  /-- A colon is written, perhaps with no bounds after it. -/
  isBounded : Bool
  target : Option TypeExpr
  parameters : List TokenTree
  bounds : List TokenTree
  conditions : List TokenTree

/-- A definition of a type with its keyword, up to the semicolon. Declarations in the conditions
come before those in the bounds and in the type. -/
def typeDefinition (g : Grammar) (place : ConditionsPlace) : Reading TypeDefinition := do
  let _ ← word "type"
  let name ← ident
  let parameters ← g.parameters
  let isBounded ← punct? ":"
  let (bounds, metInBounds) ← gathered (if isBounded then
      g.declaredBounds .declared (.any [.word "where", .punct "=", .punct ";"])
    else pure [])
  let none : Conditions := ⟨false, []⟩
  let before ← if place = .after then pure none else g.conditions
  let (target, metInTarget) ← gathered do
    if ← punct? "=" then return some (← g.type true) else return Option.none
  let after ← if place = .before || before.areWritten then pure none else g.conditions
  record (metInBounds ++ metInTarget)
  return ⟨name, isBounded, target, parameters.tokens, bounds, before.tokens ++ after.tokens⟩

/-- A constant. -/
structure ConstantDefinition where
  /-- Parameters or conditions are written. -/
  isGeneral : Bool
  hasValue : Bool
  tokens : List TokenTree

/-- A constant with its keyword and its semicolon. -/
def constantDefinition (g : Grammar) : Reading ConstantDefinition := do
  let keyword ← word "const"
  let name ← identOr ["_"]
  let parameters ← g.parameters
  let colon ← punct ":"
  let type ← g.typeTokens
  let value ← if ← sees (.punct "=") then pure ((← punct "=") ++ (← g.expressionTokens))
    else pure []
  let conditions ← g.conditions
  let semicolon ← punct ";"
  return ⟨parameters.areWritten || conditions.areWritten, !value.isEmpty,
    keyword ++ .word name :: colon ++ type ++ value ++ semicolon⟩

/-! ### Members of traits -/

/-- A function of a trait. Attributes at the start of its body belong to it. -/
def traitFunction (g : Grammar) : Reading (List TokenTree) := do
  let (signature, met) ← gathered (g.signature false)
  if ← sees (.punct ";") then
    record met
    return signature.tokens ++ (← punct ";")
  else
    return signature.tokens ++ (← grouped .brace do
      let attributes ← g.innerAttributes
      record met
      return attributes ++ (← g.statements))

/-- A type of a trait. -/
def traitType (g : Grammar) : Reading (List TokenTree) := do
  let keyword := TokenTree.ofWord "type"
  let type ← g.typeDefinition .after
  let target := match type.target with
    | some target => mark '=' ++ target.tokens
    | none => []
  return keyword ++ .word type.name.word :: type.parameters ++ behindColon type.bounds ++ target ++
    type.conditions ++ (← punct ";")

/-- A constant member begins with the keyword and a name. -/
def memberConstantBegins : Ahead := .both (.word "const") (.second (.any [.ident, .word "_"]))

/-- A member of a trait. One with a visibility or a default mark is kept as written. -/
def traitMember (g : Grammar) : Reading (List TokenTree) := orWritten do
  let attributes ← g.outerAttributes
  let visible ← visibility
  let isDefault ← word? "default"
  let isMarked := !visible.isEmpty || isDefault
  let tokens : Option (List TokenTree) ←
    if signatureBegins false (← trees) then pure (some (← g.traitFunction))
    else if ← sees memberConstantBegins then do
      let constant ← g.constantDefinition
      pure (if constant.isGeneral then none else some constant.tokens)
    else if ← sees (.word "type") then pure (some (← g.traitType))
    else do
      if isMarked then failure
      expect callPathBegins
      pure (some (← memberCall))
  return if isMarked then none else tokens.map (attributes ++ ·)

/-! ### Members of implementations -/

/-- A function with its body, its tokens, and what stands at the start of the body. -/
def functionBody (g : Grammar) (attributes : List Attribute) (signature : WrittenSignature) :
    Reading (Function × List TokenTree) := do
  let (inner, statements) ← within (← group .brace) do
    let inner ← g.innerAttributeList
    return (inner, ← g.statements)
  return (⟨Attribute.documentation (attributes ++ inner), signature.signature⟩,
    signature.tokens ++ [.group .brace (Attribute.allTokens inner ++ statements)])

/-- A default mark comes next, and no macro of that name. -/
def defaultBegins : Ahead := .both (.word "default") (.not (.second (.punct "!")))

/-- A member of an implementation after what stands before its keyword: the method that it is, if it
is one, and its tokens unless it is kept as written. -/
def implementationMemberBody (g : Grammar) (attributes : List Attribute) (isMarked : Bool) :
    Reading (Option Function × Option (List TokenTree)) := do
  if signatureBegins false (← trees) then
    let signature ← g.signature false
    if ← punct? ";" then return (none, none)
    let (function, tokens) ← g.functionBody attributes signature
    return (some function, some tokens)
  else if ← sees (.word "const") then
    let constant ← g.constantDefinition
    return (none, if constant.isGeneral || !constant.hasValue then none else some constant.tokens)
  else if ← sees (.word "type") then
    let type ← g.typeDefinition .after
    let semicolon ← punct ";"
    return (none, match type.target with
      | some target =>
        if type.isBounded then none
        else some (TokenTree.ofWord "type" ++ .word type.name.word :: type.parameters ++
          mark '=' ++ target.tokens ++ type.conditions ++ semicolon)
      | none => none)
  else
    if isMarked then failure
    expect callPathBegins
    return (none, some (← memberCall))

/-- A member of an implementation: the method that it is, if it is one, and its tokens. -/
def implementationMember (g : Grammar) : Reading (Option Function × List TokenTree) := do
  let start ← get
  let attributes ← g.outerAttributeList
  let visible ← visibility
  let isDefault ← if ← sees defaultBegins then word "default" else pure []
  let (method, tokens) ←
    g.implementationMemberBody attributes (!visible.isEmpty || !isDefault.isEmpty)
  match tokens with
  | some tokens => return (method, Attribute.allTokens attributes ++ visible ++ isDefault ++ tokens)
  | none => return (method, ← writtenSince start)

/-! ### Members of foreign blocks -/

/-- A foreign function. One with a body or marked as safe is kept as written. -/
def foreignFunction (g : Grammar) : Reading (Option (List TokenTree)) := do
  let signature ← g.signature true
  if ← sees (.group .brace) then
    let _ ← g.attributedBlock
    return none
  else
    let semicolon ← punct ";"
    return if signature.isSafe then none else some (signature.tokens ++ semicolon)

/-- A foreign value comes next. -/
def foreignStaticBegins : Ahead :=
  .any [.word "static", .both (.wordOf ["unsafe", "safe"]) (.second (.word "static"))]

/-- A foreign value. One with a value or a mark of safety is kept as written. -/
def foreignStatic (g : Grammar) : Reading (Option (List TokenTree)) := do
  let isMarked ← sees (.wordOf ["unsafe", "safe"])
  if isMarked then
    let _ ← anyWord
  let keyword ← word "static"
  let mutable ← wordIfAny "mut"
  let name ← ident
  let colon ← punct ":"
  let type ← g.typeTokens
  let hasValue ← punct? "="
  if hasValue then
    let _ ← g.expressionTokens
  let semicolon ← punct ";"
  return if isMarked || hasValue then none
    else some (keyword ++ mutable ++ .word name.word :: colon ++ type ++ semicolon)

/-- A foreign type. One with bounds or a definition is kept as written. -/
def foreignType (g : Grammar) : Reading (Option (List TokenTree)) := do
  let type ← g.typeDefinition .either
  let semicolon ← punct ";"
  return if type.isBounded || type.target.isSome then none
    else some (TokenTree.ofWord "type" ++ .word type.name.word :: type.parameters ++
      type.conditions ++ semicolon)

/-- A member of a foreign block. -/
def foreignMember (g : Grammar) : Reading (List TokenTree) := orWritten do
  let attributes ← g.outerAttributes
  let visible ← visibility
  let tokens ←
    if signatureBegins true (← trees) then g.foreignFunction
    else if ← sees foreignStaticBegins then g.foreignStatic
    else if ← sees (.word "type") then g.foreignType
    else do
      if !visible.isEmpty then failure
      expect callPathBegins
      pure (some (← memberCall))
  return tokens.map (attributes ++ visible ++ ·)

end Entrypoint.Grammar
