import Entrypoint.Source.Parameters

/-! Reading the fields of structs, unions and variants. -/

namespace Entrypoint.Grammar

open Reading
open TokenTree (mark)

/-- A field with a name, and its tokens. A field without one has an underscore and may have its
fields spelled out; they are then kept as written. -/
def namedField (g : Grammar) (nested : Reading (List Field × List TokenTree)) :
    Reading (Field × List TokenTree) := do
  let attributes ← g.outerAttributeList
  let visible ← visibility
  let name ← nameOr ["_"]
  let colon ← punct ":"
  let spelledOut := Ahead.any [.word "struct", .both (.word "union") (.second (.group .brace))]
  let type ← if name.text == "_" && spelledOut (← trees) then do
      let start ← get
      let _ ← anyWord
      let _ ← nested
      pure (.other (← writtenSince start))
    else g.type true
  return (⟨Attribute.documentation attributes, name, type⟩,
    Attribute.allTokens attributes ++ visible ++ .word name.word :: colon ++ type.tokens)

/-- Fields with names in braces. The fuel bounds how deep fields are spelled out. -/
def namedFields (g : Grammar) : Nat → Reading (List Field × List TokenTree)
  | 0 => failure
  | fuel + 1 => do
    let body ← group .brace
    let (fields, trailing) ← within body do
      separated "," .atEnd (g.namedField (namedFields g fuel)) (← room)
    return (fields.map (·.1),
      [.group .brace (TokenTree.listed "," (fields.map (·.2)) trailing)])

/-- Fields with names in braces. -/
def fieldsInBraces (g : Grammar) : Reading (List Field × List TokenTree) := do
  g.namedFields (TokenTree.sizeAll (← trees) + 1)

/-- A field known by its position. -/
def positionalField (g : Grammar) : Reading (List TokenTree) := do
  let attributes ← g.outerAttributes
  return attributes ++ (← visibility) ++ (← g.typeTokens)

/-- Fields known by their positions in round brackets. -/
def positionalFields (g : Grammar) : Reading (List TokenTree) :=
  grouped .paren (commas g.positionalField)

/-- The fields of a struct with the conditions before or after them. -/
def structFields (g : Grammar) : Reading (Fields × List TokenTree) := do
  let before ← g.conditions
  if ← sees (.group .brace) then
    let (fields, tokens) ← g.fieldsInBraces
    return (.named fields, before.tokens ++ tokens)
  if !before.areWritten && (← sees (.group .paren)) then
    let tokens ← g.positionalFields
    let after ← g.conditions
    return (.positional, tokens ++ after.tokens ++ (← punct ";"))
  return (.absent, before.tokens ++ (← punct ";"))

/-- A struct from its keyword on, with its tokens. -/
def structBody (g : Grammar) (attributes : List Attribute) :
    Reading (StructItem × List TokenTree) := do
  let keyword ← word "struct"
  let name ← ident
  let parameters ← g.parameters
  let (fields, tokens) ← g.structFields
  return (⟨Attribute.documentation attributes, name, fields⟩,
    keyword ++ .word name.word :: parameters.tokens ++ tokens)

/-- A struct alone, with its attributes. -/
def structItem (g : Grammar) : Reading StructItem := do
  let attributes ← g.outerAttributeList
  let _ ← visibility
  return (← g.structBody attributes).1

end Entrypoint.Grammar
