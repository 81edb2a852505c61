import Entrypoint.Source.Expression.Block

/-! Reading operands: values, calls, function values, jumps, and what is selected from them. Where a
statement or the body of an arm begins, an expression that ends by itself is no operand unless
something is selected from it. -/

namespace Entrypoint.Grammar

open Reading
open TokenTree (operator mark)

/-! ### Function values -/

/-- A parameter of a function value. Attributes before a pattern that is kept as written are lost,
unless a type follows. -/
def valueParameter (g : Grammar) : Reading (List TokenTree) := do
  let (attributes, met) ← gathered g.outerAttributes
  let (pattern, metInPattern) ← gathered g.pattern
  if ← sees (.punct ":") then
    record (met ++ metInPattern)
    let colon ← punct ":"
    return attributes ++ pattern.tokens ++ colon ++ (← g.typeTokens)
  else if pattern.kind = .written then return pattern.tokens
  else
    record (met ++ metInPattern)
    return attributes ++ pattern.tokens

/-- A function value comes next. -/
def functionValueBegins : Ahead :=
  .any [.punct "|", .wordOf ["move", "static"], lifetimesBegin,
    .both (.word "const") (.not (.second (.group .brace))),
    .both (.word "async") (.second (.any [.punct "|", .word "move"]))]

/-- A function value. With a result type its body is a block. -/
def functionValue (g : Grammar) (structs : Bool) : Reading (List TokenTree) := do
  let lifetimes ← g.lifetimes
  let constness ← wordIfAny "const"
  let movability ← wordIfAny "static"
  let asynchrony ← wordIfAny "async"
  let capture ← wordIfAny "move"
  let opening ← punct "|"
  let parameters ← listed "," (.punct "|") g.valueParameter
  let closing ← punct "|"
  let body ← if ← sees (.punct "->") then
      pure ((← punct "->") ++ (← g.typeTokens) ++ (← g.block))
    else pure (← g.expression structs).tokens
  return lifetimes ++ constness ++ movability ++ asynchrony ++ capture ++ opening ++ parameters ++
    closing ++ body

/-! ### Values that begin with a path -/

/-- The fields of a struct literal; two points stand for the others. -/
def fieldValues (g : Grammar) : Nat → Reading (List TokenTree)
  | 0 => failure
  | fuel + 1 => do
    if ← sees .atEnd then return []
    if ← sees (.punct "..") then
      let dots ← punct ".."
      if ← sees .atEnd then return dots else return dots ++ (← g.expressionTokens)
    let attributes ← g.outerAttributes
    let (name, isName) ← member
    let value ← if !isName || (← sees (.punct ":")) then
        pure ((← punct ":") ++ (← g.expressionTokens))
      else pure []
    if ← sees .atEnd then return attributes ++ name ++ value
    let comma ← punct ","
    return attributes ++ name ++ value ++ comma ++ (← fieldValues g fuel)

/-- The brackets of a macro call are braces. -/
def isBraced : List TokenTree → Bool
  | [.group .brace _] => true
  | _ => false

/-- A value that begins with a path: a macro call, a struct literal or the path. -/
def pathValue (g : Grammar) (structs : Bool) : Reading Expression := do
  let type ← g.qualifiedPath true
  let isPlain := match type with
    | .path p => p.isPlain
    | _ => false
  if isPlain && callBegins (← trees) then
    let bang ← punct "!"
    let body ← anyGroup
    return ⟨if isBraced body then .bracedCall else .plain, type.tokens ++ bang ++ body, true⟩
  if structs && (← sees (.group .brace)) then
    return .plain (type.tokens ++ (← grouped .brace do g.fieldValues (← room)))
  return .plain type.tokens

/-- A path that is a value comes next. -/
def pathValueBegins : Ahead :=
  .any [.pathWord, .punct "::", .punct "<",
    .both (.word "try") (.second (.any [.punct "!", .punct "::"]))]

/-! ### Other operands -/

/-- The inside of a value in square brackets: elements, or one element and their number. -/
def elements (g : Grammar) : Reading (List TokenTree) := do
  if ← sees .atEnd then return []
  let first ← g.expressionTokens
  if ← sees (.punct ";") then return first ++ (← punct ";") ++ (← g.expressionTokens)
  if ← sees .atEnd then return first
  let comma ← punct ","
  return first ++ comma ++ (← commas g.expressionTokens)

/-- The value of a jump comes next. -/
def jumpValueBegins : Ahead :=
  .any [.both .anyWord (.not (.word "as")), .group .paren, .group .bracket, .group .brace, .literal,
    .punctBut "!" ["!="], .punctBut "-" ["-=", "->"], .punctBut "*" ["*="],
    .punctBut "|" ["|="], .punctBut "&" ["&="], .punct "..", .angle, .punct "::", .lifetime,
    .punct "#"]

/-- A jump out of a loop. A label that is followed by a colon would be that of its value. -/
def breakJump (g : Grammar) (structs : Bool) : Reading (List TokenTree) := do
  let keyword ← word "break"
  let label ← lifetime?
  if label.isSome then expect (.not (.punct ":"))
  let here ← trees
  let value ← if jumpValueBegins here && (structs || !Ahead.group .brace here) then
      g.expressionTokens
    else pure []
  return keyword ++ (label.map TokenTree.ofLifetime).getD [] ++ value

/-- A jump that may have a value. -/
def jump (g : Grammar) (keyword : String) : Reading (List TokenTree) := do
  let mark ← word keyword
  if ← sees jumpValueBegins then return mark ++ (← g.expressionTokens) else return mark

/-- A value that matches a pattern. -/
def matchingValue (g : Grammar) (structs : Bool) : Reading (List TokenTree) := do
  let keyword ← word "let"
  let pattern ← g.anyPatternTokens
  let equals ← punct "="
  let value ← g.operators .comparison structs (← g.operand structs)
  return keyword ++ pattern ++ equals ++ value.tokens

/-- A call of what the compiler provides; it is kept as written. -/
def providedCall : Reading Unit := do
  let _ ← word "builtin"
  let _ ← punct "#"
  let _ ← ident
  let _ ← group .paren

/-- What a reader takes, as an expression that is kept as written. -/
def writtenExpression (reading : Reading Unit) : Reading Expression := do
  let start ← get
  reading
  return ⟨.written, ← writtenSince start, false⟩

/-- A block that runs at another time comes next. -/
def asyncBlockBegins : Ahead :=
  .both (.word "async") (.any [.second (.group .brace),
    .both (.second (.word "move")) (.third (.group .brace))])

/-- An operand without anything before or after it. -/
def atom (g : Grammar) (structs : Bool) : Reading Expression := do
  if ← sees .literal then return .plain (← literal)
  else if ← sees asyncBlockBegins then
    return .plain ((← word "async") ++ (← wordIfAny "move") ++ (← g.block))
  else if ← sees functionValueBegins then return .plain (← g.functionValue structs)
  else if ← sees (.both (.word "builtin") (.second (.punct "#"))) then
    writtenExpression providedCall
  else if ← sees pathValueBegins then g.pathValue structs
  else if ← sees (.group .paren) then
    return .plain (← grouped .paren (commas g.expressionTokens))
  else if ← sees (.word "break") then return .plain (← g.breakJump structs)
  else if ← sees (.word "continue") then
    return .plain ((← word "continue") ++ ((← lifetime?).map TokenTree.ofLifetime).getD [])
  else if ← sees (.word "return") then return .plain (← g.jump "return")
  else if ← sees (.word "become") then
    writtenExpression do
      let _ ← word "become"
      let _ ← g.expression true
  else if ← sees (.group .bracket) then return .plain (← grouped .bracket g.elements)
  else if ← sees (.word "let") then return .plain (← g.matchingValue structs)
  else if ← sees (.word "yield") then return .plain (← g.jump "yield")
  else if ← sees blockBegins then g.blockExpression
  else if ← sees (.punct "..") then return ⟨.range, ← g.rangeRest structs, true⟩
  else return .plain (← word "_")

/-! ### Selections -/

/-- What is selected behind a point: the outcome of waiting, a field, or a method that is called. -/
def selected (g : Grammar) : Reading (List TokenTree) := do
  if ← sees (.word "await") then word "await"
  else
    let (name, isName) ← member
    if isName && (← sees (.punct "::")) then
      let arguments ← g.angle
      return name ++ arguments.tokens ++ (← grouped .paren (commas g.expressionTokens))
    else return name

/-- A point and what is selected. A number may list several positions. -/
def selection (g : Grammar) : Reading (List TokenTree) := do
  let dot ← punct "."
  match ← trees with
  | .literal text :: _ =>
    let _ ← tree
    match Expression.positions? text.toList with
    | some (list, trailing) =>
      let positions := TokenTree.separate (mark '.') (list.map fun n => [.literal (toString n)])
      if trailing then return dot ++ positions ++ mark '.' ++ (← g.selected)
      else return dot ++ positions
    | none => failure
  | _ => return dot ++ (← g.selected)

/-- Calls, elements and selections after an operand. -/
def selections (g : Grammar) (operand : Expression) : Nat → Reading Expression
  | 0 => failure
  | fuel + 1 => do
    let goOn (tokens : List TokenTree) : Reading Expression :=
      selections g (.plain (operand.tokens ++ tokens)) fuel
    if ← sees (.group .paren) then goOn (← grouped .paren (commas g.expressionTokens))
    else if ← sees (.group .bracket) then goOn (← grouped .bracket g.expressionTokens)
    else if operand.kind = .range then return operand
    else if ← sees .singlePoint then goOn (← g.selection)
    else if ← sees (.punct "?") then goOn (← punct "?")
    else return operand

/-! ### Operands -/

/-- The mark of a reference, with what may change or is taken as it lies. -/
def referenceMark : Reading (List TokenTree) := do
  let sign ← punct "&"
  if ← sees (.both (.word "raw") (.second (.wordOf ["mut", "const"]))) then
    return sign ++ (← word "raw") ++ [.word (← anyWord)]
  else return sign ++ (← wordIfAny "mut")

/-- The operators that stand before an operand. -/
def operandMark : Reading (List TokenTree) := do
  if ← sees (.punct "*") then punct "*"
  else if ← sees (.punct "!") then punct "!"
  else if ← sees (.punct "-") then punct "-"
  else referenceMark

/-- An operand with the operators before it. Attributes cannot stand before a range. -/
def operandWith (g : Grammar) (structs : Bool) : Reading Expression := do
  let start ← get
  let attributes ← g.outerAttributes
  if ← sees (.any [.punct "&", .punct "*", .punct "!", .punct "-"]) then
    let sign ← operandMark
    return .plain (attributes ++ sign ++ (← g.operand structs).tokens)
  else
    let operand ← g.selections (← g.atom structs) (← room)
    match operand.kind with
    | .written => return { operand with tokens := ← writtenSince start }
    | .range => if attributes.isEmpty then return operand else failure
    | _ => return { operand with tokens := attributes ++ operand.tokens }

/-- An expression where a statement or the body of an arm begins. One that ends by itself is the
whole expression, unless a point or a question mark follows it. -/
def leadingWith (g : Grammar) : Reading Expression := do
  let (attributes, met) ← gathered g.outerAttributes
  let (first, metInFirst) ← gathered (if blockBegins (← trees) then g.blockExpression
    else g.operand true)
  let attributes := if first.takesAttributes then attributes else []
  record (if first.takesAttributes then met ++ metInFirst else metInFirst)
  if first.kind = .block then
    if ← sees (.any [.singlePoint, .punct "?"]) then
      let operand ← g.selections first (← room)
      g.operators .least true { operand with tokens := attributes ++ operand.tokens }
    else return { first with tokens := attributes ++ first.tokens }
  else g.operators .least true { first with tokens := attributes ++ first.tokens }

end Entrypoint.Grammar
