import Entrypoint.Source.TypeExpr.Reading

/-! Reading operators between operands. An operator takes what binds more strongly to its right, and
assignments also what binds as they do. A range takes part in no further operation, comparisons do
not follow each other, and nothing is selected from a cast. -/

namespace Entrypoint.Grammar

open Reading
open TokenTree (operator)

/-- The binary operators, longer ones before those that they begin with. -/
def binaryOperators : List (String × Precedence) := [
  ("+=", .assignment), ("-=", .assignment), ("*=", .assignment), ("/=", .assignment),
  ("%=", .assignment), ("^=", .assignment), ("&=", .assignment), ("|=", .assignment),
  ("<<=", .assignment), (">>=", .assignment), ("&&", .and), ("||", .or), ("<<", .shift),
  (">>", .shift), ("==", .comparison), ("<=", .comparison), ("!=", .comparison),
  (">=", .comparison), ("+", .sum), ("-", .sum), ("*", .product), ("/", .product),
  ("%", .product), ("^", .bitXor), ("&", .bitAnd), ("|", .bitOr), ("<", .comparison),
  (">", .comparison)]

/-- The binary operator at the start of a row. -/
def binaryOperator? (trees : List TokenTree) : Option (String × Precedence) :=
  binaryOperators.find? fun entry => Ahead.punct entry.1 trees

/-- An assignment comes next. -/
def assignmentBegins : Ahead := .punctBut "=" ["=>"]

/-- The precedence of what comes next, the least if it is no operator. -/
def precedenceAhead (trees : List TokenTree) : Precedence :=
  match binaryOperator? trees with
  | some (_, precedence) => precedence
  | none =>
    if assignmentBegins trees then .assignment
    else if Ahead.punct ".." trees then .range
    else if Ahead.word "as" trees then .cast
    else .least

/-- Operators after the right operand of another. The fuel bounds their number. -/
def rightOperators (g : Grammar) (precedence : Precedence) (structs : Bool)
    (right : Expression) : Nat → Reading Expression
  | 0 => failure
  | fuel + 1 => do
    let next := precedenceAhead (← trees)
    if next.rank > precedence.rank || (next = .assignment && precedence = .assignment) then
      let before := (← trees).length
      let further ← g.operators next structs right
      if (← trees).length = before then return further
      else rightOperators g precedence structs further fuel
    else return right

/-- The right operand of an operator. -/
def rightOperand (g : Grammar) (precedence : Precedence) (structs : Bool) :
    Reading (List TokenTree) := do
  let right ← g.operand structs
  return (← g.rightOperators precedence structs right (← room)).tokens

/-- A range without an upper bound ends here. -/
def openRangeEnds (structs : Bool) : Ahead := fun trees =>
  Ahead.any [.atEnd, .punct ",", .punct ";", .singlePoint, .punct "?", .punct "=>", .punct "=",
    .punct "+", .punct "/", .punct "%", .punct "^", .punct ">", .punct "<=", .punct "!=",
    .punct "-=", .punct "*=", .punct "&=", .punct "|=", .punct "<<=", .word "as"] trees ||
    (!structs && Ahead.group .brace trees)

/-- The operator of a range, with an upper bound, which a closed range must have. -/
def rangeRest (g : Grammar) (structs : Bool) : Reading (List TokenTree) := do
  expect (.not (.punct "..."))
  if ← sees (.punct "..=") then return (← punct "..=") ++ (← g.rightOperand .range structs)
  let dots ← punct ".."
  if openRangeEnds structs (← trees) then return dots
  else return dots ++ (← g.rightOperand .range structs)

/-- What cannot follow a cast. -/
def selectionBegins : Ahead :=
  .any [.singlePoint, .punct "?", .group .bracket, .group .paren]

/-- The operators after an operand that bind no less than a base. -/
def operatorsFrom (g : Grammar) (base : Precedence) (structs : Bool) (left : Expression) :
    Nat → Reading Expression
  | 0 => failure
  | fuel + 1 => do
    if left.kind = .range then return left
    let here ← trees
    let goOn (kind : ExpressionKind) (right : List TokenTree) : Reading Expression :=
      operatorsFrom g base structs
        ⟨kind, left.tokens ++ right, kind == .range || left.takesAttributes⟩ fuel
    match binaryOperator? here with
    | some (text, precedence) =>
      if precedence.rank < base.rank then return left
      if precedence = .comparison && left.kind = .comparison then failure
      let sign ← punct text
      let right ← g.rightOperand precedence structs
      goOn (if precedence = .comparison then .comparison else .plain) (sign ++ right)
    | none =>
      if base.rank ≤ Precedence.assignment.rank && assignmentBegins here then
        let sign ← punct "="
        goOn .plain (sign ++ (← g.rightOperand .assignment structs))
      else if base.rank ≤ Precedence.range.rank && Ahead.punct ".." here then
        goOn .range (← g.rangeRest structs)
      else if base.rank ≤ Precedence.cast.rank && Ahead.word "as" here then
        let keyword ← word "as"
        let type ← g.type false
        expect (.not selectionBegins)
        goOn .plain (keyword ++ type.tokens)
      else return left

/-- The operators after an operand that bind no less than a base. -/
def operatorsWith (g : Grammar) (base : Precedence) (structs : Bool) (left : Expression) :
    Reading Expression := do
  g.operatorsFrom base structs left (← room)

end Entrypoint.Grammar
