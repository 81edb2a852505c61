import Entrypoint.Proofs.Source.Recording.Types

/-! What the readers of patterns, expressions and statements do with the declarations recorded so
far. -/

-- The size reckoned for an instance doubles with each step of a reader; the search does not.
set_option synthInstance.maxSize 1000000

namespace Entrypoint.Grammar

open Reading

variable {f : List Item → List Item}

/-! ### Readers that record nothing -/

instance : Carries f member := by
  unfold member
  refine .bind inferInstance fun first => ?_
  split
  · infer_instance
  · split <;> infer_instance
  · infer_instance

instance : Carries f providedCall := by
  unfold providedCall
  infer_instance

instance (reading : Reading Unit) [Carries f reading] : Carries f (writtenExpression reading) := by
  unfold writtenExpression
  infer_instance

instance : Carries f referenceMark := by
  unfold referenceMark
  infer_instance

instance : Carries f operandMark := by
  unfold operandMark
  infer_instance

variable {g : Grammar} [Prepends f] [g.Carrying f]

/-! ### Patterns -/

instance (fuel : Nat) : Carries f (g.alternatives fuel) := by
  induction fuel with
  | zero => exact inferInstanceAs (Carries f failure)
  | succ fuel ih =>
    unfold alternatives
    infer_instance

instance : Carries f g.anyPattern := by
  unfold anyPattern
  infer_instance

instance : Carries f g.anyPatternTokens := by
  unfold anyPatternTokens
  infer_instance

instance : Carries f g.patternValue := by
  unfold patternValue
  infer_instance

instance (threePoints : Bool) : Carries f (g.rangeEnd threePoints) := by
  unfold rangeEnd
  infer_instance

instance (value : List TokenTree) : Carries f (g.rangeFrom value) := by
  unfold rangeFrom
  infer_instance

instance : Carries f g.rangeTo := by
  unfold rangeTo
  infer_instance

instance : Carries f g.fieldPattern := by
  unfold fieldPattern
  infer_instance

instance (fuel : Nat) : Carries f (g.fieldPatterns fuel) := by
  induction fuel with
  | zero => exact inferInstanceAs (Carries f failure)
  | succ fuel ih =>
    unfold fieldPatterns
    infer_instance

instance : Carries f g.pathPattern := by
  unfold pathPattern
  infer_instance

instance : Carries f g.namePattern := by
  unfold namePattern
  infer_instance

instance : Carries f g.sliceElement := by
  unfold sliceElement
  infer_instance

instance : Carries f g.patternWith := by
  unfold patternWith
  infer_instance

/-! ### Operators -/

instance (precedence : Precedence) (structs : Bool) (right : Expression) (fuel : Nat) :
    Carries f (g.rightOperators precedence structs right fuel) := by
  induction fuel generalizing right with
  | zero => exact inferInstanceAs (Carries f failure)
  | succ fuel ih =>
    unfold rightOperators
    infer_instance

instance (precedence : Precedence) (structs : Bool) :
    Carries f (g.rightOperand precedence structs) := by
  unfold rightOperand
  infer_instance

instance (structs : Bool) : Carries f (g.rangeRest structs) := by
  unfold rangeRest
  infer_instance

instance (base : Precedence) (structs : Bool) (left : Expression) (fuel : Nat) :
    Carries f (g.operatorsFrom base structs left fuel) := by
  induction fuel generalizing left with
  | zero => exact inferInstanceAs (Carries f failure)
  | succ fuel ih =>
    unfold operatorsFrom
    split
    · infer_instance
    refine .bind inferInstance fun here => ?_
    dsimp only
    split <;> infer_instance

instance (base : Precedence) (structs : Bool) (left : Expression) :
    Carries f (g.operatorsWith base structs left) := by
  unfold operatorsWith
  infer_instance

/-! ### Expressions with blocks -/

instance (fuel : Nat) : Carries f (g.conditional fuel) := by
  induction fuel with
  | zero => exact inferInstanceAs (Carries f failure)
  | succ fuel ih =>
    unfold conditional
    infer_instance

instance : Carries f g.arm := by
  unfold arm
  infer_instance

instance (head body : Reading (List TokenTree)) [Carries f body] :
    Carries f (g.headed head body) := by
  unfold headed
  infer_instance

instance : Carries f g.loopBody := by
  unfold loopBody
  infer_instance

instance : Carries f g.blockExpression := by
  unfold blockExpression
  infer_instance

/-! ### Operands -/

instance : Carries f g.valueParameter := by
  unfold valueParameter
  infer_instance

instance (structs : Bool) : Carries f (g.functionValue structs) := by
  unfold functionValue
  infer_instance

instance (fuel : Nat) : Carries f (g.fieldValues fuel) := by
  induction fuel with
  | zero => exact inferInstanceAs (Carries f failure)
  | succ fuel ih =>
    unfold fieldValues
    infer_instance

instance (structs : Bool) : Carries f (g.pathValue structs) := by
  unfold pathValue
  infer_instance

instance : Carries f g.elements := by
  unfold elements
  infer_instance

instance (structs : Bool) : Carries f (g.breakJump structs) := by
  unfold breakJump
  infer_instance

instance (keyword : String) : Carries f (g.jump keyword) := by
  unfold jump
  infer_instance

instance (structs : Bool) : Carries f (g.matchingValue structs) := by
  unfold matchingValue
  infer_instance

instance (structs : Bool) : Carries f (g.atom structs) := by
  unfold atom
  infer_instance

instance : Carries f g.selected := by
  unfold selected
  infer_instance

instance : Carries f g.selection := by
  unfold selection
  refine .bind inferInstance fun dot => .bind inferInstance fun here => ?_
  split
  · refine .bind inferInstance fun literal => ?_
    split <;> infer_instance
  · infer_instance

instance (operand : Expression) (fuel : Nat) : Carries f (g.selections operand fuel) := by
  induction fuel generalizing operand with
  | zero => exact inferInstanceAs (Carries f failure)
  | succ fuel ih =>
    unfold selections
    dsimp only
    infer_instance

instance (structs : Bool) : Carries f (g.operandWith structs) := by
  unfold operandWith
  refine .get_bind fun start => .bind inferInstance fun attributes => ?_
  refine .bind inferInstance fun isMarked => ?_
  split
  · infer_instance
  refine .bind inferInstance fun first => .bind inferInstance fun fuel => ?_
  refine .bind inferInstance fun operand => ?_
  split <;> infer_instance

instance : Carries f g.leadingWith := by
  unfold leadingWith
  infer_instance

/-! ### Statements -/

instance : Carries f g.binding := by
  unfold binding
  infer_instance

instance (attributes : List TokenTree) (met : List Item) :
    Carries f (g.plainStatement attributes met) := by
  unfold plainStatement
  infer_instance

instance : Carries f g.statement := by
  unfold statement
  infer_instance

instance (fuel : Nat) : Carries f (g.statementsFrom fuel) := by
  induction fuel with
  | zero => exact inferInstanceAs (Carries f failure)
  | succ fuel ih =>
    unfold statementsFrom
    infer_instance

instance : Carries f g.statementsWith := by
  unfold statementsWith
  infer_instance

end Entrypoint.Grammar
