import Entrypoint.Proofs.Source.Recording

/-! What the readers of attributes, types and parameters do with the declarations recorded so
far. -/

-- The size reckoned for an instance doubles with each step of a reader; the search does not.
set_option synthInstance.maxSize 1000000

namespace Entrypoint.Grammar

open Reading

variable {f : List Item → List Item}

/-! ### Readers that record nothing -/

instance (fuel : Nat) : Carries f (wordPathRest fuel) := by
  induction fuel with
  | zero => exact inferInstanceAs (Carries f failure)
  | succ fuel ih =>
    unfold wordPathRest
    infer_instance

instance : Carries f wordPath := by
  unfold wordPath
  infer_instance

instance : Carries f restriction := by
  unfold restriction
  infer_instance

instance : Carries f visibility := by
  unfold visibility
  infer_instance

instance (body : List TokenTree) : Carries f (callEnd body) := by
  unfold callEnd
  split <;> infer_instance

instance : Carries f memberCall := by
  unfold memberCall
  infer_instance

instance : Carries f foreignMark := by
  unfold foreignMark
  refine .bind inferInstance fun isMarked => ?_
  split
  · refine .bind inferInstance fun mark => .bind inferInstance fun here => ?_
    split <;> infer_instance
  · infer_instance

instance : Carries f constantMark := by
  unfold constantMark
  infer_instance

instance : Carries f captures := by
  unfold captures
  infer_instance

instance : Carries f openArguments := by
  unfold openArguments
  infer_instance

/-- The readers for what is nested carry a change of what was recorded. -/
class Carrying (f : List Item → List Item) (g : Grammar) : Prop where
  type (plus : Bool) : Carries f (g.type plus)
  path : Carries f g.path
  lifetimes : Carries f g.lifetimes
  operand (structs : Bool) : Carries f (g.operand structs)
  operators (base : Precedence) (structs : Bool) (left : Expression) :
    Carries f (g.operators base structs left)
  leading : Carries f g.leading
  pattern : Carries f g.pattern
  statements : Carries f g.statements
  item : Carries f g.item

attribute [instance] Carrying.type Carrying.path Carrying.lifetimes Carrying.operand
  Carrying.operators Carrying.leading Carrying.pattern Carrying.statements Carrying.item

variable {g : Grammar} [Prepends f] [g.Carrying f]

/-! ### Nested readers and attributes -/

instance (structs : Bool) : Carries f (g.expression structs) := by
  unfold expression
  infer_instance

instance : Carries f g.expressionTokens := by
  unfold expressionTokens
  infer_instance

instance : Carries f g.typeTokens := by
  unfold typeTokens
  infer_instance

instance : Carries f g.block := by
  unfold block
  infer_instance

instance : Carries f g.attributeValue := by
  unfold attributeValue
  infer_instance

instance : Carries f g.attributeBody := by
  unfold attributeBody
  infer_instance

instance : Carries f g.outerAttribute := by
  unfold outerAttribute
  infer_instance

instance : Carries f g.innerAttribute := by
  unfold innerAttribute
  infer_instance

instance : Carries f g.outerAttributeList := by
  unfold outerAttributeList
  infer_instance

instance : Carries f g.innerAttributeList := by
  unfold innerAttributeList
  infer_instance

instance : Carries f g.outerAttributes := by
  unfold outerAttributes
  infer_instance

instance : Carries f g.innerAttributes := by
  unfold innerAttributes
  infer_instance

instance : Carries f g.attributedBlock := by
  unfold attributedBlock
  infer_instance

/-! ### Bounds -/

instance (priority := high) {α : Type} {x x' : Reading PathExpr} {k k' : PathExpr → Reading α}
    [hx : CarriesTo f x x'] [hk : ∀ rooted parents last,
      CarriesTo f (k (.mk rooted parents last)) (k' (.mk rooted parents last))] :
    CarriesTo f (x >>= k) (x' >>= k') := by
  refine .bind hx fun path => ?_
  cases path with
  | mk rooted parents last => exact hk rooted parents last

instance (plus : Bool) : Carries f (g.result? plus) := by
  unfold result?
  infer_instance

instance : Carries f g.callArguments := by
  unfold callArguments
  infer_instance

instance (place : BoundPlace) : Carries f (g.traitBound place) := by
  unfold traitBound
  infer_instance

instance (place : BoundPlace) : Carries f (g.bound place) := by
  unfold bound
  infer_instance

instance (place : BoundPlace) (plus : Bool) : Carries f (g.traitBounds place plus) := by
  unfold traitBounds
  infer_instance

instance (place : BoundPlace) (stop : Ahead) : Carries f (g.declaredBounds place stop) := by
  unfold declaredBounds
  infer_instance

/-! ### Paths -/

instance : Carries f g.constantArgument := by
  unfold constantArgument
  infer_instance

instance : Carries f g.argument := by
  unfold argument
  refine .bind inferInstance fun isLifetime => ?_
  split
  · infer_instance
  refine .bind inferInstance fun isConstant => ?_
  split
  · infer_instance
  refine .bind inferInstance fun type => ?_
  split <;> infer_instance

instance : Carries f g.angle := by
  unfold angle
  infer_instance

instance (inExpression : Bool) : Carries f (g.segment inExpression) := by
  unfold segment
  infer_instance

instance (inExpression : Bool) (last : Segment) (fuel : Nat) :
    Carries f (g.segments inExpression last fuel) := by
  induction fuel generalizing last with
  | zero => exact inferInstanceAs (Carries f failure)
  | succ fuel ih =>
    unfold segments
    infer_instance

instance (inExpression : Bool) : Carries f (g.plainPath inExpression) := by
  unfold plainPath
  infer_instance

instance (inExpression : Bool) (fuel : Nat) : Carries f (g.projected inExpression fuel) := by
  induction fuel with
  | zero => exact inferInstanceAs (Carries f failure)
  | succ fuel ih =>
    unfold projected
    infer_instance

instance (inExpression : Bool) : Carries f (g.qualifiedPath inExpression) := by
  unfold qualifiedPath
  infer_instance

/-! ### Types -/

instance (isFirst : Bool) : Carries f (g.functionArgument isFirst) := by
  unfold functionArgument
  infer_instance

instance (isFirst : Bool) (fuel : Nat) : Carries f (g.functionArguments isFirst fuel) := by
  induction fuel generalizing isFirst with
  | zero => exact inferInstanceAs (Carries f failure)
  | succ fuel ih =>
    unfold functionArguments
    infer_instance

instance (lifetimes : List TokenTree) : Carries f (g.functionType lifetimes) := by
  unfold functionType
  infer_instance

instance (fuel : Nat) : Carries f (g.furtherBounds fuel) := by
  induction fuel with
  | zero => exact inferInstanceAs (Carries f failure)
  | succ fuel ih =>
    unfold furtherBounds
    infer_instance

instance : Carries f g.bareBounds := by
  unfold bareBounds
  infer_instance

instance (plus : Bool) : Carries f (g.objectType plus) := by
  unfold objectType
  infer_instance

instance (plus : Bool) : Carries f (g.parenType plus) := by
  unfold parenType
  refine .bind inferInstance fun body => ?_
  split
  · infer_instance
  split
  · infer_instance
  split
  · infer_instance
  refine .bind inferInstance fun read => ?_
  obtain ⟨types, trailing⟩ := read
  dsimp only
  split
  · refine .bind inferInstance fun isJoined => ?_
    split
    · split <;> infer_instance
    · infer_instance
  · infer_instance

instance : Carries f g.bracketType := by
  unfold bracketType
  infer_instance

instance (plus : Bool) (lifetimes : List TokenTree) (met : List Item) :
    Carries f (g.pathType plus lifetimes met) := by
  unfold pathType
  refine .bind inferInstance fun read => ?_
  obtain ⟨type, metInType⟩ := read
  cases type <;> infer_instance

instance (plus : Bool) : Carries f (g.typeWith plus) := by
  unfold typeWith
  infer_instance

/-! ### Parameters and conditions -/

instance : Carries f g.parameterBody := by
  unfold parameterBody
  infer_instance

instance : Carries f g.parameter := by
  unfold parameter
  infer_instance

instance : Carries f g.declaredParameter := by
  unfold declaredParameter
  infer_instance

instance : Carries f g.lifetimesWith := by
  unfold lifetimesWith
  infer_instance

instance : Carries f g.parameters := by
  unfold parameters
  infer_instance

instance : Carries f g.condition := by
  unfold condition
  infer_instance

instance : Carries f g.conditions := by
  unfold conditions
  infer_instance

end Entrypoint.Grammar
