import Entrypoint.Proofs.Source.Recording.Expressions

/-! What the readers of declarations do with the declarations recorded so far. -/

-- The size reckoned for an instance doubles with each step of a reader; the search does not.
set_option synthInstance.maxSize 1000000

namespace Entrypoint.Grammar

open Reading

variable {f : List Item → List Item}

/-! ### Readers that record nothing -/

instance (safeAllowed : Bool) : Carries f (functionMarks safeAllowed) := by
  unfold functionMarks
  infer_instance

instance (fuel : Nat) (rootAllowed : Bool) : Carries f (useTree fuel rootAllowed) := by
  induction fuel generalizing rootAllowed with
  | zero => exact inferInstanceAs (Carries f failure)
  | succ fuel ih =>
    unfold useTree
    infer_instance

instance : Carries f foreignCrate := by
  unfold foreignCrate
  infer_instance

instance : Carries f macroDefinition := by
  unfold macroDefinition
  infer_instance

instance : Carries f macroCall := by
  unfold macroCall
  infer_instance

section

variable {g : Grammar} [Prepends f] [g.Carrying f]

/-! ### Fields -/

instance (nested : Reading (List Field × List TokenTree)) [Carries f nested] :
    Carries f (g.namedField nested) := by
  unfold namedField
  infer_instance

instance (fuel : Nat) : Carries f (g.namedFields fuel) := by
  induction fuel with
  | zero => exact inferInstanceAs (Carries f failure)
  | succ fuel ih =>
    unfold namedFields
    infer_instance

instance : Carries f g.fieldsInBraces := by
  unfold fieldsInBraces
  infer_instance

instance : Carries f g.positionalField := by
  unfold positionalField
  infer_instance

instance : Carries f g.positionalFields := by
  unfold positionalFields
  infer_instance

/-! ### Signatures -/

instance (attributes : List TokenTree) : Carries f (g.receiver attributes) := by
  unfold receiver
  infer_instance

instance (attributes : List TokenTree) : Carries f (g.functionParameter attributes) := by
  unfold functionParameter
  infer_instance

instance (isFirst : Bool) (fuel : Nat) : Carries f (g.functionParameters isFirst fuel) := by
  induction fuel generalizing isFirst with
  | zero => exact inferInstanceAs (Carries f failure)
  | succ fuel ih =>
    unfold functionParameters
    refine .bind inferInstance fun ends => ?_
    split
    · infer_instance
    refine .bind inferInstance fun attributes => .bind inferInstance fun first => ?_
    dsimp only
    split <;> infer_instance

instance (safeAllowed : Bool) : Carries f (g.signature safeAllowed) := by
  unfold signature
  infer_instance

/-! ### Members -/

instance (place : ConditionsPlace) : Carries f (g.typeDefinition place) := by
  unfold typeDefinition
  infer_instance

instance : Carries f g.constantDefinition := by
  unfold constantDefinition
  infer_instance

instance : Carries f g.traitFunction := by
  unfold traitFunction
  infer_instance

instance : Carries f g.traitType := by
  unfold traitType
  infer_instance

instance : Carries f g.traitMember := by
  unfold traitMember
  infer_instance

instance : Carries f g.foreignFunction := by
  unfold foreignFunction
  infer_instance

instance : Carries f g.foreignStatic := by
  unfold foreignStatic
  infer_instance

instance : Carries f g.foreignType := by
  unfold foreignType
  infer_instance

instance : Carries f g.foreignMember := by
  unfold foreignMember
  infer_instance

/-! ### Declarations -/

instance : Carries f useItem := by
  unfold useItem
  refine .bind inferInstance fun keyword => .bind inferInstance fun root => ?_
  refine .bind inferInstance fun here => .bind inferInstance fun read => ?_
  refine .bind inferInstance fun semicolon => ?_
  split <;> infer_instance

instance (attributes : List Attribute) : Carries f (g.functionItem attributes) := by
  unfold functionItem
  infer_instance

instance : Carries f g.aliasItem := by
  unfold aliasItem
  refine .bind inferInstance fun type => .bind inferInstance fun semicolon => ?_
  split <;> infer_instance

instance (attributes : List Attribute) : Carries f (g.recordItem attributes) := by
  unfold recordItem
  infer_instance

instance (isVisible : Bool) : Carries f (g.implementationItem isVisible) := by
  unfold implementationItem
  infer_instance

instance : Carries f g.staticItem := by
  unfold staticItem
  infer_instance

instance : Carries f g.constantItem := by
  unfold constantItem
  infer_instance

instance : Carries f g.variant := by
  unfold variant
  infer_instance

instance : Carries f g.enumeration := by
  unfold enumeration
  infer_instance

instance : Carries f g.union := by
  unfold union
  infer_instance

instance (start : List TokenTree) : Carries f (g.traitAlias start) := by
  unfold traitAlias
  infer_instance

instance : Carries f g.traitItem := by
  unfold traitItem
  infer_instance

instance : Carries f g.foreignBlock := by
  unfold foreignBlock
  infer_instance

instance (met : List Item) : Carries f (g.moduleItem met) := by
  unfold moduleItem
  infer_instance

instance (isVisible : Bool) : Carries f (g.searchedItem isVisible) := by
  unfold searchedItem
  infer_instance

instance (attributes : List Attribute) (met : List Item) (isVisible : Bool) :
    Carries f (g.itemBody attributes met isVisible) := by
  unfold itemBody
  infer_instance

instance : Carries f g.itemWith := by
  unfold itemWith
  infer_instance

end

/-! ### Nestings -/

instance [Prepends f] (depth : Nat) : (ofDepth depth).Carrying f := by
  induction depth with
  | zero =>
    constructor
    all_goals intros
    all_goals exact inferInstanceAs (Carries f failure)
  | succ depth ih =>
    let g := ofDepth depth
    constructor
    case type => exact fun plus => inferInstanceAs (Carries f (g.typeWith plus))
    case path => exact inferInstanceAs (Carries f (g.plainPath false))
    case lifetimes => exact inferInstanceAs (Carries f g.lifetimesWith)
    case operand =>
      exact fun structs => inferInstanceAs (Carries f (g.operandWith structs))
    case operators =>
      exact fun base structs left => inferInstanceAs
        (Carries f (g.operatorsWith base structs left))
    case leading => exact inferInstanceAs (Carries f g.leadingWith)
    case pattern => exact inferInstanceAs (Carries f g.patternWith)
    case statements => exact inferInstanceAs (Carries f g.statementsWith)
    case item => exact inferInstanceAs (Carries f g.itemWith)

end Entrypoint.Grammar
