import Entrypoint.Scalar

/-! Conversion of raw request values. Each conversion is strict: no blanks around a value, and only
the listed spellings of truth values. A refused value is reported unchanged with its target. -/

namespace Entrypoint

/-- A raw value that does not convert to its target type. -/
structure CoercionError where
  value : String
  target : String
  deriving DecidableEq, Repr

/-- The report of a refused value. -/
def CoercionError.message (e : CoercionError) : String :=
  "cannot convert `" ++ e.value ++ "` to " ++ e.target

namespace Coercion

/-- The value of a number with one more digit behind it. Both steps have to stay within the type, and
the digits of a negative number are taken away, so that the least value is in reach. -/
def extend? (kind : IntegerKind) (negative : Bool) (value : Int) (c : Char) : Option Int :=
  let shifted := value * 10
  let digit : Int := (c.toNat - '0'.toNat : Nat)
  let next := if negative then shifted - digit else shifted + digit
  if c.isDigit && kind.holds shifted && kind.holds next then some next else none

/-- The value of at least one decimal digit, if it stays within the type all along. -/
def digits? (kind : IntegerKind) (negative : Bool) : List Char → Option Int
  | [] => none
  | digits => digits.foldlM (extend? kind negative) 0

/-- The value of a decimal number with an optional sign. Only a type with negative values takes a
minus sign. -/
def decimal? (kind : IntegerKind) : List Char → Option Int
  | '+' :: digits => digits? kind false digits
  | '-' :: digits => if kind.isSigned then digits? kind true digits else none
  | digits => digits? kind false digits

/-- Any text is a string. -/
def string (raw : String) : Except CoercionError String := .ok raw

/-- Reads an integer of the given type. -/
def integer (kind : IntegerKind) (raw : String) : Except CoercionError Int :=
  match decimal? kind raw.toList with
  | some value => .ok value
  | none => .error ⟨raw, kind.name⟩

/-- The spellings of true. -/
def trueForms : List String := ["1", "t", "T", "TRUE", "true", "True"]

/-- The spellings of false. -/
def falseForms : List String := ["0", "f", "F", "FALSE", "false", "False"]

/-- Reads a truth value. -/
def boolean (raw : String) : Except CoercionError Bool :=
  if raw ∈ trueForms then .ok true
  else if raw ∈ falseForms then .ok false
  else .error ⟨raw, "bool"⟩

end Coercion

end Entrypoint
