import Entrypoint.Json.Basic
import Entrypoint.Json.Input

/-! Reading JSON numbers. A number without point and exponent that fits 64 bits is whole; any other
is of double precision. Its digits are gathered as long as they fit 64 bits, further ones only move
the point, and the result is scaled by one multiplication or division. -/

namespace Entrypoint

/-- A number as read, with its sign in the value. Negative zero is a float. -/
inductive ReadNumber
  | whole (value : Int)
  | float (value : Float)

namespace ReadNumber

/-- The value of a number. -/
def toJson : ReadNumber → Json
  | whole value => .whole value
  | float value => .float value

/-- The greatest gathered digits. -/
def greatest : Nat := Nat.pow 2 64 - 1

/-- The value of a digit. -/
def digitValue (c : Char) : Nat := c.toNat - '0'.toNat

/-- Gathers digits as long as the value fits. Gives the value, the number of digits gathered and the
digits left. -/
def gather (value : Nat) : List Char → Nat × Nat × List Char
  | [] => (value, 0, [])
  | c :: rest =>
    let next := value * 10 + digitValue c
    if next ≤ greatest then
      let (final, count, left) := gather next rest
      (final, count + 1, left)
    else (value, 0, c :: rest)

/-- The power of ten as a number of double precision. -/
def powerOfTen (n : Nat) : Float := Float.ofScientific 1 false n

/-- The greatest power of ten of double precision. -/
def greatestPower : Nat := 308

/-- Scales a value by a power of ten. A power below the least is taken in steps; a result beyond the
greatest number is none. -/
def scale? (value : Float) (exponent : Int) : Nat → Option Float
  | 0 => some value
  | fuel + 1 =>
    if exponent.natAbs ≤ greatestPower then
      if 0 ≤ exponent then
        let scaled := value * powerOfTen exponent.natAbs
        if scaled.isInf then none else some scaled
      else some (value / powerOfTen exponent.natAbs)
    else if value == 0 then some value
    else if 0 ≤ exponent then none
    else scale? (value / powerOfTen greatestPower) (exponent + greatestPower) fuel

/-- The number of digits scaled by a power of ten. -/
def scaled (positive : Bool) (digits : Nat) (exponent : Int) : JsonReading ReadNumber :=
  match scale? (UInt64.ofNat digits).toFloat exponent 8 with
  | some value => return .float (if positive then value else -value)
  | none => JsonReading.fault .malformed

/-- The greatest exponent that is read in full. -/
def greatestExponent : Nat := Nat.pow 2 31 - 1

open JsonReading (peek skip fault atEnd)

/-- Takes an exponent after its mark and scales. An exponent beyond the greatest one gives zero if
it is negative or the digits are zero, and faults otherwise. -/
def exponent (positive : Bool) (digits : Nat) (start : Int) : JsonReading ReadNumber := do
  skip
  let negative := (← peek) = some '-'
  if negative || (← peek) = some '+' then skip
  if ← atEnd then fault .ended
  let written ← JsonReading.digits
  if written.isEmpty then fault .malformed
  let size := written.foldl (fun n c => n * 10 + digitValue c) 0
  if size > greatestExponent then
    if digits ≠ 0 && !negative then fault .malformed
    else return .float (if positive then 0.0 else -0.0)
  else scaled positive digits (start + if negative then -(size : Int) else size)

/-- Takes the exponent if there is one, and scales. -/
def ending (positive : Bool) (digits : Nat) (start : Int) : JsonReading ReadNumber := do
  match ← peek with
  | some 'e' | some 'E' => exponent positive digits start
  | _ => scaled positive digits start

/-- Takes the fraction after its point and what follows. -/
def fraction (positive : Bool) (digits : Nat) (start : Int) : JsonReading ReadNumber := do
  skip
  let written ← JsonReading.digits
  if written.isEmpty then
    if ← atEnd then fault .ended else fault .malformed
  let (digits, count, _) := gather digits written
  ending positive digits (start - count)

/-- A whole number with its sign. Beyond 64 bits, and for negative zero, it is a float. -/
def ofWhole (positive : Bool) (digits : Nat) : ReadNumber :=
  if positive then .whole digits
  else if 0 < digits ∧ digits ≤ Nat.pow 2 63 then .whole (-(digits : Int))
  else .float (-(UInt64.ofNat digits).toFloat)

/-- Takes a number from its first digit on. -/
def read (positive : Bool) : JsonReading ReadNumber := do
  if ← atEnd then fault .ended
  let written ← JsonReading.digits
  match written with
  | [] => fault .malformed
  | '0' :: _ :: _ => fault .malformed
  | _ =>
    let (digits, _, left) := gather 0 written
    match ← peek with
    | some '.' => fraction positive digits left.length
    | some 'e' | some 'E' => exponent positive digits left.length
    | _ =>
      if left.isEmpty then return ofWhole positive digits
      else scaled positive digits left.length

/-- Takes a number whose value does not matter. Every fault of it is malformed text. -/
def ignore : JsonReading Unit := do
  let written ← JsonReading.digits
  match written with
  | [] => fault .malformed
  | '0' :: _ :: _ => fault .malformed
  | _ =>
    if (← peek) = some '.' then
      skip
      if (← JsonReading.digits).isEmpty then fault .malformed
    match ← peek with
    | some 'e' | some 'E' =>
      skip
      match ← peek with
      | some '+' | some '-' => skip
      | _ => pure ()
      if (← JsonReading.digits).isEmpty then fault .malformed
    | _ => pure ()

end ReadNumber

end Entrypoint
