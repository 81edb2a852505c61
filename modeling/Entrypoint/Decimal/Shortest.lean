/-! The shortest decimal that reads back as a given binary number. A binary number of double
precision stands for the interval of reals that round to it; among the decimals in the interval the
ones with the fewest digits are taken, and of those the one nearest to the number. All comparisons
are exact. -/

namespace Entrypoint

/-- A positive number m · 2^q. `narrow` says that the next smaller number is only half as far away
as the next greater one. -/
structure Binary where
  m : Nat
  q : Int
  narrow : Bool
  deriving DecidableEq, Repr

namespace Binary

/-- The magnitude that the bits of a finite number of double precision stand for. -/
def ofBits (bits : UInt64) : Binary :=
  let exponent := ((bits >>> 52) &&& 0x7ff).toNat
  let fraction := (bits &&& 0xfffffffffffff).toNat
  if exponent = 0 then ⟨fraction, -1074, false⟩
  else ⟨Nat.pow 2 52 + fraction, (exponent : Int) - 1075, fraction = 0 && exponent > 1⟩

end Binary

/-- The decimal digits · 10^exponent. -/
structure Decimal where
  digits : Nat
  exponent : Int
  deriving DecidableEq, Repr

namespace Decimal

/-- The powers of two and ten that bring a decimal and quarters of the unit of a binary number to
whole numbers: the factor of the decimal and the factor of a quarter. -/
def factors (x : Binary) (exponent : Int) : Nat × Nat :=
  (Nat.pow 10 exponent.toNat * Nat.pow 2 (2 - x.q).toNat,
    Nat.pow 2 (x.q - 2).toNat * Nat.pow 10 (-exponent).toNat)

/-- The decimal lies in the interval of reals that round to the number. The ends are half way to
the neighbours and belong to the interval of an even number. -/
def readsBack (x : Binary) (d : Decimal) : Bool :=
  let (ten, quarter) := factors x d.exponent
  let value := d.digits * ten
  let low := (4 * x.m - if x.narrow then 1 else 2) * quarter
  let high := (4 * x.m + 2) * quarter
  if x.m % 2 = 0 then low ≤ value && value ≤ high else low < value && value < high

/-- The greatest decimal with an exponent that is at most the number. -/
def below (x : Binary) (exponent : Int) : Decimal :=
  let (ten, quarter) := factors x exponent
  ⟨4 * x.m * quarter / ten, exponent⟩

/-- The next decimal of the same exponent. -/
def next (d : Decimal) : Decimal := ⟨d.digits + 1, d.exponent⟩

/-- The number is nearer to the decimal than to the next one, or as near and the digits are even. -/
def isNearer (x : Binary) (d : Decimal) : Bool :=
  let (ten, quarter) := factors x d.exponent
  let twice := 8 * x.m * quarter
  let middle := (2 * d.digits + 1) * ten
  twice < middle || (twice = middle && d.digits % 2 = 0)

/-- The decimal of an exponent that reads back as the number, the nearer one if two do. -/
def onGrid? (x : Binary) (exponent : Int) : Option Decimal :=
  let d := below x exponent
  match readsBack x d, readsBack x d.next with
  | true, true => some (if isNearer x d then d else d.next)
  | true, false => some d
  | false, true => some d.next
  | false, false => none

/-- The first decimal that reads back on grids from a coarse one on, each ten times finer. -/
def search (x : Binary) (exponent : Int) : Nat → Option Decimal
  | 0 => none
  | steps + 1 => (onGrid? x exponent).or (search x (exponent - 1) steps)

/-- The number of decimal digits, by division. -/
def digitCount (n : Nat) : Nat := if n < 10 then 1 else digitCount (n / 10) + 1

/-- An exponent no smaller than that of the leading digit. -/
def leading (x : Binary) : Int :=
  if 0 ≤ x.q then digitCount (x.m * Nat.pow 2 x.q.toNat) - 1
  else
    let whole := x.m / Nat.pow 2 (-x.q).toNat
    if whole > 0 then digitCount whole - 1
    else 1 - (digitCount (Nat.pow 2 (-x.q).toNat / x.m) : Int)

/-- Moves zeros at the end of the digits into the exponent. The fuel bounds their number. -/
def stripped (d : Decimal) : Nat → Decimal
  | 0 => d
  | fuel + 1 =>
    if d.digits ≠ 0 ∧ d.digits % 10 = 0 then stripped ⟨d.digits / 10, d.exponent + 1⟩ fuel else d

/-- The shortest decimal that reads back as a number; the search starts one grid too coarse. -/
def shortest (x : Binary) : Decimal :=
  match search x (leading x + 1) 20 with
  | some d => d.stripped 20
  | none => below x (leading x - 17)

end Decimal

end Entrypoint
