/-! The scalar types of request variables: text, truth values and integers of fixed width. -/

namespace Entrypoint

/-- An integer type. The two machine-sized ones have 64 bits. -/
inductive IntegerKind
  | i8
  | i16
  | i32
  | i64
  | i128
  | isize
  | u8
  | u16
  | u32
  | u64
  | u128
  | usize
  deriving DecidableEq, Repr

namespace IntegerKind

/-- The name of an integer type. -/
def name : IntegerKind → String
  | i8 => "i8"
  | i16 => "i16"
  | i32 => "i32"
  | i64 => "i64"
  | i128 => "i128"
  | isize => "isize"
  | u8 => "u8"
  | u16 => "u16"
  | u32 => "u32"
  | u64 => "u64"
  | u128 => "u128"
  | usize => "usize"

/-- The type of a given name. -/
def ofName? : String → Option IntegerKind
  | "i8" => some i8
  | "i16" => some i16
  | "i32" => some i32
  | "i64" => some i64
  | "i128" => some i128
  | "isize" => some isize
  | "u8" => some u8
  | "u16" => some u16
  | "u32" => some u32
  | "u64" => some u64
  | "u128" => some u128
  | "usize" => some usize
  | _ => none

/-- The type has negative values. -/
def isSigned : IntegerKind → Bool
  | i8 | i16 | i32 | i64 | i128 | isize => true
  | u8 | u16 | u32 | u64 | u128 | usize => false

/-- The width in bits. -/
def bits : IntegerKind → Nat
  | i8 | u8 => 8
  | i16 | u16 => 16
  | i32 | u32 => 32
  | i64 | u64 | isize | usize => 64
  | i128 | u128 => 128

/-- The least value. -/
def least (kind : IntegerKind) : Int :=
  if kind.isSigned then -(Nat.pow 2 (kind.bits - 1) : Int) else 0

/-- The greatest value. -/
def greatest (kind : IntegerKind) : Int :=
  (Nat.pow 2 (if kind.isSigned then kind.bits - 1 else kind.bits) : Int) - 1

/-- The value lies in the type's range. -/
def holds (kind : IntegerKind) (value : Int) : Bool :=
  kind.least ≤ value && value ≤ kind.greatest

end IntegerKind

/-- The type of a path or query variable. -/
inductive Scalar
  | string
  | boolean
  | integer (kind : IntegerKind)
  deriving DecidableEq, Repr

namespace Scalar

/-- The scalar with a given type name. -/
def ofName? (name : String) : Option Scalar :=
  if name = "String" then some .string
  else if name = "bool" then some .boolean
  else (IntegerKind.ofName? name).map .integer

end Scalar

end Entrypoint
