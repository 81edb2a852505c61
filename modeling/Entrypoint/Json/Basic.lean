import Entrypoint.Decimal.Shortest
import Entrypoint.Text.Quoted

/-! JSON values and their compact text. Members of an object stand in the order of the value. Whole
numbers are written as such; other numbers are the shortest that read back, in positional notation
unless they are very large or very small. -/

namespace Entrypoint

/-- A JSON value. A number is a whole number or one of double precision. -/
inductive Json
  | null
  | boolean (value : Bool)
  | whole (value : Int)
  | float (value : Float)
  | text (value : String)
  | list (items : List Json)
  | object (members : List (String × Json))

namespace Json

/-- The decimal digits of a number. -/
def digitText (n : Nat) : List Char := (toString n).toList

/-- Positional notation with at least one digit on each side of the point. -/
def positional (digits : List Char) (exponent : Int) : List Char :=
  if 0 ≤ exponent then digits ++ List.replicate exponent.toNat '0' ++ ['.', '0']
  else
    let places := (-exponent).toNat
    if places < digits.length then
      digits.take (digits.length - places) ++ '.' :: digits.drop (digits.length - places)
    else '0' :: '.' :: List.replicate (places - digits.length) '0' ++ digits

/-- Scientific notation: one digit before the point, and an exponent with its sign. -/
def scientific (digits : List Char) (exponent : Int) : List Char :=
  let fraction := digits.drop 1
  digits.take 1 ++ (if fraction.isEmpty then [] else '.' :: fraction) ++
    'e' :: (if exponent < 0 then '-' else '+') :: digitText exponent.natAbs

/-- The exponents of the leading digit for which positional notation is used. -/
def isPositional (exponent : Int) : Bool := -5 ≤ exponent && exponent ≤ 15

/-- The text of a decimal. -/
def decimalText (d : Decimal) : List Char :=
  let digits := digitText d.digits
  let exponent := d.exponent + digits.length - 1
  if isPositional exponent then positional digits d.exponent else scientific digits exponent

/-- The text of a finite number of double precision. Zero keeps its sign. -/
def floatText (value : Float) : List Char :=
  let bits := value.toBits
  let sign := if bits >>> 63 = 1 then ['-'] else []
  let x := Binary.ofBits bits
  sign ++ if x.m = 0 then ['0', '.', '0'] else decimalText (Decimal.shortest x)

/-- What stands for a character between quotes. Only quotes, backslashes and controls are escaped.
-/
def escape (c : Char) : List Char :=
  if c = '"' ∨ c = '\\' then ['\\', c]
  else if c = '\x08' then ['\\', 'b']
  else if c = '\x0c' then ['\\', 'f']
  else if c = '\n' then ['\\', 'n']
  else if c = '\r' then ['\\', 'r']
  else if c = '\t' then ['\\', 't']
  else if c < ' ' then
    ['\\', 'u', '0', '0', Text.Quoted.hexDigit (c.toNat / 16), Text.Quoted.hexDigit (c.toNat % 16)]
  else [c]

/-- A text in quotes. -/
def quoted (text : String) : List Char := '"' :: text.toList.flatMap escape ++ ['"']

mutual

/-- The compact text of a value. -/
def chars : Json → List Char
  | null => "null".toList
  | boolean value => (if value then "true" else "false").toList
  | whole value => (toString value).toList
  | float value => floatText value
  | text value => quoted value
  | list items => '[' :: itemChars items ++ [']']
  | object members => '\x7b' :: memberChars members ++ ['\x7d']

/-- The text of items with commas between them. -/
def itemChars : List Json → List Char
  | [] => []
  | [item] => item.chars
  | item :: rest => item.chars ++ ',' :: itemChars rest

/-- The text of members with commas between them. -/
def memberChars : List (String × Json) → List Char
  | [] => []
  | [(key, value)] => quoted key ++ ':' :: value.chars
  | (key, value) :: rest => quoted key ++ ':' :: value.chars ++ ',' :: memberChars rest

end

/-- The compact text of a value, as a string. -/
def render (value : Json) : String := String.ofList value.chars

end Json

end Entrypoint
