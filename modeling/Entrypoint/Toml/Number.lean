import Entrypoint.Text.Quoted

/-! Numbers and moments of time in configuration documents. Single underscores may stand between
digits; whole numbers have 64 bits, other numbers may not round to infinity, and the parts of a
moment are within the calendar. Each reader gives what follows the part it takes. -/

namespace Entrypoint.Toml.Number

/-- What follows digits with single underscores between them, the first already taken. -/
def moreDigits (isDigit : Char → Bool) : List Char → List Char
  | '_' :: c :: rest => if isDigit c then moreDigits isDigit rest else '_' :: c :: rest
  | c :: rest => if isDigit c then moreDigits isDigit rest else c :: rest
  | [] => []

/-- What follows a run of digits. -/
def digits? (isDigit : Char → Bool) : List Char → Option (List Char)
  | c :: rest => if isDigit c then some (moreDigits isDigit rest) else none
  | [] => none

/-- What follows a sign, if there is one. -/
def dropSign : List Char → List Char
  | '+' :: rest | '-' :: rest => rest
  | rest => rest

/-- What follows a whole number in base ten. A zero has no digit after it. -/
def whole? (text : List Char) : Option (List Char) :=
  match dropSign text with
  | '0' :: rest => some rest
  | rest => digits? Char.isDigit rest

/-- What follows a fraction. -/
def fraction? : List Char → Option (List Char)
  | '.' :: rest => digits? Char.isDigit rest
  | _ => none

/-- What follows an exponent. -/
def exponent? : List Char → Option (List Char)
  | 'e' :: rest | 'E' :: rest => digits? Char.isDigit (dropSign rest)
  | _ => none

/-- The text that was taken of a text. -/
def taken (text rest : List Char) : List Char := text.take (text.length - rest.length)

/-- The value of the digits of a text. -/
def valueIn (base : Nat) (text : List Char) : Nat :=
  text.foldl (fun n c => match Text.Quoted.hexValue? c with
    | some d => n * base + d
    | none => n) 0

/-- The least number that rounds to infinity in double precision. -/
def leastInfinite : Nat := Nat.pow 2 1024 - Nat.pow 2 970

/-- Digits scaled by a power of ten do not round to infinity. -/
def isFinite (digits : Nat) (exponent : Int) : Bool :=
  let magnitude := (toString digits).length + exponent
  digits = 0 || magnitude < 309 ||
    (magnitude == 309 &&
      if 0 ≤ exponent then digits * Nat.pow 10 exponent.toNat < leastInfinite
      else digits < leastInfinite * Nat.pow 10 exponent.natAbs)

/-- What follows a number with a fraction or an exponent. -/
def real? (text : List Char) : Option (List Char) := do
  let afterWhole ← whole? text
  let afterFraction := (fraction? afterWhole).getD afterWhole
  let rest := (exponent? afterFraction).getD afterFraction
  if rest.length = afterWhole.length then failure
  let places := ((taken afterWhole afterFraction).filter Char.isDigit).length
  let power := taken afterFraction rest
  let size : Int := valueIn 10 (power.drop 1)
  let exponent := if power.contains '-' then -size else size
  if text.head? = some '-' ∨ isFinite (valueIn 10 (taken text afterFraction)) (exponent - places)
  then return rest
  else failure

/-- What follows infinity, or what is no number. -/
def special? (text : List Char) : Option (List Char) :=
  match dropSign text with
  | 'i' :: 'n' :: 'f' :: rest | 'n' :: 'a' :: 'n' :: rest => some rest
  | _ => none

/-- A digit in base two. -/
def isBinary (c : Char) : Bool := c == '0' || c == '1'

/-- A digit in base eight. -/
def isOctal (c : Char) : Bool := '0' ≤ c && c ≤ '7'

/-- A digit in base sixteen. -/
def isHex (c : Char) : Bool := (Text.Quoted.hexValue? c).isSome

/-- The least whole number that is too great. -/
def bound : Nat := Nat.pow 2 63

/-- What follows digits in a base, whose value has 63 bits. -/
def based? (base : Nat) (isDigit : Char → Bool) (text : List Char) : Option (List Char) :=
  (digits? isDigit text).filter fun rest => valueIn base (taken text rest) < bound

/-- What follows a whole number of 64 bits. -/
def integer? (text : List Char) : Option (List Char) :=
  match text with
  | '0' :: 'x' :: rest => based? 16 isHex rest
  | '0' :: 'o' :: rest => based? 8 isOctal rest
  | '0' :: 'b' :: rest => based? 2 isBinary rest
  | _ => (whole? text).filter fun rest =>
    valueIn 10 (taken text rest) < if text.head? = some '-' then bound + 1 else bound

/-! ### Moments -/

/-- The number of the first digits, and what follows them. -/
def fixed? (count : Nat) (text : List Char) : Option (Nat × List Char) :=
  let digits := text.take count
  if digits.length = count ∧ digits.all Char.isDigit then
    some (valueIn 10 digits, text.drop count)
  else none

/-- A number of two digits within bounds. -/
def pair? (least greatest : Nat) (text : List Char) : Option (Nat × List Char) :=
  (fixed? 2 text).filter fun (n, _) => least ≤ n && n ≤ greatest

/-- What follows a character. -/
def after? (c : Char) (text : List Char) : Option (List Char) :=
  if text.head? = some c then some (text.drop 1) else none

/-- A year has a 29th of February. -/
def isLeap (year : Nat) : Bool := year % 4 == 0 && (year % 100 != 0 || year % 400 == 0)

/-- The days of a month. -/
def daysIn (year month : Nat) : Nat :=
  if month = 2 then (if isLeap year then 29 else 28)
  else if month = 4 ∨ month = 6 ∨ month = 9 ∨ month = 11 then 30
  else 31

/-- What follows a day of the calendar. -/
def date? (text : List Char) : Option (List Char) := do
  let (year, text) ← fixed? 4 text
  let text ← after? '-' text
  let (month, text) ← pair? 1 12 text
  let text ← after? '-' text
  let (_, rest) ← pair? 1 (daysIn year month) text
  return rest

/-- What follows hours and minutes. -/
def clock? (text : List Char) : Option (List Char) := do
  let (_, text) ← pair? 0 23 text
  let text ← after? ':' text
  let (_, rest) ← pair? 0 59 text
  return rest

/-- What follows a time of day, which may have a fraction of a second. -/
def time? (text : List Char) : Option (List Char) := do
  let text ← clock? text
  let text ← after? ':' text
  let (_, rest) ← pair? 0 60 text
  match rest with
  | '.' :: c :: fraction =>
    return if c.isDigit then fraction.dropWhile Char.isDigit else rest
  | _ => return rest

/-- What follows the distance from universal time. -/
def offset? : List Char → Option (List Char)
  | 'Z' :: rest | 'z' :: rest => some rest
  | '+' :: rest | '-' :: rest => clock? rest
  | _ => none

/-- What follows a time of day after a date. -/
def timeOfDate? : List Char → Option (List Char)
  | 'T' :: rest | 't' :: rest | ' ' :: rest =>
    (time? rest).map fun rest => (offset? rest).getD rest
  | _ => none

/-- What follows a moment: a date, a time of day, or both. -/
def moment? (text : List Char) : Option (List Char) :=
  match date? text with
  | some rest => some ((timeOfDate? rest).getD rest)
  | none => time? text

end Entrypoint.Toml.Number
