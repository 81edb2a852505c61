import Entrypoint.Text.Printable

/-! Quoted text: a double quote and a backslash are escaped, some controls have short escapes, and
what does not print is written by its code in braces. `decode` reads the escapes back. -/

namespace Entrypoint.Text.Quoted

/-- The digit of a value below sixteen, in lower case. -/
def hexDigit (n : Nat) : Char := Char.ofNat (if n < 10 then 0x30 + n else 0x57 + n)

/-- The digits of a number in base sixteen, without leading zeros. -/
def hexDigits (n : Nat) : List Char :=
  if _h : n < 16 then [hexDigit n] else hexDigits (n / 16) ++ [hexDigit (n % 16)]
termination_by n
decreasing_by omega

/-- The value of a digit in base sixteen, in either case. -/
def hexValue? (c : Char) : Option Nat :=
  if '0' ≤ c ∧ c ≤ '9' then some (c.toNat - 0x30)
  else if 'a' ≤ c ∧ c ≤ 'f' then some (c.toNat - 0x57)
  else if 'A' ≤ c ∧ c ≤ 'F' then some (c.toNat - 0x37)
  else none

/-- The character is written as its code. -/
def byCode (c : Char) : List Char := ['\\', 'u', '\x7b'] ++ hexDigits c.toNat ++ ['\x7d']

/-- What stands for one character; `next` is the one after it. A zero before an octal digit is
written long, since the short form would take the digit in. -/
def encodeChar (c : Char) (next : Option Char) : List Char :=
  if c = '\x00' then
    match next with
    | some d => if '0' ≤ d ∧ d ≤ '7' then ['\\', 'x', '0', '0'] else ['\\', '0']
    | none => ['\\', '0']
  else if c = '\t' then ['\\', 't']
  else if c = '\r' then ['\\', 'r']
  else if c = '\n' then ['\\', 'n']
  else if c = '"' ∨ c = '\\' then ['\\', c]
  else if extendsGrapheme c then byCode c
  else if isPrintable c then [c]
  else byCode c

/-- The text between the quotes. -/
def encode : List Char → List Char
  | [] => []
  | c :: rest => encodeChar c rest.head? ++ encode rest

/-- A text as a quoted literal. -/
def literal (text : String) : String :=
  String.ofList ('"' :: encode text.toList ++ ['"'])

/-- Reads the digits of a code up to the closing brace; underscores may stand between them. -/
def decodeCode (value : Nat) : List Char → Option (Char × List Char)
  | [] => none
  | '\x7d' :: rest => some (Char.ofNat value, rest)
  | '_' :: rest => decodeCode value rest
  | c :: rest => (hexValue? c).bind fun d => decodeCode (value * 16 + d) rest

/-- Reads the text of a literal up to its closing quote. A backslash before a line end takes the
line end and the blanks after it away, and a carriage return before a line feed is dropped. -/
def decodeFrom : Nat → List Char → List Char
  | 0, _ | _, [] | _, '"' :: _ => []
  | fuel + 1, '\\' :: c :: rest =>
    match c with
    | 'n' => '\n' :: decodeFrom fuel rest
    | 'r' => '\r' :: decodeFrom fuel rest
    | 't' => '\t' :: decodeFrom fuel rest
    | '0' => '\x00' :: decodeFrom fuel rest
    | 'x' => match rest with
      | h :: l :: rest =>
        Char.ofNat ((hexValue? h).getD 0 * 16 + (hexValue? l).getD 0) :: decodeFrom fuel rest
      | _ => []
    | 'u' => match decodeCode 0 (rest.drop 1) with
      | some (d, rest) => d :: decodeFrom fuel rest
      | none => []
    | '\n' | '\r' =>
      decodeFrom fuel (rest.dropWhile fun d => d == ' ' || d == '\t' || d == '\n' || d == '\r')
    | _ => c :: decodeFrom fuel rest
  | fuel + 1, '\r' :: '\n' :: rest => '\n' :: decodeFrom fuel rest
  | fuel + 1, c :: rest => c :: decodeFrom fuel rest

/-- The text that a literal's inside denotes. -/
def decode (inside : List Char) : List Char := decodeFrom inside.length inside

end Entrypoint.Text.Quoted
