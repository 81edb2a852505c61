import Entrypoint.Text.Quoted

/-! Quoted texts of configuration documents. Double quotes allow escapes, single ones take every
character as it stands, and three quotes of either kind hold text of several lines. -/

namespace Entrypoint.Toml.Quotation

/-- A character that may stand in a quoted text or a comment. -/
def isPlain (c : Char) : Bool := c == '\t' || (' ' ≤ c && c != '\x7f')

/-- A blank within a line. -/
def isBlank (c : Char) : Bool := c == ' ' || c == '\t'

/-- What follows a line end. -/
def lineEnd? : List Char → Option (List Char)
  | '\n' :: rest => some rest
  | '\r' :: '\n' :: rest => some rest
  | _ => none

/-- Drops blanks and line ends. -/
def dropLines : List Char → List Char
  | '\r' :: '\n' :: rest => dropLines rest
  | c :: rest => if isBlank c || c == '\n' then dropLines rest else c :: rest
  | [] => []

/-- The number that digits in base sixteen stand for. -/
def hexNumber? (digits : List Char) : Option Nat :=
  digits.foldlM (fun n c => (Text.Quoted.hexValue? c).map (n * 16 + ·)) 0

/-- The character whose code is written with the given number of digits, and what follows. -/
def coded? (count : Nat) (text : List Char) : Option (Char × List Char) :=
  if text.length < count then none
  else (hexNumber? (text.take count)).bind fun n =>
    if n.isValidChar then some (Char.ofNat n, text.drop count) else none

/-- The character of an escape without its backslash, and what follows. -/
def escape? : List Char → Option (Char × List Char)
  | 'b' :: rest => some ('\x08', rest)
  | 'f' :: rest => some ('\x0c', rest)
  | 'n' :: rest => some ('\n', rest)
  | 'r' :: rest => some ('\r', rest)
  | 't' :: rest => some ('\t', rest)
  | '"' :: rest => some ('"', rest)
  | '\\' :: rest => some ('\\', rest)
  | 'u' :: rest => coded? 4 rest
  | 'U' :: rest => coded? 8 rest
  | _ => none

/-- Text with a character in front. -/
def push (c : Char) (text : Option (List Char × List Char)) : Option (List Char × List Char) :=
  text.map fun (inside, rest) => (c :: inside, rest)

/-- The text up to a double quote, and what follows. The fuel is the length of the text. -/
def basic? : Nat → List Char → Option (List Char × List Char)
  | 0, _ | _, [] => none
  | fuel + 1, c :: rest =>
    if c = '"' then some ([], rest)
    else if c = '\\' then (escape? rest).bind fun (d, rest) => push d (basic? fuel rest)
    else if isPlain c then push c (basic? fuel rest)
    else none

/-- The text up to a single quote, and what follows. -/
def literal? : List Char → Option (List Char × List Char)
  | [] => none
  | c :: rest =>
    if c = '\'' then some ([], rest)
    else if isPlain c then push c (literal? rest)
    else none

/-- Three quotes close a text of several lines; up to two more before them belong to the text. -/
def closing? (quote : Char) (text : List Char) : Option (List Char × List Char) :=
  let count := min 5 (text.takeWhile (· == quote)).length
  if count < 3 then none else some (List.replicate (count - 3) quote, text.drop count)

/-- What follows a backslash at the end of a line, from the next text on. -/
def continued? (text : List Char) : Option (List Char) :=
  (lineEnd? (text.dropWhile isBlank)).map dropLines

/-- The text of several lines up to its closing quotes, and what follows. Line ends are line feeds.
The fuel is the length of the text. -/
def lines? (quote : Char) (escapes : Bool) : Nat → List Char → Option (List Char × List Char)
  | 0, _ | _, [] => none
  | fuel + 1, c :: rest =>
    match closing? quote (c :: rest), lineEnd? (c :: rest) with
    | some closed, _ => some closed
    | none, some rest => push '\n' (lines? quote escapes fuel rest)
    | none, none =>
      if escapes && c == '\\' then
        match continued? rest with
        | some rest => lines? quote escapes fuel rest
        | none => (escape? rest).bind fun (d, rest) => push d (lines? quote escapes fuel rest)
      else if isPlain c then push c (lines? quote escapes fuel rest)
      else none

/-- A text of several lines without the line end right after its opening quotes. -/
def block? (quote : Char) (escapes : Bool) (text : List Char) : Option (List Char × List Char) :=
  let text := (lineEnd? text).getD text
  lines? quote escapes (text.length + 1) text

/-- A quoted text of one line, with its opening quote. -/
def line? : List Char → Option (List Char × List Char)
  | '"' :: rest => basic? (rest.length + 1) rest
  | '\'' :: rest => literal? rest
  | _ => none

/-- A quoted text, with its opening quotes. -/
def any? : List Char → Option (List Char × List Char)
  | '"' :: '"' :: '"' :: rest => block? '"' true rest
  | '\'' :: '\'' :: '\'' :: rest => block? '\'' false rest
  | rest => line? rest

end Entrypoint.Toml.Quotation
