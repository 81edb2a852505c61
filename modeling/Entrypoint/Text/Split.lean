import Entrypoint.Text.Ranges

/-! Cutting text: at a character, at a double colon, into lines, and trimming. Pieces are lists of
characters; nothing is lost, so joining the pieces at the separator gives the text back. -/

namespace Entrypoint.Text

/-- The pieces between occurrences of a character; a text without it is its own only piece. -/
def splitAt (sep : Char) : List Char → List (List Char)
  | [] => [[]]
  | c :: rest =>
    if c = sep then [] :: splitAt sep rest
    else match splitAt sep rest with
      | [] => [[c]]
      | piece :: pieces => (c :: piece) :: pieces

/-- The pieces between double colons, read from the left: of three colons the first two separate. -/
def splitPath : List Char → List (List Char)
  | [] => [[]]
  | ':' :: ':' :: rest => [] :: splitPath rest
  | c :: rest =>
    match splitPath rest with
    | [] => [[c]]
    | piece :: pieces => (c :: piece) :: pieces

/-- The pieces with a separator between each two. -/
def joinWith (sep : List Char) : List (List Char) → List Char
  | [] => []
  | [piece] => piece
  | piece :: pieces => piece ++ sep ++ joinWith sep pieces

/-- Drops one carriage return from the end. -/
def dropReturn (line : List Char) : List Char :=
  if line.getLast? = some '\r' then line.dropLast else line

/-- The lines of a text. A line ends at a line feed, and a carriage return before it belongs to the
ending; text that ends with a line feed has no empty line after it. -/
def lines (text : List Char) : List (List Char) :=
  let pieces := splitAt '\n' text
  pieces.dropLast.map dropReturn ++ match pieces.getLast? with
    | none | some [] => []
    | some last => [last]

/-- Drops blanks from the start. -/
def trimStart (text : List Char) : List Char := text.dropWhile isBlank

/-- Drops blanks from the end. -/
def trimEnd (text : List Char) : List Char := (text.reverse.dropWhile isBlank).reverse

/-- Drops blanks from both ends. -/
def trim (text : List Char) : List Char := trimEnd (trimStart text)

/-- The words of a text: its maximal runs without blanks. -/
def words (text : List Char) : List (List Char) :=
  go text []
where
  /-- Reads on with the word so far, in reverse. -/
  go : List Char → List Char → List (List Char)
    | [], [] => []
    | [], word => [word.reverse]
    | c :: rest, word =>
      if isBlank c then
        if word.isEmpty then go rest [] else word.reverse :: go rest []
      else go rest (c :: word)

/-- What follows a given beginning. -/
def stripPrefix? : List Char → List Char → Option (List Char)
  | [], text => some text
  | _ :: _, [] => none
  | p :: ps, c :: text => if p = c then stripPrefix? ps text else none

/-- The text before the first occurrence of a character, and the text after it if it occurs. -/
def cutAt (sep : Char) : List Char → List Char × Option (List Char)
  | [] => ([], none)
  | c :: rest =>
    if c = sep then ([], some rest)
    else (c :: (cutAt sep rest).1, (cutAt sep rest).2)

/-- The text before and after its last double colon, if it has one. -/
def cutLast : List Char → Option (List Char × List Char)
  | [] => none
  | c :: rest =>
    match cutLast rest with
    | some (before, after) => some (c :: before, after)
    | none =>
      match c, rest with
      | ':', ':' :: after => some ([], after)
      | _, _ => none

/-- Drops double colons from the start. -/
def dropColons : List Char → List Char
  | ':' :: ':' :: rest => dropColons rest
  | text => text

/-- A text stands somewhere within another. -/
def hasInfix (part : List Char) : List Char → Bool
  | [] => part.isEmpty
  | c :: rest => part.isPrefixOf (c :: rest) || hasInfix part rest

/-- Drops the byte order mark at the start of a text. -/
def dropMark : List Char → List Char
  | '\ufeff' :: rest => rest
  | text => text

end Entrypoint.Text
