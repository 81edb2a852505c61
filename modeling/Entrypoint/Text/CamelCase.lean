import Entrypoint.Text.Ranges
import Entrypoint.Text.CaseMap

/-! Lower camel case. A name is cut into words at separators and where a capital begins a word; the
first word is lowered and the others are capitalised, so `user_id`, `user-id` and `UserId` agree. -/

namespace Entrypoint.Text.CamelCase

/-- A character between words. -/
def isSeparator (c : Char) : Bool := c == '_' || c == '-' || isBlank c

/-- An upper-case character begins a word after a lower-case character or a digit, and also after
an upper-case one when a lower-case character follows it. -/
def beginsWord (previous : Char) (next : Option Char) : Bool :=
  isLower previous || ('0' ≤ previous && previous ≤ '9') ||
    (isUpper previous && (next.map isLower).getD false)

/-- Reads words off a name. `word` is the word so far, in reverse, so its head is the character
just before. -/
def wordsFrom (word : List Char) : List Char → List (List Char)
  | [] => if word.isEmpty then [] else [word.reverse]
  | c :: rest =>
    if isSeparator c then
      if word.isEmpty then wordsFrom [] rest else word.reverse :: wordsFrom [] rest
    else match word with
      | [] => wordsFrom [c] rest
      | previous :: _ =>
        if isUpper c && beginsWord previous rest.head? then
          word.reverse :: wordsFrom [c] rest
        else wordsFrom (c :: word) rest

/-- The words of a name. -/
def words (name : List Char) : List (List Char) := wordsFrom [] name

/-- A lowered word with its first character in upper case. -/
def capitalize (word : List Char) : List Char :=
  match lower word with
  | [] => []
  | first :: rest => upperChar first ++ rest

/-- The words run together, all but the first capitalised. -/
def joinWords : List (List Char) → List Char
  | [] => []
  | first :: rest => lower first ++ (rest.map capitalize).flatten

end CamelCase

/-- A name in lower camel case. -/
def lowerCamel (name : String) : String :=
  String.ofList (CamelCase.joinWords (CamelCase.words name.toList))

end Entrypoint.Text
