import Entrypoint.Source.Word

/-! Token trees: words, punctuation, literals and bracketed groups. Their text has one blank between
two tokens, none between the characters of one operator, and none inside round and square brackets.
-/

namespace Entrypoint

/-- The brackets of a group. -/
inductive Delimiter
  | paren
  | bracket
  | brace
  deriving DecidableEq, Repr

/-- A token, or a group of tokens in brackets. A punctuation character is joint when it runs
together with the token after it. -/
inductive TokenTree
  | word (word : Word)
  | punct (char : Char) (joint : Bool)
  | literal (text : String)
  | group (delimiter : Delimiter) (body : List TokenTree)

namespace TokenTree

/-- Nothing is printed after a joint character. -/
def isJoint : TokenTree → Bool
  | punct _ joint => joint
  | _ => false

/-- The text of a group around the text of its body. -/
def enclose (delimiter : Delimiter) (body : String) (isEmpty : Bool) : String :=
  match delimiter with
  | .paren => "(" ++ body ++ ")"
  | .bracket => "[" ++ body ++ "]"
  | .brace => if isEmpty then "\x7b \x7d" else "\x7b " ++ body ++ " \x7d"

mutual

/-- The text of a tree. -/
def text : TokenTree → String
  | word w => w.text
  | punct c _ => c.toString
  | literal t => t
  | group d body => enclose d (textAll body) body.isEmpty

/-- The text of trees in a row. -/
def textAll : List TokenTree → String
  | [] => ""
  | tree :: rest =>
    tree.text ++ (if tree.isJoint || rest.isEmpty then "" else " ") ++ textAll rest

end

mutual

/-- The number of tokens in a tree, a group counting one more. -/
def size : TokenTree → Nat
  | group _ body => sizeAll body + 1
  | _ => 1

/-- The number of tokens in trees. -/
def sizeAll : List TokenTree → Nat
  | [] => 0
  | tree :: rest => tree.size + sizeAll rest

end

/-- The tokens of an operator: all characters but the last are joint. -/
def operator (text : String) : List TokenTree :=
  go text.toList
where
  /-- The tokens of the characters. -/
  go : List Char → List TokenTree
    | [] => []
    | [c] => [punct c false]
    | c :: rest => punct c true :: go rest

/-- The token of a text that is a word, as a list. -/
def ofWord (text : String) : List TokenTree := ((Word.ofText? text).map word).toList

/-- Trees with tokens between each two. -/
def separate (separator : List TokenTree) : List (List TokenTree) → List TokenTree
  | [] => []
  | [trees] => trees
  | trees :: rest => trees ++ separator ++ separate separator rest

/-- Trees with a separator between each two, and perhaps one at the end. -/
def listed (separator : String) (items : List (List TokenTree)) (trailing : Bool) :
    List TokenTree :=
  separate (operator separator) items ++ if trailing then operator separator else []

/-- The tokens of items that were listed in a row, the marked ones first. Each item keeps the comma
after it, and a comma is put wherever one is missing between two. -/
def markedFirst (items : List (Bool × List TokenTree)) (trailing : Bool) : List TokenTree :=
  let noted := withCommas items
  join (noted.filter (·.1) ++ noted.filter (!·.1))
where
  /-- Notes which items have a comma after them: all but the last, and the last if one ends the
  row. -/
  withCommas : List (Bool × List TokenTree) → List (Bool × List TokenTree × Bool)
    | [] => []
    | (isMarked, tokens) :: rest => (isMarked, tokens, !rest.isEmpty || trailing) :: withCommas rest
  /-- The tokens of items that are in order. -/
  join : List (Bool × List TokenTree × Bool) → List TokenTree
    | [] => []
    | [(_, tokens, comma)] => tokens ++ if comma then operator "," else []
    | (_, tokens, _) :: rest => tokens ++ operator "," ++ join rest

/-- The tokens of a lifetime. -/
def ofLifetime (name : Word) : List TokenTree := [punct '\'' true, word name]

/-- The single token of an operator character. -/
def mark (c : Char) : List TokenTree := [punct c false]

end TokenTree

end Entrypoint
