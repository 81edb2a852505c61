import Entrypoint.Text.IdentChar

/-! Words of source text: identifiers and keywords. A word may carry the raw mark `r#`, which makes
an identifier of a keyword; the words that lead paths and the underscore do not take it. The proof
field says that the text is one word, so printing a word and reading it gives the word back. -/

namespace Entrypoint

namespace Word

/-- A start character and continuing ones. -/
def isPlain : List Char → Bool
  | [] => false
  | c :: rest => Text.isIdentStart c && rest.all Text.isIdentContinue

/-- The words that do not take the raw mark. -/
def neverRaw : List String := ["_", "super", "self", "Self", "crate"]

/-- The text is one word. -/
def isText : List Char → Bool
  | 'r' :: '#' :: rest => isPlain rest && !neverRaw.contains (String.ofList rest)
  | text => isPlain text

end Word

/-- A word of source text. -/
structure Word where
  text : String
  isText_text : Word.isText text.toList = true
  deriving DecidableEq

namespace Word

/-- The words with a meaning of their own, which name no declaration. -/
def keywords : List String := [
  "_", "abstract", "as", "async", "await", "become", "box", "break", "const", "continue", "crate",
  "do", "dyn", "else", "enum", "extern", "false", "final", "fn", "for", "if", "impl", "in", "let",
  "loop", "macro", "match", "mod", "move", "mut", "override", "priv", "pub", "ref", "return",
  "Self", "self", "static", "struct", "super", "trait", "true", "try", "type", "typeof", "unsafe",
  "unsized", "use", "virtual", "where", "while", "yield"]

/-- The word is a keyword. -/
def isKeyword (word : Word) : Bool := keywords.contains word.text

/-- The word of a text, if the text is one. -/
def ofText? (text : String) : Option Word :=
  if h : isText text.toList = true then some ⟨text, h⟩ else none

/-- The words that stand in paths besides identifiers. -/
def pathWords : List String := ["super", "self", "Self", "crate", "try"]

end Word

/-- A word that can name a declaration. -/
structure Ident where
  word : Word
  isKeyword_word : word.isKeyword = false
  deriving DecidableEq

/-- The text of an identifier. -/
def Ident.text (ident : Ident) : String := ident.word.text

/-- The identifier of a word that is no keyword. -/
def Word.ident? (word : Word) : Option Ident :=
  if h : word.isKeyword = false then some ⟨word, h⟩ else none

/-- A word that can name a declaration, or one of the given words. -/
structure NameOr (texts : List String) where
  word : Word
  isName_word : word.isKeyword = false ∨ word.text ∈ texts
  deriving DecidableEq

namespace NameOr

variable {texts : List String}

/-- The text of a name. -/
def text (name : NameOr texts) : String := name.word.text

/-- An identifier, where other words may stand too. -/
def ofIdent (ident : Ident) : NameOr texts := ⟨ident.word, .inl ident.isKeyword_word⟩

/-- The name that a word is, if it may stand. -/
def ofWord? (word : Word) : Option (NameOr texts) :=
  if h : word.isKeyword = false ∨ word.text ∈ texts then some ⟨word, h⟩ else none

end NameOr

/-- The name of a segment of a path. -/
abbrev PathWord := NameOr Word.pathWords

/-- The word of the implementing type. -/
def PathWord.implementing : PathWord := ⟨⟨"Self", by decide⟩, .inr (by decide)⟩

end Entrypoint
