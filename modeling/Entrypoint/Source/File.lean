import Entrypoint.Fault
import Entrypoint.Source.Nesting

/-! Source files from text. A file may begin with a byte order mark and with a line that names its
interpreter; a line that begins an attribute is none. -/

namespace Entrypoint

/-- Drops the line that names an interpreter, but not its line end. -/
def dropInterpreter (text : List Char) : List Char :=
  match text with
  | '#' :: '!' :: rest =>
    if (Lexeme.skipAll rest).head? = some '[' then text else text.dropWhile (· != '\n')
  | _ => text

/-- The declarations of a file's text. -/
def Item.ofText? (text : String) : Option (List Item) :=
  (TokenTree.ofChars? (dropInterpreter (Text.dropMark text.toList))).bind fun trees =>
    TokenTree.read? trees Grammar.file

/-- The source file of a text, or the fault of one that is no sequence of declarations. -/
def SourceFile.ofText (path scope text : String) : Except Fault SourceFile :=
  match Item.ofText? text with
  | some items => .ok ⟨path, scope, items⟩
  | none => .error (.source path .malformed)

end Entrypoint
