import Entrypoint.Source.Item.Reading
import Entrypoint.Source.Lexeme
import Entrypoint.Source.Statement

/-! The readers for nestings of any depth. Each reader is given those for one level less; a level
takes a tree or leads to one of few other readers, so that the size of a row bounds the levels it
needs. -/

namespace Entrypoint

namespace Grammar

/-- The readers for nestings of at most so many levels. -/
def ofDepth : Nat → Grammar
  | 0 =>
    { type := fun _ => failure
      path := failure
      lifetimes := failure
      operand := fun _ => failure
      operators := fun _ _ _ => failure
      leading := failure
      pattern := failure
      statements := failure
      item := failure }
  | depth + 1 =>
    { type := fun plus row => typeWith (ofDepth depth) plus row
      path := fun row => plainPath (ofDepth depth) false row
      lifetimes := fun row => lifetimesWith (ofDepth depth) row
      operand := fun structs row => operandWith (ofDepth depth) structs row
      operators := fun base structs left row => operatorsWith (ofDepth depth) base structs left row
      leading := fun row => leadingWith (ofDepth depth) row
      pattern := fun row => patternWith (ofDepth depth) row
      statements := fun row => statementsWith (ofDepth depth) row
      item := fun row => itemWith (ofDepth depth) row }

/-- The readers for the nestings in a row of trees. -/
def forTrees (trees : List TokenTree) : Grammar := ofDepth (16 * TokenTree.sizeAll trees + 16)

/-- The declarations met in a file, after the attributes of the file. -/
def file (g : Grammar) : Reading (List Item) := do
  let (_, met) ← Reading.gathered do
    let _ ← g.innerAttributes
    Reading.many .atEnd g.item (← Reading.room)
  return met

end Grammar

/-- What a reader makes of a whole row. -/
def TokenTree.read? (trees : List TokenTree) (reading : Grammar → Reading α) : Option α :=
  Reading.whole? trees (reading (Grammar.forTrees trees))

/-- The type of a text. -/
def TypeExpr.ofText? (text : String) : Option TypeExpr :=
  (TokenTree.ofText? text).bind fun trees => TokenTree.read? trees fun g => g.type true

/-- The path of a text. -/
def PathExpr.ofText? (text : String) : Option PathExpr :=
  (TokenTree.ofText? text).bind fun trees => TokenTree.read? trees Grammar.path

/-- The struct of a text that is one declaration. -/
def StructItem.ofText? (text : String) : Option StructItem :=
  (TokenTree.ofText? text).bind fun trees => TokenTree.read? trees Grammar.structItem

end Entrypoint
