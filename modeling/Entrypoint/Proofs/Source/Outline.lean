import Entrypoint.Proofs.Source.Recording.Items
import Entrypoint.Source.File

/-! Outlines of files: what each declaration outside all blocks is, and what it leaves for the
catalogue. The readers of outlines go through the same trees as the readers of declarations and
record nothing. That both agree is shown by a relation of readers that follows their steps. -/

namespace Entrypoint

/-- What a declaration that the catalogue addresses leaves there. -/
inductive Addressable
  | record (item : StructItem)
  | alias (name : Ident) (target : TypeExpr)
  | function (function : Function)
  | methods (selfType : TypeExpr) (methods : List Function)
  | imports (tree : UseTree)

/-- An entry as an item. -/
def Addressable.item : Addressable → Item
  | .record item => .record item
  | .alias name target => .alias name target
  | .function f => .function f
  | .methods selfType list => .methods selfType list
  | .imports tree => .imports tree

/-- The entry of an item that is no module. -/
def Item.addressable? : Item → Option Addressable
  | .record item => some (.record item)
  | .alias name target => some (.alias name target)
  | .function f => some (.function f)
  | .methods selfType list => some (.methods selfType list)
  | .imports tree => some (.imports tree)
  | .inlineModule .. => none

/-- A declaration outside all blocks. -/
inductive Outline
  /-- A function, an import, a type, a struct or an implementation, with the entry that it leaves,
  if any. A module without content leaves none. -/
  | addressed (entry : Option Addressable)
  /-- A module with the items met in the blocks of its attributes, and with its declarations. -/
  | inlineModule (name : PathWord) (met : List Item) (inside : List Outline)
  /-- Any other declaration, with the items met in its blocks. -/
  | searched (met : List Item)

namespace Outline

mutual

/-- The items that a declaration leaves. -/
def items : Outline → List Item
  | addressed entry => entry.toList.map Addressable.item
  | inlineModule name met inside => [.inlineModule name (met ++ itemsAll inside)]
  | searched met => met

/-- The items that declarations in a row leave. -/
def itemsAll : List Outline → List Item
  | [] => []
  | outline :: rest => outline.items ++ itemsAll rest

end

theorem itemsAll_eq (outlines : List Outline) : itemsAll outlines = outlines.flatMap items := by
  induction outlines with
  | nil => rfl
  | cons outline rest ih => rw [itemsAll, List.flatMap_cons, ih]

end Outline

/-- The declarations of a file outside all blocks, and the items met in the blocks of its
attributes. -/
structure FileOutline where
  met : List Item
  outlines : List Outline

/-- The items that the declarations of a file leave. -/
def FileOutline.items (o : FileOutline) : List Item := o.met ++ Outline.itemsAll o.outlines

/-! ### Reading outlines -/

namespace Grammar

open Reading

/-- The entry of a function after its visibility. -/
def functionEntry (g : Grammar) (attributes : List Attribute) : Reading (Option Addressable) := do
  let signature ← unrecorded (g.signature false)
  if ← punct? ";" then return none
  let (function, _) ← unrecorded (g.functionBody attributes signature)
  return some (.function function)

/-- The entry of an import. -/
def importEntry : Reading (Option Addressable) := do
  let _ ← word "use"
  let root ← punctIfAny "::"
  let (tree, _) ← useTree (TokenTree.sizeAll (← trees) + 1) root.isEmpty
  let _ ← punct ";"
  return tree.map .imports

/-- The entry of a type definition after its visibility. -/
def aliasEntry (g : Grammar) : Reading (Option Addressable) := do
  let type ← unrecorded (g.typeDefinition .before)
  let _ ← punct ";"
  return if type.isBounded then none else type.target.map (.alias type.name)

/-- The entry of a struct after its visibility. -/
def recordEntry (g : Grammar) (attributes : List Attribute) : Reading (Option Addressable) := do
  let (item, _) ← unrecorded (g.structBody attributes)
  return some (.record item)

/-- The entry of an implementation after its visibility. -/
def methodsEntry (g : Grammar) (isVisible : Bool) : Reading (Option Addressable) := do
  let (methods, _) ← unrecorded (g.implementation isVisible)
  return methods.bind Item.addressable?

/-- The outline of a module of a name from its inside. -/
def moduleInside (g : Grammar) (inside : Reading Outline) (met : List Item) (name : PathWord) :
    Reading Outline := do
  let (_, metInside) ← gathered g.innerAttributes
  return .inlineModule name (met ++ metInside) (← many .atEnd inside (← room))

/-- The outline of a module after its visibility, given a reader for what is inside. -/
def moduleOutline (g : Grammar) (inside : Reading Outline) (met : List Item) :
    Reading Outline := do
  let _ ← wordIfAny "unsafe"
  let _ ← word "mod"
  expect (.any [.ident, .word "try"])
  let name ← nameOr _
  if ← sees (.punct ";") then
    let _ ← punct ";"
    return .addressed none
  within (← group .brace) (g.moduleInside inside met name)

/-- The outline of a declaration after its attributes and its visibility. -/
def outlineBody (g : Grammar) (inside : Reading Outline) (attributes : List Attribute)
    (met : List Item) (isVisible : Bool) : Reading Outline := do
  if signatureBegins false (← trees) then return .addressed (← g.functionEntry attributes)
  else if ← sees (.word "use") then return .addressed (← importEntry)
  else if ← sees (.word "type") then return .addressed (← g.aliasEntry)
  else if ← sees (.word "struct") then return .addressed (← g.recordEntry attributes)
  else if ← sees (.any [.word "mod", .both (.word "unsafe") (.second (.word "mod"))]) then
    g.moduleOutline inside met
  else if ← sees implementationBegins then return .addressed (← g.methodsEntry isVisible)
  else
    let (tokens, metInside) ← gathered (g.searchedItem isVisible)
    return .searched (if tokens.isSome then met ++ metInside else [])

/-- The outline of a declaration, given a reader for what is inside a module. -/
def outlineWith (g : Grammar) (inside : Reading Outline) : Reading Outline := do
  let (attributes, met) ← gathered g.outerAttributeList
  let visible ← visibility
  g.outlineBody inside attributes met (!visible.isEmpty)

/-- The outline of a declaration with nestings of at most so many levels. -/
def outline : Nat → Reading Outline
  | 0 => failure
  | depth + 1 => (ofDepth depth).outlineWith (outline depth)

/-- The outline of a file with nestings of at most so many levels. -/
def fileOutline (depth : Nat) : Reading FileOutline := do
  let (_, met) ← gathered (ofDepth depth).innerAttributes
  return ⟨met, ← many .atEnd (outline depth) (← room)⟩

end Grammar

/-- The outline of a file's text. -/
def FileOutline.ofText? (text : String) : Option FileOutline :=
  (TokenTree.ofChars? (dropInterpreter (Text.dropMark text.toList))).bind fun trees =>
    Reading.whole? trees (Grammar.fileOutline (16 * TokenTree.sizeAll trees + 16))

end Entrypoint
