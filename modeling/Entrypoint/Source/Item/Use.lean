import Entrypoint.Source.Grammar

/-! Reading imports. A double colon may begin one tree at most on each way down a tree; inside a
group the import is then kept as written and brings nothing into the catalogue. -/

namespace Entrypoint.Grammar

open Reading

/-- The trees of a group that are all part of the catalogue. -/
def groupTree? (trees : List (Option UseTree)) : Option UseTree :=
  if trees.all (·.isSome) then some (.group (trees.filterMap id)) else none

/-- An import tree with its tokens. `rootAllowed` says that a double colon may begin a tree of a
group here; the tree is then none of the catalogue. -/
def useTree : Nat → Bool → Reading (Option UseTree × List TokenTree)
  | 0, _ => failure
  | fuel + 1, rootAllowed => do
    if ← sees (.any [.ident, .wordOf ["self", "super", "crate", "try"]]) then
      let name ← nameOr _
      if ← sees (.punct "::") then
        let colons ← punct "::"
        let (tree, tokens) ← useTree fuel false
        return (tree.map (.path name), .word name.word :: colons ++ tokens)
      else if ← sees (.word "as") then
        let keyword ← word "as"
        let localName ← identOr ["_"]
        return (some (.renamed name localName), .word name.word :: keyword ++ [.word localName])
      else return (some (.name name), [.word name.word])
    else if ← sees (.punct "*") then return (some .all, ← punct "*")
    else
      let body ← group .brace
      let (trees, trailing) ← within body do
        separated "," .atEnd (do
          let root ← if rootAllowed then punctIfAny "::" else pure []
          let (tree, tokens) ← useTree fuel (rootAllowed && root.isEmpty)
          return (if root.isEmpty then tree else none, root ++ tokens)) (← room)
      return (groupTree? (trees.map (·.1)),
        [.group .brace (TokenTree.listed "," (trees.map (·.2)) trailing)])

/-- An import. -/
def useItem : Reading (Option (List TokenTree)) := do
  let keyword ← word "use"
  let root ← punctIfAny "::"
  let (tree, tokens) ← useTree (TokenTree.sizeAll (← trees) + 1) root.isEmpty
  let semicolon ← punct ";"
  match tree with
  | some tree =>
    record [.imports tree]
    return some (keyword ++ root ++ tokens ++ semicolon)
  | none => return none

end Entrypoint.Grammar
