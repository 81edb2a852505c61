import Entrypoint.Source.Item

/-! Reading rows of token trees from the front. A reader takes some trees and gives a value and the
trees after them, or refuses. On its way it meets declarations, in blocks too, and records them in
order. Predicates on rows look ahead without taking anything. -/

namespace Entrypoint

/-- Where reading stands: the trees to come, and the declarations met so far. -/
structure Row where
  trees : List TokenTree
  found : List Item

/-- A reader of token trees. -/
abbrev Reading (α : Type) := StateT Row Option α

/-! ### Looking ahead -/

/-- A condition on the trees to come. -/
abbrev Ahead := List TokenTree → Bool

namespace Ahead

/-- The characters of an operator come next. What follows may run together with them, so a single
colon is seen at a double one. -/
def punctFrom : List Char → Ahead
  | [c], .punct d _ :: _ => c == d
  | c :: rest, .punct d true :: trees => c == d && punctFrom rest trees
  | _, _ => false

/-- An operator comes next. -/
def punct (operator : String) : Ahead := punctFrom operator.toList

/-- An operator comes next, and none of the given longer ones. -/
def punctBut (operator : String) (longer : List String) : Ahead := fun trees =>
  punct operator trees && !longer.any (punct · trees)

/-- A given word comes next. -/
def word (text : String) : Ahead
  | .word w :: _ => w.text == text
  | _ => false

/-- One of the given words comes next. -/
def wordOf (texts : List String) : Ahead := fun trees => texts.any (word · trees)

/-- Any word comes next. -/
def anyWord : Ahead
  | .word _ :: _ => true
  | _ => false

/-- An identifier comes next. -/
def ident : Ahead
  | .word w :: _ => !w.isKeyword
  | _ => false

/-- A lifetime comes next. -/
def lifetime : Ahead
  | .punct '\'' _ :: .word _ :: _ => true
  | _ => false

/-- A group in given brackets comes next. -/
def group (delimiter : Delimiter) : Ahead
  | .group d _ :: _ => d == delimiter
  | _ => false

/-- The text of a literal is a number. -/
def isNumber (text : String) : Bool := (text.toList.head?.map Char.isDigit).getD false

/-- A literal comes next. A number may have a minus sign, and the truth values count as literals. -/
def literal : Ahead
  | .literal _ :: _ => true
  | .punct '-' _ :: .literal text :: _ => isNumber text
  | .word w :: _ => w.text == "true" || w.text == "false"
  | _ => false

/-- The trees after the next one; a lifetime counts as one. -/
def skip : List TokenTree → List TokenTree
  | .punct '\'' true :: .word _ :: rest => rest
  | _ :: rest => rest
  | [] => []

/-- A condition on the trees after the next one. -/
def second (condition : Ahead) : Ahead := fun trees => condition (skip trees)

/-- A condition on the trees after the next two. -/
def third (condition : Ahead) : Ahead := fun trees => condition (skip (skip trees))

/-- Both conditions hold. -/
def both (a b : Ahead) : Ahead := fun trees => a trees && b trees

/-- One of the conditions holds. -/
def any (conditions : List Ahead) : Ahead := fun trees => conditions.any (· trees)

/-- The condition fails. -/
def not (condition : Ahead) : Ahead := fun trees => !condition trees

/-- No tree is left. -/
def atEnd : Ahead := List.isEmpty

/-- A colon that is not the first of two comes next. -/
def singleColon : Ahead := punctBut ":" ["::"]

/-- A point that is not the first of two comes next. -/
def singlePoint : Ahead := punctBut "." [".."]

/-- A word that leads a path or an identifier comes next. -/
def pathWord : Ahead := any [ident, wordOf ["super", "self", "Self", "crate"]]

/-- A bracket that opens arguments and begins no operator comes next. -/
def angle : Ahead := punctBut "<" ["<=", "<<="]

end Ahead

namespace Reading

/-! ### Taking trees -/

/-- The trees to come. -/
def trees : Reading (List TokenTree) := do return (← get).trees

/-- The number of trees to come, and one more. -/
def room : Reading Nat := do return (← trees).length + 1

/-- Whether a condition holds of the trees to come. -/
def sees (condition : Ahead) : Reading Bool := do return condition (← trees)

/-- Goes on only if a condition holds of the trees to come. -/
def expect (condition : Ahead) : Reading Unit := do
  if condition (← trees) then return else failure

/-- Takes one tree. -/
def tree : Reading TokenTree := fun row =>
  match row.trees with
  | [] => none
  | first :: rest => some (first, { row with trees := rest })

/-- Takes an operator and gives its tokens. -/
def punct (operator : String) : Reading (List TokenTree) := fun row =>
  if Ahead.punct operator row.trees then
    some (TokenTree.operator operator,
      { row with trees := row.trees.drop operator.toList.length })
  else none

/-- Takes an operator if it comes next. -/
def punct? (operator : String) : Reading Bool := do
  if ← sees (.punct operator) then
    let _ ← punct operator
    return true
  else return false

/-- Takes an operator if it comes next, and gives its tokens. -/
def punctIfAny (operator : String) : Reading (List TokenTree) := do
  if ← sees (.punct operator) then punct operator else return []

/-- Takes any word. -/
def anyWord : Reading Word := do
  match ← tree with
  | .word w => return w
  | _ => failure

/-- Takes a given word and gives its token. -/
def word (text : String) : Reading (List TokenTree) := do
  expect (.word text)
  return [.word (← anyWord)]

/-- Takes a given word if it comes next. -/
def word? (text : String) : Reading Bool := do
  if ← sees (.word text) then
    let _ ← anyWord
    return true
  else return false

/-- Takes a given word if it comes next, and gives its token. -/
def wordIfAny (text : String) : Reading (List TokenTree) := do
  if ← sees (.word text) then word text else return []

/-- Takes an identifier. -/
def ident : Reading Ident := do
  match (← anyWord).ident? with
  | some i => return i
  | none => failure

/-- Takes an identifier or one of the given words. -/
def identOr (texts : List String) : Reading Word := do
  if ← sees (.wordOf texts) then anyWord else return (← ident).word

/-- Takes an identifier or one of the given words, and gives it as a name. -/
def nameOr (texts : List String) : Reading (NameOr texts) := do
  match NameOr.ofWord? (← anyWord) with
  | some name => return name
  | none => failure

/-- Takes a lifetime and gives its name. -/
def lifetime : Reading Word := do
  expect Ahead.lifetime
  let _ ← tree
  anyWord

/-- Takes a lifetime if one comes next. -/
def lifetime? : Reading (Option Word) := do
  if ← sees Ahead.lifetime then return some (← lifetime) else return none

/-- Takes a group in given brackets and gives its inside. -/
def group (delimiter : Delimiter) : Reading (List TokenTree) := do
  match ← tree with
  | .group d body => if d = delimiter then return body else failure
  | _ => failure

/-- Takes a group in any brackets, with its inside as written. -/
def anyGroup : Reading (List TokenTree) := do
  match ← tree with
  | .group d body => return [.group d body]
  | _ => failure

/-- Takes a literal and gives its tokens. -/
def literal : Reading (List TokenTree) := do
  expect Ahead.literal
  match ← tree with
  | .punct _ _ => return [.punct '-' false, ← tree]
  | first => return [first]

/-! ### Combining readers -/

/-- Reads other trees to their end, as the inside of a group. -/
def within (body : List TokenTree) (reading : Reading α) : Reading α := fun row =>
  match reading.run ⟨body, row.found⟩ with
  | some (a, after) =>
    if after.trees.isEmpty then some (a, { row with found := after.found }) else none
  | none => none

/-- Reads a group in given brackets and gives its token. -/
def grouped (delimiter : Delimiter) (reading : Reading (List TokenTree)) :
    Reading (List TokenTree) := do
  return [.group delimiter (← within (← group delimiter) reading)]

/-- The value of a reader that takes a whole row. -/
def whole? (trees : List TokenTree) (reading : Reading α) : Option α :=
  match reading.run ⟨trees, []⟩ with
  | some (a, after) => if after.trees.isEmpty then some a else none
  | none => none

/-- The reader's value if it does not refuse, and none of its effects if it does. -/
def attempt (reading : Reading α) : Reading (Option α) := fun row =>
  match reading.run row with
  | some (a, after) => some (some a, after)
  | none => some (none, row)

/-- Reads items as long as none of the stops comes next. The fuel bounds their number. -/
def many (stop : Ahead) (item : Reading α) : Nat → Reading (List α)
  | 0 => failure
  | fuel + 1 => do
    if ← sees stop then return []
    return (← item) :: (← many stop item fuel)

/-- Reads items with a separator between two, up to a stop; the separator may also end them. Gives
the items and whether a separator ended them. -/
def separated (separator : String) (stop : Ahead) (item : Reading α) : Nat →
    Reading (List α × Bool)
  | 0 => failure
  | fuel + 1 => do
    if ← sees stop then return ([], false)
    let first ← item
    if ← punct? separator then
      let (rest, trailing) ← separated separator stop item fuel
      return (first :: rest, trailing || rest.isEmpty)
    else return ([first], false)

/-- Reads an item and further ones for as long as a separator comes next and, after it, the
beginning of an item. Gives the items and whether a separator ended them. -/
def joined (separator : String) (begins : Ahead) (item : Reading α) : Nat →
    Reading (List α × Bool)
  | 0 => failure
  | fuel + 1 => do
    let first ← item
    if ← punct? separator then
      if ← sees begins then
        let (rest, trailing) ← joined separator begins item fuel
        return (first :: rest, trailing)
      else return ([first], true)
    else return ([first], false)

/-- The tokens of items with a separator between two, up to a stop. -/
def listed (separator : String) (stop : Ahead) (item : Reading (List TokenTree)) :
    Reading (List TokenTree) := do
  let (items, trailing) ← separated separator stop item (← room)
  return TokenTree.listed separator items trailing

/-- The tokens of items with a comma between two, up to the end. -/
def commas (item : Reading (List TokenTree)) : Reading (List TokenTree) :=
  listed "," .atEnd item

/-! ### Declarations met on the way -/

/-- Records declarations. -/
def record (items : List Item) : Reading Unit :=
  modify fun row => { row with found := row.found ++ items }

/-- A reader's value with the declarations that it meets, which are not recorded. -/
def gathered (reading : Reading α) : Reading (α × List Item) := fun row =>
  match reading.run { row with found := [] } with
  | some (a, after) => some ((a, after.found), { after with found := row.found })
  | none => none

/-- Reads without recording what is met. -/
def unrecorded (reading : Reading α) : Reading α := do return (← gathered reading).1

/-- The trees taken since a row, as written. What has been met since then does not count. -/
def writtenSince (start : Row) : Reading (List TokenTree) := fun row =>
  some (start.trees.take (start.trees.length - row.trees.length),
    { row with found := start.found })

/-- The tokens that a reader gives, or the trees that it takes, as written, if it gives none. -/
def orWritten (reading : Reading (Option (List TokenTree))) : Reading (List TokenTree) := do
  let start ← get
  match ← reading with
  | some tokens => return tokens
  | none => writtenSince start

end Reading

end Entrypoint
