import Entrypoint.Source.Expression.Operand

/-! Reading statements. A statement is a binding, a declaration, a macro call in braces or an
expression. A semicolon has to part two statements unless the first ends by itself. -/

namespace Entrypoint

/-- A statement, and whether a further one may follow it directly. -/
structure WrittenStatement where
  tokens : List TokenTree
  endsItself : Bool

namespace Grammar

open Reading

/-- What follows the path of a macro, if a row begins with such a path and its mark. -/
def afterCallMark? (trees : List TokenTree) : Option (List TokenTree) :=
  match wordPath.run ⟨trees, []⟩ with
  | some (_, after) => if Ahead.punct "!" after.trees then some (Ahead.skip after.trees) else none
  | none => none

/-- A call of a macro that declares a name comes next. -/
def declaringCallBegins : Ahead := fun trees =>
  (afterCallMark? trees).any (Ahead.any [.ident, .word "try"])

/-- A call of a macro in braces comes next, and nothing is selected from it. -/
def bracedCallBegins : Ahead := fun trees =>
  (afterCallMark? trees).any (Ahead.both (.group .brace)
    (.not (.second (.any [.singlePoint, .punct "?"]))))

/-- A declaration, after its attributes, comes next, and not an expression. -/
def declarationBegins : Ahead :=
  .any [.wordOf ["pub", "extern", "use", "fn", "mod", "type", "struct", "enum", "trait", "impl",
      "macro"],
    .both (.word "crate") (.not (.second (.punct "::"))),
    .both (.word "static") (.second (.any [.word "mut", .ident])),
    .both (.word "const") (.not (.any [
      .second (.any [.group .brace, .wordOf ["static", "move"], .punct "|"]),
      .both (.second (.word "async"))
        (.not (.third (.wordOf ["unsafe", "extern", "fn"])))])),
    .both (.word "unsafe") (.not (.second (.group .brace))),
    .both (.word "async") (.second (.wordOf ["unsafe", "extern", "fn"])),
    .both (.word "union") (.second .ident),
    .both (.word "auto") (.second (.word "trait")),
    .both (.word "default") (.second (.wordOf ["unsafe", "impl"])),
    declaringCallBegins]

/-- A binding, after its attributes. Where its value ends with a brace, no other branch follows. -/
def binding (g : Grammar) : Reading (List TokenTree) := do
  let keyword ← word "let"
  let pattern ← g.pattern
  let type ← if ← sees (.punct ":") then pure ((← punct ":") ++ (← g.typeTokens)) else pure []
  let value ← if ← sees (.punct "=") then do
      let equals ← punct "="
      let value ← g.expression true
      let other ← if !value.endsWithBrace && (← sees (.word "else")) then
          pure ((← word "else") ++ (← g.block))
        else pure []
      pure (equals ++ value.tokens ++ other)
    else pure []
  return keyword ++ pattern.tokens ++ type ++ value ++ (← punct ";")

/-- A statement that is not a declaration, after its attributes. -/
def plainStatement (g : Grammar) (attributes : List TokenTree) (met : List Item) :
    Reading WrittenStatement := do
  if ← sees bracedCallBegins then
    record met
    let path ← wordPath
    let bang ← punct "!"
    let body ← anyGroup
    return ⟨attributes ++ path ++ bang ++ body ++ (← punctIfAny ";"), true⟩
  else if ← sees (.word "let") then
    record met
    return ⟨attributes ++ (← g.binding), true⟩
  else
    let (value, metInValue) ← gathered g.leading
    record (if value.takesAttributes then met ++ metInValue else metInValue)
    let semicolon ← punctIfAny ";"
    return ⟨(if value.takesAttributes then attributes else []) ++ value.tokens ++ semicolon,
      !semicolon.isEmpty || !value.needsSemicolon⟩

/-- A statement. -/
def statement (g : Grammar) : Reading WrittenStatement := do
  let start ← get
  let (attributes, met) ← gathered g.outerAttributes
  let here ← trees
  if !bracedCallBegins here && declarationBegins here then
    set start
    return ⟨← g.item, true⟩
  else g.plainStatement attributes met

/-- Statements up to the end. The fuel bounds their number. -/
def statementsFrom (g : Grammar) : Nat → Reading (List TokenTree)
  | 0 => failure
  | fuel + 1 => do
    if ← sees .atEnd then return []
    if ← sees (.punct ";") then
      let semicolon ← punct ";"
      return semicolon ++ (← statementsFrom g fuel)
    let first ← g.statement
    if first.endsItself || (← sees .atEnd) then return first.tokens ++ (← statementsFrom g fuel)
    else failure

/-- Statements up to the end. -/
def statementsWith (g : Grammar) : Reading (List TokenTree) := do g.statementsFrom (← room)

end Grammar

end Entrypoint
