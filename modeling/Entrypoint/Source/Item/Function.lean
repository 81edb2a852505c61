import Entrypoint.Source.Parameters
import Entrypoint.Source.Pattern

/-! Reading signatures. Conditions stand at the end of a signature, but declarations in them come
before those in its parameters. -/

namespace Entrypoint.Grammar

open Reading
open TokenTree (mark ofLifetime)

/-- What may stand before the keyword of a function. -/
structure FunctionMarks where
  isAsync : Bool
  /-- The function is foreign and marked as safe. -/
  isSafe : Bool
  tokens : List TokenTree

/-- What stands before the keyword of a function. -/
def functionMarks (safeAllowed : Bool) : Reading FunctionMarks := do
  let constness ← wordIfAny "const"
  let asynchrony ← wordIfAny "async"
  let unsafety ← wordIfAny "unsafe"
  let safety ← if safeAllowed && unsafety.isEmpty then wordIfAny "safe" else pure []
  let foreign ← foreignMark
  return ⟨!asynchrony.isEmpty, !safety.isEmpty,
    constness ++ asynchrony ++ unsafety ++ safety ++ foreign⟩

/-- A signature comes next. -/
def signatureBegins (safeAllowed : Bool) : Ahead := fun trees =>
  match (functionMarks safeAllowed).run ⟨trees, []⟩ with
  | some (_, after) => Ahead.word "fn" after.trees
  | none => false

/-- The receiver of a method, after its attributes. Its type is that of the implementing type, or
a reference to it, unless another type is written. -/
def receiver (g : Grammar) (attributes : List TokenTree) : Reading Receiver := do
  let selfType : TypeExpr := .path (.ofName .implementing)
  if ← sees (.punct "&") then
    let sign ← punct "&"
    let name ← lifetime?
    let mutable ← wordIfAny "mut"
    expect (.word "self")
    let self ← anyWord
    return ⟨attributes ++ sign ++ (name.map ofLifetime).getD [] ++ mutable ++ [.word self],
      .reference name (!mutable.isEmpty) selfType⟩
  else
    let mutable ← wordIfAny "mut"
    expect (.word "self")
    let self ← anyWord
    let start := attributes ++ mutable ++ [.word self]
    if ← sees (.punct ":") then
      let colon ← punct ":"
      let type ← g.type true
      return ⟨start ++ colon ++ type.tokens, type⟩
    else return ⟨start, selfType⟩

/-- A parameter of a function. -/
inductive FunctionParameter
  | receiver (receiver : Receiver)
  | typed (type : TypeExpr) (tokens : List TokenTree)
  /-- Further arguments of any number. -/
  | variadic (tokens : List TokenTree)

/-- A parameter of a function, after its attributes. A type that begins with a name and an angle
bracket may stand alone. -/
def functionParameter (g : Grammar) (attributes : List TokenTree) : Reading FunctionParameter := do
  if ← sees (.punct "...") then return .variadic (attributes ++ (← punct "..."))
  match ← attempt (g.receiver attributes) with
  | some r => return .receiver r
  | none =>
    if ← sees (.both .ident (.second (.punct "<"))) then
      let type ← g.type true
      return .typed type (attributes ++ TokenTree.ofWord "_" ++ mark ':' ++ type.tokens)
    let pattern ← g.pattern
    let start := attributes ++ pattern.tokens ++ (← punct ":")
    if ← sees (.punct "...") then return .variadic (start ++ (← punct "..."))
    let type ← g.type true
    return .typed type (start ++ type.tokens)

/-- The parameters of a function: the receiver, which comes first, the types of the others, and the
tokens. Further arguments of any number end the list. -/
def functionParameters (g : Grammar) (isFirst : Bool) : Nat →
    Reading (Option Receiver × List TypeExpr × List TokenTree)
  | 0 => failure
  | fuel + 1 => do
    if ← sees .atEnd then return (none, [], [])
    let first ← g.functionParameter (← g.outerAttributes)
    let goOn : Reading (List TypeExpr × List TokenTree) := do
      if ← sees .atEnd then return ([], [])
      let comma ← punct ","
      let (_, types, tokens) ← functionParameters g false fuel
      return (types, comma ++ tokens)
    match first with
    | .receiver r =>
      if !isFirst then failure
      let (types, tokens) ← goOn
      return (some r, types, r.tokens ++ tokens)
    | .typed type tokens =>
      let (types, further) ← goOn
      return (none, type :: types, tokens ++ further)
    | .variadic tokens => return (none, [], tokens ++ (← punctIfAny ","))

/-- A signature with its tokens, and whether it is marked as safe. -/
structure WrittenSignature where
  signature : Signature
  isSafe : Bool
  tokens : List TokenTree

/-- A signature. -/
def signature (g : Grammar) (safeAllowed : Bool) : Reading WrittenSignature := do
  let marks ← functionMarks safeAllowed
  let keyword ← word "fn"
  let name ← ident
  let parameters ← g.parameters
  let ((receiver, types, list), metInList) ← gathered do
    within (← group .paren) do g.functionParameters true (← room)
  let (result, metInResult) ← gathered (g.result? true)
  let conditions ← g.conditions
  record (metInList ++ metInResult)
  return ⟨⟨name, marks.isAsync, receiver, types, result⟩, marks.isSafe,
    marks.tokens ++ keyword ++ .word name.word :: parameters.tokens ++ .group .paren list ::
      resultTokens result ++ conditions.tokens⟩

end Entrypoint.Grammar
