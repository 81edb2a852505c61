import Entrypoint.Name
import Entrypoint.Source.TokenTree

/-! Types as written. Only the shapes that carry meaning here are kept apart: paths, references and
trait objects. Every other shape is the row of its tokens. Each shape has its tokens, and the text
of a type is the text of its tokens. -/

namespace Entrypoint

mutual

/-- A type as written. -/
inductive TypeExpr
  | path (path : PathExpr)
  /-- A path that leads on from a type in angle brackets, perhaps seen as a trait. -/
  | projection (self : TypeExpr) (seenAs : Option PathExpr) (parents : List Segment)
      (last : Segment)
  | reference (lifetime : Option Word) (mutable : Bool) (target : TypeExpr)
  /-- A trait object; `trailing` says that a plus ends it. -/
  | object (marked : Bool) (bounds : List Bound) (trailing : Bool)
  | other (tokens : List TokenTree)

/-- A path with at least one segment. A rooted path begins with a double colon. -/
inductive PathExpr
  | mk (rooted : Bool) (parents : List Segment) (last : Segment)

/-- A part of a path between double colons. -/
inductive Segment
  | mk (name : PathWord) (arguments : Arguments)

/-- What stands in brackets after the name of a segment. -/
inductive Arguments
  | absent
  /-- Arguments in angle brackets, marked by a double colon or not. -/
  | angle (marked : Bool) (items : List Argument) (trailing : Bool)
  /-- Arguments in round brackets, and perhaps a result. -/
  | call (tokens : List TokenTree)

/-- An argument in angle brackets. -/
inductive Argument
  | lifetime (name : Word)
  | type (type : TypeExpr)
  | other (tokens : List TokenTree)

/-- A bound of a type or a parameter. Modifiers stand before the trait. -/
inductive Bound
  | named (inParens : Bool) (modifiers : List TokenTree) (path : PathExpr)
  | lifetime (name : Word)
  /-- A trait that is marked as constant. -/
  | constant (tokens : List TokenTree)
  /-- The names that a type captures. -/
  | captures (tokens : List TokenTree)

end

open TokenTree (operator ofWord ofLifetime mark)

mutual

/-- The tokens of a type. -/
def TypeExpr.tokens : TypeExpr → List TokenTree
  | .path path => path.tokens
  | .projection self seenAs parents last =>
    mark '<' ++ self.tokens ++ PathExpr.seenAsTokens seenAs ++ mark '>' ++ operator "::" ++
      Segment.parentTokens parents ++ last.tokens
  | .reference lifetime mutable target =>
    mark '&' ++ (lifetime.map ofLifetime).getD [] ++ (if mutable then ofWord "mut" else []) ++
      target.tokens
  | .object marked bounds trailing =>
    (if marked then ofWord "dyn" else []) ++ Bound.allTokens bounds trailing
  | .other tokens => tokens

/-- The tokens of the trait in a projection. -/
def PathExpr.seenAsTokens : Option PathExpr → List TokenTree
  | none => []
  | some path => ofWord "as" ++ path.tokens

/-- The tokens of a path. -/
def PathExpr.tokens : PathExpr → List TokenTree
  | .mk rooted parents last =>
    (if rooted then operator "::" else []) ++ Segment.parentTokens parents ++ last.tokens

/-- The tokens of segments, each with a double colon after it. -/
def Segment.parentTokens : List Segment → List TokenTree
  | [] => []
  | segment :: rest => segment.tokens ++ operator "::" ++ Segment.parentTokens rest

/-- The tokens of a segment. -/
def Segment.tokens : Segment → List TokenTree
  | .mk name arguments => .word name.word :: arguments.tokens

/-- The tokens of the arguments of a segment. -/
def Arguments.tokens : Arguments → List TokenTree
  | .absent => []
  | .angle marked items trailing =>
    (if marked then operator "::" else []) ++ mark '<' ++
      TokenTree.markedFirst (Argument.allTokens items) trailing ++ mark '>'
  | .call tokens => tokens

/-- The tokens of arguments, each with whether it is a lifetime. -/
def Argument.allTokens : List Argument → List (Bool × List TokenTree)
  | [] => []
  | argument :: rest => (argument.isLifetime, argument.tokens) :: Argument.allTokens rest

/-- The argument is a lifetime. -/
def Argument.isLifetime : Argument → Bool
  | .lifetime _ => true
  | _ => false

/-- The tokens of an argument. -/
def Argument.tokens : Argument → List TokenTree
  | .lifetime name => ofLifetime name
  | .type type => type.tokens
  | .other tokens => tokens

/-- The tokens of bounds with a plus between two. -/
def Bound.allTokens : List Bound → Bool → List TokenTree
  | [], _ => []
  | bound :: rest, trailing =>
    bound.tokens ++ (if !rest.isEmpty || trailing then mark '+' else []) ++
      Bound.allTokens rest trailing

/-- The tokens of a bound. -/
def Bound.tokens : Bound → List TokenTree
  | .named inParens modifiers path =>
    if inParens then [.group .paren (modifiers ++ path.tokens)] else modifiers ++ path.tokens
  | .lifetime name => ofLifetime name
  | .constant tokens => tokens
  | .captures tokens => tokens

end

namespace Segment

/-- The name of a segment. -/
def name : Segment → PathWord
  | mk name _ => name

/-- What stands in brackets after the name. -/
def arguments : Segment → Arguments
  | mk _ arguments => arguments

/-- The segment is its name alone. -/
def isPlain (segment : Segment) : Bool :=
  match segment.arguments with
  | .absent => true
  | _ => false

/-- The segment has no arguments, though it may have brackets for them. -/
def isBare (segment : Segment) : Bool :=
  match segment.arguments with
  | .absent | .angle _ [] _ => true
  | _ => false

end Segment

namespace PathExpr

/-- The path begins with a double colon. -/
def rooted : PathExpr → Bool
  | mk rooted _ _ => rooted

/-- The segments before the last. -/
def parents : PathExpr → List Segment
  | mk _ parents _ => parents

/-- The last segment. -/
def last : PathExpr → Segment
  | mk _ _ last => last

/-- All segments. -/
def segments (path : PathExpr) : List Segment := path.parents ++ [path.last]

/-- No segment has arguments. -/
def isPlain (path : PathExpr) : Bool := path.segments.all (·.isPlain)

/-- The path of a single name. -/
def ofName (name : PathWord) : PathExpr := mk false [] (.mk name .absent)

/-- The name that a path without arguments writes. -/
def writtenName? (path : PathExpr) : Option WrittenName :=
  if path.isPlain then
    let name := path.last.name.text
    let scope := "::".intercalate (path.parents.map (·.name.text))
    if path.rooted then some (.qualified ("::" ++ scope) name)
    else if path.parents.isEmpty then some (.bare name)
    else some (.qualified scope name)
  else none

end PathExpr

namespace TypeExpr

/-- The text of a type. -/
def text (type : TypeExpr) : String := TokenTree.textAll type.tokens

/-- The name that a type writes, if it is a plain path. -/
def writtenName? : TypeExpr → Option WrittenName
  | path p => p.writtenName?
  | _ => none

/-- The last segment of a type that is a path. -/
def lastSegment? : TypeExpr → Option Segment
  | path p => some p.last
  | projection _ _ _ last => some last
  | _ => none

/-- The last name of a type that is a path. -/
def lastName? (type : TypeExpr) : Option String := type.lastSegment?.map (·.name.text)

/-- The type arguments among arguments. -/
def ofArguments : List Argument → List TypeExpr
  | [] => []
  | .type type :: rest => type :: ofArguments rest
  | _ :: rest => ofArguments rest

/-- The type arguments of a type whose last name is the given one. -/
def argumentsOf? (name : String) (type : TypeExpr) : Option (List TypeExpr) :=
  match type.lastSegment? with
  | none => none
  | some segment =>
    if segment.name.text = name then
      match segment.arguments with
      | .angle _ items _ => some (ofArguments items)
      | _ => some []
    else none

end TypeExpr

end Entrypoint
