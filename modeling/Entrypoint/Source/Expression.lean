import Entrypoint.Source.TokenTree
import Entrypoint.Text.Quoted
import Entrypoint.Text.Split

/-! Expressions and patterns as read. Nothing is computed with them: an expression is its tokens,
and what decides how a text may go on after it. -/

namespace Entrypoint

/-- How strongly operators bind, the loosest first. -/
inductive Precedence
  | least
  | assignment
  | range
  | or
  | and
  | comparison
  | bitOr
  | bitXor
  | bitAnd
  | shift
  | sum
  | product
  | cast
  deriving DecidableEq, Repr

/-- The place of a precedence among all. -/
def Precedence.rank : Precedence → Nat
  | least => 0
  | assignment => 1
  | range => 2
  | or => 3
  | and => 4
  | comparison => 5
  | bitOr => 6
  | bitXor => 7
  | bitAnd => 8
  | shift => 9
  | sum => 10
  | product => 11
  | cast => 12

/-- What an expression is, as far as the text after it depends on that. -/
inductive ExpressionKind
  | plain
  /-- Ends before further operators and selections. -/
  | range
  /-- Cannot be compared again. -/
  | comparison
  /-- Ends a statement or an arm by itself. -/
  | block
  /-- A macro call in braces, which ends a statement by itself. -/
  | bracedCall
  /-- Kept as written. -/
  | written
  deriving DecidableEq, Repr

/-- An expression. Attributes before it belong to its leftmost operand; where that is kept as
written, it takes none. -/
structure Expression where
  kind : ExpressionKind
  tokens : List TokenTree
  takesAttributes : Bool

namespace Expression

/-- An expression of no special kind. -/
def plain (tokens : List TokenTree) : Expression := ⟨.plain, tokens, true⟩

/-- The expression ends with a closing brace. -/
def endsWithBrace (e : Expression) : Bool :=
  match e.tokens.getLast? with
  | some (.group .brace _) => true
  | _ => false

/-- A comma has to follow the expression in an arm that is not the last. -/
def needsComma (e : Expression) : Bool := e.kind != .block

/-- A semicolon has to follow the expression as a statement that is not the last. -/
def needsSemicolon (e : Expression) : Bool := e.kind != .block && e.kind != .bracedCall

end Expression

/-! ### Positions

A field without a name is known by its position, an integer below 2^32 without a suffix. -/

namespace Expression

/-- The value of digits in a base, of which underscores are no part. -/
def digitsValue? (base : Nat) : List Char → Option Nat
  | digits => (digits.filter (· != '_')).foldl (fun value c =>
      value.bind fun v =>
        (Text.Quoted.hexValue? c).bind fun d => if d < base then some (v * base + d) else none)
    (some 0)

/-- The position that a number writes. -/
def position? (text : List Char) : Option Nat :=
  let value := match text with
    | '0' :: 'x' :: digits => digitsValue? 16 digits
    | '0' :: 'o' :: digits => digitsValue? 8 digits
    | '0' :: 'b' :: digits => digitsValue? 2 digits
    | c :: digits => if c.isDigit then digitsValue? 10 (c :: digits) else none
    | [] => none
  value.bind fun v => if v < 4294967296 then some v else none

/-- The positions that a number behind a point lists, with points between them, and whether a point
ends them. -/
def positions? (text : List Char) : Option (List Nat × Bool) :=
  let parts := Text.splitAt '.' text
  let trailing := parts.length > 1 && parts.getLast? == some []
  ((if trailing then parts.dropLast else parts).mapM position?).map (·, trailing)

end Expression

/-! ### Patterns -/

/-- What a pattern is, as far as its place matters. -/
inductive PatternKind
  | plain
  /-- A range without one of its bounds. -/
  | openRange
  /-- Kept as written. -/
  | written
  deriving DecidableEq, Repr

/-- A pattern. -/
structure Pattern where
  kind : PatternKind
  tokens : List TokenTree

end Entrypoint
