import Entrypoint.Text.Quoted

/-! Reading JSON text. The input is a row of characters in which a byte that belongs to no character
is kept as a stray. A reader takes symbols from the front and may fault: the text is malformed, it
ends too early, or it holds data of the wrong kind. -/

namespace Entrypoint

/-- A symbol of a request body. -/
inductive Symbol
  | char (c : Char)
  /-- A byte that is part of no character. -/
  | stray
  deriving DecidableEq, Repr

namespace Symbol

/-- The symbols of a text. -/
def ofText (text : String) : List Symbol := text.toList.map char

/-- The number of bytes of a symbol. -/
def byteSize : Symbol → Nat
  | char c => c.utf8Size
  | stray => 1

/-- The continuation bytes at the start of a row, `count` of them, appended to a code. -/
def continued? (code : Nat) : Nat → List UInt8 → Option (Nat × List UInt8)
  | 0, rest => some (code, rest)
  | count + 1, b :: rest =>
    if b &&& 0xc0 = 0x80 then continued? (code * 64 + (b &&& 0x3f).toNat) count rest else none
  | _ + 1, [] => none

/-- The length of a character from its first byte, less one, the bits of its code in that byte, and
the least code of that length. -/
def lead? (b : UInt8) : Option (Nat × Nat × Nat) :=
  if b < 0x80 then some (0, b.toNat, 0)
  else if 0xc0 ≤ b ∧ b < 0xe0 then some (1, (b &&& 0x1f).toNat, 0x80)
  else if 0xe0 ≤ b ∧ b < 0xf0 then some (2, (b &&& 0x0f).toNat, 0x800)
  else if 0xf0 ≤ b ∧ b < 0xf8 then some (3, (b &&& 0x07).toNat, 0x10000)
  else none

/-- The character at the start of a row of bytes, in its shortest form. -/
def charAt? (bytes : List UInt8) : Option (Char × List UInt8) :=
  match bytes with
  | [] => none
  | b :: rest =>
    (lead? b).bind fun (count, bits, least) =>
      (continued? bits count rest).bind fun (code, rest) =>
        if least ≤ code ∧ code.isValidChar then some (Char.ofNat code, rest) else none

/-- The symbols of a row of bytes. The fuel is the number of bytes. -/
def ofBytesFrom : Nat → List UInt8 → List Symbol
  | 0, _ | _, [] => []
  | fuel + 1, b :: rest =>
    match charAt? (b :: rest) with
    | some (c, rest) => char c :: ofBytesFrom fuel rest
    | none => stray :: ofBytesFrom fuel rest

/-- The symbols of a row of bytes. -/
def ofBytes (bytes : List UInt8) : List Symbol := ofBytesFrom bytes.length bytes

/-- The number of bytes of symbols. -/
def size : List Symbol → Nat
  | [] => 0
  | s :: rest => s.byteSize + size rest

/-- The text of symbols without strays. -/
def text? : List Symbol → Option (List Char)
  | [] => some []
  | char c :: rest => (text? rest).map (c :: ·)
  | stray :: _ => none

end Symbol

/-- Why a text does not decode. -/
inductive JsonFault
  | malformed
  | ended
  | wrongData
  deriving DecidableEq, Repr

/-- A reader of symbols. -/
abbrev JsonReading (α : Type) := StateT (List Symbol) (Except JsonFault) α

namespace JsonReading

/-- Faults. -/
def fault (f : JsonFault) : JsonReading α := throw f

/-- A blank between the parts of a JSON text. -/
def isBlank : Symbol → Bool
  | .char c => c == ' ' || c == '\n' || c == '\t' || c == '\r'
  | .stray => false

/-- The next character, if there is one that is no stray; nothing is taken. -/
def peek : JsonReading (Option Char) := do
  match ← get with
  | .char c :: _ => return some c
  | _ => return none

/-- Takes one symbol. -/
def skip : JsonReading Unit := modify (·.drop 1)

/-- Takes blanks. -/
def blanks : JsonReading Unit := modify (·.dropWhile isBlank)

/-- No symbol is left. -/
def atEnd : JsonReading Bool := do return (← get).isEmpty

/-- Takes blanks and faults at the end of the text. -/
def demand : JsonReading Unit := do
  blanks
  if ← atEnd then fault .ended

/-- Takes the given characters. -/
def literal : List Char → JsonReading Unit
  | [] => return
  | c :: rest => do
    match ← get with
    | [] => fault .ended
    | s :: _ =>
      skip
      if s = .char c then literal rest else fault .malformed

/-- Takes the digits to come. -/
def digits : JsonReading (List Char) := do
  let isDigit : Symbol → Bool := fun s => match s with
    | .char c => c.isDigit
    | .stray => false
  let taken := (← get).takeWhile isDigit
  modify (·.dropWhile isDigit)
  return (Symbol.text? taken).getD []

end JsonReading

end Entrypoint
