import Entrypoint.Json.Input

/-! Reading JSON strings. Controls must be escaped, an escaped surrogate needs its partner, and the
text may hold no stray bytes. -/

namespace Entrypoint.JsonReading

/-- The value of four digits in base sixteen. -/
def fourDigits? : List Symbol → Option Nat
  | [.char a, .char b, .char c, .char d] => do
    let a ← Text.Quoted.hexValue? a
    let b ← Text.Quoted.hexValue? b
    let c ← Text.Quoted.hexValue? c
    let d ← Text.Quoted.hexValue? d
    return ((a * 16 + b) * 16 + c) * 16 + d
  | _ => none

/-- Takes the four digits of an escape. With fewer than four bytes to come the text has ended. -/
def escapeDigits : JsonReading Nat := do
  let rest ← get
  if Symbol.size (rest.take 4) < 4 then fault .ended
  match fourDigits? (rest.take 4) with
  | some n =>
    modify (·.drop 4)
    return n
  | none => fault .malformed

/-- Takes a given character, or faults. -/
def exactly (c : Char) : JsonReading Unit := do
  match ← get with
  | [] => fault .ended
  | s :: _ =>
    skip
    unless s = .char c do fault .malformed

/-- A unit that leads a pair, and one that ends it. -/
def isHigh (n : Nat) : Bool := 0xd800 ≤ n && n ≤ 0xdbff

/-- A unit that ends a pair. -/
def isLow (n : Nat) : Bool := 0xdc00 ≤ n && n ≤ 0xdfff

/-- Takes a character written by its code, after the letter. Two units make one character beyond
the first plane. -/
def coded : JsonReading Char := do
  let n ← escapeDigits
  if isLow n then fault .malformed
  else if isHigh n then
    exactly '\\'
    exactly 'u'
    let n' ← escapeDigits
    if isLow n' then return Char.ofNat ((n - 0xd800) * 0x400 + (n' - 0xdc00) + 0x10000)
    else fault .malformed
  else return Char.ofNat n

/-- The character that a single letter after a backslash stands for. -/
def shortEscape? : Char → Option Char
  | '"' => some '"'
  | '\\' => some '\\'
  | '/' => some '/'
  | 'b' => some '\x08'
  | 'f' => some '\x0c'
  | 'n' => some '\n'
  | 'r' => some '\r'
  | 't' => some '\t'
  | _ => none

/-- Takes an escape after its backslash. -/
def escaped : JsonReading Char := do
  match ← get with
  | [] => fault .ended
  | .stray :: _ => fault .malformed
  | .char c :: _ =>
    skip
    if c = 'u' then coded
    else match shortEscape? c with
      | some d => return d
      | none => fault .malformed

/-- Takes the inside of a string and its closing quote. The fuel bounds the number of symbols. -/
def inside : Nat → JsonReading (List Symbol)
  | 0 => fault .ended
  | fuel + 1 => do
    match ← get with
    | [] => fault .ended
    | .stray :: _ =>
      skip
      return .stray :: (← inside fuel)
    | .char c :: _ =>
      skip
      if c = '"' then return []
      else if c = '\\' then
        let d ← escaped
        return .char d :: (← inside fuel)
      else if c < ' ' then fault .malformed
      else return .char c :: (← inside fuel)

/-- Takes a string after its opening quote. -/
def string : JsonReading String := do
  match Symbol.text? (← inside ((← get).length + 1)) with
  | some text => return String.ofList text
  | none => fault .malformed

/-- Takes a string whose text does not matter: strays and lone surrogates may stand in it. -/
def ignoreInside : Nat → JsonReading Unit
  | 0 => fault .ended
  | fuel + 1 => do
    match ← get with
    | [] => fault .ended
    | .stray :: _ =>
      skip
      ignoreInside fuel
    | .char c :: _ =>
      skip
      if c = '"' then return
      else if c = '\\' then
        match ← get with
        | .char 'u' :: _ =>
          skip
          let _ ← escapeDigits
        | _ =>
          let _ ← escaped
        ignoreInside fuel
      else if c < ' ' then fault .malformed
      else ignoreInside fuel

/-- Takes a string after its opening quote and drops it. -/
def ignoreString : JsonReading Unit := do ignoreInside ((← get).length + 1)

end Entrypoint.JsonReading
