import Entrypoint.Json.Number
import Entrypoint.Json.Quotation
import Entrypoint.Keyed
import Entrypoint.Scalar

/-! Decoding request bodies to data of a given shape. A value of another kind is refused as soon as
its first part shows it. Lists, objects and records may be nested at most 127 deep. -/

namespace Entrypoint

/-- The shape of data. A record has named fields; it may also be written as a list of their values.
-/
inductive Shape
  | any
  | unit
  | boolean
  | text
  | integer (kind : IntegerKind)
  | optional (shape : Shape)
  | list (shape : Shape)
  | record (fields : List (String × Shape))

namespace Shape

open JsonReading (peek skip fault atEnd demand literal string blanks)

/-- The value of a field that is missing from a record, if it may be. -/
def missing? : Shape → Option Json
  | optional _ => some .null
  | _ => none

/-! ### Values that do not matter -/

/-- Takes list items or members until the closing bracket. `first` says that none came yet. -/
def ignoreItems (item : JsonReading Unit) (closing : Char) (first : Bool) :
    Nat → JsonReading Unit
  | 0 => fault .ended
  | fuel + 1 => do
    demand
    if (← peek) = some closing then skip
    else
      unless first do
        if (← peek) = some ',' then skip else fault .malformed
      item
      ignoreItems item closing false fuel

/-- Takes a value and drops it. The fuel bounds the nesting. -/
def ignore : Nat → JsonReading Unit
  | 0 => fault .ended
  | fuel + 1 => do
    demand
    match ← peek with
    | some 'n' => literal "null".toList
    | some 't' => literal "true".toList
    | some 'f' => literal "false".toList
    | some '"' =>
      skip
      JsonReading.ignoreString
    | some '[' =>
      skip
      ignoreItems (ignore fuel) ']' true ((← get).length + 1)
    | some '\x7b' =>
      skip
      ignoreItems (member fuel) '\x7d' true ((← get).length + 1)
    | some '-' =>
      skip
      ReadNumber.ignore
    | some c => if c.isDigit then ReadNumber.ignore else fault .malformed
    | none => fault .malformed
where
  /-- Takes a member and drops it. -/
  member (fuel : Nat) : JsonReading Unit := do
    demand
    if (← peek) = some '"' then skip else fault .malformed
    JsonReading.ignoreString
    demand
    if (← peek) = some ':' then skip else fault .malformed
    ignore fuel

/-! ### Values of a shape -/

/-- Faults at a value of the wrong kind. A malformed scalar is a fault of its own. -/
def refuse : JsonReading α := do
  match ← peek with
  | some 'n' => literal "null".toList
  | some 't' => literal "true".toList
  | some 'f' => literal "false".toList
  | some '-' =>
    skip
    let _ ← ReadNumber.read false
  | some '"' =>
    skip
    let _ ← string
  | some '[' | some '\x7b' => pure ()
  | some c =>
    if c.isDigit then
      let _ ← ReadNumber.read true
    else fault .malformed
  | none => fault .malformed
  fault .wrongData

/-- Takes a number if one comes next. -/
def number? : JsonReading (Option ReadNumber) := do
  match ← peek with
  | some '-' =>
    skip
    return some (← ReadNumber.read false)
  | some c => if c.isDigit then return some (← ReadNumber.read true) else return none
  | none => return none

/-- Whether another list item comes next; its comma is taken. -/
def moreItems (first : Bool) : JsonReading Bool := do
  demand
  match ← peek with
  | some ']' => return false
  | c =>
    if first then return true
    else if c = some ',' then
      skip
      demand
      if (← peek) = some ']' then fault .malformed else return true
    else fault .malformed

/-- Whether another member comes next; its comma and the opening quote of its key are taken. -/
def moreMembers (first : Bool) : JsonReading Bool := do
  demand
  match ← peek with
  | some '\x7d' => return false
  | c =>
    unless first do
      if c = some ',' then skip else fault .malformed
      demand
    if (← peek) = some '"' then
      skip
      return true
    else fault .malformed

/-- Takes the colon after a key. -/
def colon : JsonReading Unit := do
  demand
  if (← peek) = some ':' then skip else fault .malformed

/-- Takes a closing bracket. -/
def close (bracket : Char) : JsonReading Unit := do
  demand
  if (← peek) = some bracket then skip else fault .malformed

/-- The items of a list, and its closing bracket. -/
def items (item : JsonReading Json) (first : Bool) : Nat → JsonReading (List Json)
  | 0 => fault .ended
  | fuel + 1 => do
    if ← moreItems first then
      let value ← item
      return value :: (← items item false fuel)
    else
      close ']'
      return []

/-- The members of an object, by key, and its closing bracket. Of two members with one key the later
counts. -/
def members (value : JsonReading Json) (first : Bool) (found : Keyed Json) :
    Nat → JsonReading (Keyed Json)
  | 0 => fault .ended
  | fuel + 1 => do
    if ← moreMembers first then
      let key ← string
      colon
      let v ← value
      members value false (Keyed.put key v found) fuel
    else
      close '\x7d'
      return found

/-- The members of a record from an object; other members are dropped. A field may not come twice.
-/
def fieldMembers (decode : Shape → JsonReading Json) (fields : List (String × Shape))
    (first : Bool) (found : List (String × Json)) : Nat → JsonReading (List (String × Json))
  | 0 => fault .ended
  | fuel + 1 => do
    if ← moreMembers first then
      let key ← string
      match fields.lookup key with
      | some shape =>
        if (found.lookup key).isSome then fault .wrongData
        colon
        let v ← decode shape
        fieldMembers decode fields false ((key, v) :: found) fuel
      | none =>
        colon
        ignore ((← get).length + 1)
        fieldMembers decode fields false found fuel
    else return found

/-- The fields of a record in their order; a field that was not found may be missing. -/
def arrange (found : List (String × Json)) :
    List (String × Shape) → Except JsonFault (List (String × Json))
  | [] => .ok []
  | (name, shape) :: rest =>
    match (found.lookup name).or shape.missing? with
    | some value => (arrange found rest).map ((name, value) :: ·)
    | none => .error .wrongData

/-- The fields of a record from a list of their values. -/
def fieldItems (decode : Shape → JsonReading Json) (first : Bool) :
    List (String × Shape) → JsonReading (List (String × Json))
  | [] => return []
  | (name, shape) :: rest => do
    if ← moreItems first then
      let value ← decode shape
      return (name, value) :: (← fieldItems decode false rest)
    else fault .wrongData

/-- Takes an opening bracket. Where nothing may be nested any more, it faults. -/
def enter (nested : Option (Shape → JsonReading Json)) :
    JsonReading (Shape → JsonReading Json) := do
  match nested with
  | some decode =>
    skip
    return decode
  | none => fault .malformed

/-- Takes a value of any shape. -/
def anyValue (nested : Option (Shape → JsonReading Json)) : JsonReading Json := do
  match ← peek with
  | some 'n' =>
    literal "null".toList
    return .null
  | some 't' =>
    literal "true".toList
    return .boolean true
  | some 'f' =>
    literal "false".toList
    return .boolean false
  | some '"' =>
    skip
    return .text (← string)
  | some '[' =>
    let decode ← enter nested
    return .list (← items (decode any) true ((← get).length + 1))
  | some '\x7b' =>
    let decode ← enter nested
    return .object (← members (decode any) true [] ((← get).length + 1))
  | _ =>
    match ← number? with
    | some n => return n.toJson
    | none => fault .malformed

/-- Takes a record. -/
def recordValue (nested : Option (Shape → JsonReading Json)) (fields : List (String × Shape)) :
    JsonReading Json := do
  match ← peek with
  | some '[' =>
    let decode ← enter nested
    let found ← fieldItems decode true fields
    close ']'
    return .object found
  | some '\x7b' =>
    let decode ← enter nested
    let found ← fieldMembers decode fields true [] ((← get).length + 1)
    match arrange found fields with
    | .ok members =>
      close '\x7d'
      return .object members
    | .error f => fault f
  | _ => refuse

/-- Takes a value of a shape, given how nested values are taken. -/
def decodeWith (nested : Option (Shape → JsonReading Json)) : Shape → JsonReading Json
  | any => do
    demand
    anyValue nested
  | unit => do
    demand
    if (← peek) = some 'n' then
      literal "null".toList
      return .null
    else refuse
  | boolean => do
    demand
    match ← peek with
    | some 't' =>
      literal "true".toList
      return .boolean true
    | some 'f' =>
      literal "false".toList
      return .boolean false
    | _ => refuse
  | text => do
    demand
    if (← peek) = some '"' then
      skip
      return .text (← string)
    else refuse
  | integer kind => do
    demand
    match ← number? with
    | some (.whole value) => if kind.holds value then return .whole value else fault .wrongData
    | some (.float _) => fault .wrongData
    | none => refuse
  | optional shape => do
    blanks
    if (← peek) = some 'n' then
      literal "null".toList
      return .null
    else decodeWith nested shape
  | list shape => do
    demand
    if (← peek) = some '[' then
      let decode ← enter nested
      return .list (← items (decode shape) true ((← get).length + 1))
    else refuse
  | record fields => do
    demand
    recordValue nested fields

/-- Takes a value of a shape with at most so many levels of nesting. -/
def decode : Nat → Shape → JsonReading Json
  | 0 => decodeWith none
  | depth + 1 => decodeWith (some (decode depth))

/-- The greatest nesting of values. -/
def greatestDepth : Nat := 127

/-- A whole text of one value. -/
def document (shape : Shape) : JsonReading Json := do
  let value ← decode greatestDepth shape
  blanks
  if ← atEnd then return value else fault .malformed

/-- A blank of a body without a value. -/
def isBodyBlank : Symbol → Bool
  | .char c => c == ' ' || c == '\t' || c == '\n' || c == '\x0c' || c == '\r'
  | .stray => false

/-- The data of a body. A body of blanks stands for null. -/
def ofBody (shape : Shape) (body : List Symbol) : Except JsonFault Json :=
  let body := if body.all isBodyBlank then Symbol.ofText "null" else body
  (shape.document.run body).map (·.1)

end Shape

end Entrypoint
