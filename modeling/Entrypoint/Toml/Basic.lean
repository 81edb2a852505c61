/-! Configuration documents: tables of values by key, and the statements that a document is made of.
A table is declared by a header of its own, implied by the header of a table inside it, or made by
dotted keys; **each table is declared at most once and each key is set at most once**, and dotted
keys reach only into tables made by dotted keys. -/

namespace Entrypoint

/-- How a table came to be. -/
inductive TableOrigin
  | declared
  | implied
  | dotted
  deriving DecidableEq, Repr

/-- A value of a document. Numbers and moments of time are kept as they are written. -/
inductive Toml
  | text (value : String)
  | number (written : String)
  | boolean (value : Bool)
  | moment (written : String)
  | list (items : List Toml)
  /-- A table written as a value. -/
  | inline (entries : List (String × Toml))
  | table (origin : TableOrigin) (entries : List (String × Toml))
  /-- Tables with one header, each declared by an occurrence of it. -/
  | tables (items : List (List (String × Toml)))

/-- The entries of a table. -/
abbrev TomlEntries := List (String × Toml)

/-- A statement of a document. -/
inductive TomlStatement
  /-- Declares a table. -/
  | header (keys : List String)
  /-- Declares another table of a row. -/
  | rowHeader (keys : List String)
  /-- Sets a key of the table declared last. -/
  | setting (keys : List String) (value : Toml)

namespace Toml

/-- Puts a value in the place of a key's earlier one. -/
def replace (key : String) (value : Toml) (entries : TomlEntries) : TomlEntries :=
  entries.map fun e => if e.1 = key then (key, value) else e

/-- Changes the table that keys lead to from a table. Missing tables are made; the last table of a
row stands for the row. Dotted keys do not lead into declared tables. -/
def update (dotted : Bool) (change : TableOrigin → TomlEntries → Option TomlEntries) :
    List String → TableOrigin → TomlEntries → Option TomlEntries
  | [], origin, entries => change origin entries
  | key :: keys, _, entries =>
    match entries.lookup key with
    | none =>
      let origin := if dotted then TableOrigin.dotted else .implied
      (update dotted change keys origin []).map fun inner => entries ++ [(key, table origin inner)]
    | some (table origin inner) =>
      if dotted && origin == .declared then none
      else (update dotted change keys origin inner).map fun inner =>
        replace key (table origin inner) entries
    | some (tables items) =>
      items.getLast?.bind fun last =>
        (update dotted change keys .declared last).map fun last =>
          replace key (tables (items.dropLast ++ [last])) entries
    | some _ => none

/-- Declares a table under a key. -/
def declare (key : String) (_ : TableOrigin) (entries : TomlEntries) : Option TomlEntries :=
  match entries.lookup key with
  | none => some (entries ++ [(key, table .declared [])])
  | some (table .implied inner) => some (replace key (table .declared inner) entries)
  | some _ => none

/-- Declares another table of a row under a key. -/
def declareInRow (key : String) (_ : TableOrigin) (entries : TomlEntries) : Option TomlEntries :=
  match entries.lookup key with
  | none => some (entries ++ [(key, tables [[]])])
  | some (tables items) => some (replace key (tables (items ++ [[]])) entries)
  | some _ => none

/-- Sets a key that is not set yet. Behind dotted keys the table must be one made by them. -/
def setNew (behindKeys : Bool) (key : String) (value : Toml) (origin : TableOrigin)
    (entries : TomlEntries) : Option TomlEntries :=
  if (origin == .dotted) != behindKeys then none
  else if (entries.lookup key).isSome then none
  else some (entries ++ [(key, value)])

/-- Sets what keys lead to from a table. -/
def assign (keys : List String) (value : Toml) (origin : TableOrigin) (entries : TomlEntries) :
    Option TomlEntries :=
  keys.getLast?.bind fun key =>
    update true (setNew (!keys.dropLast.isEmpty) key value) keys.dropLast origin entries

/-- The entries of settings, as in a table written as a value. -/
def ofSettings? (settings : List (List String × Toml)) : Option TomlEntries :=
  settings.foldlM (fun entries s => assign s.1 s.2 .declared entries) []

/-- A document so far: its entries, and the keys of the table declared last. -/
structure Draft where
  entries : TomlEntries
  current : List String

/-- Takes a statement into a document. -/
def Draft.add (d : Draft) : TomlStatement → Option Draft
  | .header keys =>
    keys.getLast?.bind fun key =>
      (update false (declare key) keys.dropLast .declared d.entries).map (⟨·, keys⟩)
  | .rowHeader keys =>
    keys.getLast?.bind fun key =>
      (update false (declareInRow key) keys.dropLast .declared d.entries).map (⟨·, keys⟩)
  | .setting keys value =>
    (update false (assign keys value) d.current .declared d.entries).map (⟨·, d.current⟩)

/-- The entries of a document with the given statements. -/
def ofStatements? (statements : List TomlStatement) : Option TomlEntries :=
  (statements.foldlM Draft.add ⟨[], []⟩).map (·.entries)

end Toml

end Entrypoint
