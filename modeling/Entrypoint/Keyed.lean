/-! Values by key, in the order of the keys, one entry a key. The settings of a service are texts by
key. -/

namespace Entrypoint

/-- Values by key. -/
abbrev Keyed (α : Type) := List (String × α)

namespace Keyed

variable {α : Type}

/-- Sets a key; an earlier value is replaced. -/
def put (key : String) (value : α) : Keyed α → Keyed α
  | [] => [(key, value)]
  | (k, v) :: rest =>
    if key < k then (key, value) :: (k, v) :: rest
    else if key = k then (key, value) :: rest
    else (k, v) :: put key value rest

/-- The value of a key. -/
def value? (entries : Keyed α) (key : String) : Option α := entries.lookup key

/-- The values of entries; of two entries with one key the later counts. -/
def ofEntries (entries : List (String × α)) : Keyed α :=
  entries.foldl (fun keyed entry => put entry.1 entry.2 keyed) []

/-- A key that was put has the value put; any other key has the value it had. -/
theorem value?_put (key : String) (value : α) (key' : String) (entries : Keyed α) :
    value? (put key value entries) key' = if key' = key then some value else value? entries key' := by
  induction entries with
  | nil => grind [put, value?]
  | cons entry rest ih => grind [put, value?]

end Keyed

/-- The settings of a service. -/
abbrev Settings := Keyed String

end Entrypoint
