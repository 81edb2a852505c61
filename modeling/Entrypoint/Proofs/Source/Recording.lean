import Entrypoint.Source.Nesting

/-! What readers do with the declarations recorded so far. A reader records by appending and looks
at nothing recorded before, so a change of what was recorded before is carried through its run. The
instances follow the definitions: one for each way of combining readers, and one for each reader of
words and brackets. A further reader has one by unfolding it. -/

namespace Entrypoint

/-- The row with a change of what was recorded. -/
def Row.mapFound (f : List Item → List Item) (row : Row) : Row := { row with found := f row.found }

namespace Reading

variable {α β γ : Type} {f : List Item → List Item}

/-- The first reader, after a change of what was recorded, does what the second one does before
it. They differ only where they remember a row. -/
class CarriesTo (f : List Item → List Item) (r r' : Reading α) : Prop where
  run_mapFound : ∀ row : Row,
    r.run (row.mapFound f) = (r'.run row).map (Prod.map id (·.mapFound f))

/-- A reader carries a change of what was recorded through its run. -/
abbrev Carries (f : List Item → List Item) (r : Reading α) : Prop := CarriesTo f r r

/-- A change of what was recorded that leaves what is recorded after it alone. -/
class Prepends (f : List Item → List Item) : Prop where
  append : ∀ found items, f (found ++ items) = f found ++ items

instance (front : List Item) : Prepends (front ++ ·) :=
  ⟨fun found items => (List.append_assoc front found items).symm⟩

/-- A reader that carries every change records nothing. -/
theorem found_eq {r : Reading α} [H : ∀ f, Carries f r] {row after : Row} {a : α}
    (h : r.run row = some (a, after)) : after.found = row.found := by
  have hconst := (H fun _ => row.found).run_mapFound row
  change r.run row = _ at hconst
  rw [h] at hconst
  exact congrArg (fun result : α × Row => result.2.found) (Option.some.inj hconst)

/-- What a reader records comes behind what was recorded before, and does not depend on it. -/
theorem run_eq_append (r : Reading α) [H : ∀ front, Carries (front ++ ·) r] (row : Row) :
    r.run row = (r.run ⟨row.trees, []⟩).map (Prod.map id (·.mapFound (row.found ++ ·))) := by
  have h := (H row.found).run_mapFound ⟨row.trees, []⟩
  simp only [Row.mapFound, List.append_nil] at h
  exact h

/-! ### Sequences and branches -/

theorem CarriesTo.bind {x x' : Reading α} {k k' : α → Reading β} (hx : CarriesTo f x x')
    (hk : ∀ a, CarriesTo f (k a) (k' a)) : CarriesTo f (x >>= k) (x' >>= k') := by
  refine ⟨fun row => ?_⟩
  simp only [StateT.run_bind, hx.run_mapFound row]
  cases x'.run row with
  | none => rfl
  | some result => exact (hk result.1).run_mapFound result.2

theorem CarriesTo.get_bind {k k' : Row → Reading β}
    (hk : ∀ row : Row, CarriesTo f (k (row.mapFound f)) (k' row)) :
    CarriesTo f (get >>= k) (get >>= k') := ⟨fun row => (hk row).run_mapFound row⟩

instance (a : α) : Carries f (pure a) := ⟨fun _ => rfl⟩

instance : Carries f (failure : Reading α) := ⟨fun _ => rfl⟩

instance {x x' : Reading α} {k k' : α → Reading β} [hx : CarriesTo f x x']
    [hk : ∀ a, CarriesTo f (k a) (k' a)] : CarriesTo f (x >>= k) (x' >>= k') := .bind hx hk

-- A match on the value of a reader shows its branches only for a value in constructor form.
instance (priority := high) {x x' : Reading (α × β)} {k k' : α × β → Reading γ}
    [hx : CarriesTo f x x'] [hk : ∀ a b, CarriesTo f (k (a, b)) (k' (a, b))] :
    CarriesTo f (x >>= k) (x' >>= k') := .bind hx fun result => hk result.1 result.2

instance (priority := 10001) {δ : Type} {x x' : Reading (α × β × γ)}
    {k k' : α × β × γ → Reading δ} [hx : CarriesTo f x x']
    [hk : ∀ a b c, CarriesTo f (k (a, b, c)) (k' (a, b, c))] :
    CarriesTo f (x >>= k) (x' >>= k') := .bind hx fun result => hk result.1 result.2.1 result.2.2

instance (priority := high) {x x' : Reading (Option α)} {k k' : Option α → Reading β}
    [hx : CarriesTo f x x'] [hnone : CarriesTo f (k none) (k' none)]
    [hsome : ∀ a, CarriesTo f (k (some a)) (k' (some a))] : CarriesTo f (x >>= k) (x' >>= k') := by
  refine .bind hx fun result => ?_
  cases result with
  | none => exact hnone
  | some a => exact hsome a

instance (priority := high) {k k' : Row → Reading β}
    [hk : ∀ row : Row, CarriesTo f (k (row.mapFound f)) (k' row)] :
    CarriesTo f (get >>= k) (get >>= k') := .get_bind hk

instance {c : Prop} [Decidable c] {x x' y y' : Reading α} [hx : CarriesTo f x x']
    [hy : CarriesTo f y y'] : CarriesTo f (if c then x else y) (if c then x' else y') := by
  split
  · exact hx
  · exact hy

/-! ### Rows -/

instance : Carries f trees := ⟨fun _ => rfl⟩

instance : Carries f room := ⟨fun _ => rfl⟩

instance (condition : Ahead) : Carries f (sees condition) := ⟨fun _ => rfl⟩

instance (condition : Ahead) : Carries f (expect condition) := by
  unfold expect
  infer_instance

instance : Carries f tree := by
  refine ⟨fun row => ?_⟩
  obtain ⟨_ | ⟨first, rest⟩, found⟩ := row <;> rfl

instance (operator : String) : Carries f (punct operator) := by
  refine ⟨fun row => ?_⟩
  by_cases h : Ahead.punct operator row.trees = true <;> simp [punct, StateT.run, Row.mapFound, h]

instance (row : Row) : CarriesTo f (set (row.mapFound f)) (set row) := ⟨fun _ => rfl⟩

theorem run_writtenSince (start row : Row) :
    (writtenSince start).run row = some (start.trees.take (start.trees.length - row.trees.length),
      ⟨row.trees, start.found⟩) := rfl

instance (start : Row) : CarriesTo f (writtenSince (start.mapFound f)) (writtenSince start) :=
  ⟨fun _ => rfl⟩

instance [Prepends f] (items : List Item) : Carries f (record items) := by
  refine ⟨fun row => congrArg (fun found => some ((), (⟨row.trees, found⟩ : Row))) ?_⟩
  exact (Prepends.append row.found items).symm

theorem run_gathered_eq (r : Reading α) (row : Row) :
    (gathered r).run row = (r.run ⟨row.trees, []⟩).map fun result =>
      ((result.1, result.2.found), ⟨result.2.trees, row.found⟩) := by
  simp only [StateT.run, gathered]
  cases r ⟨row.trees, []⟩ <;> rfl

-- What the reader meets is taken from the row again, so no condition on the reader is needed.
instance (r : Reading α) : Carries f (gathered r) := by
  refine ⟨fun row => ?_⟩
  rw [run_gathered_eq, run_gathered_eq, Option.map_map]
  rfl

instance (r : Reading α) : Carries f (unrecorded r) := by
  unfold unrecorded
  infer_instance

/-! ### Combinations -/

theorem run_within_eq (body : List TokenTree) (r : Reading α) (row : Row) :
    (within body r).run row = (r.run ⟨body, row.found⟩).bind fun result =>
      if result.2.trees.isEmpty then some (result.1, ⟨row.trees, result.2.found⟩) else none := by
  simp only [StateT.run, within]
  cases r ⟨body, row.found⟩ <;> rfl

instance (body : List TokenTree) (r : Reading α) [H : Carries f r] : Carries f (within body r) := by
  refine ⟨fun row => ?_⟩
  rw [run_within_eq, run_within_eq]
  have hbody := H.run_mapFound ⟨body, row.found⟩
  simp only [Row.mapFound] at hbody ⊢
  rw [hbody]
  cases r.run ⟨body, row.found⟩ with
  | none => rfl
  | some result =>
    obtain ⟨a, rest, found⟩ := result
    cases rest <;> rfl

instance (r : Reading α) [H : Carries f r] : Carries f (attempt r) := by
  refine ⟨fun row => ?_⟩
  have hrow := H.run_mapFound row
  simp only [StateT.run, attempt] at hrow ⊢
  rw [hrow]
  cases r row <;> rfl

instance (r : Reading (Option (List TokenTree))) [Carries f r] : Carries f (orWritten r) := by
  unfold orWritten
  infer_instance

instance (stop : Ahead) (item : Reading α) [Carries f item] (fuel : Nat) :
    Carries f (many stop item fuel) := by
  induction fuel with
  | zero => exact inferInstanceAs (Carries f failure)
  | succ fuel ih =>
    unfold many
    infer_instance

instance (operator : String) : Carries f (punct? operator) := by
  unfold punct?
  infer_instance

instance (operator : String) : Carries f (punctIfAny operator) := by
  unfold punctIfAny
  infer_instance

instance (separator : String) (stop : Ahead) (item : Reading α) [Carries f item] (fuel : Nat) :
    Carries f (separated separator stop item fuel) := by
  induction fuel with
  | zero => exact inferInstanceAs (Carries f failure)
  | succ fuel ih =>
    unfold separated
    infer_instance

instance (separator : String) (begins : Ahead) (item : Reading α) [Carries f item] (fuel : Nat) :
    Carries f (joined separator begins item fuel) := by
  induction fuel with
  | zero => exact inferInstanceAs (Carries f failure)
  | succ fuel ih =>
    unfold joined
    infer_instance

instance (separator : String) (stop : Ahead) (item : Reading (List TokenTree)) [Carries f item] :
    Carries f (listed separator stop item) := by
  unfold listed
  infer_instance

instance (item : Reading (List TokenTree)) [Carries f item] : Carries f (commas item) := by
  unfold commas
  infer_instance

/-! ### Words and brackets -/

instance (delimiter : Delimiter) : Carries f (group delimiter) := by
  unfold group
  refine .bind inferInstance fun first => ?_
  split <;> infer_instance

instance : Carries f anyGroup := by
  unfold anyGroup
  refine .bind inferInstance fun first => ?_
  split <;> infer_instance

instance (delimiter : Delimiter) (r : Reading (List TokenTree)) [Carries f r] :
    Carries f (grouped delimiter r) := by
  unfold grouped
  infer_instance

instance : Carries f anyWord := by
  unfold anyWord
  refine .bind inferInstance fun first => ?_
  split <;> infer_instance

instance (text : String) : Carries f (word text) := by
  unfold word
  infer_instance

instance (text : String) : Carries f (word? text) := by
  unfold word?
  infer_instance

instance (text : String) : Carries f (wordIfAny text) := by
  unfold wordIfAny
  infer_instance

instance : Carries f ident := by
  unfold ident
  refine .bind inferInstance fun word => ?_
  split <;> infer_instance

instance (texts : List String) : Carries f (identOr texts) := by
  unfold identOr
  infer_instance

instance (texts : List String) : Carries f (nameOr texts) := by
  unfold nameOr
  refine .bind inferInstance fun word => ?_
  split <;> infer_instance

instance : Carries f lifetime := by
  unfold lifetime
  infer_instance

instance : Carries f lifetime? := by
  unfold lifetime?
  infer_instance

instance : Carries f literal := by
  unfold literal
  refine .bind inferInstance fun _ => .bind inferInstance fun first => ?_
  split <;> infer_instance

end Reading

end Entrypoint
