import Mathlib.Data.List.Forall2

/-! Readings in sequence. A sequence gives a result exactly if each of its steps does. -/

namespace Entrypoint.Results

variable {ε α β : Type} {f : α → Except ε β} {x : Except ε α} {b : β}

theorem bind_eq_ok : (x >>= f) = .ok b ↔ ∃ a, x = .ok a ∧ f a = .ok b := by
  cases x with
  | error e => simp [bind, Except.bind]
  | ok a => simp [bind, Except.bind]

theorem bind_eq_error {e : ε} :
    (x >>= f) = .error e ↔ x = .error e ∨ ∃ a, x = .ok a ∧ f a = .error e := by
  cases x with
  | error e => simp [bind, Except.bind]
  | ok a => simp [bind, Except.bind]

theorem map_eq_ok {f : α → β} : x.map f = .ok b ↔ ∃ a, x = .ok a ∧ f a = b := by
  cases x with
  | error e => simp [Except.map]
  | ok a => simp [Except.map]

theorem map_eq_error {f : α → β} {e : ε} : x.map f = .error e ↔ x = .error e := by
  cases x with
  | error e => simp [Except.map]
  | ok a => simp [Except.map]

theorem mapError_eq_ok {ε' : Type} {f : ε → ε'} {a : α} : x.mapError f = .ok a ↔ x = .ok a := by
  cases x with
  | error e => simp [Except.mapError]
  | ok a => simp [Except.mapError]

theorem mapError_eq_error {ε' : Type} {f : ε → ε'} {e : ε'} :
    x.mapError f = .error e ↔ ∃ e', x = .error e' ∧ f e' = e := by
  cases x with
  | error e => simp [Except.mapError]
  | ok a => simp [Except.mapError]

theorem eq_ok_of_toOption {a : α} (h : x.toOption = some a) : x = .ok a := by
  cases x with
  | error e => cases h
  | ok a => exact congrArg Except.ok (Option.some.inj h)

theorem exists_of_isSome_toOption (h : x.toOption.isSome = true) : ∃ a, x = .ok a := by
  obtain ⟨a, ha⟩ := Option.isSome_iff_exists.mp h
  exact ⟨a, eq_ok_of_toOption ha⟩

/-- A list is read item by item. -/
theorem mapM_eq_ok {list : List α} {results : List β} :
    list.mapM f = .ok results ↔ List.Forall₂ (fun a b => f a = .ok b) list results := by
  induction list generalizing results with
  | nil =>
    rw [List.mapM_nil, List.forall₂_nil_left_iff]
    exact ⟨fun h => (Except.ok.inj h).symm, fun h => h ▸ rfl⟩
  | cons a list ih =>
    have hcons : (a :: list).mapM f =
        f a >>= fun b => list.mapM f >>= fun rest => pure (b :: rest) := List.mapM_cons
    simp only [hcons, bind_eq_ok, ih, List.forall₂_cons_left_iff]
    constructor
    · rintro ⟨b, hb, rest, hrest, ⟨⟩⟩
      exact ⟨b, rest, hb, hrest, rfl⟩
    · rintro ⟨b, rest, hb, hrest, rfl⟩
      exact ⟨b, hb, rest, hrest, rfl⟩

theorem mapM_congr {g : α → Except ε β} {list : List α} (h : ∀ a ∈ list, f a = g a) :
    list.mapM f = list.mapM g := by
  induction list with
  | nil => rfl
  | cons a list ih =>
    obtain ⟨ha, hlist⟩ := List.forall_mem_cons.mp h
    rw [List.mapM_cons, List.mapM_cons, ha, ih hlist]

theorem exists_of_mem_mapM {list : List α} {results : List β} (h : list.mapM f = .ok results)
    (hb : b ∈ results) : ∃ a ∈ list, f a = .ok b := by
  have hall := mapM_eq_ok.mp h
  clear h
  induction hall with
  | nil => cases hb
  | cons hhead _ ih =>
    rcases List.mem_cons.mp hb with rfl | hb
    · exact ⟨_, List.mem_cons_self, hhead⟩
    · obtain ⟨a, ha, hfa⟩ := ih hb
      exact ⟨a, List.mem_cons_of_mem _ ha, hfa⟩

theorem exists_of_mapM_mem {list : List α} {results : List β} {a : α}
    (h : list.mapM f = .ok results) (ha : a ∈ list) : ∃ b ∈ results, f a = .ok b := by
  have hall := mapM_eq_ok.mp h
  clear h
  induction hall with
  | nil => cases ha
  | cons hhead _ ih =>
    rcases List.mem_cons.mp ha with rfl | ha
    · exact ⟨_, List.mem_cons_self, hhead⟩
    · obtain ⟨b, hb, hfa⟩ := ih ha
      exact ⟨b, List.mem_cons_of_mem _ hb, hfa⟩

/-- What the results have in common with the items, they have in the same order. -/
theorem map_of_mapM {γ : Type} {list : List α} {results : List β} {g : β → γ} {k : α → γ}
    (h : list.mapM f = .ok results) (hread : ∀ a b, f a = .ok b → g b = k a) :
    results.map g = list.map k := by
  have hall := mapM_eq_ok.mp h
  clear h
  induction hall with
  | nil => rfl
  | cons hhead _ ih => rw [List.map_cons, List.map_cons, hread _ _ hhead, ih]

/-- A list of good items is read. -/
theorem exists_mapM {list : List α} (h : ∀ a ∈ list, ∃ b, f a = .ok b) :
    ∃ results, list.mapM f = .ok results := by
  induction list with
  | nil => exact ⟨[], rfl⟩
  | cons a list ih =>
    obtain ⟨⟨b, hb⟩, hlist⟩ := List.forall_mem_cons.mp h
    obtain ⟨results, hresults⟩ := ih hlist
    exact ⟨b :: results, mapM_eq_ok.mpr (.cons hb (mapM_eq_ok.mp hresults))⟩

/-- What keeps a list from being read is its first item that is not. -/
theorem exists_of_mapM_error {list : List α} {e : ε} (h : list.mapM f = .error e) :
    ∃ before a after, list = before ++ a :: after ∧ (∀ b ∈ before, ∃ result, f b = .ok result) ∧
      f a = .error e := by
  induction list with
  | nil => cases h
  | cons a list ih =>
    rw [List.mapM_cons] at h
    rcases bind_eq_error.mp h with ha | ⟨b, hb, h⟩
    · exact ⟨[], a, list, rfl, nofun, ha⟩
    · rcases bind_eq_error.mp h with h | ⟨rest, _, h⟩
      · obtain ⟨before, a', after, rfl, hbefore, ha'⟩ := ih h
        exact ⟨a :: before, a', after, rfl, List.forall_mem_cons.mpr ⟨⟨b, hb⟩, hbefore⟩, ha'⟩
      · cases h

/-- An optional item is read if there is one. -/
theorem mapM_option_eq_ok {o : Option α} {result : Option β} :
    o.mapM f = .ok result ↔
      (o = none ∧ result = none) ∨ ∃ a b, o = some a ∧ f a = .ok b ∧ result = some b := by
  cases o with
  | none =>
    have hnone : (none : Option α).mapM f = .ok none := rfl
    simp [hnone, eq_comm]
  | some a =>
    have hsome : (some a).mapM f = (f a).map some := rfl
    rw [hsome, map_eq_ok]
    simp [eq_comm]

theorem mapM_option_eq_error {o : Option α} {e : ε} :
    o.mapM f = .error e ↔ ∃ a, o = some a ∧ f a = .error e := by
  cases o with
  | none =>
    have hnone : (none : Option α).mapM f = .ok none := rfl
    simp [hnone]
  | some a =>
    have hsome : (some a).mapM f = (f a).map some := rfl
    rw [hsome, map_eq_error]
    simp

end Entrypoint.Results
