import Entrypoint.Proofs.Results

/-! Lists with further items between the items of another list. The items of the other list keep
their order. What is read or gathered from such lists item by item is interspersed again. -/

namespace Entrypoint

/-- The second list has the items of the first, and further ones with a property between them. -/
inductive Interspersed {α : Type} (P : α → Prop) : List α → List α → Prop
  | nil : Interspersed P [] []
  | keep (a : α) {list list' : List α} : Interspersed P list list' →
    Interspersed P (a :: list) (a :: list')
  | more {a : α} {list list' : List α} (h : P a) : Interspersed P list list' →
    Interspersed P list (a :: list')

namespace Interspersed

variable {α β ε : Type} {P : α → Prop} {Q : β → Prop} {list list' : List α}

theorem of_filter {p : α → Bool} (h : ∀ a ∈ list, p a = false → P a) :
    Interspersed P (list.filter p) list := by
  induction list with
  | nil => exact .nil
  | cons a list ih =>
    obtain ⟨ha, hlist⟩ := List.forall_mem_cons.mp h
    cases hp : p a with
    | true =>
      rw [List.filter_cons_of_pos hp]
      exact .keep a (ih hlist)
    | false =>
      rw [List.filter_cons_of_neg (by simp [hp])]
      exact .more (ha hp) (ih hlist)

theorem imp {Q : α → Prop} (H : Interspersed P list list') (h : ∀ a, P a → Q a) :
    Interspersed Q list list' := by
  induction H with
  | nil => exact .nil
  | keep a _ ih => exact .keep a ih
  | more ha _ ih => exact .more (h _ ha) ih

theorem map {f : α → β} (H : Interspersed P list list') (h : ∀ a, P a → Q (f a)) :
    Interspersed Q (list.map f) (list'.map f) := by
  induction H with
  | nil => exact .nil
  | keep a _ ih => exact .keep (f a) ih
  | more ha _ ih => exact .more (h _ ha) ih

theorem append_left {before rest : List β} (H : Interspersed Q rest before) (front : List β) :
    Interspersed Q (front ++ rest) (front ++ before) := by
  induction front with
  | nil => exact H
  | cons b front ih => exact .keep b ih

theorem append_more {rest rest' : List β} (H : Interspersed Q rest rest') {more : List β}
    (h : ∀ b ∈ more, Q b) : Interspersed Q rest (more ++ rest') := by
  induction more with
  | nil => exact H
  | cons b more ih =>
    obtain ⟨hb, hmore⟩ := List.forall_mem_cons.mp h
    exact .more hb (ih hmore)

theorem of_forall (h : ∀ a ∈ list, P a) : Interspersed P [] list := by
  have H : Interspersed P [] (list ++ []) := append_more .nil h
  rwa [List.append_nil] at H

theorem flatMap {f : α → List β} (H : Interspersed P list list')
    (h : ∀ a, P a → ∀ b ∈ f a, Q b) : Interspersed Q (list.flatMap f) (list'.flatMap f) := by
  induction H with
  | nil => exact .nil
  | keep a _ ih =>
    rw [List.flatMap_cons, List.flatMap_cons]
    exact ih.append_left _
  | more ha _ ih =>
    rw [List.flatMap_cons]
    exact ih.append_more (h _ ha)

/-- Further items that are read make no difference to whether a list is read. -/
theorem mapM {f f' : α → Except ε β} (H : Interspersed P list list')
    (hkeep : ∀ a ∈ list, f' a = f a) (hmore : ∀ a, P a → ∃ b, f' a = .ok b ∧ Q b) :
    (∃ e, list.mapM f = .error e ∧ list'.mapM f' = .error e) ∨
      ∃ results results', list.mapM f = .ok results ∧ list'.mapM f' = .ok results' ∧
        Interspersed Q results results' := by
  induction H with
  | nil => exact .inr ⟨[], [], rfl, rfl, .nil⟩
  | keep a _ ih =>
    obtain ⟨ha, hkeep⟩ := List.forall_mem_cons.mp hkeep
    rw [List.mapM_cons, List.mapM_cons, ha]
    cases hfirst : f a with
    | error e => exact .inl ⟨e, rfl, rfl⟩
    | ok b =>
      obtain ⟨e, hlist, hlist'⟩ | ⟨results, results', hlist, hlist', H⟩ := ih hkeep
      · exact .inl ⟨e, by rw [hlist]; rfl, by rw [hlist']; rfl⟩
      · exact .inr ⟨b :: results, b :: results', by rw [hlist]; rfl, by rw [hlist']; rfl, .keep b H⟩
  | more ha _ ih =>
    obtain ⟨b, hb, hQ⟩ := hmore _ ha
    rw [List.mapM_cons, hb]
    obtain ⟨e, hlist, hlist'⟩ | ⟨results, results', hlist, hlist', H⟩ := ih hkeep
    · exact .inl ⟨e, hlist, by rw [hlist']; rfl⟩
    · exact .inr ⟨results, b :: results', hlist, by rw [hlist']; rfl, .more hQ H⟩

end Interspersed

end Entrypoint
