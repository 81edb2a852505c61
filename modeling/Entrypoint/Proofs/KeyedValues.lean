import Entrypoint.Keyed

/-! Values by key, with increasing keys. Two such lists that give every key the same value are one
list, so what becomes of entries that are put one after the other is said by values alone: a key has
the value of the last entry that has the key. -/

namespace Entrypoint.Keyed

variable {α : Type} {key key' : String} {value : α} {entry : String × α} {keyed other : Keyed α}
  {entries more : List (String × α)}

/-! ### Entries with distinct keys -/

theorem put_perm (h : key ∉ keyed.map Prod.fst) (value : α) :
    (put key value keyed).Perm ((key, value) :: keyed) := by
  induction keyed with
  | nil => exact .refl _
  | cons entry keyed ih =>
    obtain ⟨hne, h⟩ := not_or.mp fun hmem => h (List.mem_cons.mpr hmem)
    rw [put]
    split
    · exact .refl _
    · exact ((ih h).cons entry).trans (.swap _ _ _)

theorem foldl_put_perm (h : ((keyed ++ entries).map Prod.fst).Nodup) :
    (entries.foldl (fun keyed entry => put entry.1 entry.2 keyed) keyed).Perm (keyed ++ entries) := by
  induction entries generalizing keyed with
  | nil => rw [List.append_nil]; exact .refl _
  | cons entry entries ih =>
    have hperm : (put entry.1 entry.2 keyed ++ entries).Perm (keyed ++ entry :: entries) := by
      refine .trans (.append_right _ (put_perm ?_ _)) List.perm_middle.symm
      rw [List.map_append, List.nodup_append] at h
      exact fun hmem => h.2.2 _ hmem _ List.mem_cons_self rfl
    exact (ih (((hperm.map _).nodup_iff).mpr h)).trans hperm

/-- Entries with distinct keys are all kept. -/
theorem ofEntries_perm (h : (entries.map Prod.fst).Nodup) : (ofEntries entries).Perm entries := by
  have hperm := foldl_put_perm (α := α) (List.nil_append entries ▸ h)
  rwa [List.nil_append] at hperm

/-! ### Increasing keys -/

/-- Each key is less than those behind it. -/
def Ordered (keyed : Keyed α) : Prop := keyed.Pairwise fun entry entry' => entry.1 < entry'.1

theorem eq_or_mem_of_mem_put (h : entry ∈ put key value keyed) :
    entry = (key, value) ∨ entry ∈ keyed := by
  induction keyed with
  | nil => exact .inl (List.mem_singleton.mp h)
  | cons first keyed ih =>
    rw [put] at h
    split at h
    · exact List.mem_cons.mp h
    split at h
    · exact (List.mem_cons.mp h).imp_right (List.mem_cons_of_mem _)
    · rcases List.mem_cons.mp h with rfl | h
      · exact .inr List.mem_cons_self
      · exact (ih h).imp_right (List.mem_cons_of_mem _)

theorem Ordered.put (h : Ordered keyed) (key : String) (value : α) :
    Ordered (Keyed.put key value keyed) := by
  induction keyed with
  | nil => exact List.pairwise_singleton _ _
  | cons first keyed ih =>
    obtain ⟨hfirst, hrest⟩ := List.pairwise_cons.mp h
    obtain ⟨key', value'⟩ := first
    rw [Keyed.put]
    split
    · rename_i hless
      refine List.pairwise_cons.mpr ⟨fun entry hentry => ?_, h⟩
      rcases List.mem_cons.mp hentry with rfl | hentry
      · exact hless
      · exact String.lt_trans hless (hfirst entry hentry)
    split
    · rename_i heq
      exact List.pairwise_cons.mpr ⟨fun entry hentry => heq ▸ hfirst entry hentry, hrest⟩
    · rename_i hless hne
      refine List.pairwise_cons.mpr ⟨fun entry hentry => ?_, ih hrest⟩
      rcases eq_or_mem_of_mem_put hentry with rfl | hentry
      · exact Std.lt_of_le_of_ne (String.not_lt.mp hless) (Ne.symm hne)
      · exact hfirst entry hentry

theorem Ordered.foldl_put (h : Ordered keyed) (entries : List (String × α)) :
    Ordered (entries.foldl (fun keyed entry => Keyed.put entry.1 entry.2 keyed) keyed) := by
  induction entries generalizing keyed with
  | nil => exact h
  | cons entry entries ih => exact ih (h.put entry.1 entry.2)

theorem ordered_ofEntries (entries : List (String × α)) : Ordered (ofEntries entries) :=
  Ordered.foldl_put List.Pairwise.nil entries

theorem value?_cons (entry : String × α) (keyed : Keyed α) (key : String) :
    value? (entry :: keyed) key = if key = entry.1 then some entry.2 else value? keyed key := by
  rw [value?, List.lookup_cons]
  by_cases h : key = entry.1
  · rw [if_pos h, beq_iff_eq.mpr h]
  · rw [if_neg h, beq_false_of_ne h]
    rfl

theorem value?_eq_none (h : ∀ entry ∈ keyed, key < entry.1) : value? keyed key = none := by
  induction keyed with
  | nil => rfl
  | cons entry keyed ih =>
    obtain ⟨hentry, h⟩ := List.forall_mem_cons.mp h
    rw [value?_cons, if_neg (fun heq => String.lt_irrefl _ (heq ▸ hentry)), ih h]

/-- Lists with increasing keys and the same values are one list. -/
theorem Ordered.ext (h : Ordered keyed) (h' : Ordered other)
    (hvalues : ∀ key, value? keyed key = value? other key) : keyed = other := by
  induction keyed generalizing other with
  | nil =>
    cases other with
    | nil => rfl
    | cons entry other =>
      have hfirst := hvalues entry.1
      rw [value?_cons, if_pos rfl] at hfirst
      cases hfirst
  | cons entry keyed ih =>
    cases other with
    | nil =>
      have hfirst := hvalues entry.1
      rw [value?_cons, if_pos rfl] at hfirst
      cases hfirst
    | cons entry' other =>
      obtain ⟨hless, hrest⟩ := List.pairwise_cons.mp h
      obtain ⟨hless', hrest'⟩ := List.pairwise_cons.mp h'
      -- Were the first keys different, the lesser one would have a value in one list only.
      have hkey : entry.1 = entry'.1 := by
        refine Decidable.not_not.mp fun hne => ?_
        have hfirst := hvalues entry.1
        have hfirst' := hvalues entry'.1
        rw [value?_cons, if_pos rfl, value?_cons, if_neg hne] at hfirst
        rw [value?_cons, if_neg (Ne.symm hne), value?_cons, if_pos rfl] at hfirst'
        by_cases hlt : entry.1 < entry'.1
        · rw [value?_eq_none fun e he => String.lt_trans hlt (hless' e he)] at hfirst
          cases hfirst
        · have hgt : entry'.1 < entry.1 := Std.lt_of_le_of_ne (String.not_lt.mp hlt) (Ne.symm hne)
          rw [value?_eq_none fun e he => String.lt_trans hgt (hless e he)] at hfirst'
          cases hfirst'
      have hvalue := hvalues entry.1
      rw [value?_cons, if_pos rfl, value?_cons, if_pos hkey] at hvalue
      have hentry : entry = entry' := Prod.ext hkey (Option.some.inj hvalue)
      subst hentry
      refine congrArg (entry :: ·) (ih hrest hrest' fun key => ?_)
      by_cases heq : key = entry.1
      · rw [heq, value?_eq_none hless, value?_eq_none hless']
      · have hboth := hvalues key
        rwa [value?_cons, value?_cons, if_neg heq, if_neg heq] at hboth

/-! ### Overriding -/

/-- The values of one list, and under other keys those of another. -/
def override (keyed other : Keyed α) : Keyed α :=
  other.foldl (fun keyed entry => put entry.1 entry.2 keyed) keyed

/-- Entries that are put into a list override its values. -/
theorem value?_foldl_put (keyed : Keyed α) (entries : List (String × α)) (key : String) :
    value? (entries.foldl (fun keyed entry => put entry.1 entry.2 keyed) keyed) key =
      (value? (ofEntries entries) key).or (value? keyed key) := by
  induction entries generalizing keyed with
  | nil => rfl
  | cons entry entries ih =>
    have hentry : value? (put entry.1 entry.2 keyed) key =
        (value? (put entry.1 entry.2 []) key).or (value? keyed key) := by
      rw [value?_put, value?_put]
      split <;> rfl
    have hfirst : value? (ofEntries (entry :: entries)) key =
        (value? (ofEntries entries) key).or (value? (put entry.1 entry.2 []) key) := ih _
    rw [List.foldl_cons, ih, hentry, hfirst, Option.or_assoc]

theorem value?_ofEntries_cons (entry : String × α) (entries : List (String × α)) (key : String) :
    value? (ofEntries (entry :: entries)) key =
      (value? (ofEntries entries) key).or (if key = entry.1 then some entry.2 else none) := by
  rw [ofEntries, List.foldl_cons, value?_foldl_put, value?_put]
  rfl

theorem Ordered.value?_ofEntries (h : Ordered keyed) (key : String) :
    value? (ofEntries keyed) key = value? keyed key := by
  induction keyed with
  | nil => rfl
  | cons entry keyed ih =>
    obtain ⟨hless, hrest⟩ := List.pairwise_cons.mp h
    rw [value?_ofEntries_cons, ih hrest, value?_cons]
    split
    · rename_i heq
      rw [heq, value?_eq_none hless, Option.none_or]
    · exact Option.or_none

theorem value?_override (keyed : Keyed α) (h : Ordered other) (key : String) :
    value? (override keyed other) key = (value? other key).or (value? keyed key) := by
  rw [override, value?_foldl_put, h.value?_ofEntries]

/-- Entries behind others override what the others give. -/
theorem ofEntries_append (entries more : List (String × α)) :
    ofEntries (entries ++ more) = override (ofEntries entries) (ofEntries more) := by
  refine (ordered_ofEntries _).ext ((ordered_ofEntries _).foldl_put _) fun key => ?_
  have hover := value?_override (ofEntries entries) (ordered_ofEntries more) key
  rw [ofEntries, List.foldl_append, value?_foldl_put]
  exact hover.symm

end Entrypoint.Keyed
