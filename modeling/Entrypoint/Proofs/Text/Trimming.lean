import Entrypoint.Text.Split
import Mathlib.Data.List.TakeWhile

/-! Blanks around a text and between its parts. A gap is a row of blanks on one line; a text without
blanks is unbroken. Trimming takes gaps away and nothing else, and the lines of a text are cut at line
feeds, so a text of several lines is read line by line. -/

namespace Entrypoint.Text

variable {gap gap' text core rest : List Char}

/-- Blanks on one line. -/
def IsGap (text : List Char) : Prop := ∀ c ∈ text, isBlank c = true ∧ c ≠ '\n'

/-- A text of one piece: it has characters, and none of them is a blank. -/
structure IsUnbroken (text : List Char) : Prop where
  ne_nil : text ≠ []
  not_isBlank : ∀ c ∈ text, isBlank c = false

/-- No blank stands at either end of a text. -/
structure IsTrimmed (text : List Char) : Prop where
  head : ∀ c ∈ text.head?, isBlank c = false
  last : ∀ c ∈ text.getLast?, isBlank c = false

/-- The text is empty or goes on with a blank. -/
def BreaksOff (text : List Char) : Prop := ∀ c ∈ text.head?, isBlank c = true

instance : Decidable (IsGap text) :=
  decidable_of_iff (text.all (fun c => isBlank c && c != '\n') = true) (by simp [IsGap])

instance : Decidable (IsUnbroken text) :=
  decidable_of_iff (text ≠ [] ∧ text.all (!isBlank ·) = true)
    ⟨fun h => ⟨h.1, by simpa using h.2⟩, fun h => ⟨h.1, by simpa using h.2⟩⟩

instance : Decidable (IsTrimmed text) :=
  decidable_of_iff (text.head?.all (!isBlank ·) = true ∧ text.getLast?.all (!isBlank ·) = true)
    ⟨fun h => ⟨by simpa [Option.all_eq_true] using h.1, by simpa [Option.all_eq_true] using h.2⟩,
      fun h => by simpa [Option.all_eq_true] using And.intro h.head h.last⟩

theorem IsGap.isBlank (h : IsGap gap) : ∀ c ∈ gap, isBlank c = true := fun c hc => (h c hc).1

theorem IsGap.notMem (h : IsGap gap) : '\n' ∉ gap := fun hmem => (h _ hmem).2 rfl

theorem IsGap.breaksOff (h : IsGap gap) : BreaksOff gap := fun c hc => (h c (List.mem_of_head? hc)).1

theorem IsGap.breaksOff_append (h : IsGap gap) (hne : gap ≠ []) (text : List Char) :
    BreaksOff (gap ++ text) := by
  obtain ⟨c, gap, rfl⟩ := List.exists_cons_of_ne_nil hne
  exact fun d hd => Option.some.inj hd ▸ (h c List.mem_cons_self).1

theorem IsUnbroken.notMem (h : IsUnbroken text) : '\n' ∉ text :=
  fun hmem => Bool.false_ne_true ((h.not_isBlank _ hmem).symm.trans (by decide))

/-! ### Runs -/

theorem takeWhile_of_breaksOff (htext : ∀ c ∈ text, isBlank c = false) (hrest : BreaksOff rest) :
    (text ++ rest).takeWhile (!isBlank ·) = text := by
  rw [List.takeWhile_append_of_pos (by simpa using htext)]
  cases rest with
  | nil => exact List.append_nil _
  | cons c rest => rw [List.takeWhile_cons_of_neg (by simp [hrest c rfl]), List.append_nil]

theorem dropWhile_of_breaksOff (htext : ∀ c ∈ text, isBlank c = false) (hrest : BreaksOff rest) :
    (text ++ rest).dropWhile (!isBlank ·) = rest := by
  rw [List.dropWhile_append_of_pos (by simpa using htext)]
  cases rest with
  | nil => rfl
  | cons c rest => exact List.dropWhile_cons_of_neg (by simp [hrest c rfl])

/-! ### Trimming -/

theorem trimStart_append (h : ∀ c ∈ gap, isBlank c = true) : trimStart (gap ++ text) = trimStart text :=
  List.dropWhile_append_of_pos h

theorem trimEnd_append (h : ∀ c ∈ gap, isBlank c = true) : trimEnd (text ++ gap) = trimEnd text := by
  rw [trimEnd, List.reverse_append, List.dropWhile_append_of_pos (by simpa using h), trimEnd]

theorem trimStart_of_forall (h : ∀ c ∈ gap, isBlank c = true) : trimStart gap = [] := by
  rw [← List.append_nil gap, trimStart_append h]
  rfl

/-- Blanks around a text make no difference to what trimming leaves of it. -/
theorem trim_surround (h : ∀ c ∈ gap, isBlank c = true) (h' : ∀ c ∈ gap', isBlank c = true)
    (text : List Char) : trim (gap ++ text ++ gap') = trim text := by
  rw [List.append_assoc, trim, trim, trimStart_append h]
  by_cases hblank : ∀ c ∈ text, isBlank c = true
  · rw [trimStart_append hblank, trimStart_of_forall h', trimStart_of_forall hblank]
  · rw [trimStart, List.dropWhile_append]
    have hne : text.dropWhile isBlank ≠ [] := mt List.dropWhile_eq_nil_iff.mp hblank
    rw [if_neg (by simpa using hne), trimEnd_append h', trimStart]

/-- Trimming takes blanks away at both ends, and nothing else. -/
theorem exists_trim (text : List Char) : ∃ gap gap', (∀ c ∈ gap, isBlank c = true) ∧
    (∀ c ∈ gap', isBlank c = true) ∧ gap ++ trim text ++ gap' = text := by
  have hend : ∀ text : List Char,
      trimEnd text ++ (text.reverse.takeWhile isBlank).reverse = text := fun text => by
    rw [trimEnd, ← List.reverse_append, List.takeWhile_append_dropWhile, List.reverse_reverse]
  refine ⟨text.takeWhile isBlank, ((trimStart text).reverse.takeWhile isBlank).reverse,
    fun c hc => List.mem_takeWhile_imp hc,
    fun c hc => List.mem_takeWhile_imp (List.mem_reverse.mp hc), ?_⟩
  rw [List.append_assoc, trim, hend, trimStart, List.takeWhile_append_dropWhile]

/-- A text with other characters at both ends stays as it is. -/
theorem IsTrimmed.trim (h : IsTrimmed text) : Text.trim text = text := by
  have hstart : trimStart text = text := by
    cases text with
    | nil => rfl
    | cons c text => exact List.dropWhile_cons_of_neg (by simp [h.head c rfl])
  rw [Text.trim, hstart, trimEnd]
  cases hreverse : text.reverse with
  | nil => exact (List.reverse_eq_nil_iff.mp hreverse).symm
  | cons c front =>
    have hc : isBlank c = false := h.last c (by rw [← List.head?_reverse, hreverse]; rfl)
    rw [List.dropWhile_cons_of_neg (by simp [hc]), ← hreverse, List.reverse_reverse]

theorem IsTrimmed.nil : IsTrimmed [] := ⟨by simp, by simp⟩

theorem IsUnbroken.isTrimmed (h : IsUnbroken text) : IsTrimmed text :=
  ⟨fun c hc => h.not_isBlank c (List.mem_of_head? hc),
    fun c hc => h.not_isBlank c (List.mem_of_getLast? hc)⟩

/-- A text of one piece, anything, and a trimmed text that is not empty, are trimmed together. -/
theorem IsUnbroken.append (h : IsUnbroken text) (between : List Char) (h' : IsTrimmed core)
    (hne : core ≠ []) : IsTrimmed (text ++ between ++ core) := by
  refine ⟨fun c hc => ?_, fun c hc => ?_⟩
  · obtain ⟨first, text, rfl⟩ := List.exists_cons_of_ne_nil h.ne_nil
    cases hc
    exact h.not_isBlank c List.mem_cons_self
  · rw [List.getLast?_append, Option.or_of_isSome (by simpa using hne)] at hc
    exact h'.last c hc

end Entrypoint.Text
