import Entrypoint.Proofs.Text.Trimming

/-! The words of a text. A blank cuts a text into two, and its words are those of the one part and of
the other; a text of one piece is its own only word. All else about words follows from these two. -/

namespace Entrypoint.Text

variable {c : Char} {gap gap' text word front rest : List Char} {more : List (List Char)}

theorem words_go_cons (c : Char) (rest word : List Char) : words.go (c :: rest) word =
    if isBlank c then (if word.isEmpty then words rest else word.reverse :: words rest)
    else words.go rest (c :: word) := by
  cases word <;> rfl

/-- Reading on with a word so far is reading that word and the rest. -/
theorem words_go (text : List Char) (hword : ∀ c ∈ word, isBlank c = false) :
    words.go text word = words (word.reverse ++ text) := by
  induction word generalizing text with
  | nil => rfl
  | cons c word ih =>
    obtain ⟨hc, hword⟩ := List.forall_mem_cons.mp hword
    rw [List.reverse_cons, List.append_assoc, List.singleton_append, ← ih (c :: text) hword,
      words_go_cons, if_neg (by simp [hc])]

theorem words_of_isUnbroken (h : IsUnbroken word) : words word = [word] := by
  have hblank : ∀ c ∈ word.reverse, isBlank c = false := by simpa using h.not_isBlank
  have hgo := words_go [] hblank
  rw [List.append_nil, List.reverse_reverse] at hgo
  rw [← hgo]
  cases hreverse : word.reverse with
  | nil => exact absurd (List.reverse_eq_nil_iff.mp hreverse) h.ne_nil
  | cons c front =>
    rw [List.reverse_eq_iff.mp hreverse]
    rfl

theorem words_cons_blank (hc : isBlank c = true) (text : List Char) :
    words (c :: text) = words text := by
  rw [words, words_go_cons, if_pos hc, if_pos List.isEmpty_nil]

/-- **Words split at a blank.** -/
theorem words_append_cons (hc : isBlank c = true) (front rest : List Char) :
    words (front ++ c :: rest) = words front ++ words rest := by
  have hgo : ∀ word, words.go (front ++ c :: rest) word = words.go front word ++ words rest := by
    induction front with
    | nil =>
      intro word
      rw [List.nil_append, words_go_cons, if_pos hc]
      cases word <;> rfl
    | cons d front ih =>
      intro word
      rw [List.cons_append, words_go_cons, words_go_cons]
      split
      · split
        · exact ih []
        · exact congrArg (word.reverse :: ·) (ih [])
      · exact ih (d :: word)
  exact hgo []

theorem words_append_gap (hgap : ∀ c ∈ gap, isBlank c = true) (text : List Char) :
    words (gap ++ text) = words text := by
  induction gap with
  | nil => rfl
  | cons c gap ih =>
    obtain ⟨hc, hgap⟩ := List.forall_mem_cons.mp hgap
    rw [List.cons_append, words_cons_blank hc, ih hgap]

/-- Blanks between two texts, one at least, cut them apart. -/
theorem words_append (hgap : ∀ c ∈ gap, isBlank c = true) (hne : gap ≠ []) (front rest : List Char) :
    words (front ++ gap ++ rest) = words front ++ words rest := by
  obtain ⟨c, gap, rfl⟩ := List.exists_cons_of_ne_nil hne
  obtain ⟨hc, hgap⟩ := List.forall_mem_cons.mp hgap
  rw [List.append_assoc, List.cons_append, words_append_cons hc, words_append_gap hgap]

theorem words_gap (hgap : ∀ c ∈ gap, isBlank c = true) : words gap = [] := by
  have hwords := words_append_gap hgap []
  rwa [List.append_nil] at hwords

/-- Blanks around a text make no difference to its words. -/
theorem words_surround (hgap : ∀ c ∈ gap, isBlank c = true) (hgap' : ∀ c ∈ gap', isBlank c = true)
    (text : List Char) : words (gap ++ text ++ gap') = words text := by
  rw [List.append_assoc, words_append_gap hgap]
  cases gap' with
  | nil => rw [List.append_nil]
  | cons c gap' =>
    obtain ⟨hc, hgap'⟩ := List.forall_mem_cons.mp hgap'
    rw [words_append_cons hc, words_gap hgap', List.append_nil]

theorem words_trim (text : List Char) : words (trim text) = words text := by
  obtain ⟨gap, gap', hgap, hgap', htext⟩ := exists_trim text
  exact (words_surround hgap hgap' (trim text)).symm.trans (congrArg words htext)

/-- A text of one piece, where it breaks off, is the first word. -/
theorem words_append_breaksOff (hword : IsUnbroken word) (hrest : BreaksOff rest) :
    words (word ++ rest) = word :: words rest := by
  cases rest with
  | nil => rw [List.append_nil, words_of_isUnbroken hword]; rfl
  | cons c rest =>
    have hc : isBlank c = true := hrest c rfl
    rw [words_append_cons hc, words_of_isUnbroken hword, words_cons_blank hc]
    rfl

/-- A text consists of blanks, or of blanks, a first word and what comes behind it. -/
theorem words_cases (text : List Char) : (∀ c ∈ text, isBlank c = true) ∨
    ∃ gap word rest, (∀ c ∈ gap, isBlank c = true) ∧ IsUnbroken word ∧ BreaksOff rest ∧
      text = gap ++ word ++ rest := by
  have hgap : ∀ c ∈ text.takeWhile isBlank, isBlank c = true := fun c hc => List.mem_takeWhile_imp hc
  have htext := List.takeWhile_append_dropWhile (p := isBlank) (l := text)
  cases hcore : text.dropWhile isBlank with
  | nil =>
    rw [hcore, List.append_nil] at htext
    exact .inl (htext ▸ hgap)
  | cons c core =>
    have hc : isBlank c = false := by
      have hhead := List.head?_dropWhile_not isBlank text
      rw [hcore] at hhead
      simpa using hhead
    refine .inr ⟨_, (c :: core).takeWhile (!isBlank ·), (c :: core).dropWhile (!isBlank ·),
      hgap, ⟨by simp [hc], fun d hd => by simpa using List.mem_takeWhile_imp hd⟩, ?_, ?_⟩
    · intro d hd
      have hhead := List.head?_dropWhile_not (!isBlank ·) (c :: core)
      rw [hd] at hhead
      simpa using hhead
    · rw [List.append_assoc, List.takeWhile_append_dropWhile, ← hcore, htext]

theorem words_eq_nil_iff : words text = [] ↔ ∀ c ∈ text, isBlank c = true := by
  refine ⟨fun h => (words_cases text).resolve_right ?_, words_gap⟩
  rintro ⟨gap, word, rest, hgap, hword, hrest, rfl⟩
  rw [List.append_assoc, words_append_gap hgap, words_append_breaksOff hword hrest] at h
  cases h

/-- The first word stands behind blanks, and the others are the words of what comes behind it. -/
theorem exists_of_words_eq_cons (h : words text = word :: more) :
    ∃ gap rest, (∀ c ∈ gap, isBlank c = true) ∧ IsUnbroken word ∧ BreaksOff rest ∧
      text = gap ++ word ++ rest ∧ words rest = more := by
  rcases words_cases text with hgap | ⟨gap, first, rest, hgap, hfirst, hrest, rfl⟩
  · rw [words_gap hgap] at h
    cases h
  · rw [List.append_assoc, words_append_gap hgap, words_append_breaksOff hfirst hrest] at h
    cases h
    exact ⟨gap, rest, hgap, hfirst, hrest, rfl, rfl⟩

end Entrypoint.Text
