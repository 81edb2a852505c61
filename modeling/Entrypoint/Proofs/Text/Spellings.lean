import Entrypoint.Text.CamelCase
import Mathlib.Data.List.Basic

/-! Spellings of a row of words. A name may put marks between its words or begin them with capitals,
and it may be written in small letters or in capitals throughout. The words read off any of these are
the words themselves up to case, so all spellings have the same name in lower camel case. -/

namespace Entrypoint.Text.CamelCase

variable {c previous : Char} {marks sofar run gap word piece rest text name : List Char}
  {row pieces : List (List Char)}

/-- A word of two small letters or more. -/
structure IsWord (word : List Char) : Prop where
  two_le : 2 ≤ word.length
  isLower : ∀ c ∈ word, c.isLower = true

instance : Decidable (IsWord word) :=
  decidable_of_iff (2 ≤ word.length ∧ word.all Char.isLower = true)
    ⟨fun h => ⟨h.1, List.all_eq_true.mp h.2⟩, fun h => ⟨h.1, List.all_eq_true.mpr h.2⟩⟩

/-- The word in capitals. -/
def capitals (word : List Char) : List Char := word.map Char.toUpper

/-- The word with its first letter as a capital. -/
def capital : List Char → List Char
  | [] => []
  | c :: rest => c.toUpper :: rest

/-- The words run together, all but the first with a capital. -/
def camel : List (List Char) → List Char
  | [] => []
  | first :: rest => first ++ rest.flatMap capital

/-- The pieces in a row, with marks between each two of them, one at least. -/
inductive Joined (marks : List Char) : List (List Char) → List Char → Prop
  | one (piece : List Char) : Joined marks [piece] piece
  | more (piece : List Char) {pieces : List (List Char)} {gap text : List Char} (hgap : gap ⊆ marks)
    (hne : gap ≠ []) : Joined marks pieces text → Joined marks (piece :: pieces) (piece ++ gap ++ text)

/-- The ways to spell words in a row. Where marks stand between words, there may be more than one,
and further ones may stand before the first word and behind the last. -/
inductive Spells (row : List (List Char)) : List Char → Prop
  | snake {before text after : List Char} (h : Joined ['_'] row text) (hbefore : before ⊆ ['_'])
    (hafter : after ⊆ ['_']) : Spells row (before ++ text ++ after)
  | kebab {before text after : List Char} (h : Joined ['-', '_'] row text)
    (hbefore : before ⊆ ['-', '_']) (hafter : after ⊆ ['-', '_']) : Spells row (before ++ text ++ after)
  | screaming {before text after : List Char} (h : Joined ['_'] (row.map capitals) text)
    (hbefore : before ⊆ ['_']) (hafter : after ⊆ ['_']) : Spells row (before ++ text ++ after)
  | upperCamel : Spells row (row.flatMap capital)
  | lowerCamel : Spells row (camel row)

/-- The pieces with one mark between each two are joined. -/
theorem joined_intercalate {mark : Char} (hmark : mark ∈ marks) (hne : pieces ≠ []) :
    Joined marks pieces ([mark].intercalate pieces) := by
  induction pieces with
  | nil => exact absurd rfl hne
  | cons piece pieces ih =>
    cases pieces with
    | nil =>
      rw [List.intercalate_singleton]
      exact .one piece
    | cons next pieces =>
      rw [List.intercalate_cons_cons]
      exact .more piece (List.cons_subset.mpr ⟨hmark, List.nil_subset _⟩) (List.cons_ne_nil _ _)
        (ih (List.cons_ne_nil _ _))

/-! ### Letters -/

/-- The small letters, in alphabetical order. -/
def letters : List Char := (List.range' 97 26).map Char.ofNat

theorem mem_letters (h : c.isLower = true) : c ∈ letters := by
  obtain ⟨hlow, hhigh⟩ : decide (c.val ≥ 'a'.val) = true ∧ decide (c.val ≤ 'z'.val) = true :=
    Bool.and_eq_true_iff.mp h
  have hrange : 97 ≤ c.toNat ∧ c.toNat ≤ 122 := ⟨of_decide_eq_true hlow, of_decide_eq_true hhigh⟩
  refine List.mem_map.mpr ⟨c.toNat, List.mem_range'_1.mpr ?_, Char.ofNat_toNat c⟩
  omega

/-- What is said of a small letter and of its capital. -/
structure IsLetter (c : Char) : Prop where
  small : isSeparator c = false ∧ isUpper c = false ∧ Text.isLower c = true
  big : isSeparator c.toUpper = false ∧ isUpper c.toUpper = true ∧ Text.isLower c.toUpper = false ∧
    ('0' ≤ c.toUpper && c.toUpper ≤ '9') = false
  ascii : c.toNat < 128 ∧ c.toUpper.toNat < 128
  back : c.toLower = c ∧ c.toUpper.toLower = c

instance (c : Char) : Decidable (IsLetter c) :=
  decidable_of_iff (_ ∧ _ ∧ _ ∧ _)
    ⟨fun h => ⟨h.1, h.2.1, h.2.2.1, h.2.2.2⟩, fun h => ⟨h.small, h.big, h.ascii, h.back⟩⟩

theorem isLetter (h : c.isLower = true) : IsLetter c :=
  of_decide_eq_true (List.all_eq_true.mp (by decide : letters.all (IsLetter ·)) c (mem_letters h))

/-- A word is a letter with further ones behind it. -/
theorem IsWord.exists_cons (h : IsWord word) : ∃ first run, word = first :: run ∧ run ≠ [] ∧
    IsLetter first ∧ ∀ c ∈ run, IsLetter c := by
  match word, h with
  | [], h => exact absurd h.two_le (by decide)
  | [c], h => exact absurd h.two_le (Nat.not_succ_le_self 1)
  | first :: c :: run, h =>
    obtain ⟨hfirst, hrun⟩ := List.forall_mem_cons.mp h.isLower
    exact ⟨first, c :: run, rfl, List.cons_ne_nil _ _, isLetter hfirst, fun d hd => isLetter (hrun d hd)⟩

/-! ### Words read off a name -/

theorem words_separator (hc : isSeparator c = true) : words (c :: rest) = words rest := by
  rw [words, wordsFrom, if_pos hc]
  rfl

theorem words_cons (hc : isSeparator c = false) : words (c :: rest) = wordsFrom [c] rest := by
  rw [words, wordsFrom, if_neg (by simp [hc])]

/-- A character that begins no word goes on with the word so far. -/
theorem wordsFrom_push (hc : isSeparator c = false)
    (h : (isUpper c && beginsWord previous rest.head?) = false) :
    wordsFrom (previous :: sofar) (c :: rest) = wordsFrom (c :: previous :: sofar) rest := by
  rw [wordsFrom, if_neg (by simp [hc])]
  simp only [h, Bool.false_eq_true, if_false]

/-- What comes behind a word: nothing, a separator, or a capital behind a small letter. -/
def EndsAt (last : Char) (rest : List Char) : Prop :=
  ∀ c ∈ rest.head?, isSeparator c = true ∨
    isSeparator c = false ∧ isUpper c = true ∧ Text.isLower last = true

theorem wordsFrom_of_endsAt (h : EndsAt previous rest) :
    wordsFrom (previous :: sofar) rest = (previous :: sofar).reverse :: words rest := by
  cases rest with
  | nil => rfl
  | cons c rest =>
    rcases h c rfl with hc | ⟨hc, hupper, hlower⟩
    · rw [wordsFrom, if_pos hc, words_separator hc]
      rfl
    · have hbegins : (isUpper c && beginsWord previous rest.head?) = true := by
        rw [hupper, beginsWord, hlower]
        rfl
      rw [words_cons hc, wordsFrom, if_neg (by simp [hc])]
      simp only [hbegins, if_true]

/-- Small letters go on with a word. -/
theorem wordsFrom_run (hrun : ∀ c ∈ run, IsLetter c) :
    wordsFrom (previous :: sofar) (run ++ rest) = wordsFrom (run.reverse ++ previous :: sofar) rest := by
  induction run generalizing previous sofar with
  | nil => rfl
  | cons c run ih =>
    obtain ⟨hc, hrun⟩ := List.forall_mem_cons.mp hrun
    obtain ⟨hseparator, hupper, _⟩ := hc.small
    rw [List.cons_append, wordsFrom_push hseparator (by rw [hupper]; rfl), ih hrun, List.reverse_cons,
      List.append_assoc, List.singleton_append]

/-- Capitals go on with a word of capitals, if no small letter comes behind them. -/
theorem wordsFrom_capitals (hc : IsLetter c) (hrun : ∀ c ∈ run, IsLetter c)
    (hrest : ∀ c ∈ rest.head?, Text.isLower c = false) :
    wordsFrom (c.toUpper :: sofar) (capitals run ++ rest) =
      wordsFrom ((capitals run).reverse ++ c.toUpper :: sofar) rest := by
  induction run generalizing c sofar with
  | nil => rfl
  | cons d run ih =>
    obtain ⟨hd, hrun⟩ := List.forall_mem_cons.mp hrun
    have hnext : ((capitals run ++ rest).head?.map Text.isLower).getD false = false := by
      cases run with
      | nil =>
        cases rest with
        | nil => rfl
        | cons e rest => exact hrest e rfl
      | cons e run => exact (hrun e List.mem_cons_self).big.2.2.1
    have hbegins : beginsWord c.toUpper (capitals run ++ rest).head? = false := by
      rw [beginsWord, hc.big.2.2.1, hc.big.2.2.2, hnext]
      simp
    have hcapitals : capitals (d :: run) = d.toUpper :: capitals run := rfl
    rw [hcapitals, List.cons_append, wordsFrom_push hd.big.1 (by rw [hbegins, Bool.and_false]),
      ih hd hrun, List.reverse_cons, List.append_assoc, List.singleton_append]

/-- A word of small letters, but perhaps for the first, is read up to its end. -/
theorem words_run {first : Char} (hfirst : isSeparator first = false) (hne : run ≠ [])
    (hrun : ∀ c ∈ run, IsLetter c)
    (hrest : ∀ c ∈ rest.head?, isSeparator c = true ∨ isSeparator c = false ∧ isUpper c = true) :
    words (first :: run ++ rest) = (first :: run) :: words rest := by
  obtain ⟨front, last, rfl⟩ := (List.eq_nil_or_concat run).resolve_left hne
  rw [List.concat_eq_append] at hrun ⊢
  have hlast := (hrun last (by simp)).small.2.2
  have hends : EndsAt last rest := fun c hc => (hrest c hc).imp_right fun h => ⟨h.1, h.2, hlast⟩
  rw [List.cons_append, words_cons hfirst, wordsFrom_run hrun, List.reverse_append,
    List.reverse_singleton, List.singleton_append, List.cons_append, wordsFrom_of_endsAt hends]
  simp

/-- A mark separates words and is no letter. -/
theorem mark_spec (h : c ∈ ['-', '_']) : isSeparator c = true ∧ Text.isLower c = false := by
  simp only [List.mem_cons, List.not_mem_nil, or_false] at h
  rcases h with rfl | rfl <;> decide

/-- A word in capitals is read up to its end. -/
theorem words_capitals (h : IsWord word) (hrest : ∀ c ∈ rest.head?, c ∈ ['-', '_']) :
    words (capitals word ++ rest) = capitals word :: words rest := by
  obtain ⟨first, run, rfl, hne, hfirst, hrun⟩ := h.exists_cons
  obtain ⟨front, last, rfl⟩ := (List.eq_nil_or_concat run).resolve_left hne
  rw [List.concat_eq_append] at hrun ⊢
  have hends : EndsAt last.toUpper rest := fun c hc => .inl (mark_spec (hrest c hc)).1
  have hbegin : words (capitals (first :: (front ++ [last])) ++ rest) =
      wordsFrom [first.toUpper] (capitals (front ++ [last]) ++ rest) := words_cons hfirst.big.1
  rw [hbegin, wordsFrom_capitals hfirst hrun fun c hc => (mark_spec (hrest c hc)).2]
  have hreverse : (capitals (front ++ [last])).reverse ++ [first.toUpper] =
      last.toUpper :: ((capitals front).reverse ++ [first.toUpper]) := by
    simp [capitals]
  rw [hreverse, wordsFrom_of_endsAt hends]
  simp [capitals]

/-! ### Words of a spelling -/

/-- Marks before a name make no difference to its words. -/
theorem words_marks (h : gap ⊆ ['-', '_']) : words (gap ++ rest) = words rest := by
  induction gap with
  | nil => rfl
  | cons c gap ih =>
    obtain ⟨hc, hgap⟩ := List.cons_subset.mp h
    rw [List.cons_append, words_separator (mark_spec hc).1, ih hgap]

/-- A piece is read as one word where nothing comes behind it, or a mark. -/
def StandsAlone (piece : List Char) : Prop :=
  ∀ rest : List Char, (∀ c ∈ rest.head?, c ∈ ['-', '_']) → words (piece ++ rest) = piece :: words rest

theorem IsWord.standsAlone (h : IsWord word) : StandsAlone word := by
  intro rest hrest
  obtain ⟨first, run, rfl, hne, hfirst, hrun⟩ := h.exists_cons
  exact words_run hfirst.small.1 hne hrun fun c hc => .inl (mark_spec (hrest c hc)).1

theorem IsWord.standsAlone_capitals (h : IsWord word) : StandsAlone (capitals word) :=
  fun _ hrest => words_capitals h hrest

/-- Pieces with marks between them and around them are the words of the name. -/
theorem words_joined (hmarks : marks ⊆ ['-', '_']) (h : Joined marks pieces text)
    (hpieces : ∀ piece ∈ pieces, StandsAlone piece) {before after : List Char}
    (hbefore : before ⊆ marks) (hafter : after ⊆ marks) : words (before ++ text ++ after) = pieces := by
  have hhead : ∀ {gap : List Char}, gap ⊆ marks → ∀ c ∈ gap.head?, c ∈ ['-', '_'] :=
    fun hgap c hc => hmarks (hgap (List.mem_of_head? hc))
  rw [List.append_assoc, words_marks (List.Subset.trans hbefore hmarks)]
  induction h with
  | one piece =>
    have hnone : words after = [] := by
      have hwords : words (after ++ []) = words [] := words_marks (List.Subset.trans hafter hmarks)
      rwa [List.append_nil] at hwords
    rw [hpieces piece List.mem_cons_self after (hhead hafter), hnone]
  | more piece hgap hne _ ih =>
    obtain ⟨hpiece, hpieces⟩ := List.forall_mem_cons.mp hpieces
    rw [List.append_assoc, List.append_assoc, hpiece, words_marks (List.Subset.trans hgap hmarks),
      ih hpieces]
    obtain ⟨mark, gap, rfl⟩ := List.exists_cons_of_ne_nil hne
    exact fun c hc => hhead hgap c hc

/-- Each word with a capital begins where the one before it ends. -/
theorem words_flatMap_capital (hrow : ∀ word ∈ row, IsWord word) :
    words (row.flatMap capital) = row.map capital ∧
      ∀ c ∈ (row.flatMap capital).head?, isSeparator c = false ∧ isUpper c = true := by
  induction row with
  | nil => exact ⟨rfl, nofun⟩
  | cons word row ih =>
    obtain ⟨hword, hrow⟩ := List.forall_mem_cons.mp hrow
    obtain ⟨hwords, hhead⟩ := ih hrow
    obtain ⟨first, run, rfl, hne, hfirst, hrun⟩ := hword.exists_cons
    refine ⟨?_, ?_⟩
    · rw [List.flatMap_cons, capital, words_run hfirst.big.1 hne hrun fun c hc => .inr (hhead c hc),
        hwords]
      rfl
    · rintro _ ⟨⟩
      exact ⟨hfirst.big.1, hfirst.big.2.1⟩

theorem words_camel (hrow : ∀ word ∈ row, IsWord word) :
    words (camel row) = row.take 1 ++ (row.drop 1).map capital := by
  cases row with
  | nil => rfl
  | cons word row =>
    obtain ⟨hword, hrow⟩ := List.forall_mem_cons.mp hrow
    obtain ⟨hwords, hhead⟩ := words_flatMap_capital hrow
    obtain ⟨first, run, rfl, hne, hfirst, hrun⟩ := hword.exists_cons
    rw [camel, words_run hfirst.small.1 hne hrun fun c hc => .inr (hhead c hc), hwords]
    rfl

/-! ### Case -/

theorem map_eq_self {α : Type} {f : α → α} {list : List α} (h : ∀ a ∈ list, f a = a) :
    list.map f = list :=
  (List.map_congr_left h).trans (List.map_id' list)

theorem lowerFrom_of_ascii (h : ∀ c ∈ text, c.toNat < 128) (before : List Char) :
    lowerFrom before text = text.map Char.toLower := by
  induction text generalizing before with
  | nil => rfl
  | cons c text ih =>
    obtain ⟨hc, htext⟩ := List.forall_mem_cons.mp h
    have hsigma : c ≠ 'Σ' := by
      rintro rfl
      exact absurd hc (by decide)
    rw [lowerFrom, if_neg hsigma, lowerChar, if_pos hc, ih htext]
    rfl

theorem IsWord.isLetter (h : IsWord word) : ∀ c ∈ word, IsLetter c :=
  fun c hc => CamelCase.isLetter (h.isLower c hc)

theorem IsWord.lower (h : IsWord word) : lower word = word := by
  rw [Text.lower, lowerFrom_of_ascii fun c hc => (h.isLetter c hc).ascii.1]
  exact map_eq_self fun c hc => (h.isLetter c hc).back.1

theorem IsWord.lower_capitals (h : IsWord word) : Text.lower (capitals word) = word := by
  have hascii : ∀ c ∈ capitals word, c.toNat < 128 := by
    intro c hc
    obtain ⟨d, hd, rfl⟩ := List.mem_map.mp hc
    exact (h.isLetter d hd).ascii.2
  rw [Text.lower, lowerFrom_of_ascii hascii, capitals, List.map_map]
  exact map_eq_self fun c hc => (h.isLetter c hc).back.2

theorem IsWord.lower_capital (h : IsWord word) : Text.lower (capital word) = word := by
  obtain ⟨first, run, rfl, _, hfirst, hrun⟩ := h.exists_cons
  have hascii : ∀ c ∈ capital (first :: run), c.toNat < 128 :=
    List.forall_mem_cons.mpr ⟨hfirst.ascii.2, fun c hc => (hrun c hc).ascii.1⟩
  rw [Text.lower, lowerFrom_of_ascii hascii, capital, List.map_cons, hfirst.back.2]
  exact congrArg (first :: ·) (map_eq_self fun c hc => (hrun c hc).back.1)

theorem capitalize_of_lower (hword : IsWord word) (h : Text.lower piece = word) :
    capitalize piece = capital word := by
  obtain ⟨first, run, rfl, _, hfirst, _⟩ := hword.exists_cons
  simp only [capitalize, h, upperChar, if_pos hfirst.ascii.1]
  rfl

/-- Words that are those of a row up to case run together as the row does. -/
theorem joinWords_of_lower (hrow : ∀ word ∈ row, IsWord word) (h : pieces.map Text.lower = row) :
    joinWords pieces = camel row := by
  subst h
  cases pieces with
  | nil => rfl
  | cons first pieces =>
    obtain ⟨_, hrow⟩ := List.forall_mem_cons.mp hrow
    have hmap : pieces.map capitalize = (pieces.map Text.lower).map capital := by
      rw [List.map_map]
      exact List.map_congr_left fun piece hpiece =>
        capitalize_of_lower (hrow _ (List.mem_map_of_mem hpiece)) rfl
    rw [joinWords, hmap, List.map_cons, camel, List.flatMap]

/-! ### Spellings -/

theorem map_lower_eq (hrow : ∀ word ∈ row, IsWord word) {casing : List Char → List Char}
    (h : ∀ word, IsWord word → Text.lower (casing word) = word) :
    (row.map casing).map Text.lower = row := by
  rw [List.map_map]
  exact map_eq_self fun word hword => h word (hrow word hword)

/-- **Words of a spelling.** Up to case, they are the words that it spells. -/
theorem Spells.map_lower_words (h : Spells row name) (hrow : ∀ word ∈ row, IsWord word) :
    (words name).map Text.lower = row := by
  have hsmall : row.map Text.lower = row := map_eq_self fun word hword => (hrow word hword).lower
  have halone : ∀ word ∈ row, StandsAlone word := fun word hword => (hrow word hword).standsAlone
  cases h with
  | snake h hbefore hafter =>
    rwa [words_joined (by decide) h halone hbefore hafter]
  | kebab h hbefore hafter =>
    rwa [words_joined (by decide) h halone hbefore hafter]
  | screaming h hbefore hafter =>
    have hpieces : ∀ piece ∈ row.map capitals, StandsAlone piece := by
      intro piece hpiece
      obtain ⟨word, hword, rfl⟩ := List.mem_map.mp hpiece
      exact (hrow word hword).standsAlone_capitals
    rw [words_joined (by decide) h hpieces hbefore hafter]
    exact map_lower_eq hrow fun _ => IsWord.lower_capitals
  | upperCamel =>
    rw [(words_flatMap_capital hrow).1]
    exact map_lower_eq hrow fun _ => IsWord.lower_capital
  | lowerCamel =>
    rw [words_camel hrow]
    cases row with
    | nil => rfl
    | cons word row =>
      obtain ⟨hword, hrow⟩ := List.forall_mem_cons.mp hrow
      exact congrArg₂ List.cons hword.lower (map_lower_eq hrow fun _ => IsWord.lower_capital)

/-- **One name for all spellings.** However words are spelled, the name in lower camel case is the
first word and the others with capitals, and it stays as it is when it is taken again. -/
theorem lowerCamel_of_spells {name : String} (hrow : ∀ word ∈ row, IsWord word)
    (h : Spells row name.toList) : Text.lowerCamel name = String.ofList (camel row) ∧
      Text.lowerCamel (Text.lowerCamel name) = Text.lowerCamel name := by
  have hcamel : ∀ name : String, Spells row name.toList →
      Text.lowerCamel name = String.ofList (camel row) := fun name h => by
    rw [Text.lowerCamel, joinWords_of_lower hrow (h.map_lower_words hrow)]
  refine ⟨hcamel name h, ?_⟩
  rw [hcamel name h]
  exact hcamel _ (by rw [String.toList_ofList]; exact .lowerCamel)

/-- The words `user`, `profile` and `id`. -/
def profileRow : List (List Char) := ["user".toList, "profile".toList, "id".toList]

theorem lowerCamel_profile_id :
    (Spells profileRow "user-profile-id".toList ∧
      Text.lowerCamel "user-profile-id" = "userProfileId") ∧
    Spells profileRow "__USER__PROFILE_ID_".toList ∧
      Text.lowerCamel "__USER__PROFILE_ID_" = "userProfileId" := by
  have hrow : ∀ word ∈ profileRow, IsWord word := by decide
  have hcamel : String.ofList (camel profileRow) = "userProfileId" := by decide
  have hkebab : Spells profileRow "user-profile-id".toList := by
    have htext : "user-profile-id".toList = [] ++ ['-'].intercalate profileRow ++ [] := by decide
    rw [htext]
    exact .kebab (joined_intercalate (by decide) (by decide)) (by decide) (by decide)
  have hscreaming : Spells profileRow "__USER__PROFILE_ID_".toList := by
    have htext : "__USER__PROFILE_ID_".toList = ['_', '_'] ++
        (capitals "user".toList ++ ['_', '_'] ++
          (capitals "profile".toList ++ ['_'] ++ capitals "id".toList)) ++ ['_'] := by decide
    rw [htext]
    exact .screaming (.more _ (by decide) (by decide) (.more _ (by decide) (by decide) (.one _)))
      (by decide) (by decide)
  exact ⟨⟨hkebab, (lowerCamel_of_spells hrow hkebab).1.trans hcamel⟩,
    hscreaming, (lowerCamel_of_spells hrow hscreaming).1.trans hcamel⟩

end Entrypoint.Text.CamelCase
