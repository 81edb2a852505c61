import Entrypoint.Proofs.KeyedValues
import Entrypoint.Proofs.Source.WordLexing
import Entrypoint.Proofs.Text.Trimming
import Entrypoint.Role.Arguments

/-! The settings in the arguments of a service. A pair stands at a place of a text when a key, an equals
sign and a value begin there, and a text is read from left to right, over its characters and its
pairs. No pair has a blank in it, so nothing that is read before a blank reaches past it: blanks cut a
text into two that are read apart, and what the later one sets overrides the other. A word sets one key
at most, at the first equals sign that has a key before it and a character behind it. -/

namespace Entrypoint

namespace Text

variable {c : Char}

theorem not_isBlank_of_isDigit (h : c.isDigit = true) : isBlank c = false := by
  simp only [Char.isDigit, Bool.and_eq_true, decide_eq_true_eq] at h
  have hlow : 48 ≤ c.toNat := UInt32.le_iff_toNat_le.mp h.1
  have hhigh : c.toNat ≤ 57 := UInt32.le_iff_toNat_le.mp h.2
  refine Bool.eq_false_iff.mpr fun hblank => ?_
  have hblank := toNat_le_of_isBlank hblank (by omega)
  omega

theorem not_isBlank_of_isWordChar (h : isWordChar c = true) : isBlank c = false := by
  by_cases hc : c.toNat < 128
  · rw [isWordChar, if_pos hc, Char.isAlphanum, Bool.or_right_comm, Bool.or_eq_true] at h
    rcases h with h | h
    · exact not_isBlank_of_isIdentStart (by rwa [isIdentStart, if_pos hc])
    · exact not_isBlank_of_isDigit h
  · rw [isWordChar, if_neg hc] at h
    exact inRanges_disjoint (by decide +kernel) h

end Text

open Text (IsUnbroken BreaksOff isBlank isWordChar)

namespace RoleArgs

variable {c : Char} {text rest gap key value key' value' rest' front : List Char}
  {pairs more : List (String × String)} {fuel : Nat}

/-! ### Keys -/

/-- A key of service arguments. -/
inductive IsKey : List Char → Prop
  | intro {c : Char} {word : List Char} : isKeyStart c = true → (∀ d ∈ word, isWordChar d = true) →
    IsKey (c :: word)

theorem toNat_lt_of_isKeyStart (h : isKeyStart c = true) : c.toNat < 128 := by
  have hletter : (decide ('A'.val ≤ c.val ∧ c.val ≤ 'Z'.val) ||
      ('a'.val ≤ c.val && c.val ≤ 'z'.val) || c == '_') = true := h
  simp only [Bool.or_eq_true, Bool.and_eq_true, decide_eq_true_eq, beq_iff_eq] at hletter
  rcases hletter with (⟨_, h⟩ | ⟨_, h⟩) | rfl
  · exact Nat.lt_of_le_of_lt h (by decide)
  · exact Nat.lt_of_le_of_lt (UInt32.le_iff_toNat_le.mp h) (by decide)
  · decide

theorem isIdentStart_of_isKeyStart (h : isKeyStart c = true) : Text.isIdentStart c = true := by
  rwa [Text.isIdentStart, if_pos (toNat_lt_of_isKeyStart h)]

theorem isWordChar_of_isKeyStart (h : isKeyStart c = true) : isWordChar c = true := by
  rw [isWordChar, if_pos (toNat_lt_of_isKeyStart h), Char.isAlphanum, Bool.or_right_comm,
    Bool.or_eq_true]
  exact .inl h

theorem IsKey.chars (h : IsKey key) : ∀ c ∈ key, isWordChar c = true := by
  obtain ⟨hc, hword⟩ := h
  exact List.forall_mem_cons.mpr ⟨isWordChar_of_isKeyStart hc, hword⟩

theorem IsKey.not_isBlank (h : IsKey key) : ∀ c ∈ key, isBlank c = false := fun c hc =>
  Text.not_isBlank_of_isWordChar (h.chars c hc)

/-- A key goes further back where it may begin there. -/
theorem IsKey.append (h : IsKey key) (hfront : ∀ c ∈ front, isWordChar c = true)
    (hc : isKeyStart c = true) : IsKey (c :: (front ++ key)) :=
  .intro hc (List.forall_mem_append.mpr ⟨hfront, h.chars⟩)

/-! ### Pairs -/

/-- A pair stands at the start of a text: a key, an equals sign and a value that runs to the next blank
or to the end. -/
structure PairAt (text key value rest : List Char) : Prop where
  text_eq : text = key ++ '=' :: value ++ rest
  key : IsKey key
  value : IsUnbroken value
  rest : BreaksOff rest

namespace PairAt

theorem length_lt (h : PairAt text key value rest) : rest.length < text.length := by
  rw [h.text_eq]
  simp only [List.length_append, List.length_cons]
  omega

theorem text_ne_nil (h : PairAt text key value rest) : text ≠ [] := fun hnil =>
  Nat.not_lt_zero _ (hnil ▸ h.length_lt)

theorem isUnbroken (h : PairAt text key value rest) : IsUnbroken (key ++ '=' :: value) :=
  ⟨by simp, List.forall_mem_append.mpr ⟨h.key.not_isBlank,
    List.forall_mem_cons.mpr ⟨by decide, h.value.not_isBlank⟩⟩⟩

/-- More text behind a blank makes no difference to a pair. -/
theorem append (h : PairAt text key value rest) (hc : isBlank c = true) (more : List Char) :
    PairAt (text ++ c :: more) key value (rest ++ c :: more) := by
  refine ⟨by rw [h.text_eq, List.append_assoc], h.key, h.value, fun d hd => ?_⟩
  cases rest with
  | nil => exact Option.some.inj hd ▸ hc
  | cons e rest => exact h.rest d hd

/-- A pair stands before the next blank. -/
theorem of_append (text : List Char) (hc : isBlank c = true) {more : List Char}
    (h : PairAt (text ++ c :: more) key value rest) : ∃ rest', PairAt text key value rest' := by
  obtain ⟨between, htext, hrest⟩ | ⟨between, hpair, hrest⟩ := List.append_eq_append_iff.mp h.text_eq
  · -- The pair would go on past the blank.
    cases between with
    | nil =>
      rw [List.append_nil] at htext
      exact ⟨[], htext ▸ (List.append_nil _).symm, h.key, h.value, by simp [BreaksOff]⟩
    | cons d between =>
      obtain ⟨rfl, -⟩ := List.cons.inj hrest
      have hmem : c ∈ key ++ '=' :: value := htext ▸ by simp
      exact absurd (hc.symm.trans (h.isUnbroken.not_isBlank c hmem)) (by simp)
  · refine ⟨between, hpair, h.key, h.value, fun d hd => ?_⟩
    cases between with
    | nil => cases hd
    | cons e between => exact h.rest d (hrest ▸ hd)

end PairAt

/-! ### Reading -/

/-- What is read from a text: its pairs from left to right, with every character passed over where no
pair stands. -/
inductive Reads : List Char → List (String × String) → Prop
  | nil : Reads [] []
  | pass {c : Char} {rest : List Char} {pairs : List (String × String)} :
    (∀ key value after, ¬PairAt (c :: rest) key value after) → Reads rest pairs →
    Reads (c :: rest) pairs
  | pair {text key value rest : List Char} {pairs : List (String × String)} :
    PairAt text key value rest → Reads rest pairs →
    Reads text ((String.ofList key, String.ofList value) :: pairs)

theorem takeWhile_word {word : List Char} (hword : ∀ d ∈ word, isWordChar d = true)
    (rest : List Char) : (word ++ '=' :: rest).takeWhile isWordChar = word := by
  rw [List.takeWhile_append_of_pos hword, List.takeWhile_cons_of_neg (by decide), List.append_nil]

theorem dropWhile_word {word : List Char} (hword : ∀ d ∈ word, isWordChar d = true)
    (rest : List Char) : (word ++ '=' :: rest).dropWhile isWordChar = '=' :: rest := by
  rw [List.dropWhile_append_of_pos hword, List.dropWhile_cons_of_neg (by decide)]

/-- A pair is read where it stands. -/
theorem PairAt.entriesFrom_eq (h : PairAt text key value rest) (fuel : Nat) :
    entriesFrom (fuel + 1) text =
      (String.ofList key, String.ofList value) :: entriesFrom fuel rest := by
  obtain ⟨rfl, hkey, hvalue, hrest⟩ := h
  obtain @⟨c, word, hc, hword⟩ := hkey
  obtain ⟨v, value, rfl⟩ := List.exists_cons_of_ne_nil hvalue.ne_nil
  obtain ⟨hv, hvalue⟩ := List.forall_mem_cons.mp hvalue.not_isBlank
  have hshape : c :: word ++ '=' :: v :: value ++ rest =
      c :: (word ++ '=' :: v :: (value ++ rest)) := by simp
  rw [hshape, entriesFrom, if_pos hc, dropWhile_word hword, takeWhile_word hword]
  change (if isBlank v = true then _ else _) = _
  rw [if_neg (by simp [hv]), Text.takeWhile_of_breaksOff hvalue hrest,
    Text.dropWhile_of_breaksOff hvalue hrest]

/-- Where no pair stands, a character is passed over. -/
theorem entriesFrom_pass (h : ∀ key value after, ¬PairAt (c :: rest) key value after) (fuel : Nat) :
    entriesFrom (fuel + 1) (c :: rest) = entriesFrom fuel rest := by
  rw [entriesFrom]
  split
  · rename_i hc
    split
    · rename_i v after hdrop
      split
      · rfl
      · rename_i hv
        refine absurd ⟨?_, .intro hc fun d hd => List.mem_takeWhile_imp hd, ?_, ?_⟩
          (h (c :: rest.takeWhile isWordChar) (v :: after.takeWhile (!isBlank ·))
            (after.dropWhile (!isBlank ·)))
        · rw [List.append_assoc, List.cons_append, List.cons_append, List.cons_append,
            List.takeWhile_append_dropWhile, ← hdrop, List.takeWhile_append_dropWhile]
        · refine ⟨List.cons_ne_nil _ _, List.forall_mem_cons.mpr ⟨by simpa using hv, fun d hd => ?_⟩⟩
          simpa using List.mem_takeWhile_imp hd
        · intro d hd
          have hhead := List.head?_dropWhile_not (!isBlank ·) after
          rw [hd] at hhead
          simpa using hhead
    · rfl
  · rfl

/-- What a text reads to is what is found in it, whatever the fuel beyond its length. -/
theorem Reads.entriesFrom_eq (h : Reads text pairs) (hfuel : text.length ≤ fuel) :
    entriesFrom fuel text = pairs := by
  induction h generalizing fuel with
  | nil => cases fuel <;> rfl
  | pass hpass _ ih =>
    cases fuel with
    | zero => exact absurd hfuel (Nat.not_succ_le_zero _)
    | succ fuel => rw [entriesFrom_pass hpass, ih (Nat.le_of_succ_le_succ hfuel)]
  | pair hpair _ ih =>
    cases fuel with
    | zero => exact absurd (Nat.lt_of_lt_of_le hpair.length_lt hfuel) (Nat.not_lt_zero _)
    | succ fuel =>
      rw [hpair.entriesFrom_eq, ih (Nat.le_of_lt_succ (Nat.lt_of_lt_of_le hpair.length_lt hfuel))]

theorem exists_reads (text : List Char) : ∃ pairs, Reads text pairs := by
  suffices h : ∀ bound, ∀ text : List Char, text.length ≤ bound → ∃ pairs, Reads text pairs from
    h _ text (Nat.le_refl _)
  intro bound
  induction bound with
  | zero => exact fun text htext => ⟨[], List.length_eq_zero_iff.mp (Nat.le_zero.mp htext) ▸ .nil⟩
  | succ bound ih =>
    intro text htext
    by_cases hpair : ∃ key value rest, PairAt text key value rest
    · obtain ⟨key, value, rest, hpair⟩ := hpair
      obtain ⟨pairs, hpairs⟩ := ih rest (Nat.le_of_lt_succ (Nat.lt_of_lt_of_le hpair.length_lt htext))
      exact ⟨_, .pair hpair hpairs⟩
    cases text with
    | nil => exact ⟨[], .nil⟩
    | cons c rest =>
      obtain ⟨pairs, hpairs⟩ := ih rest (Nat.le_of_succ_le_succ htext)
      exact ⟨pairs, .pass (fun key value after h => hpair ⟨key, value, after, h⟩) hpairs⟩

theorem Reads.serviceSettings_eq {args : String} (h : Reads args.toList pairs) :
    serviceSettings args = Keyed.ofEntries pairs := by
  rw [serviceSettings, h.entriesFrom_eq (Nat.le_refl _)]

/-! ### Blanks between texts -/

theorem Reads.after_gap (h : Reads text pairs) (hgap : ∀ c ∈ gap, isBlank c = true) :
    Reads (gap ++ text) pairs := by
  induction gap with
  | nil => exact h
  | cons c gap ih =>
    obtain ⟨hc, hgap⟩ := List.forall_mem_cons.mp hgap
    refine .pass (fun key value after hpair => ?_) (ih hgap)
    obtain ⟨rest, hpair⟩ := PairAt.of_append [] hc hpair
    exact hpair.text_ne_nil rfl

/-- **Texts with blanks between them are read apart.** The induction is on how the first one is read: a
pair in it ends before the blanks, and no pair that is not in it comes about by what stands behind
them. -/
theorem Reads.append (h : Reads text pairs) (hc : isBlank c = true) (h' : Reads (c :: rest) more) :
    Reads (text ++ c :: rest) (pairs ++ more) := by
  induction h with
  | nil => exact h'
  | pass hpass _ ih =>
    refine .pass (fun key value after hpair => ?_) ih
    obtain ⟨after', hpair'⟩ := PairAt.of_append (_ :: _) hc hpair
    exact hpass key value after' hpair'
  | pair hpair _ ih => exact .pair (hpair.append hc rest) ih

theorem serviceSettings_append {a b : String} {gap : String}
    (hgap : ∀ c ∈ gap.toList, isBlank c = true) (hne : gap ≠ "") :
    serviceSettings (a ++ gap ++ b) = (serviceSettings a).override (serviceSettings b) := by
  obtain ⟨pairs, hpairs⟩ := exists_reads a.toList
  obtain ⟨more, hmore⟩ := exists_reads b.toList
  obtain ⟨c, blanks, hblanks⟩ := List.exists_cons_of_ne_nil (mt String.toList_eq_nil_iff.mp hne)
  have hboth : Reads (a ++ gap ++ b).toList (pairs ++ more) := by
    have hlater := hmore.after_gap hgap
    rw [String.toList_append, String.toList_append, List.append_assoc]
    rw [hblanks, List.cons_append] at hlater ⊢
    exact hpairs.append (hgap c (hblanks ▸ List.mem_cons_self)) hlater
  rw [hboth.serviceSettings_eq, hpairs.serviceSettings_eq, hmore.serviceSettings_eq,
    Keyed.ofEntries_append]

/-! ### Words -/

/-- A pair in a word. The text before an equals sign ends with a run of word characters, the key is that
run from the first character on that may begin a key, and the value is all that follows the sign. -/
structure PairIn (word front key value : List Char) : Prop where
  word_eq : word = front ++ '=' :: value
  front_eq : ∃ before skipped, front = before ++ skipped ++ key ∧
    (∀ c ∈ before.getLast?, isWordChar c = false) ∧
    ∀ c ∈ skipped, isWordChar c = true ∧ isKeyStart c = false
  key : IsKey key
  value_ne : value ≠ []

/-- The pair of a word whose equals sign no other comes before. -/
structure FirstPairIn (word front key value : List Char) : Prop
    extends PairIn word front key value where
  first : ∀ front' key' value', PairIn word front' key' value' → front.length ≤ front'.length

/-- Where no pair stands at the start of a word, its pairs are those of the rest. -/
theorem pairIn_cons_iff (hpass : ∀ key value after, ¬PairAt (c :: rest) key value after)
    (hblank : ∀ d ∈ rest, isBlank d = false) : PairIn (c :: rest) front key value ↔
      ∃ front', front = c :: front' ∧ PairIn rest front' key value := by
  -- A key from the first character on would make a pair there.
  have hstart : ∀ {key value : List Char}, IsKey key → value ≠ [] →
      c :: rest ≠ key ++ '=' :: value := by
    intro key value hkey hne heq
    refine hpass key value [] ⟨by rw [List.append_nil, heq], hkey, ⟨hne, fun d hd => ?_⟩, nofun⟩
    obtain ⟨-, -⟩ := hkey
    exact hblank d ((List.cons.inj heq).2 ▸ by simp [hd])
  constructor
  · rintro ⟨hword, ⟨before, skipped, rfl, hbefore, hskipped⟩, hkey, hne⟩
    cases before with
    | nil =>
      cases skipped with
      | nil => exact absurd hword (hstart hkey hne)
      | cons d skipped =>
        obtain ⟨rfl, hrest⟩ := List.cons.inj hword
        obtain ⟨-, hskipped⟩ := List.forall_mem_cons.mp hskipped
        exact ⟨_, rfl, hrest, ⟨[], skipped, rfl, nofun, hskipped⟩, hkey, hne⟩
    | cons d before =>
      obtain ⟨rfl, hrest⟩ := List.cons.inj hword
      refine ⟨_, rfl, hrest, ⟨before, skipped, rfl, fun e he => hbefore e ?_, hskipped⟩, hkey, hne⟩
      rw [List.getLast?_cons, Option.mem_def.mp he]
      rfl
  · rintro ⟨_, rfl, hword, ⟨before, skipped, rfl, hbefore, hskipped⟩, hkey, hne⟩
    refine ⟨by rw [hword]; rfl, ?_, hkey, hne⟩
    cases before with
    | nil =>
      by_cases hc : isWordChar c = true
      · refine ⟨[], c :: skipped, rfl, nofun, List.forall_mem_cons.mpr ⟨⟨hc, ?_⟩, hskipped⟩⟩
        refine Bool.eq_false_iff.mpr fun hkeyStart => ?_
        exact hstart (hkey.append (fun d hd => (hskipped d hd).1) hkeyStart) hne (by rw [hword]; rfl)
      · exact ⟨[c], skipped, rfl, fun d hd => Option.some.inj hd ▸ Bool.eq_false_iff.mpr hc, hskipped⟩
    | cons d before =>
      exact ⟨c :: d :: before, skipped, rfl, by rwa [List.getLast?_cons_cons], hskipped⟩

/-- The pair at the start of a word is its first. -/
theorem PairAt.firstPairIn (h : PairAt text key value []) : FirstPairIn text key key value := by
  have hword : text = key ++ '=' :: value := by rw [h.text_eq, List.append_nil]
  refine ⟨⟨hword, ⟨[], [], rfl, nofun, nofun⟩, h.key, h.value.ne_nil⟩, ?_⟩
  rintro front' key' value' ⟨hword', -, -, -⟩
  refine Nat.le_of_not_lt fun hless => ?_
  -- An equals sign further to the front would be one of the key's characters.
  obtain ⟨between, hfront, -⟩ | ⟨between, hkey, hrest⟩ :=
    List.append_eq_append_iff.mp (hword.symm.trans hword')
  · rw [hfront, List.length_append] at hless
    omega
  cases between with
  | nil =>
    rw [hkey, List.append_nil] at hless
    exact Nat.lt_irrefl _ hless
  | cons d between =>
    obtain ⟨rfl, -⟩ := List.cons.inj hrest
    exact absurd (h.key.chars '=' (hkey ▸ by simp)) (by decide)

/-- A word is read as its first pair, if it has one. -/
theorem Reads.of_word (h : Reads text pairs) (hblank : ∀ c ∈ text, isBlank c = false) :
    (pairs = [] ∧ ∀ front key value, ¬PairIn text front key value) ∨
      ∃ front key value, FirstPairIn text front key value ∧
        pairs = [(String.ofList key, String.ofList value)] := by
  induction h with
  | nil => exact .inl ⟨rfl, fun front key value h => by simpa using h.word_eq⟩
  | @pass c rest pairs hpass _ ih =>
    obtain ⟨-, hblank⟩ := List.forall_mem_cons.mp hblank
    refine (ih hblank).imp ?_ ?_
    · rintro ⟨hpairs, hnone⟩
      refine ⟨hpairs, fun front key value hpair => ?_⟩
      obtain ⟨front', -, hpair⟩ := (pairIn_cons_iff hpass hblank).mp hpair
      exact hnone front' key value hpair
    · rintro ⟨front, key, value, ⟨hpair, hfirst⟩, hpairs⟩
      have hlater := (pairIn_cons_iff hpass hblank).mpr ⟨front, rfl, hpair⟩
      refine ⟨c :: front, key, value, ⟨hlater, fun front' key' value' hpair' => ?_⟩, hpairs⟩
      obtain ⟨tail, rfl, htail⟩ := (pairIn_cons_iff hpass hblank).mp hpair'
      exact Nat.succ_le_succ (hfirst tail key' value' htail)
  | @pair text key value rest pairs hpair hreads _ =>
    have hrest : rest = [] := by
      cases rest with
      | nil => rfl
      | cons d rest =>
        have hd : d ∈ text := hpair.text_eq ▸ by simp
        exact absurd ((hpair.rest d rfl).symm.trans (hblank d hd)) (by simp)
    subst hrest
    refine .inr ⟨key, key, value, hpair.firstPairIn, ?_⟩
    cases hreads with
    | nil => rfl
    | pair hpair => exact absurd rfl hpair.text_ne_nil

/-- Blanks between two texts keep what they set apart, and the later one overrides the other; a word
sets what its first pair says, or nothing. -/
theorem serviceSettings_overrides :
    (∀ a gap b : String, (∀ c ∈ gap.toList, isBlank c = true) → gap ≠ "" →
      serviceSettings (a ++ gap ++ b) = (serviceSettings a).override (serviceSettings b) ∧
      ∀ key, (serviceSettings (a ++ gap ++ b)).value? key =
        ((serviceSettings b).value? key).or ((serviceSettings a).value? key)) ∧
    ∀ word : String, (∀ c ∈ word.toList, isBlank c = false) →
      (serviceSettings word = [] ∧ ∀ front key value, ¬PairIn word.toList front key value) ∨
      ∃ front key value, FirstPairIn word.toList front key value ∧
        serviceSettings word = [(String.ofList key, String.ofList value)] := by
  constructor
  · intro a gap b hgap hne
    have hover := serviceSettings_append (a := a) (b := b) hgap hne
    refine ⟨hover, fun key => ?_⟩
    rw [hover]
    exact Keyed.value?_override _ (Keyed.ordered_ofEntries _) key
  · intro word hword
    obtain ⟨pairs, hpairs⟩ := exists_reads word.toList
    rw [hpairs.serviceSettings_eq]
    refine (hpairs.of_word hword).imp ?_ ?_
    · rintro ⟨rfl, hnone⟩
      exact ⟨rfl, hnone⟩
    · rintro ⟨front, key, value, hfirst, rfl⟩
      exact ⟨front, key, value, hfirst, rfl⟩

/-- A stage that is kept and a key that is set again behind blanks of other kinds, and a word with signs
and digits around its key. -/
theorem serviceSettings_overrides_stage :
    (serviceSettings ("k=1 stage=dev" ++ "\u3000\n" ++ "k=2")).value? "k" = some "2" ∧
    (serviceSettings ("k=1 stage=dev" ++ "\u3000\n" ++ "k=2")).value? "stage" = some "dev" ∧
    ∃ front key value, FirstPairIn "=é1k2=a=b".toList front key value ∧
      serviceSettings "=é1k2=a=b" = [(String.ofList key, String.ofList value)] := by
  have hover := serviceSettings_overrides.1 "k=1 stage=dev" "\u3000\n" "k=2"
    (List.all_eq_true.mp (by decide)) (by decide)
  have hword := serviceSettings_overrides.2 "=é1k2=a=b" fun c hc =>
    Bool.eq_false_iff.mpr (List.any_eq_false.mp (by decide) c hc)
  have hsome : serviceSettings "=é1k2=a=b" ≠ [] := by decide
  refine ⟨?_, ?_, hword.resolve_left fun h => hsome h.1⟩
  · rw [hover.2]
    decide
  · rw [hover.2]
    decide

end RoleArgs

end Entrypoint
