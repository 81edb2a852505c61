import Entrypoint.Proofs.Role.TagLine

/-! Tags against their grammar. The tags that the reader finds in a line are those that the grammar
gives it, in their order: each begins where the line begins or after a blank, and none begins in the
quoted body of one before it. -/

namespace Entrypoint

open Text (BreaksOff isBlank)

namespace Tag

variable {line before text word body written rest : List Char} {tag : Tag}

/-! ### Bodies -/

/-- A word and what is left of it without the quotes at its edges. -/
structure IsStripped (word body : List Char) : Prop where
  edges : ∃ m n, word = List.replicate m '"' ++ body ++ List.replicate n '"'
  head : body.head? ≠ some '"'
  last : body.getLast? ≠ some '"'

/-- How a body is written in front of the rest of a line. -/
inductive BodyWritten (body rest : List Char) : List Char → Prop
  /-- A quote opens it that is closed on the line. -/
  | quoted (h : '"' ∉ body) : BodyWritten body rest ('"' :: (body ++ ['"']))
  /-- No quote opens it that is closed on the line; it goes as far as the next blank. -/
  | bare {word : List Char} (hopen : ∀ inside, word ++ rest = '"' :: inside → '"' ∉ inside)
      (hword : ∀ c ∈ word, isBlank c = false) (hrest : BreaksOff rest) (hbody : IsStripped word body) :
      BodyWritten body rest word

theorem exists_replicate_quotes (text : List Char) :
    ∃ n, text = List.replicate n '"' ++ text.dropWhile (· == '"') ∧
      (text.dropWhile (· == '"')).head? ≠ some '"' := by
  induction text with
  | nil => exact ⟨0, rfl, nofun⟩
  | cons c text ih =>
    by_cases hc : c = '"'
    · obtain ⟨n, htext, hhead⟩ := ih
      subst hc
      rw [List.dropWhile_cons_of_pos (by decide)]
      exact ⟨n + 1, congrArg ('"' :: ·) htext, hhead⟩
    · rw [List.dropWhile_cons_of_neg (by simpa using hc)]
      exact ⟨0, rfl, by simpa using hc⟩

theorem dropWhile_quotes (n : Nat) (h : text.head? ≠ some '"') :
    (List.replicate n '"' ++ text).dropWhile (· == '"') = text := by
  rw [List.dropWhile_append_of_pos (by simp)]
  cases text with
  | nil => rfl
  | cons c text => exact List.dropWhile_cons_of_neg (by simpa using h)

theorem isStripped_trimQuotes (word : List Char) : IsStripped word (trimQuotes word) := by
  obtain ⟨m, hword, hhead⟩ := exists_replicate_quotes word
  obtain ⟨n, hinner, hlast⟩ := exists_replicate_quotes (word.dropWhile (· == '"')).reverse
  have hbody : word.dropWhile (· == '"') = trimQuotes word ++ List.replicate n '"' := by
    have hreverse := congrArg List.reverse hinner
    rwa [List.reverse_reverse, List.reverse_append, List.reverse_replicate] at hreverse
  refine ⟨⟨m, n, ?_⟩, fun hquote => ?_, ?_⟩
  · rw [List.append_assoc, ← hbody]
    exact hword
  · rw [hbody, List.head?_append, hquote] at hhead
    exact hhead rfl
  · rw [trimQuotes, List.getLast?_reverse]
    exact hlast

theorem IsStripped.trimQuotes_eq (h : IsStripped word body) : trimQuotes word = body := by
  obtain ⟨⟨m, n, rfl⟩, hhead, hlast⟩ := h
  rw [trimQuotes, List.append_assoc]
  by_cases hnil : body = []
  · have hquotes : (List.replicate n '"').dropWhile (· == '"') = [] := by simp
    rw [hnil, List.nil_append, List.dropWhile_append_of_pos (by simp), hquotes]
    rfl
  · have hstart : (body ++ List.replicate n '"').head? ≠ some '"' := by
      rwa [List.head?_append, Option.or_of_isSome (by simpa using hnil)]
    have hend : body.reverse.head? ≠ some '"' := by rwa [List.head?_reverse]
    rw [dropWhile_quotes m hstart, List.reverse_append, List.reverse_replicate,
      dropWhile_quotes n hend, List.reverse_reverse]

theorem closed?_eq_some (h : closed? text = some (body, rest)) :
    '"' ∉ body ∧ text = body ++ '"' :: rest := by
  fun_induction closed? text generalizing body with
  | case1 => cases h
  | case2 after =>
    cases h
    exact ⟨List.not_mem_nil, rfl⟩
  | case3 c after hc ih =>
    obtain ⟨⟨body', rest'⟩, hafter, heq⟩ := Option.map_eq_some_iff.mp h
    cases heq
    obtain ⟨hbody, rfl⟩ := ih hafter
    exact ⟨List.not_mem_cons_of_ne_of_not_mem (fun heq => hc heq.symm) hbody, rfl⟩

theorem closed?_eq_none_iff : closed? text = none ↔ '"' ∉ text := by
  fun_induction closed? text with
  | case1 => exact iff_of_true rfl List.not_mem_nil
  | case2 after => exact iff_of_false nofun fun h => h List.mem_cons_self
  | case3 c after hc ih =>
    rw [Option.map_eq_none_iff, ih]
    exact ⟨List.not_mem_cons_of_ne_of_not_mem fun heq => hc heq.symm, List.not_mem_of_not_mem_cons⟩

/-- A text whose first quote is not closed begins with a bare body. -/
theorem bodyOf_of_open (hopen : ∀ inside, text = '"' :: inside → '"' ∉ inside) :
    bodyOf text = bare text := by
  rw [bodyOf.eq_def]
  split
  · rename_i inside
    rw [closed?_eq_none_iff.mpr (hopen inside rfl), Option.getD_none]
  · rfl

theorem BodyWritten.bodyOf_eq (h : BodyWritten body rest written) :
    bodyOf (written ++ rest) = (body, rest) := by
  cases h with
  | quoted h =>
    rw [List.cons_append, List.append_assoc]
    exact bodyOf_quoted h
  | bare hopen hword hrest hbody =>
    rw [bodyOf_of_open hopen, Tag.bare, Text.takeWhile_of_breaksOff hword hrest,
      Text.dropWhile_of_breaksOff hword hrest, hbody.trimQuotes_eq]

/-- The body at the start of a text is written there. -/
theorem exists_bodyWritten (text : List Char) :
    ∃ written, text = written ++ (bodyOf text).2 ∧
      BodyWritten (bodyOf text).1 (bodyOf text).2 written := by
  have hbare (hopen : ∀ inside, text = '"' :: inside → '"' ∉ inside) :
      ∃ written, text = written ++ (bodyOf text).2 ∧
        BodyWritten (bodyOf text).1 (bodyOf text).2 written := by
    have htext := List.takeWhile_append_dropWhile (p := (!isBlank ·)) (l := text)
    rw [bodyOf_of_open hopen]
    refine ⟨_, htext.symm, .bare (fun inside h => hopen inside (htext.symm.trans h)) ?_ ?_
      (isStripped_trimQuotes _)⟩
    · intro c hc
      simpa using List.mem_takeWhile_imp hc
    · intro c hc
      have hhead := List.head?_dropWhile_not (!isBlank ·) text
      rw [show (text.dropWhile (!isBlank ·)).head? = some c from hc] at hhead
      simpa using hhead
  by_cases hclosed : ∃ inside r, text = '"' :: inside ∧ closed? inside = some r
  · obtain ⟨inside, ⟨body, rest⟩, rfl, hinside⟩ := hclosed
    obtain ⟨hbody, rfl⟩ := closed?_eq_some hinside
    rw [bodyOf_quoted hbody]
    exact ⟨_, by simp, .quoted hbody⟩
  · refine hbare fun inside heq => closed?_eq_none_iff.mp ?_
    rw [Option.eq_none_iff_forall_ne_some]
    exact fun r hr => hclosed ⟨inside, r, heq, hr⟩

/-! ### Tags in a line -/

/-- A tag where it stands in a line: what is before it, and how its body is written. -/
structure Occurrence where
  before : List Char
  tag : Tag
  written : List Char

namespace Occurrence

variable {o o' : Occurrence} {fuel : Nat} {atStart : Bool}

/-- The grammar of tags: a word of owner characters where the line begins or after a blank, a colon,
and a body. -/
structure StandsIn (o : Occurrence) (line : List Char) : Prop where
  line_eq : line = o.before ++ (o.tag.owner ++ ':' :: (o.written ++ o.tag.rest))
  start : ∀ c ∈ o.before.getLast?, isBlank c = true
  owner : IsOwner o.tag.owner
  body : BodyWritten o.tag.body o.tag.rest o.written

/-- The position where a tag begins. -/
def position (o : Occurrence) : Nat := o.before.length

/-- A position lies in the body of a tag, which is quoted. -/
def Quotes (o : Occurrence) (position : Nat) : Prop :=
  o.written = '"' :: (o.tag.body ++ ['"']) ∧
    o.position + o.tag.owner.length + 1 < position ∧
      position ≤ o.position + o.tag.owner.length + 2 + o.tag.body.length

/-- **The tags of a line.** A tag stands there, and it does not begin in the quoted body of a tag of
the line before it. -/
def IsIn (line : List Char) (o : Occurrence) : Prop :=
  o.StandsIn line ∧
    ∀ o' : Occurrence, (h : o'.position < o.position) → o'.IsIn line → ¬o'.Quotes o.position
termination_by o.position

theorem isIn_iff : o.IsIn line ↔ o.StandsIn line ∧
    ∀ o' : Occurrence, o'.position < o.position → o'.IsIn line → ¬o'.Quotes o.position := by
  rw [IsIn]

/-- What a tag takes of its line. -/
def taken (o : Occurrence) : List Char := o.tag.owner ++ ':' :: o.written

theorem taken_length_pos (o : Occurrence) : 0 < o.taken.length := by
  rw [taken, List.length_append, List.length_cons]
  omega

theorem StandsIn.line_eq_taken (h : o.StandsIn line) :
    line = o.before ++ o.taken ++ o.tag.rest := by
  rw [h.line_eq]
  simp [taken]

theorem StandsIn.before_eq (h : o.StandsIn line) (hline : line = before ++ text)
    (hposition : o.position = before.length) :
    o.before = before ∧ o.tag.owner ++ ':' :: (o.written ++ o.tag.rest) = text :=
  List.append_inj (h.line_eq.symm.trans hline) hposition

theorem StandsIn.at?_eq (h : o.StandsIn line) (hline : line = before ++ text)
    (hposition : o.position = before.length) : at? text = some o.tag := by
  rw [← (h.before_eq hline hposition).2, at?_append h.owner, h.body.bodyOf_eq]

/-- One tag at most begins at a position. -/
theorem StandsIn.eq_of_position (h : o.StandsIn line) (h' : o'.StandsIn line)
    (hposition : o.position = o'.position) : o = o' := by
  obtain ⟨hbefore, htext⟩ := h.before_eq h'.line_eq hposition
  have htag : o.tag = o'.tag :=
    Option.some.inj ((h.at?_eq h'.line_eq hposition).symm.trans (h'.at?_eq h'.line_eq rfl))
  rw [htag, List.append_cancel_left_eq, List.cons_inj_right, List.append_cancel_right_eq] at htext
  obtain ⟨before, tag, written⟩ := o
  obtain ⟨before', tag', written'⟩ := o'
  exact congr (congrArg₂ Occurrence.mk hbefore htag) htext

/-- The tag at the start of a text stands there. -/
theorem exists_standsIn (before : List Char) (h : at? text = some tag)
    (hstart : ∀ c ∈ before.getLast?, isBlank c = true) :
    ∃ written, (Occurrence.mk before tag written).StandsIn (before ++ text) := by
  unfold at? at h
  split at h
  · cases h
  · rename_i after hdrop hnil
    obtain ⟨written, hafter, hbody⟩ := exists_bodyWritten after
    obtain rfl := Option.some.inj h
    refine ⟨written, ?_, hstart, ⟨hnil, fun c hc => List.mem_takeWhile_imp hc⟩, hbody⟩
    rw [← hafter, ← hdrop, List.takeWhile_append_dropWhile]
  · cases h

/-- A tag ends with a character that is no blank. -/
theorem StandsIn.exists_getLast? (h : o.StandsIn line) :
    ∃ c ∈ o.taken.getLast?, isBlank c = false := by
  obtain ⟨before, tag, written⟩ := o
  have hbody := h.body
  rw [taken, List.getLast?_append, Option.or_of_isSome (by simp)]
  dsimp only at hbody ⊢
  cases hbody with
  | quoted => exact ⟨'"', by simp [List.getLast?_cons], by decide⟩
  | bare _ hword =>
    cases hlast : written.getLast? with
    | none =>
      rw [List.getLast?_eq_none_iff.mp hlast]
      exact ⟨':', rfl, by decide⟩
    | some c =>
      rw [List.getLast?_cons, hlast]
      exact ⟨c, rfl, hword c (List.mem_of_getLast? hlast)⟩

/-- The characters of a tag before a quoted body are no blanks, nor are those of a bare one. -/
theorem StandsIn.not_isBlank_of_prefix (h : o.StandsIn line) {front : List Char} {c : Char}
    (hfront : front <+: o.taken) (hc : c ∈ front)
    (hlength : o.written = '"' :: (o.tag.body ++ ['"']) →
      front.length ≤ o.tag.owner.length + 2) : isBlank c = false := by
  obtain ⟨before, tag, written⟩ := o
  have howner : ∀ c ∈ tag.owner, isBlank c = false := by
    intro c hc
    refine Bool.eq_false_iff.mpr fun hblank => Bool.false_ne_true ?_
    rw [← isOwnerChar_of_isBlank hblank, h.owner.chars c hc]
  have hbody := h.body
  dsimp only [taken] at hbody hfront hlength
  cases hbody with
  | quoted =>
    have hopening : tag.owner ++ [':', '"'] <+:
        tag.owner ++ ':' :: '"' :: (tag.body ++ ['"']) := by
      simp [List.prefix_append_right_inj]
    have hmem := (List.prefix_of_prefix_length_le hfront hopening (by simpa using hlength rfl)).subset hc
    simp only [List.mem_append, List.mem_cons, List.not_mem_nil, or_false] at hmem
    rcases hmem with hc | rfl | rfl
    · exact howner c hc
    · decide
    · decide
  | bare _ hword =>
    rcases List.mem_append.mp (hfront.subset hc) with hc | hc
    · exact howner c hc
    rcases List.mem_cons.mp hc with rfl | hc
    · decide
    · exact hword c hc

/-- The next tag of a line begins after what a tag takes. -/
theorem IsIn.position_le (h : o.IsIn line) (h' : o'.IsIn line) (hlt : o.position < o'.position) :
    (o.before ++ o.taken).length ≤ o'.position := by
  by_contra hinside
  have hinside := Nat.lt_of_not_le hinside
  have hstands := (isIn_iff.mp h).1
  obtain ⟨hstands', hvisible⟩ := isIn_iff.mp h'
  have hprefix : o'.before <+: o.before ++ o.taken := by
    have hbefore : o'.before <+: line := ⟨_, hstands'.line_eq.symm⟩
    have htaken : o.before ++ o.taken <+: line := ⟨_, hstands.line_eq_taken.symm⟩
    exact List.prefix_of_prefix_length_le hbefore htaken (Nat.le_of_lt hinside)
  obtain ⟨front, hfront⟩ : o.before <+: o'.before :=
    List.prefix_of_prefix_length_le (List.prefix_append _ _) hprefix (Nat.le_of_lt hlt)
  have hne : front ≠ [] := by
    rintro rfl
    rw [List.append_nil] at hfront
    exact Nat.ne_of_lt hlt (congrArg List.length hfront)
  have htaken : front <+: o.taken := by
    rwa [← hfront, List.prefix_append_right_inj] at hprefix
  have hposition : o'.position = o.position + front.length := by
    rw [position, ← hfront, List.length_append, position]
  have hnotBlank : isBlank (front.getLast hne) = false := by
    refine hstands.not_isBlank_of_prefix htaken (List.getLast_mem hne) fun hquoted => ?_
    by_contra hlong
    refine hvisible o hlt h ⟨hquoted, by omega, ?_⟩
    have hlength : (o.before ++ o.taken).length =
        o.position + (o.tag.owner.length + (o.tag.body.length + 3)) := by
      simp [taken, hquoted, position]
    omega
  have hblank := hstands'.start (front.getLast hne)
    (by rw [← hfront, List.getLast?_append, List.getLast?_eq_some_getLast hne]; rfl)
  exact Bool.false_ne_true (hnotBlank.symm.trans hblank)

/-- Where nothing stands that is left of a line, no tag begins. -/
theorem StandsIn.position_lt (h : o.StandsIn line) : o.position < line.length := by
  have hlength := congrArg List.length h.line_eq
  simp only [List.length_append, List.length_cons] at hlength
  rw [position]
  omega

/-! ### The reader -/

/-- How far the reader has come in a line. It knows whether a tag may begin here, and no tag before
here quotes what is left. -/
structure Reached (line before : List Char) (atStart : Bool) : Prop where
  start : atStart = true ↔ ∀ c ∈ before.getLast?, isBlank c = true
  clear : ∀ o : Occurrence, o.IsIn line → o.position < before.length →
    ∀ n, before.length ≤ n → ¬o.Quotes n

namespace Reached

theorem nil (line : List Char) : Reached line [] true :=
  ⟨by simp, fun _ _ hlt => absurd hlt (Nat.not_lt_zero _)⟩

theorem isIn (H : Reached line before atStart) (h : o.StandsIn line)
    (hposition : o.position = before.length) : o.IsIn line :=
  isIn_iff.mpr ⟨h, fun o' hlt hisIn =>
    H.clear o' hisIn (hposition ▸ hlt) _ (Nat.le_of_eq hposition.symm)⟩

/-- Behind a tag the reader goes on as before, and no tag begins right there. -/
theorem behind (H : Reached line before atStart) (h : o.StandsIn line)
    (hposition : o.position = before.length) : Reached line (o.before ++ o.taken) false := by
  have hisIn := H.isIn h hposition
  refine ⟨?_, fun o' hisIn' hlt n hle hquotes => ?_⟩
  · obtain ⟨c, hc, hblank⟩ := h.exists_getLast?
    refine iff_of_false Bool.false_ne_true fun hall => Bool.false_ne_true ?_
    rw [← hblank]
    refine hall c ?_
    rw [List.getLast?_append, hc]
    rfl
  · have hlength : before.length ≤ (o.before ++ o.taken).length := by
      rw [← hposition, position, List.length_append]
      omega
    rcases Nat.lt_trichotomy o'.position o.position with hearlier | heq | hlater
    · exact H.clear o' hisIn' (hposition ▸ hearlier) n (Nat.le_trans hlength hle) hquotes
    · rw [(isIn_iff.mp hisIn').1.eq_of_position h heq] at hquotes
      obtain ⟨hwritten, -, hlast⟩ := hquotes
      simp only [taken, hwritten, List.length_append, List.length_cons, List.length_nil] at hle
      rw [position] at hlast
      omega
    · exact Nat.not_le_of_lt hlt (hisIn.position_le hisIn' hlater)

/-- A character where no tag begins is passed over. -/
theorem skip (H : Reached line before atStart)
    (hfree : ∀ o : Occurrence, o.IsIn line → o.position ≠ before.length) (c : Char) :
    Reached line (before ++ [c]) (isBlank c) := by
  refine ⟨by simp, fun o hisIn hlt n hle => ?_⟩
  rw [List.length_append, List.length_singleton] at hlt hle
  have hne := hfree o hisIn
  exact H.clear o hisIn (by omega) n (by omega)

/-- A tag of the line that begins here is the one that the reader sees. -/
theorem position_ne (H : Reached line before atStart) (hline : line = before ++ text)
    (hnone : (if atStart = true then at? text else none) = none) (h : o.IsIn line) :
    o.position ≠ before.length := by
  intro hposition
  have hstands := (isIn_iff.mp h).1
  have hatStart := H.start.mpr ((hstands.before_eq hline hposition).1 ▸ hstands.start)
  rw [if_pos hatStart, hstands.at?_eq hline hposition] at hnone
  cases hnone

/-- The tags from here are the one that begins here and those behind it. -/
theorem from_iff_of_standsIn (H : Reached line before atStart) (h : o.StandsIn line)
    (hposition : o.position = before.length) (o' : Occurrence) :
    o'.IsIn line ∧ before.length ≤ o'.position ↔
      o' = o ∨ o'.IsIn line ∧ (o.before ++ o.taken).length ≤ o'.position := by
  have hisIn := H.isIn h hposition
  constructor
  · rintro ⟨hisIn', hle⟩
    rcases Nat.lt_or_eq_of_le hle with hlt | heq
    · exact .inr ⟨hisIn', hisIn.position_le hisIn' (hposition ▸ hlt)⟩
    · exact .inl ((isIn_iff.mp hisIn').1.eq_of_position h (heq.symm.trans hposition.symm))
  · rintro (rfl | ⟨hisIn', hle⟩)
    · exact ⟨hisIn, Nat.le_of_eq hposition.symm⟩
    · rw [List.length_append] at hle
      exact ⟨hisIn', hposition ▸ Nat.le_of_add_right_le hle⟩

/-- Where no tag begins here, the tags from here are those from the next character. -/
theorem from_iff_of_free
    (hfree : ∀ o : Occurrence, o.IsIn line → o.position ≠ before.length) (c : Char)
    (o : Occurrence) :
    o.IsIn line ∧ before.length ≤ o.position ↔
      o.IsIn line ∧ (before ++ [c]).length ≤ o.position := by
  rw [List.length_append, List.length_singleton]
  exact and_congr_right fun hisIn =>
    ⟨fun hle => Nat.lt_of_le_of_ne hle (hfree o hisIn).symm, Nat.le_of_succ_le⟩

/-- The reader finds the tags of the line from where it stands. -/
theorem exists_of_fromLine (H : Reached line before atStart) (hline : line = before ++ text)
    (hfuel : text.length < fuel) :
    ∃ list : List Occurrence, list.map (·.tag) = fromLine fuel atStart text ∧
      list.Pairwise (·.position < ·.position) ∧
        ∀ o, o ∈ list ↔ o.IsIn line ∧ before.length ≤ o.position := by
  induction fuel generalizing before text atStart with
  | zero => exact absurd hfuel (Nat.not_lt_zero _)
  | succ fuel ih =>
    have hstep := fromLine.eq_def (fuel + 1) atStart text
    dsimp only at hstep
    cases hhere : if atStart = true then at? text else none with
    | some tag =>
      obtain ⟨hatStart, hat⟩ : atStart = true ∧ at? text = some tag := by
        split at hhere
        · exact ⟨‹_›, hhere⟩
        · cases hhere
      obtain ⟨written, hstands⟩ := exists_standsIn before hat (H.start.mp hatStart)
      rw [← hline] at hstands
      have hnext : line = before ++ (Occurrence.mk before tag written).taken ++ tag.rest :=
        hstands.line_eq_taken
      have hlength : (Occurrence.mk before tag written).taken.length + tag.rest.length =
          text.length := by
        have heq := congrArg List.length (hline.symm.trans hnext)
        simp only [List.length_append] at heq
        omega
      have htaken := taken_length_pos ⟨before, tag, written⟩
      obtain ⟨list, hlist, hsorted, hmem⟩ := ih (H.behind hstands rfl) hnext (by omega)
      refine ⟨⟨before, tag, written⟩ :: list, ?_,
        List.pairwise_cons.mpr ⟨fun o ho => ?_, hsorted⟩, fun o => ?_⟩
      · rw [List.map_cons, hlist, hstep, hhere]
      · have hle := ((hmem o).mp ho).2
        rw [List.length_append] at hle
        rw [position]
        omega
      · rw [List.mem_cons, hmem, H.from_iff_of_standsIn hstands rfl]
    | none =>
      have hfree : ∀ o : Occurrence, o.IsIn line → o.position ≠ before.length :=
        fun o h => H.position_ne hline hhere h
      rw [hhere] at hstep
      cases text with
      | nil =>
        refine ⟨[], hstep.symm, .nil, fun o => iff_of_false List.not_mem_nil fun h => ?_⟩
        have hlt := (isIn_iff.mp h.1).1.position_lt
        rw [hline, List.append_nil] at hlt
        exact Nat.not_le_of_lt hlt h.2
      | cons c text =>
        have hnext : line = before ++ [c] ++ text := by rw [hline, List.append_assoc]; rfl
        obtain ⟨list, hlist, hsorted, hmem⟩ :=
          ih (H.skip hfree c) hnext (Nat.lt_of_succ_lt_succ hfuel)
        exact ⟨list, hlist.trans hstep.symm, hsorted, fun o =>
          (hmem o).trans (from_iff_of_free hfree c o).symm⟩

end Reached

/-- **The reader finds the tags of a line, in their order.** -/
theorem exists_of_ofLine (line : List Char) :
    ∃ list : List Occurrence, list.map (·.tag) = ofLine line ∧
      list.Pairwise (·.position < ·.position) ∧ ∀ o, o ∈ list ↔ o.IsIn line := by
  obtain ⟨list, hlist, hsorted, hmem⟩ :=
    (Reached.nil line).exists_of_fromLine rfl (Nat.lt_succ_self line.length)
  exact ⟨list, hlist, hsorted, fun o => (hmem o).trans (and_iff_left (Nat.zero_le _))⟩

end Occurrence

end Tag

end Entrypoint
