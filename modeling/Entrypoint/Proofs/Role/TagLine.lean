import Entrypoint.Proofs.Text.Lines
import Entrypoint.Role.Tag

/-! The tag at the start of a line. A word of the owner, a colon and a body make the first tag of
their line, and the first line with a role decides the role of a text, so what a tag says does not
depend on the lines after it, nor on lines before it that give no role. -/

namespace Entrypoint

namespace Text

variable {sep : Char} {front back : List Char}

theorem cutAt_of_notMem (h : sep ∉ front) : cutAt sep front = (front, none) := by
  induction front with
  | nil => rfl
  | cons c front ih =>
    obtain ⟨hc, h⟩ := not_or.mp fun hmem => h (List.mem_cons.mpr hmem)
    rw [cutAt, if_neg (Ne.symm hc), ih h]

theorem cutAt_append (h : sep ∉ front) (back : List Char) :
    cutAt sep (front ++ sep :: back) = (front, some back) := by
  induction front with
  | nil => exact if_pos rfl
  | cons c front ih =>
    obtain ⟨hc, h⟩ := not_or.mp fun hmem => h (List.mem_cons.mpr hmem)
    rw [List.cons_append, cutAt, if_neg (Ne.symm hc), ih h]

end Text

open Text (IsGap IsUnbroken IsTrimmed BreaksOff isBlank)

namespace RoleKind

theorem ofToken?_token (kind : RoleKind) : ofToken? kind.token = some kind := by
  cases kind <;> rfl

/-- The tables of words and of roles are inverse to each other. -/
theorem ofToken?_eq_some_iff {token : String} {kind : RoleKind} :
    ofToken? token = some kind ↔ token = kind.token := by
  constructor
  · intro h
    unfold ofToken? at h
    split at h <;> cases h <;> rfl
  · rintro rfl
    exact ofToken?_token kind

theorem isUnbroken_token (kind : RoleKind) : IsUnbroken kind.token.toList := by
  cases kind <;> decide

theorem notMem_comma_token (kind : RoleKind) : ',' ∉ kind.token.toList := by
  cases kind <;> decide

theorem notMem_quote_token (kind : RoleKind) : '"' ∉ kind.token.toList := by
  cases kind <;> decide

end RoleKind

namespace Tag

variable {owner text rest gap gap' args name : List Char} {kind : RoleKind} {role : Role}

/-- A word that tags can begin with. -/
structure IsOwner (owner : List Char) : Prop where
  ne_nil : owner ≠ []
  chars : ∀ c ∈ owner, isOwnerChar c = true

theorem isOwnerChar_of_isBlank {c : Char} (h : isBlank c = true) : isOwnerChar c = false := by
  simp [isOwnerChar, h]

/-! ### Finding the tag -/

theorem at?_append (h : IsOwner owner) (text : List Char) :
    at? (owner ++ ':' :: text) = some ⟨owner, (bodyOf text).1, (bodyOf text).2⟩ := by
  have htake : (owner ++ ':' :: text).takeWhile isOwnerChar = owner := by
    rw [List.takeWhile_append_of_pos h.chars, List.takeWhile_cons_of_neg (by decide),
      List.append_nil]
  have hdrop : (owner ++ ':' :: text).dropWhile isOwnerChar = ':' :: text := by
    rw [List.dropWhile_append_of_pos h.chars, List.dropWhile_cons_of_neg (by decide)]
  obtain ⟨c, owner, rfl⟩ := List.exists_cons_of_ne_nil h.ne_nil
  rw [at?, htake, hdrop]
  rfl

theorem at?_of_isBlank {c : Char} (h : isBlank c = true) : at? (c :: rest) = none := by
  rw [at?, List.takeWhile_cons_of_neg (by simp [isOwnerChar_of_isBlank h])]

theorem fromLine_of_at? {tag : Tag} (h : at? text = some tag) (fuel : Nat) :
    fromLine (fuel + 1) true text = tag :: fromLine fuel false tag.rest := by
  rw [fromLine.eq_def]
  dsimp only
  rw [if_pos rfl, h]

/-- After blanks the tag of an owner is the first of its line. -/
theorem fromLine_gap (h : IsOwner owner) (hgap : ∀ c ∈ gap, isBlank c = true) {fuel : Nat}
    (hfuel : gap.length < fuel) :
    ∃ tags, fromLine fuel true (gap ++ (owner ++ ':' :: text)) =
      ⟨owner, (bodyOf text).1, (bodyOf text).2⟩ :: tags := by
  induction gap generalizing fuel with
  | nil =>
    cases fuel with
    | zero => exact absurd hfuel (Nat.lt_irrefl 0)
    | succ fuel =>
      exact ⟨_, fromLine_of_at? (at?_append h text) fuel⟩
  | cons c gap ih =>
    obtain ⟨hc, hgap⟩ := List.forall_mem_cons.mp hgap
    cases fuel with
    | zero => exact absurd hfuel (Nat.not_lt_zero _)
    | succ fuel =>
      rw [List.cons_append, fromLine, if_pos rfl, at?_of_isBlank hc]
      dsimp only
      rw [hc]
      exact ih hgap (Nat.lt_of_succ_lt_succ hfuel)

/-- The role of a line is that of the tag it begins with, if that has one. -/
theorem findSome?_ofLine (h : IsOwner owner) (hgap : ∀ c ∈ gap, isBlank c = true)
    (hrole : role? (String.ofList owner) ⟨owner, (bodyOf text).1, (bodyOf text).2⟩ = some role) :
    (ofLine (gap ++ (owner ++ ':' :: text))).findSome? (role? (String.ofList owner)) =
      some role := by
  have hfuel : gap.length < (gap ++ (owner ++ ':' :: text)).length + 1 := by
    rw [List.length_append]
    omega
  obtain ⟨tags, htags⟩ := fromLine_gap h hgap hfuel
  rw [ofLine, htags, List.findSome?_cons, hrole]

/-! ### Bodies -/

theorem trimQuotes_eq_self (h : '"' ∉ text) : trimQuotes text = text := by
  have hdrop : ∀ {chars : List Char}, '"' ∉ chars → chars.dropWhile (· == '"') = chars := by
    intro chars hchars
    cases chars with
    | nil => rfl
    | cons c chars =>
      exact List.dropWhile_cons_of_neg (by simp [Ne.symm (List.ne_of_not_mem_cons hchars)])
  rw [trimQuotes, hdrop h, hdrop (by simpa using h), List.reverse_reverse]

/-- A word without quotes is the body as far as a blank. -/
theorem bodyOf_unbroken (h : IsUnbroken text) (hquote : '"' ∉ text) (hrest : BreaksOff rest) :
    bodyOf (text ++ rest) = (text, rest) := by
  have hbare : bodyOf (text ++ rest) = bare (text ++ rest) := by
    obtain ⟨c, text, rfl⟩ := List.exists_cons_of_ne_nil h.ne_nil
    rw [bodyOf]
    rintro inside heq
    exact hquote (List.mem_cons.mpr (.inl (List.cons.inj heq).1.symm))
  rw [hbare, bare, Text.takeWhile_of_breaksOff h.not_isBlank hrest,
    Text.dropWhile_of_breaksOff h.not_isBlank hrest, trimQuotes_eq_self hquote]

theorem closed?_append (h : '"' ∉ text) : closed? (text ++ '"' :: rest) = some (text, rest) := by
  induction text with
  | nil => rfl
  | cons c text ih =>
    obtain ⟨hc, h⟩ := not_or.mp fun hmem => h (List.mem_cons.mpr hmem)
    rw [List.cons_append, closed?, ih h]
    · rfl
    · exact fun heq => hc heq.symm

/-- A text between quotes is the body. -/
theorem bodyOf_quoted (h : '"' ∉ text) : bodyOf ('"' :: (text ++ '"' :: rest)) = (text, rest) := by
  rw [bodyOf, closed?_append h]
  rfl

/-! ### Arguments -/

theorem stripPrefix?_colons (h : text.head? ≠ some ':') :
    Text.stripPrefix? [':', ':'] text = none := by
  cases text with
  | nil => rfl
  | cons c text =>
    rw [Text.stripPrefix?, if_neg]
    rintro rfl
    exact h rfl

/-- Arguments that do not begin with a colon are what is left between the blanks. -/
theorem trailingArgs_gap (hgap : IsGap gap) (hgap' : IsGap gap') (hargs : IsTrimmed args)
    (hcolon : args.head? ≠ some ':') : trailingArgs (gap ++ args ++ gap') = args := by
  rw [trailingArgs, Text.trim_surround hgap.isBlank hgap'.isBlank, hargs.trim,
    stripPrefix?_colons hcolon]

/-- A double colon before the arguments is dropped. -/
theorem trailingArgs_colons {between : List Char} (hgap : IsGap gap) (hbetween : IsGap between)
    (hgap' : IsGap gap') (hargs : IsTrimmed args) :
    trailingArgs (gap ++ ([':', ':'] ++ between ++ args) ++ gap') = args := by
  have hcolons : IsUnbroken [':', ':'] := by decide
  rw [trailingArgs, Text.trim_surround hgap.isBlank hgap'.isBlank]
  cases args with
  | nil =>
    have hnone : ∀ c ∈ [], isBlank c = true := List.forall_mem_nil _
    have htrim := Text.trim_surround hnone hbetween.isBlank [':', ':']
    rw [List.nil_append, hcolons.isTrimmed.trim] at htrim
    rw [List.append_nil, htrim]
    rfl
  | cons c args =>
    have htrim := (hcolons.append between hargs (List.cons_ne_nil c args)).trim
    have hnone : ∀ c ∈ [], isBlank c = true := List.forall_mem_nil _
    have hrest := Text.trim_surround hbetween.isBlank hnone (c :: args)
    rw [List.append_nil, hargs.trim] at hrest
    rw [htrim]
    exact hrest

/-! ### Roles -/

theorem role?_token (owner : List Char) (kind : RoleKind) (rest : List Char) :
    role? (String.ofList owner) ⟨owner, kind.token.toList, rest⟩ =
      some ⟨kind, String.ofList (trailingArgs rest)⟩ := by
  rw [role?, if_pos rfl, Text.cutAt_of_notMem kind.notMem_comma_token]
  dsimp only
  rw [kind.isUnbroken_token.isTrimmed.trim, String.ofList_toList, kind.ofToken?_token]
  rfl

theorem role?_inline (owner : List Char) (kind : RoleKind) (name rest : List Char) :
    role? (String.ofList owner) ⟨owner, kind.token.toList ++ ',' :: name, rest⟩ =
      some ⟨kind, String.ofList (Text.trim name)⟩ := by
  rw [role?, if_pos rfl, Text.cutAt_append kind.notMem_comma_token]
  dsimp only
  rw [kind.isUnbroken_token.isTrimmed.trim, String.ofList_toList, kind.ofToken?_token]
  rfl

end Tag

/-! ### Texts of several lines -/

open Tag (ofLine role?)

variable {owner : String} {line text : List Char} {role : Role}

/-- A line stands in a text with blanks around it, behind lines that give no role, and with anything
on the lines after it. -/
inductive Tag.Stands (owner : String) (line : List Char) : List Char → Prop
  | intro {before indent tail after : List Char}
    (hbefore : before = [] ∨ before.getLast? = some '\n')
    (hsilent : Role.ofText? owner (String.ofList before) = none)
    (hindent : IsGap indent) (htail : IsGap tail) (hafter : ∀ c ∈ after.head?, c = '\n') :
    Stands owner line (before ++ (indent ++ line ++ tail ++ after))

/-- A line that stands in a text decides the role of the text, if it has one whatever blanks are
around it. -/
theorem Tag.Stands.ofText?_eq (H : Tag.Stands owner line text) (hfeed : '\n' ∉ line)
    (hne : line ≠ []) (hlast : ∀ c ∈ line.getLast?, isBlank c = false)
    (hrole : ∀ indent tail, IsGap indent → IsGap tail →
      (ofLine (indent ++ line ++ tail)).findSome? (role? owner) = some role) :
    Role.ofText? owner (String.ofList text) = some role := by
  obtain @⟨before, indent, tail, after, hbefore, hsilent, hindent, htail, hafter⟩ := H
  have hnotMem : '\n' ∉ indent ++ line ++ tail := by
    simp only [List.mem_append, not_or]
    exact ⟨⟨hindent.notMem, hfeed⟩, htail.notMem⟩
  -- The line gives the role, whether the text ends with it or goes on.
  have hhere : (Text.lines (indent ++ line ++ tail ++ after)).findSome?
      (fun line => (ofLine line).findSome? (role? owner)) = some role := by
    cases after with
    | nil =>
      rw [List.append_nil, Text.lines_of_notMem hnotMem (by simp [hne]), List.findSome?_cons,
        hrole indent tail hindent htail]
    | cons c after =>
      obtain rfl := hafter c rfl
      have hlast' : ∀ c ∈ (indent ++ line).getLast?, isBlank c = false := by
        intro c hc
        rw [List.getLast?_append, Option.or_of_isSome (by simpa using hne)] at hc
        exact hlast c hc
      obtain ⟨tail', htail', hreturn⟩ := Text.exists_dropReturn htail hlast'
      rw [Text.lines_append, Text.splitAt_of_notMem hnotMem, List.map_singleton, hreturn,
        List.singleton_append, List.findSome?_cons, hrole indent tail' hindent htail']
  rw [Role.ofText?, String.toList_ofList]
  obtain rfl | hbefore := hbefore
  · exact hhere
  · obtain ⟨front, rfl⟩ := List.getLast?_eq_some_iff.mp hbefore
    have hnone : ((Text.splitAt '\n' front).map Text.dropReturn).findSome?
        (fun line => (ofLine line).findSome? (role? owner)) = none := by
      rw [Role.ofText?, String.toList_ofList, Text.lines_append, Text.lines_nil,
        List.append_nil] at hsilent
      exact hsilent
    rw [List.append_assoc, List.singleton_append, Text.lines_append, List.findSome?_append, hnone,
      hhere]
    rfl

end Entrypoint
