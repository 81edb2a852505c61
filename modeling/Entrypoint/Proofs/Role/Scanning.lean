import Entrypoint.Proofs.Role.TagGrammar

/-! The role of a text against the grammar of tags. The first tag with a role, over all lines, decides
the role of a text, and so does the first of two texts with a role, if one is put below the other. -/

namespace Entrypoint

open Text (BreaksOff isBlank)

namespace Tag

variable {line text word body written rest : List Char} {tag : Tag}

/-! ### Roles of tags -/

/-- The role that a tag of an owner gives: its kind is the text before the first comma of the body,
and the text behind the comma or, without a comma, the rest of the line is its arguments. A double
colon before such a rest is dropped. -/
inductive Gives (owner : String) (tag : Tag) : Role → Prop
  | inline {kind : RoleKind} {word args : List Char} (howner : tag.owner = owner.toList)
      (hbody : tag.body = word ++ ',' :: args) (hword : ',' ∉ word)
      (hkind : Text.trim word = kind.token.toList) :
      Gives owner tag ⟨kind, String.ofList (Text.trim args)⟩
  | separated {kind : RoleKind} {args : List Char} (howner : tag.owner = owner.toList)
      (hbody : ',' ∉ tag.body) (hkind : Text.trim tag.body = kind.token.toList)
      (hrest : Text.trim tag.rest = ':' :: ':' :: args) :
      Gives owner tag ⟨kind, String.ofList (Text.trim args)⟩
  | trailing {kind : RoleKind} (howner : tag.owner = owner.toList)
      (hbody : ',' ∉ tag.body) (hkind : Text.trim tag.body = kind.token.toList)
      (hrest : ¬[':', ':'] <+: Text.trim tag.rest) :
      Gives owner tag ⟨kind, String.ofList (Text.trim tag.rest)⟩

theorem trailingArgs_of_colons (h : Text.trim rest = ':' :: ':' :: text) :
    trailingArgs rest = Text.trim text := by
  have hstrip : Text.stripPrefix? [':', ':'] (Text.trim rest) = some text :=
    Text.stripPrefix?_eq_some_iff.mpr h
  rw [trailingArgs, hstrip]

theorem trailingArgs_of_not_colons (h : ¬[':', ':'] <+: Text.trim rest) :
    trailingArgs rest = Text.trim rest := by
  have hstrip : Text.stripPrefix? [':', ':'] (Text.trim rest) = none := by
    rw [Option.eq_none_iff_forall_ne_some]
    exact fun after hafter => h ⟨after, (Text.stripPrefix?_eq_some_iff.mp hafter).symm⟩
  rw [trailingArgs, hstrip]

variable {owner : String} {role : Role}

/-- The kind is the trimmed text before the first comma, and it decides whether there is a role. -/
theorem role?_of_cutAt {args : Option (List Char)} (howner : tag.owner = owner.toList)
    (hcut : Text.cutAt ',' tag.body = (word, args)) :
    role? owner tag = some role ↔ Text.trim word = role.kind.token.toList ∧
      role.args = String.ofList ((args.map Text.trim).getD (trailingArgs tag.rest)) := by
  rw [role?, if_pos (by rw [howner, String.ofList_toList]), hcut]
  dsimp only
  rw [Option.map_eq_some_iff]
  constructor
  · rintro ⟨kind, hkind, rfl⟩
    rw [← RoleKind.ofToken?_eq_some_iff.mp hkind, String.toList_ofList]
    exact ⟨rfl, rfl⟩
  · rintro ⟨hkind, hargs⟩
    rw [hkind, String.ofList_toList, ← hargs]
    exact ⟨role.kind, RoleKind.ofToken?_token _, rfl⟩

/-- The reader gives a tag its role. -/
theorem role?_eq_some_iff : role? owner tag = some role ↔ Gives owner tag role := by
  refine ⟨fun h => ?_, fun h => ?_⟩
  · have howner : tag.owner = owner.toList := by
      by_contra hother
      rw [role?, if_neg (fun heq => hother (by rw [← heq, String.toList_ofList]))] at h
      cases h
    obtain ⟨kind, args⟩ := role
    by_cases hcomma : ',' ∈ tag.body
    · obtain ⟨word, args, hbody, hword⟩ := List.eq_append_cons_of_mem hcomma
      obtain ⟨hkind, rfl⟩ :=
        (role?_of_cutAt howner (hbody ▸ Text.cutAt_append hword args)).mp h
      exact .inline howner hbody hword hkind
    · obtain ⟨hkind, rfl⟩ := (role?_of_cutAt howner (Text.cutAt_of_notMem hcomma)).mp h
      dsimp only [Option.map_none, Option.getD_none]
      by_cases hcolons : [':', ':'] <+: Text.trim tag.rest
      · obtain ⟨args, hargs⟩ := hcolons
        rw [trailingArgs_of_colons hargs.symm]
        exact .separated howner hcomma hkind hargs.symm
      · rw [trailingArgs_of_not_colons hcolons]
        exact .trailing howner hcomma hkind hcolons
  · cases h with
    | inline howner hbody hword hkind =>
      exact (role?_of_cutAt howner (hbody ▸ Text.cutAt_append hword _)).mpr ⟨hkind, rfl⟩
    | separated howner hbody hkind hrest =>
      refine (role?_of_cutAt howner (Text.cutAt_of_notMem hbody)).mpr ⟨hkind, ?_⟩
      exact congrArg String.ofList (trailingArgs_of_colons hrest).symm
    | trailing howner hbody hkind hrest =>
      refine (role?_of_cutAt howner (Text.cutAt_of_notMem hbody)).mpr ⟨hkind, ?_⟩
      exact congrArg String.ofList (trailingArgs_of_not_colons hrest).symm

/-- No tag of a line gives a role. -/
def IsSilent (owner : String) (line : List Char) : Prop :=
  ∀ o : Occurrence, o.IsIn line → ∀ role, ¬Gives owner o.tag role

/-- A role is that of the first tag with one, over the lines in their order and from left to right in
a line. -/
inductive Decides (owner : String) (role : Role) : List (List Char) → Prop
  | here {line : List Char} {lines : List (List Char)} {o : Occurrence} (hisIn : o.IsIn line)
      (hgives : Gives owner o.tag role)
      (hfirst : ∀ o' : Occurrence, o'.IsIn line → o'.position < o.position →
        ∀ role', ¬Gives owner o'.tag role') :
      Decides owner role (line :: lines)
  | later {line : List Char} {lines : List (List Char)} (hsilent : IsSilent owner line)
      (h : Decides owner role lines) : Decides owner role (line :: lines)

/-- The role of a line. -/
def lineRole? (owner : String) (line : List Char) : Option Role :=
  (ofLine line).findSome? (role? owner)

theorem lineRole?_eq_none_iff : lineRole? owner line = none ↔ IsSilent owner line := by
  obtain ⟨list, hlist, -, hmem⟩ := Occurrence.exists_of_ofLine line
  rw [lineRole?, ← hlist, List.findSome?_map, List.findSome?_eq_none_iff]
  refine forall_congr' fun o => ?_
  rw [hmem, Option.eq_none_iff_forall_ne_some]
  exact imp_congr_right fun _ => forall_congr' fun role => not_congr role?_eq_some_iff

theorem lineRole?_eq_some_iff : lineRole? owner line = some role ↔
    ∃ o : Occurrence, o.IsIn line ∧ Gives owner o.tag role ∧
      ∀ o' : Occurrence, o'.IsIn line → o'.position < o.position →
        ∀ role', ¬Gives owner o'.tag role' := by
  obtain ⟨list, hlist, hsorted, hmem⟩ := Occurrence.exists_of_ofLine line
  rw [lineRole?, ← hlist, List.findSome?_map, List.findSome?_eq_some_iff]
  constructor
  · rintro ⟨front, o, back, rfl, hrole, hfront⟩
    refine ⟨o, (hmem o).mp (by simp), role?_eq_some_iff.mp hrole, fun o' hisIn hlt role' hgives => ?_⟩
    rcases List.mem_append.mp ((hmem o').mpr hisIn) with hearlier | hlater
    · have hnone := hfront o' hearlier
      rw [Function.comp_apply, role?_eq_some_iff.mpr hgives] at hnone
      cases hnone
    · rcases List.mem_cons.mp hlater with rfl | hback
      · exact absurd hlt (Nat.lt_irrefl _)
      · have hcons := (List.pairwise_append.mp hsorted).2.1
        exact Nat.lt_asymm hlt ((List.pairwise_cons.mp hcons).1 o' hback)
  · rintro ⟨o, hisIn, hgives, hfirst⟩
    obtain ⟨front, back, rfl⟩ := List.append_of_mem ((hmem o).mpr hisIn)
    refine ⟨front, o, back, rfl, role?_eq_some_iff.mpr hgives, fun o' ho' => ?_⟩
    rw [Function.comp_apply, Option.eq_none_iff_forall_ne_some]
    have hlt := (List.pairwise_append.mp hsorted).2.2 o' ho' o List.mem_cons_self
    exact fun role' hrole' => hfirst o' ((hmem o').mp (List.mem_append_left _ ho')) hlt role'
      (role?_eq_some_iff.mp hrole')

theorem decides_iff {lines : List (List Char)} :
    lines.findSome? (lineRole? owner) = some role ↔ Decides owner role lines := by
  induction lines with
  | nil => exact iff_of_false nofun nofun
  | cons line lines ih =>
    rw [List.findSome?_cons]
    cases hline : lineRole? owner line with
    | some first =>
      obtain ⟨o, hisIn, hgives, hfirst⟩ := lineRole?_eq_some_iff.mp hline
      constructor
      · rintro ⟨⟩
        exact .here hisIn hgives hfirst
      · intro h
        cases h with
        | here hisIn' hgives' hfirst' =>
          exact hline.symm.trans (lineRole?_eq_some_iff.mpr ⟨_, hisIn', hgives', hfirst'⟩)
        | later hsilent => exact absurd hgives (hsilent o hisIn first)
    | none =>
      refine ih.trans ⟨.later (lineRole?_eq_none_iff.mp hline), fun h => ?_⟩
      cases h with
      | here hisIn hgives => exact absurd hgives (lineRole?_eq_none_iff.mp hline _ hisIn role)
      | later _ h => exact h

/-! ### A blank at the end of a line -/

variable {c : Char} {fuel : Nat}

/-- The tag with one more character on its line. -/
def push (c : Char) (tag : Tag) : Tag := { tag with rest := tag.rest ++ [c] }

theorem BodyWritten.push (h : BodyWritten body rest written) (hc : isBlank c = true) :
    BodyWritten body (rest ++ [c]) written := by
  cases h with
  | quoted h => exact .quoted h
  | bare hopen hword hrest hbody =>
    have hquote : c ≠ '"' := by
      rintro rfl
      exact absurd hc (by decide)
    refine .bare (fun inside heq => ?_) hword ?_ hbody
    · rw [← List.append_assoc] at heq
      obtain ⟨hnil, -⟩ | ⟨start, hstart, rfl⟩ := List.append_eq_cons_iff.mp heq
      · rw [hnil] at heq
        exact absurd (List.cons.inj heq).1 hquote
      · rw [List.mem_append, List.mem_singleton, not_or]
        exact ⟨hopen start hstart, hquote.symm⟩
    · intro d hd
      cases rest with
      | nil => exact Option.some.inj hd ▸ hc
      | cons e rest => exact hrest d hd

theorem at?_push (hc : isBlank c = true) (text : List Char) :
    at? (text ++ [c]) = (at? text).map (push c) := by
  have hstart : ∀ c ∈ ([] : List Char).getLast?, isBlank c = true := nofun
  have hsome (tag : Tag) (h : at? text = some tag) : at? (text ++ [c]) = some (push c tag) := by
    obtain ⟨written, hstands⟩ := Occurrence.exists_standsIn [] h hstart
    have hline := hstands.line_eq
    have hpush : Occurrence.StandsIn ⟨[], push c tag, written⟩ ([] ++ (text ++ [c])) := by
      refine ⟨?_, hstart, hstands.owner, hstands.body.push hc⟩
      simp only [List.nil_append] at hline ⊢
      rw [hline]
      simp [push]
    exact hpush.at?_eq rfl rfl
  cases hat : at? text with
  | some tag => exact hsome tag hat
  | none =>
    rw [Option.map_none, Option.eq_none_iff_forall_ne_some]
    intro tag htag
    obtain ⟨written, hstands⟩ := Occurrence.exists_standsIn [] htag hstart
    have hline : text ++ [c] = tag.owner ++ ':' :: (written ++ tag.rest) := hstands.line_eq
    rcases List.eq_nil_or_concat (written ++ tag.rest) with hnil | ⟨after, d, hafter⟩
    · rw [hnil] at hline
      obtain rfl : c = ':' := (List.append_singleton_inj.mp hline).2
      exact absurd hc (by decide)
    · rw [hafter, List.concat_eq_append, ← List.cons_append, ← List.append_assoc] at hline
      obtain ⟨rfl, -⟩ := List.append_singleton_inj.mp hline
      rw [at?_append hstands.owner] at hat
      cases hat

theorem length_rest_lt (h : at? text = some tag) : tag.rest.length < text.length := by
  obtain ⟨written, hstands⟩ := Occurrence.exists_standsIn [] h nofun
  have hlength := congrArg List.length hstands.line_eq
  simp only [List.nil_append, List.length_append, List.length_cons] at hlength
  omega

theorem fromLine_nil (fuel : Nat) (atStart : Bool) : fromLine fuel atStart [] = [] := by
  cases fuel with
  | zero => rfl
  | succ fuel =>
    rw [fromLine, show at? [] = none from rfl, ite_self]

/-- The tags of a line are there as well with a blank at its end. -/
theorem fromLine_push (hc : isBlank c = true) {atStart : Bool} (hfuel : text.length < fuel) :
    fromLine (fuel + 1) atStart (text ++ [c]) = (fromLine fuel atStart text).map (push c) := by
  induction fuel generalizing atStart text with
  | zero => exact absurd hfuel (Nat.not_lt_zero _)
  | succ fuel ih =>
    have hstep := fromLine.eq_def (fuel + 2) atStart (text ++ [c])
    have hstep' := fromLine.eq_def (fuel + 1) atStart text
    dsimp only at hstep hstep'
    have hhere : (if atStart = true then at? (text ++ [c]) else none) =
        (if atStart = true then at? text else none).map (push c) := by
      rw [at?_push hc]
      split <;> rfl
    rw [hstep, hstep', hhere]
    cases htag : if atStart = true then at? text else none with
    | some tag =>
      have hat : at? text = some tag := by
        split at htag
        · exact htag
        · cases htag
      have hlength := length_rest_lt hat
      exact congrArg (push c tag :: ·) (ih (by omega))
    | none =>
      cases text with
      | nil => exact fromLine_nil _ _
      | cons d text => exact ih (Nat.lt_of_succ_lt_succ hfuel)

theorem trailingArgs_push (hc : isBlank c = true) (rest : List Char) :
    trailingArgs (rest ++ [c]) = trailingArgs rest := by
  have htrim : Text.trim ([] ++ rest ++ [c]) = Text.trim rest :=
    Text.trim_surround (List.forall_mem_nil _) (by simpa using hc) rest
  rw [trailingArgs, trailingArgs, ← htrim, List.nil_append]

theorem role?_push (hc : isBlank c = true) (tag : Tag) :
    role? owner (push c tag) = role? owner tag := by
  rw [role?, role?, push, trailingArgs_push hc]

/-- A blank at the end of a line gives it no other role. -/
theorem lineRole?_push (hc : isBlank c = true) (line : List Char) :
    lineRole? owner (line ++ [c]) = lineRole? owner line := by
  rw [lineRole?, ofLine, List.length_append, List.length_singleton,
    fromLine_push hc (Nat.lt_succ_self _), List.findSome?_map, lineRole?, ofLine]
  exact congrArg (List.findSome? · _) (funext fun tag => role?_push hc tag)

theorem lineRole?_dropReturn (line : List Char) :
    lineRole? owner (Text.dropReturn line) = lineRole? owner line := by
  rw [Text.dropReturn]
  split
  · rename_i hreturn
    obtain ⟨front, rfl⟩ := List.getLast?_eq_some_iff.mp hreturn
    rw [List.dropLast_concat, lineRole?_push (by decide)]
  · rfl

theorem findSome?_dropReturn (pieces : List (List Char)) :
    (pieces.map Text.dropReturn).findSome? (lineRole? owner) =
      pieces.findSome? (lineRole? owner) := by
  rw [List.findSome?_map]
  exact congrArg (List.findSome? · pieces) (funext fun line => lineRole?_dropReturn line)

/-- The pieces between line feeds decide the role of their text as its lines do. -/
theorem findSome?_splitAt (text : List Char) :
    (Text.splitAt '\n' text).findSome? (lineRole? owner) =
      (Text.lines text).findSome? (lineRole? owner) := by
  obtain ⟨front, last, hlast⟩ :=
    (List.eq_nil_or_concat _).resolve_left (Text.splitAt_ne_nil '\n' text)
  rw [List.concat_eq_append] at hlast
  rw [Text.lines, hlast, List.dropLast_concat, List.getLast?_concat, List.findSome?_append,
    List.findSome?_append, findSome?_dropReturn]
  cases last <;> rfl

end Tag

open Tag (lineRole?)

/-- **Scanning is the grammar of tags.** The role of a text is that of its first tag, over the lines
in their order and from left to right in each, that belongs to the owner and whose kind is one of the
roles; a text without such a tag has none. Of two texts with a line feed between them the second
decides only where the first gives no role. -/
theorem Role.ofText?_decides (owner : String) :
    (∀ (text : String) (role : Role), Role.ofText? owner text = some role ↔
      Tag.Decides owner role (Text.lines text.toList)) ∧
    (∀ text : String, Role.ofText? owner text = none ↔
      ∀ line ∈ Text.lines text.toList, Tag.IsSilent owner line) ∧
    ∀ before after : String, Role.ofText? owner (before ++ "\n" ++ after) =
      (Role.ofText? owner before).or (Role.ofText? owner after) := by
  refine ⟨fun text role => Tag.decides_iff, fun text => ?_, fun before after => ?_⟩
  · exact List.findSome?_eq_none_iff.trans
      (forall₂_congr fun line _ => Tag.lineRole?_eq_none_iff)
  · have hlines : Text.lines (before ++ "\n" ++ after).toList =
        (Text.splitAt '\n' before.toList).map Text.dropReturn ++ Text.lines after.toList := by
      rw [← Text.lines_append]
      simp
    calc Role.ofText? owner (before ++ "\n" ++ after)
        = ((Text.splitAt '\n' before.toList).map Text.dropReturn ++
            Text.lines after.toList).findSome? (lineRole? owner) := by
          rw [← hlines]
          rfl
      _ = ((Text.splitAt '\n' before.toList).findSome? (lineRole? owner)).or
            ((Text.lines after.toList).findSome? (lineRole? owner)) := by
          rw [List.findSome?_append, Tag.findSome?_dropReturn]
      _ = (Role.ofText? owner before).or (Role.ofText? owner after) := by
          rw [Tag.findSome?_splitAt]
          rfl

end Entrypoint
