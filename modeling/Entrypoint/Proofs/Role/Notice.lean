import Entrypoint.Proofs.Role.HandlerArguments
import Entrypoint.Proofs.Role.ServiceArguments
import Entrypoint.Proofs.Role.TagLine

/-! What a tagged line says. A line that is written after the grammar of tags, with an owner, the word
of a role and arguments, reads back as exactly what was written: the verb and path of a handler, the
settings of a service, the external name of a field. -/

namespace Entrypoint

open Text (IsGap IsUnbroken IsTrimmed BreaksOff isBlank)

variable {owner line text args gap tail rest path name : List Char} {verb : Verb} {kind : RoleKind}

/-! ### Routes -/

namespace RoleArgs

/-- A verb, a gap and a path bind a handler. -/
theorem binds_append (verb : Verb) (hgap : IsGap gap) (hne : gap ≠ []) (hpath : IsUnbroken path) :
    Binds (String.ofList (verb.name.toList ++ gap ++ path)) ⟨verb, String.ofList path⟩ := by
  rw [Binds, String.toList_ofList, String.toList_ofList, Text.words_append hgap.isBlank hne,
    Text.words_of_isUnbroken (isUnbroken_verb verb), Text.words_of_isUnbroken hpath]
  rfl

/-! ### Settings -/

/-- Pairs of a key and a value, written one after the other with gaps between them. -/
inductive Listed : List (String × String) → List Char → Prop
  | nil : Listed [] []
  | cons {key value gap rest : List Char} {pairs : List (String × String)} :
    IsKey key → IsUnbroken value → IsGap gap → (gap = [] ↔ rest = []) → Listed pairs rest →
    Listed ((String.ofList key, String.ofList value) :: pairs) (key ++ '=' :: value ++ (gap ++ rest))

theorem Listed.head_isKeyStart {pairs : List (String × String)} (h : Listed pairs args) :
    ∀ c ∈ args.head?, isKeyStart c = true := by
  cases h with
  | nil => simp
  | cons hkey =>
    obtain ⟨hc, -⟩ := hkey
    exact fun d hd => Option.some.inj hd ▸ hc

theorem Listed.isTrimmed {pairs : List (String × String)} (h : Listed pairs args) :
    IsTrimmed args := by
  refine ⟨fun c hc =>
    Text.not_isBlank_of_isIdentStart (isIdentStart_of_isKeyStart (h.head_isKeyStart c hc)), ?_⟩
  induction h with
  | nil => exact IsTrimmed.nil.last
  | @cons key value gap rest pairs hkey hvalue hgap hnil _ ih =>
    intro c hc
    by_cases hrest : rest = []
    · rw [hrest, hnil.mpr hrest, List.append_nil, List.append_nil, List.getLast?_append,
        Option.or_of_isSome (by simp), List.getLast?_cons_of_ne_nil hvalue.ne_nil] at hc
      exact hvalue.not_isBlank c (List.mem_of_getLast? hc)
    · rw [← List.append_assoc, List.getLast?_append, Option.or_of_isSome (by simpa using hrest)] at hc
      exact ih c hc

/-- Pairs read back in the order they were written in. -/
theorem Listed.reads {pairs : List (String × String)} (h : Listed pairs args) : Reads args pairs := by
  induction h with
  | nil => exact .nil
  | @cons key value gap rest pairs hkey hvalue hgap hnil _ ih =>
    have hbreak : BreaksOff (gap ++ rest) := by
      by_cases hne : gap = []
      · rw [hne, hnil.mp hne]
        exact IsGap.breaksOff (by simp [IsGap])
      · exact hgap.breaksOff_append hne rest
    exact .pair ⟨rfl, hkey, hvalue, hbreak⟩ (ih.after_gap hgap.isBlank)

theorem Listed.notMem {pairs : List (String × String)} (h : Listed pairs args) : '\n' ∉ args := by
  induction h with
  | nil => exact List.not_mem_nil
  | cons hkey hvalue hgap _ _ ih =>
    obtain ⟨hc, hword⟩ := hkey
    have hfirst : '\n' ≠ _ :=
      (Text.ne_of_isIdentStart (isIdentStart_of_isKeyStart hc) (by decide)).symm
    have hmem : '\n' ∉ _ := fun hmem => Bool.false_ne_true (hword _ hmem)
    simp [hfirst, hmem, hvalue.notMem, hgap.notMem, ih]

theorem Listed.serviceSettings_perm {pairs : List (String × String)} (h : Listed pairs args)
    (hkeys : (pairs.map Prod.fst).Nodup) : (serviceSettings (String.ofList args)).Perm pairs := by
  have hreads : Reads (String.ofList args).toList pairs := String.toList_ofList ▸ h.reads
  rw [hreads.serviceSettings_eq]
  exact Keyed.ofEntries_perm hkeys

/-! ### Names -/

theorem externalName?_of_notMem (htrim : IsTrimmed name) (hne : name ≠ []) (hcomma : ',' ∉ name) :
    externalName? (String.ofList name) = some (String.ofList name) := by
  rw [externalName?, String.toList_ofList, Text.cutAt_of_notMem hcomma]
  dsimp only
  rw [htrim.trim]
  cases name with
  | nil => exact absurd rfl hne
  | cons c name => rfl

end RoleArgs

/-! ### Arguments behind a word -/

theorem Tag.IsOwner.isUnbroken (h : Tag.IsOwner owner) : IsUnbroken owner :=
  ⟨h.ne_nil, fun c hc => Bool.eq_false_iff.mpr fun hblank => Bool.false_ne_true
    ((Tag.isOwnerChar_of_isBlank hblank).symm.trans (h.chars c hc))⟩

theorem Tag.IsOwner.isUnbroken_append (h : Tag.IsOwner owner) {word : List Char}
    (hword : IsUnbroken word) : IsUnbroken (owner ++ ':' :: word) := by
  refine ⟨by simp, fun c hc => ?_⟩
  rcases List.mem_append.mp hc with hc | hc
  · exact h.isUnbroken.not_isBlank c hc
  rcases List.mem_cons.mp hc with rfl | hc
  · decide
  · exact hword.not_isBlank c hc

/-- Arguments stand behind a word on its line, with a double colon before them or without one. -/
inductive Attached (args : List Char) : List Char → Prop
  | alone : args = [] → Attached args []
  | spaced {gap : List Char} : IsGap gap → gap ≠ [] → args ≠ [] → Attached args (gap ++ args)
  | colons {gap between : List Char} : IsGap gap → gap ≠ [] → IsGap between →
    (args = [] → between = []) → Attached args (gap ++ ([':', ':'] ++ between ++ args))

namespace Attached

theorem breaksOff_append (h : Attached args rest) (htail : IsGap tail) : BreaksOff (rest ++ tail) := by
  cases h with
  | alone => exact htail.breaksOff
  | spaced hgap hne =>
    rw [List.append_assoc]
    exact hgap.breaksOff_append hne _
  | colons hgap hne =>
    rw [List.append_assoc]
    exact hgap.breaksOff_append hne _

theorem trailingArgs_append (h : Attached args rest) (htail : IsGap tail) (htrim : IsTrimmed args)
    (hcolon : args.head? ≠ some ':') : Tag.trailingArgs (rest ++ tail) = args := by
  cases h with
  | alone hnil =>
    subst hnil
    have hnone : IsGap [] := List.forall_mem_nil _
    exact Tag.trailingArgs_gap hnone htail htrim hcolon
  | spaced hgap => exact Tag.trailingArgs_gap hgap htail htrim hcolon
  | colons hgap _ hbetween => exact Tag.trailingArgs_colons hgap hbetween htail htrim

theorem notMem (h : Attached args rest) (hargs : '\n' ∉ args) : '\n' ∉ rest := by
  cases h with
  | alone => exact List.not_mem_nil
  | spaced hgap => simp [hgap.notMem, hargs]
  | colons hgap _ hbetween => simp [hgap.notMem, hbetween.notMem, hargs]

/-- No blank follows the arguments, nor the double colon where there are none. -/
theorem getLast?_append (h : Attached args rest) (htrim : IsTrimmed args) {word : List Char}
    (hword : IsUnbroken word) : ∀ c ∈ (word ++ rest).getLast?, isBlank c = false := by
  cases h with
  | alone => rw [List.append_nil]; exact hword.isTrimmed.last
  | spaced _ _ hne => rw [← List.append_assoc]; exact (hword.append _ htrim hne).last
  | @colons gap between _ _ _ hbetween =>
    have hcolons : IsUnbroken [':', ':'] := by decide
    have hcore : IsTrimmed ([':', ':'] ++ between ++ args) := by
      by_cases hne : args = []
      · rw [hne, hbetween hne]
        exact hcolons.isTrimmed
      · exact hcolons.append between htrim hne
    rw [← List.append_assoc]
    exact (hword.append gap hcore (by simp)).last

/-- A word of a role and its arguments give that role, with the arguments as written. -/
theorem ofText?_eq (h : Attached args rest) (howner : Tag.IsOwner owner) (htrim : IsTrimmed args)
    (hcolon : args.head? ≠ some ':') (hfeed : '\n' ∉ args)
    (hstands : Tag.Stands (String.ofList owner) (owner ++ ':' :: (kind.token.toList ++ rest)) text) :
    Role.ofText? (String.ofList owner) (String.ofList text) = some ⟨kind, String.ofList args⟩ := by
  have hword := howner.isUnbroken_append kind.isUnbroken_token
  apply hstands.ofText?_eq
  · rw [← List.cons_append, ← List.append_assoc, List.mem_append, not_or]
    exact ⟨hword.notMem, h.notMem hfeed⟩
  · simp
  · rw [← List.cons_append, ← List.append_assoc]
    exact h.getLast?_append htrim hword
  · intro indent tail hindent htail
    have hline : indent ++ (owner ++ ':' :: (kind.token.toList ++ rest)) ++ tail =
        indent ++ (owner ++ ':' :: (kind.token.toList ++ (rest ++ tail))) := by simp
    rw [hline]
    apply Tag.findSome?_ofLine howner hindent.isBlank
    rw [Tag.bodyOf_unbroken kind.isUnbroken_token kind.notMem_quote_token
      (h.breaksOff_append htail), Tag.role?_token, h.trailingArgs_append htail htrim hcolon]

end Attached

/-! ### Notices -/

/-- What a tagged line says. -/
inductive Notice
  | handler (verb : Verb) (path : String)
  | service (pairs : List (String × String))
  | field (kind : RoleKind) (name : String)

namespace Notice

/-- The word for the role of a field. -/
inductive FieldWord : RoleKind → List Char → Prop
  | pathVariable : FieldWord .pathVariable "pathvar".toList
  | queryVariable : FieldWord .queryVariable "queryvar".toList
  | body : FieldWord .body "body".toList

theorem FieldWord.eq_token {kind : RoleKind} {word : List Char} (h : FieldWord kind word) :
    word = kind.token.toList := by
  cases h <;> rfl

/-- The line of a notice in the tags of an owner. -/
inductive Written (owner : List Char) : Notice → List Char → Prop
  | handler {verb : Verb} {gap path rest : List Char} : IsGap gap → gap ≠ [] → IsUnbroken path →
    Attached (verb.name.toList ++ gap ++ path) rest →
    Written owner (.handler verb (String.ofList path))
      (owner ++ ':' :: ("handler".toList ++ rest))
  | service {pairs : List (String × String)} {args rest : List Char} : RoleArgs.Listed pairs args →
    (pairs.map Prod.fst).Nodup → Attached args rest →
    Written owner (.service pairs) (owner ++ ':' :: ("service".toList ++ rest))
  | field {kind : RoleKind} {word name : List Char} :
    FieldWord kind word → IsTrimmed name → name ≠ [] → ',' ∉ name → '"' ∉ name → '\n' ∉ name →
    Written owner (.field kind (String.ofList name))
      (owner ++ ':' :: '"' :: (word ++ ',' :: name ++ ['"']))

/-- A role says what a notice says: its kind is that of the notice, and its arguments are read as
the notice has them. -/
def IsCarriedBy (role : Role) : Notice → Prop
  | handler verb path => role.kind = .handler ∧
    ∀ declaration, RoleArgs.handlerBinding declaration role.args = .ok ⟨verb, path⟩
  | service pairs => role.kind = .service ∧ (RoleArgs.serviceSettings role.args).Perm pairs
  | field kind name => role.kind = kind ∧ RoleArgs.externalName? role.args = some name

namespace Written

variable {notice : Notice}

theorem exists_role_handler (hgap : IsGap gap) (hne : gap ≠ []) (hpath : IsUnbroken path)
    (hattached : Attached (verb.name.toList ++ gap ++ path) rest) (howner : Tag.IsOwner owner)
    (hstands : Tag.Stands (String.ofList owner)
      (owner ++ ':' :: (RoleKind.handler.token.toList ++ rest)) text) :
    ∃ role, Role.ofText? (String.ofList owner) (String.ofList text) = some role ∧
      IsCarriedBy role (.handler verb (String.ofList path)) := by
  have hverb := RoleArgs.isUnbroken_verb verb
  have htrim := hverb.append gap hpath.isTrimmed hpath.ne_nil
  have hcolon : (verb.name.toList ++ gap ++ path).head? ≠ some ':' := by cases verb <;> exact nofun
  have hfeed : '\n' ∉ verb.name.toList ++ gap ++ path := by
    simp only [List.mem_append, not_or]
    exact ⟨⟨hverb.notMem, hgap.notMem⟩, hpath.notMem⟩
  refine ⟨_, hattached.ofText?_eq howner htrim hcolon hfeed hstands, rfl, fun declaration => ?_⟩
  exact RoleArgs.handlerBinding_eq_ok_iff.mpr (RoleArgs.binds_append verb hgap hne hpath)

theorem exists_role_service {pairs : List (String × String)} (hlisted : RoleArgs.Listed pairs args)
    (hkeys : (pairs.map Prod.fst).Nodup) (hattached : Attached args rest)
    (howner : Tag.IsOwner owner)
    (hstands : Tag.Stands (String.ofList owner)
      (owner ++ ':' :: (RoleKind.service.token.toList ++ rest)) text) :
    ∃ role, Role.ofText? (String.ofList owner) (String.ofList text) = some role ∧
      IsCarriedBy role (.service pairs) := by
  have hcolon : args.head? ≠ some ':' := fun hhead =>
    absurd (hlisted.head_isKeyStart ':' hhead) (by decide)
  exact ⟨_, hattached.ofText?_eq howner hlisted.isTrimmed hcolon hlisted.notMem hstands, rfl,
    hlisted.serviceSettings_perm hkeys⟩

theorem exists_role_field (htrim : IsTrimmed name) (hne : name ≠ []) (hcomma : ',' ∉ name)
    (hquote : '"' ∉ name) (hfeed : '\n' ∉ name) (howner : Tag.IsOwner owner)
    (hstands : Tag.Stands (String.ofList owner)
      (owner ++ ':' :: '"' :: (kind.token.toList ++ ',' :: name ++ ['"'])) text) :
    ∃ role, Role.ofText? (String.ofList owner) (String.ofList text) = some role ∧
      IsCarriedBy role (.field kind (String.ofList name)) := by
  have hrole : Role.ofText? (String.ofList owner) (String.ofList text) =
      some ⟨kind, String.ofList name⟩ := by
    apply hstands.ofText?_eq
    · simp [howner.isUnbroken.notMem, kind.isUnbroken_token.notMem, hfeed]
    · simp
    · rw [← List.cons_append, ← List.cons_append, ← List.append_assoc, List.getLast?_concat]
      exact fun c hc => Option.some.inj hc ▸ (by decide)
    · intro indent tail hindent htail
      have hbody : '"' ∉ kind.token.toList ++ ',' :: name := by
        simp [kind.notMem_quote_token, hquote]
      have hline : indent ++ (owner ++ ':' :: '"' :: (kind.token.toList ++ ',' :: name ++ ['"'])) ++
          tail = indent ++ (owner ++ ':' :: '"' :: (kind.token.toList ++ ',' :: name ++
            '"' :: tail)) := by simp
      rw [hline]
      apply Tag.findSome?_ofLine howner hindent.isBlank
      rw [Tag.bodyOf_quoted hbody, Tag.role?_inline, htrim.trim]
  exact ⟨_, hrole, rfl, RoleArgs.externalName?_of_notMem htrim hne hcomma⟩

end Written

/-- A notice reads back as what was written: the line of a notice gives the text around it a role
that carries the notice. -/
theorem Written.exists_role {notice : Notice} (h : Written owner notice line)
    (howner : Tag.IsOwner owner) (hstands : Tag.Stands (String.ofList owner) line text) :
    ∃ role, Role.ofText? (String.ofList owner) (String.ofList text) = some role ∧
      notice.IsCarriedBy role := by
  cases h with
  | handler hgap hne hpath hattached =>
    exact exists_role_handler hgap hne hpath hattached howner hstands
  | service hlisted hkeys hattached =>
    exact exists_role_service hlisted hkeys hattached howner hstands
  | field hword htrim hne hcomma hquote hfeed =>
    cases hword.eq_token
    exact exists_role_field htrim hne hcomma hquote hfeed howner hstands

/-- A handler behind another line, settings that stand alone, and a field with more text after it. -/
theorem exists_role_users :
    (∃ role, Role.ofText? (String.ofList "api".toList) (String.ofList
        "Users.\n api:handler :: GET /u/{id}:=,".toList) = some role ∧
      (Notice.handler .get "/u/{id}:=,").IsCarriedBy role) ∧
    (∃ role, Role.ofText? (String.ofList "api".toList) (String.ofList
        "api:service base_path=/v1 k=a=b".toList) = some role ∧
      (Notice.service [("base_path", "/v1"), ("k", "a=b")]).IsCarriedBy role) ∧
    (∃ role, Role.ofText? (String.ofList "api".toList) (String.ofList
        "api:\"pathvar,user id\" \nMore.".toList) = some role ∧
      (Notice.field .pathVariable "user id").IsCarriedBy role) := by
  have howner : Tag.IsOwner "api".toList := ⟨by decide, List.all_eq_true.mp (by decide)⟩
  have hnone : IsGap [] := List.forall_mem_nil _
  have hspace : IsGap [' '] := by decide
  have hpath : IsUnbroken "/u/{id}:=,".toList := by decide
  have hbase : RoleArgs.IsKey "base_path".toList :=
    .intro (by decide) (List.all_eq_true.mp (by decide))
  have hkey : RoleArgs.IsKey "k".toList :=
    .intro (by decide) (List.all_eq_true.mp (by decide))
  have hversion : IsUnbroken "/v1".toList := by decide
  have hvalue : IsUnbroken "a=b".toList := by decide
  have hname : IsTrimmed "user id".toList := by decide
  refine ⟨?_, ?_, ?_⟩
  · have hline : Written "api".toList (.handler .get "/u/{id}:=,")
        "api:handler :: GET /u/{id}:=,".toList :=
      .handler hspace (by decide) hpath (.colons hspace (by decide) hspace (by decide))
    exact hline.exists_role howner (@Tag.Stands.intro _ _ "Users.\n".toList [' '] [] []
      (.inr (by decide)) (by decide) hspace hnone (by simp))
  · have hpairs : RoleArgs.Listed [("base_path", "/v1"), ("k", "a=b")]
        "base_path=/v1 k=a=b".toList :=
      .cons hbase hversion hspace (by decide) (.cons hkey hvalue hnone (by decide) .nil)
    have hline : Written "api".toList (.service [("base_path", "/v1"), ("k", "a=b")])
        "api:service base_path=/v1 k=a=b".toList :=
      .service hpairs (by decide) (.spaced hspace (by decide) (by decide))
    exact hline.exists_role howner (@Tag.Stands.intro _ _ [] [] [] []
      (.inl rfl) (by decide) hnone hnone (by simp))
  · have hline : Written "api".toList (.field .pathVariable "user id")
        "api:\"pathvar,user id\"".toList :=
      .field .pathVariable hname (by decide) (by decide) (by decide) (by decide)
    exact hline.exists_role howner (@Tag.Stands.intro _ _ [] [] [' '] "\nMore.".toList
      (.inl rfl) (by decide) hnone hspace (by simp))

end Notice

end Entrypoint
