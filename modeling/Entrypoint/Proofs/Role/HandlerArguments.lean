import Entrypoint.Proofs.Text.CharSplit
import Entrypoint.Proofs.Text.Words
import Entrypoint.Role.Arguments

/-! The arguments of a handler. They bind the handler exactly if they are two words, the name of a
verb and a path. Anything else is reported as it stands between the blanks around it, and never as a
word that stands for no verb: the words that the reader looks for are the names of the verbs. -/

namespace Entrypoint

open Text (IsUnbroken IsTrimmed isBlank words)

namespace RoleArgs

variable {args rest gap : List Char} {word path : String} {verb : Verb} {declaration : String}

/-! ### Words for verbs -/

theorem verbWords_eq : verbWords = Verb.all.map Verb.name := rfl

theorem mem_verbWords (verb : Verb) : verb.name ∈ verbWords := by
  rw [verbWords_eq]
  exact List.mem_map_of_mem (by cases verb <;> decide)

theorem exists_verb (h : word ∈ verbWords) : ∃ verb : Verb, verb.name = word := by
  rw [verbWords_eq] at h
  obtain ⟨verb, _, hname⟩ := List.mem_map.mp h
  exact ⟨verb, hname⟩

theorem isUnbroken_verb (verb : Verb) : IsUnbroken verb.name.toList := by
  cases verb <;> decide

/-! ### Two words -/

/-- A path stands behind blanks, one at least, up to the end. -/
theorem pathAfter?_eq_some_iff : pathAfter? rest = some path ↔
    ∃ gap, gap ≠ [] ∧ (∀ c ∈ gap, isBlank c = true) ∧ IsUnbroken path.toList ∧
      gap ++ path.toList = rest := by
  constructor
  · intro h
    cases rest with
    | nil => cases h
    | cons c rest =>
      rw [pathAfter?] at h
      split at h
      · cases h
      · rename_i hrefused
        obtain ⟨hfirst, hany⟩ := not_or.mp (mt Bool.or_eq_true_iff.mpr hrefused)
        obtain ⟨hc, hne⟩ := not_or.mp (mt Bool.or_eq_true_iff.mpr hfirst)
        cases h
        refine ⟨c :: rest.takeWhile isBlank, List.cons_ne_nil _ _, ?_, ⟨?_, ?_⟩, ?_⟩
        · exact List.forall_mem_cons.mpr ⟨by simpa using hc, fun d hd => List.mem_takeWhile_imp hd⟩
        · rw [String.toList_ofList]
          exact mt List.isEmpty_iff.mpr hne
        · rw [String.toList_ofList]
          exact fun d hd => Bool.eq_false_iff.mpr fun hblank => hany (List.any_eq_true.mpr ⟨d, hd, hblank⟩)
        · rw [String.toList_ofList, List.cons_append, Text.trimStart, List.takeWhile_append_dropWhile]
  · rintro ⟨gap, hne, hgap, hpath, rfl⟩
    obtain ⟨c, gap, rfl⟩ := List.exists_cons_of_ne_nil hne
    obtain ⟨hc, hgap⟩ := List.forall_mem_cons.mp hgap
    have hstart : Text.trimStart (gap ++ path.toList) = path.toList := by
      obtain ⟨d, piece, hpiece⟩ := List.exists_cons_of_ne_nil hpath.ne_nil
      rw [Text.trimStart_append hgap, hpiece, Text.trimStart, List.dropWhile_cons_of_neg]
      simp [hpath.not_isBlank d (hpiece ▸ List.mem_cons_self)]
    have hempty : path.toList.isEmpty = false := by simpa using hpath.ne_nil
    have hany : path.toList.any isBlank = false := by simpa using hpath.not_isBlank
    rw [List.cons_append, pathAfter?, hstart, hc, hempty, hany, String.ofList_toList]
    rfl

/-- The parts of arguments are their two words. -/
theorem words_of_bindingParts? (h : bindingParts? args = some (word, path)) :
    word ∈ verbWords ∧ words args = [word.toList, path.toList] := by
  obtain ⟨word', hword, hparts⟩ := List.exists_of_findSome?_eq_some h
  obtain ⟨path', hpath, heq⟩ := Option.map_eq_some_iff.mp hparts
  cases heq
  obtain ⟨rest, hrest, hafter⟩ := Option.bind_eq_some_iff.mp hpath
  obtain ⟨gap, hne, hgap, hunbroken, rfl⟩ := pathAfter?_eq_some_iff.mp hafter
  obtain ⟨verb, rfl⟩ := exists_verb hword
  refine ⟨hword, ?_⟩
  rw [Text.stripPrefix?_eq_some_iff.mp hrest, ← List.append_assoc, Text.words_append hgap hne,
    Text.words_of_isUnbroken (isUnbroken_verb verb), Text.words_of_isUnbroken hunbroken]
  rfl

/-- Two words, the first of them a word for a verb, are found as the parts of arguments. -/
theorem bindingParts?_append (hword : word ∈ verbWords) (hne : gap ≠ [])
    (hgap : ∀ c ∈ gap, isBlank c = true) (hpath : IsUnbroken path.toList) :
    bindingParts? (word.toList ++ gap ++ path.toList) = some (word, path) := by
  have hparts : ((Text.stripPrefix? word.toList (word.toList ++ gap ++ path.toList)).bind
      pathAfter?).map (word, ·) = some (word, path) := by
    rw [Text.stripPrefix?_eq_some_iff.mpr (List.append_assoc _ _ _), Option.bind_some,
      pathAfter?_eq_some_iff.mpr ⟨gap, hne, hgap, hpath, rfl⟩]
    rfl
  -- Another word may be tried before this one. If it gives parts, they are the same two words.
  have hsome : (bindingParts? (word.toList ++ gap ++ path.toList)).isSome := by
    rw [bindingParts?, List.findSome?_isSome_iff]
    exact ⟨word, hword, by rw [hparts]; rfl⟩
  obtain ⟨⟨word', path'⟩, hfound⟩ := Option.isSome_iff_exists.mp hsome
  obtain ⟨verb, rfl⟩ := exists_verb hword
  have hwords := (words_of_bindingParts? hfound).2
  rw [Text.words_append hgap hne, Text.words_of_isUnbroken (isUnbroken_verb verb),
    Text.words_of_isUnbroken hpath] at hwords
  obtain ⟨hfirst, hsecond⟩ := List.cons.inj hwords
  rw [hfound, String.toList_inj.mp hfirst, String.toList_inj.mp (List.cons.inj hsecond).1]

/-- The parts of trimmed arguments are found exactly if the arguments are two words, the first of
them a word for a verb. -/
theorem bindingParts?_trim_eq_some_iff : bindingParts? (Text.trim args) = some (word, path) ↔
    word ∈ verbWords ∧ words args = [word.toList, path.toList] := by
  constructor
  · intro h
    rw [← Text.words_trim]
    exact words_of_bindingParts? h
  · rintro ⟨hword, hwords⟩
    obtain ⟨front, rest, hfront, hfirst, hbreak, rfl, hrest⟩ := Text.exists_of_words_eq_cons hwords
    obtain ⟨gap, back, hgap, hsecond, _, rfl, hback⟩ := Text.exists_of_words_eq_cons hrest
    have hne : gap ≠ [] := by
      rintro rfl
      obtain ⟨c, piece, hpiece⟩ := List.exists_cons_of_ne_nil hsecond.ne_nil
      have hblank : isBlank c = true := hbreak c (by rw [hpiece]; rfl)
      exact Bool.false_ne_true
        ((hsecond.not_isBlank c (hpiece ▸ List.mem_cons_self)).symm.trans hblank)
    have hshape : front ++ word.toList ++ (gap ++ path.toList ++ back) =
        front ++ (word.toList ++ gap ++ path.toList) ++ back := by
      simp only [List.append_assoc]
    rw [hshape, Text.trim_surround hfront (Text.words_eq_nil_iff.mp hback),
      (hfirst.append gap hsecond.isTrimmed hsecond.ne_nil).trim]
    exact bindingParts?_append hword hne hgap hsecond

/-! ### Bindings -/

/-- Two words, the name of a verb and a path. -/
def Binds (args : String) (binding : Binding) : Prop :=
  words args.toList = [binding.verb.name.toList, binding.path.toList]

/-- The report about arguments that bind a handler to nothing. -/
def malformedFault (declaration args : String) : Fault :=
  .binding declaration (.malformed (String.ofList (Text.trim args.toList)))

variable {text : String} {binding : Binding}

/-- Arguments name a verb and a path, or they are reported. -/
theorem handlerBinding_cases (declaration text : String) :
    (∃ binding, Binds text binding ∧ handlerBinding declaration text = .ok binding) ∨
      (∀ binding, ¬Binds text binding) ∧
        handlerBinding declaration text = .error (malformedFault declaration text) := by
  rw [handlerBinding]
  cases hparts : bindingParts? (Text.trim text.toList) with
  | none =>
    refine .inr ⟨fun binding hbinds => ?_, rfl⟩
    have hsome := bindingParts?_trim_eq_some_iff.mpr ⟨mem_verbWords binding.verb, hbinds⟩
    cases hparts.symm.trans hsome
  | some parts =>
    obtain ⟨word, path⟩ := parts
    obtain ⟨hword, hwords⟩ := bindingParts?_trim_eq_some_iff.mp hparts
    obtain ⟨verb, rfl⟩ := exists_verb hword
    dsimp only
    rw [Verb.ofName?_name]
    exact .inl ⟨⟨verb, path⟩, hwords, rfl⟩

theorem Binds.unique {other : Binding} (h : Binds text binding) (h' : Binds text other) :
    binding = other := by
  obtain ⟨verb, path⟩ := binding
  obtain ⟨verb', path'⟩ := other
  obtain ⟨hname, hpaths⟩ := List.cons.inj (h.symm.trans h')
  have hverb : Verb.ofName? verb.name = Verb.ofName? verb'.name :=
    congrArg Verb.ofName? (String.toList_inj.mp hname)
  rw [Verb.ofName?_name, Verb.ofName?_name] at hverb
  have hpath : path = path' := String.toList_inj.mp (List.cons.inj hpaths).1
  rw [Option.some.inj hverb, hpath]

theorem handlerBinding_eq_ok_iff :
    handlerBinding declaration text = .ok binding ↔ Binds text binding := by
  rcases handlerBinding_cases declaration text with ⟨other, hother, hok⟩ | ⟨hnone, herror⟩
  · rw [hok]
    exact ⟨fun h => Except.ok.inj h ▸ hother, fun h => congrArg Except.ok (hother.unique h)⟩
  · rw [herror]
    exact iff_of_false nofun (hnone binding)

theorem handlerBinding_eq_error_iff {fault : Fault} :
    handlerBinding declaration text = .error fault ↔
      (∀ binding, ¬Binds text binding) ∧ fault = malformedFault declaration text := by
  rcases handlerBinding_cases declaration text with ⟨binding, hbinds, hok⟩ | ⟨hnone, herror⟩
  · rw [hok]
    exact iff_of_false nofun fun h => h.1 binding hbinds
  · rw [herror]
    exact ⟨fun h => ⟨hnone, (Except.error.inj h).symm⟩, fun h => congrArg Except.error h.2.symm⟩

/-- **What binds a handler.** The arguments of a handler bind it exactly if their words are two, the
name of a verb in upper case and a path. All other arguments give a fault of the declaration that
quotes them without the blanks around them, and no arguments are refused for a word that stands for
no verb. -/
theorem handlerBinding_exact (declaration text : String) :
    (∀ verb path, handlerBinding declaration text = .ok ⟨verb, path⟩ ↔
      verb.name ∈ ["GET", "POST", "PUT", "PATCH", "DELETE"] ∧
        words text.toList = [verb.name.toList, path.toList]) ∧
    (∀ fault, handlerBinding declaration text = .error fault ↔
      (∀ verb path, handlerBinding declaration text ≠ .ok ⟨verb, path⟩) ∧
        fault = .binding declaration (.malformed (String.ofList (Text.trim text.toList)))) ∧
    (Fault.binding declaration (.malformed (String.ofList (Text.trim text.toList)))).message =
      "parse error in `" ++ declaration ++ "`: " ++
        ("expected `<METHOD> <path>` after handler role, got `" ++
          String.ofList (Text.trim text.toList) ++ "`") ∧
    ∀ word, handlerBinding declaration text ≠ .error (.binding declaration (.unsupportedVerb word)) := by
  refine ⟨fun verb path => ?_, fun fault => ?_, rfl, fun word hword => ?_⟩
  · exact handlerBinding_eq_ok_iff.trans (and_iff_right (mem_verbWords verb)).symm
  · rw [handlerBinding_eq_error_iff]
    refine and_congr_left' ⟨fun h verb path hok => ?_, fun h binding hbinds => ?_⟩
    · exact h _ (handlerBinding_eq_ok_iff.mp hok)
    · exact h binding.verb binding.path (handlerBinding_eq_ok_iff.mpr hbinds)
  · obtain ⟨_, hfault⟩ := handlerBinding_eq_error_iff.mp hword
    cases hfault

end RoleArgs

end Entrypoint
