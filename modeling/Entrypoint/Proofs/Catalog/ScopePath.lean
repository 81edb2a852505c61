import Entrypoint.Catalog.Scope
import Entrypoint.Proofs.Source.PathReading
import Entrypoint.Proofs.Text.PathSplit

/-! Scopes that names spell. No name is empty or holds a colon, so a scope spelled by names falls
apart into these names, and every way to make a scope absolute gives a scope spelled by names. -/

namespace Entrypoint

namespace Scope

variable {names : List String}

/-- A scope falls apart into the segments it is made of, if none of them holds a colon. -/
theorem segments_ofSegments (hcolon : ∀ name ∈ names, ':' ∉ name.toList) (hne : names ≠ []) :
    segments (ofSegments names) = names := by
  have hpieces : ∀ piece ∈ names.map String.toList, ':' ∉ piece := by
    intro piece hpiece
    obtain ⟨name, hname, rfl⟩ := List.mem_map.mp hpiece
    exact hcolon name hname
  have hchars : (ofSegments names).toList = [':', ':'].intercalate (names.map String.toList) :=
    String.toList_intercalate
  rw [segments, hchars, Text.splitPath_intercalate hpieces (by simpa using hne)]
  simp

/-- Below one segment, a scope tells the segments behind it. -/
theorem ofSegments_cons_inj {first : String} {names' : List String}
    (hcolon : ∀ name ∈ names, ':' ∉ name.toList) (hcolon' : ∀ name ∈ names', ':' ∉ name.toList) :
    ofSegments (first :: names) = ofSegments (first :: names') ↔ names = names' := by
  have hcons : ∀ {names : List String}, names ≠ [] →
      ofSegments (first :: names) = first ++ ("::" ++ ofSegments names) := by
    intro names hne
    obtain ⟨next, more, rfl⟩ := List.exists_cons_of_ne_nil hne
    rw [ofSegments, String.intercalate_cons_cons, String.append_assoc]
    rfl
  have hlonger : ∀ text : String, first ++ ("::" ++ text) ≠ ofSegments [first] := by
    intro text heq
    have hlength := congrArg String.length heq
    have hcolons : "::".length = 2 := rfl
    simp only [ofSegments, String.intercalate_singleton, String.length_append, hcolons] at hlength
    omega
  refine ⟨fun h => ?_, fun h => h ▸ rfl⟩
  by_cases hne : names = [] <;> by_cases hne' : names' = []
  · rw [hne, hne']
  · rw [hne, hcons hne'] at h
    exact absurd h.symm (hlonger _)
  · rw [hne', hcons hne] at h
    exact absurd h (hlonger _)
  · rw [hcons hne, hcons hne', String.append_right_inj, String.append_right_inj] at h
    rw [← segments_ofSegments hcolon hne, h, segments_ofSegments hcolon' hne']

end Scope

namespace PathWord

variable {names : List PathWord}

theorem ne_empty (name : PathWord) : name.text ≠ "" := by
  obtain ⟨c, text, _, htext⟩ := name.exists_text
  intro h
  simp [h] at htext

/-- A character of no identifier is in no name. -/
theorem notMem {d : Char} (name : PathWord) (hstart : Text.isIdentStart d = false)
    (hcontinue : Text.isIdentContinue d = false) (hhash : d ≠ '#') : d ∉ name.text.toList := by
  obtain ⟨c, word, hc, hword, htext⟩ := name.word.exists_chars
  have hfirst : d ≠ c := fun h => Text.ne_of_isIdentStart hc hstart h.symm
  have hraw : d ≠ 'r' := by
    rintro rfl
    revert hstart
    decide
  have hrest : d ∉ word := fun h => by
    have hcontinues := List.all_eq_true.mp hword _ h
    rw [hcontinue] at hcontinues
    cases hcontinues
  rcases htext with htext | htext
  · rw [show name.text = name.word.text from rfl, htext]
    simp [hfirst, hrest]
  · rw [show name.text = name.word.text from rfl, htext]
    simp [hraw, hhash, hfirst, hrest]

theorem notMem_colon (name : PathWord) : ':' ∉ name.text.toList :=
  name.notMem (by decide) (by decide) (by decide)

theorem notMem_slash (name : PathWord) : '/' ∉ name.text.toList :=
  name.notMem (by decide) (by decide) (by decide)

theorem spell_nil : spell [] = "" := rfl

theorem spell_concat (hne : names ≠ []) (name : PathWord) :
    spell (names ++ [name]) = spell names ++ "::" ++ name.text := by
  rw [spell, List.map_append, String.intercalate_append_of_ne_nil (by simpa using hne) (by simp)]
  simp [spell]

theorem spell_ne_empty (hne : names ≠ []) : spell names ≠ "" := by
  obtain ⟨first, names, rfl⟩ := List.exists_cons_of_ne_nil hne
  obtain ⟨c, text, _, htext⟩ := first.exists_text
  intro h
  have hchars : (spell (first :: names)).toList = first.text.toList ++ tailChars names :=
    toList_spell_cons
  simp [h, htext] at hchars

/-- A spelled path falls apart into its names. -/
theorem segments_spell (hne : names ≠ []) : Scope.segments (spell names) = names.map (·.text) := by
  refine Scope.segments_ofSegments (fun text htext => ?_) (by simpa using hne)
  obtain ⟨name, _, rfl⟩ := List.mem_map.mp htext
  exact name.notMem_colon

theorem cutLast_spell (hne : names ≠ []) (name : PathWord) :
    Text.cutLast (spell (names ++ [name])).toList =
      some ((spell names).toList, name.text.toList) := by
  rw [spell_concat hne, String.toList_append, String.toList_append, List.append_assoc]
  exact Text.cutLast_append _ name.notMem_colon

theorem cutLast_text (name : PathWord) : Text.cutLast name.text.toList = none :=
  Text.cutLast_of_notMem name.notMem_colon

theorem dropColons_spell (names : List PathWord) :
    Text.dropColons (spell names).toList = (spell names).toList := by
  apply Text.dropColons_of_head
  cases names with
  | nil => simp [spell_nil]
  | cons first names =>
    obtain ⟨c, text, hc, htext⟩ := first.exists_text
    rw [toList_spell_cons, htext, List.cons_append, List.head?_cons]
    exact fun h => Text.ne_of_isIdentStart hc (by decide) (Option.some.inj h)

end PathWord

namespace Scope

open PathWord (spell)

/-- The text is spelled by names, of which there may be none. -/
def IsSpelled (text : String) : Prop := ∃ names : List PathWord, text = spell names

/-- The text is spelled by names, one at least. -/
def IsPath (text : String) : Prop := ∃ names : List PathWord, names ≠ [] ∧ text = spell names

/-- The text is a path that begins with an identifier. -/
def IsModulePath (text : String) : Prop :=
  ∃ (first : Ident) (names : List PathWord), text = spell (.ofIdent first :: names)

theorem IsPath.isSpelled (h : IsPath text) : IsSpelled text := by
  obtain ⟨names, _, rfl⟩ := h
  exact ⟨names, rfl⟩

theorem IsModulePath.isPath (h : IsModulePath text) : IsPath text := by
  obtain ⟨first, names, rfl⟩ := h
  exact ⟨_, List.cons_ne_nil _ _, rfl⟩

theorem IsModulePath.isSpelled (h : IsModulePath text) : IsSpelled text := h.isPath.isSpelled

/-- The path of a child is a module path. -/
theorem IsModulePath.child (h : IsModulePath scope) (name : PathWord) :
    IsModulePath (scope ++ "::" ++ name.text) := by
  obtain ⟨first, names, rfl⟩ := h
  exact ⟨first, names ++ [name], (PathWord.spell_concat (List.cons_ne_nil _ _) name).symm⟩

/-- Steps from a spelled scope lead to a spelled scope. -/
theorem exists_follow (base names : List PathWord) :
    ∃ reached : List PathWord,
      follow (base.map (·.text)) (names.map (·.text)) = reached.map (·.text) := by
  induction names generalizing base with
  | nil => exact ⟨base, rfl⟩
  | cons name names ih =>
    rw [List.map_cons, follow]
    split
    · exact ih base
    split
    · rw [← List.map_dropLast]
      exact ih base.dropLast
    · exact ⟨base ++ name :: names, by simp⟩

end Scope

/-- The path of a name in a spelled scope is spelled. -/
theorem QualifiedName.isPath_of_scope {scope name : String} (hscope : Scope.IsSpelled scope)
    (hname : ∃ word : PathWord, name = word.text) :
    Scope.IsPath (QualifiedName.mk scope name).path := by
  obtain ⟨names, rfl⟩ := hscope
  obtain ⟨word, rfl⟩ := hname
  rw [QualifiedName.path]
  by_cases hne : names = []
  · subst hne
    exact ⟨[word], List.cons_ne_nil _ _, by simp [PathWord.spell]⟩
  · rw [if_neg (PathWord.spell_ne_empty hne)]
    exact ⟨names ++ [word], by simp, (PathWord.spell_concat hne word).symm⟩

theorem QualifiedName.path_isModulePath {scope : String} (h : Scope.IsModulePath scope)
    (name : PathWord) : Scope.IsModulePath (QualifiedName.mk scope name.text).path := by
  obtain ⟨first, names, rfl⟩ := h
  rw [QualifiedName.path, if_neg (PathWord.spell_ne_empty (List.cons_ne_nil _ _))]
  exact Scope.IsModulePath.child ⟨first, names, rfl⟩ name

theorem QualifiedName.ofPath_child (scope : String) (name : PathWord) :
    QualifiedName.ofPath (scope ++ "::" ++ name.text) = ⟨scope, name.text⟩ := by
  have hcut : Text.cutLast (scope ++ "::" ++ name.text).toList =
      some (scope.toList, name.text.toList) := by
    rw [String.toList_append, String.toList_append, List.append_assoc]
    exact Text.cutLast_append _ name.notMem_colon
  rw [ofPath, hcut]
  simp only [String.ofList_toList]

/-- A path cut before its last name is the path again. -/
theorem QualifiedName.path_ofPath {path : String} (h : Scope.IsPath path) :
    (QualifiedName.ofPath path).path = path := by
  obtain ⟨names, hne, rfl⟩ := h
  rcases List.eq_nil_or_concat names with rfl | ⟨names, name, rfl⟩
  · exact absurd rfl hne
  by_cases hnames : names = []
  · subst hnames
    have htext : PathWord.spell [name] = name.text := by simp [PathWord.spell]
    rw [List.concat_eq_append, List.nil_append, htext, ofPath, PathWord.cutLast_text]
    rfl
  · rw [List.concat_eq_append, ofPath, PathWord.cutLast_spell hnames]
    simp only [String.ofList_toList, QualifiedName.path]
    rw [if_neg (PathWord.spell_ne_empty hnames), PathWord.spell_concat hnames]

end Entrypoint
