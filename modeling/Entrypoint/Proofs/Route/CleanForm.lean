import Entrypoint.Proofs.Text.CharSplit
import Entrypoint.Route.Path

/-! Clean paths as canonical forms. A path is a walk over a stack of names. Cleaning keeps where the
walk leads, and of the paths that lead to the same places, rooted or not, it picks one: names, behind
steps back where the path is not rooted and nothing is left to go back from. -/

namespace Entrypoint.Route

open Text (splitAt)

/-! ### Walks -/

/-- A segment that is a name: it neither stays nor leads back. -/
def IsName (segment : List Char) : Prop := segment ≠ [] ∧ segment ≠ ['.'] ∧ segment ≠ back

instance : DecidablePred IsName := fun _ => inferInstanceAs (Decidable (_ ∧ _ ∧ _))

/-- The names that a walk passes. -/
abbrev Name := {segment : List Char // IsName segment}

/-- A step of a walk over a stack of names, whose top is its head. A name goes on top, two dots take
the top away if there is one, and every other segment stays. -/
def step (stack : List Name) (segment : List Char) : List Name :=
  if h : IsName segment then ⟨segment, h⟩ :: stack
  else if segment = back then stack.tail
  else stack

/-- Where a path leads from a stack of names. -/
def walk (path : List Char) (stack : List Name) : List Name := (splitAt '/' path).foldl step stack

/-- Both paths begin at the root and lead from there to the same names, or neither does and they lead
to the same names from everywhere. -/
def SameWalk (path path' : List Char) : Prop :=
  isRooted path = isRooted path' ∧
    if isRooted path then walk path [] = walk path' [] else ∀ stack, walk path stack = walk path' stack

variable {rooted : Bool} {segment path path' : List Char} {stack stack' pieces : List (List Char)}
  {base : List Name}

theorem segment_cases (segment : List Char) :
    IsName segment ∨ segment = back ∨ segment = [] ∨ segment = ['.'] := by
  by_cases hempty : segment = []
  · exact .inr (.inr (.inl hempty))
  by_cases hdot : segment = ['.']
  · exact .inr (.inr (.inr hdot))
  by_cases hback : segment = back
  · exact .inr (.inl hback)
  · exact .inl ⟨hempty, hdot, hback⟩

theorem step_name (name : Name) : step base name.1 = name :: base := dif_pos name.2

@[simp] theorem step_back : step base back = base.tail := rfl

@[simp] theorem step_nil : step base [] = base := rfl

@[simp] theorem step_dot : step base ['.'] = base := rfl

/-! ### Stacks of segments -/

theorem push_name (h : IsName segment) : push rooted stack segment = segment :: stack := by
  obtain ⟨hempty, hdot, hback⟩ := h
  unfold push
  rw [if_neg (not_or.mpr ⟨hempty, hdot⟩), if_neg hback]

@[simp] theorem push_nil : push rooted stack [] = stack := rfl

@[simp] theorem push_dot : push rooted stack ['.'] = stack := rfl

theorem push_back_name (name : Name) : push rooted (name.1 :: stack) back = stack :=
  if_neg name.2.2.2

theorem push_back_replicate (ups : Nat) : push false (List.replicate ups back) back =
    List.replicate (ups + 1) back := by
  cases ups <;> rfl

/-- Segments as they stand in a clean path, the last one first: names, and below them steps back
where the path is not rooted. -/
def IsClean (rooted : Bool) (stack : List (List Char)) : Prop :=
  ∃ (names : List Name) (ups : Nat), stack = names.map (·.1) ++ List.replicate ups back ∧
    (rooted = true → ups = 0)

/-- Where segments lead, the last one first. -/
def leads (stack : List (List Char)) (base : List Name) : List Name :=
  stack.foldr (fun segment stack => step stack segment) base

theorem leads_names (names : List Name) :
    leads (names.map (·.1) ++ stack) base = names ++ leads stack base := by
  induction names with
  | nil => rfl
  | cons name names ih =>
    rw [List.map_cons, List.cons_append, leads, List.foldr_cons, ← leads, ih, step_name]
    rfl

theorem leads_replicate (ups : Nat) : leads (List.replicate ups back) base = base.drop ups := by
  induction ups with
  | zero => rfl
  | succ ups ih =>
    rw [List.replicate_succ, leads, List.foldr_cons, ← leads, ih, step_back, List.tail_drop]

/-- What a walk takes from a clean stack of segments: names, and how far it goes back before them. -/
theorem leads_clean (names : List Name) (ups : Nat) :
    leads (names.map (·.1) ++ List.replicate ups back) base = names ++ base.drop ups := by
  rw [leads_names, leads_replicate]

/-- A segment put on a clean stack leaves it clean, and leads one step further. -/
theorem isClean_push (H : IsClean rooted stack) (segment : List Char) :
    IsClean rooted (push rooted stack segment) ∧
      ∀ base, (rooted = true → base = []) →
        leads (push rooted stack segment) base = step (leads stack base) segment := by
  obtain ⟨names, ups, rfl, hups⟩ := H
  rcases segment_cases segment with hname | rfl | rfl | rfl
  · rw [push_name hname]
    exact ⟨⟨⟨segment, hname⟩ :: names, ups, rfl, hups⟩, fun _ _ => rfl⟩
  · cases names with
    | cons name names =>
      have hpush : push rooted ((name :: names).map (·.1) ++ List.replicate ups back) back =
          names.map (·.1) ++ List.replicate ups back := push_back_name name
      rw [hpush]
      refine ⟨⟨names, ups, rfl, hups⟩, fun base _ => ?_⟩
      rw [leads_clean, leads_clean, step_back]
      rfl
    | nil =>
      cases rooted with
      | true =>
        obtain rfl := hups rfl
        refine ⟨⟨[], 0, rfl, hups⟩, fun base hbase => ?_⟩
        rw [hbase rfl]
        rfl
      | false =>
        rw [List.map_nil, List.nil_append, push_back_replicate]
        exact ⟨⟨[], ups + 1, rfl, nofun⟩, fun _ _ => rfl⟩
  · exact ⟨⟨names, ups, rfl, hups⟩, fun _ _ => rfl⟩
  · exact ⟨⟨names, ups, rfl, hups⟩, fun _ _ => rfl⟩

/-- Segments put on a clean stack leave it clean, and lead where they go. -/
theorem isClean_foldl_push (H : IsClean rooted stack) (pieces : List (List Char)) :
    IsClean rooted (pieces.foldl (push rooted) stack) ∧
      ∀ base, (rooted = true → base = []) →
        leads (pieces.foldl (push rooted) stack) base =
          pieces.foldl step (leads stack base) := by
  induction pieces generalizing stack with
  | nil => exact ⟨H, fun _ _ => rfl⟩
  | cons segment pieces ih =>
    obtain ⟨hclean, hleads⟩ := isClean_push H segment
    refine ⟨(ih hclean).1, fun base hbase => ?_⟩
    rw [List.foldl_cons, List.foldl_cons, (ih hclean).2 base hbase, hleads base hbase]

theorem isClean_nil (rooted : Bool) : IsClean rooted [] := ⟨[], 0, rfl, fun _ => rfl⟩

theorem isClean_segments (path : List Char) : IsClean (isRooted path) (segments path).reverse := by
  rw [segments, List.reverse_reverse]
  exact (isClean_foldl_push (isClean_nil _) _).1

theorem leads_segments (h : isRooted path = true → base = []) :
    leads (segments path).reverse base = walk path base := by
  rw [segments, List.reverse_reverse]
  exact (isClean_foldl_push (isClean_nil _) _).2 base h

/-- Clean stacks that lead to the same places are the same. -/
theorem IsClean.eq_of_leads (H : IsClean rooted stack) (H' : IsClean rooted stack')
    (h : ∀ base, (rooted = true → base = []) → leads stack base = leads stack' base) :
    stack = stack' := by
  obtain ⟨names, ups, rfl, hups⟩ := H
  obtain ⟨names', ups', rfl, hups'⟩ := H'
  have hnames : names = names' := by
    have hempty := h [] fun _ => rfl
    rwa [leads_clean, leads_clean, List.drop_nil, List.drop_nil, List.append_nil,
      List.append_nil] at hempty
  subst hnames
  cases rooted with
  | true => rw [hups rfl, hups' rfl]
  | false =>
    -- From more names than either goes back over, what is left tells how far it goes.
    have hmany := h (List.replicate (ups + ups') ⟨['a'], by decide⟩) nofun
    rw [leads_clean, leads_clean] at hmany
    have hlength := congrArg List.length hmany
    simp only [List.length_append, List.length_drop, List.length_replicate] at hlength
    obtain rfl : ups = ups' := by omega
    rfl

/-! ### Texts of segments -/

theorem foldl_push_names (names : List Name) :
    ((names.map (·.1)).reverse).foldl (push rooted) stack = names.map (·.1) ++ stack := by
  induction names with
  | nil => rfl
  | cons name names ih =>
    rw [List.map_cons, List.reverse_cons, List.foldl_append, ih, List.foldl_cons, List.foldl_nil,
      push_name name.2]
    rfl

theorem foldl_push_replicate (ups : Nat) :
    (List.replicate ups back).foldl (push false) [] = List.replicate ups back := by
  induction ups with
  | zero => rfl
  | succ ups ih =>
    rw [List.replicate_succ', List.foldl_append, ih, List.foldl_cons, List.foldl_nil,
      push_back_replicate, List.replicate_succ']

/-- The segments of a clean stack, put on one after the other, are the stack. -/
theorem IsClean.foldl_reverse (H : IsClean rooted stack) :
    stack.reverse.foldl (push rooted) [] = stack := by
  obtain ⟨names, ups, rfl, hups⟩ := H
  have hbelow : (List.replicate ups back).foldl (push rooted) [] = List.replicate ups back := by
    cases rooted with
    | true => rw [hups rfl]; rfl
    | false => exact foldl_push_replicate ups
  rw [List.reverse_append, List.reverse_replicate, List.foldl_append, hbelow, foldl_push_names]

theorem mem_push {s : List Char} (h : s ∈ push rooted stack segment) :
    s = segment ∨ s ∈ stack := by
  unfold push at h
  split at h
  · exact .inr h
  · split at h
    · rename_i hback
      split at h
      · split at h
        · split at h
          · exact .inr h
          · exact (List.mem_cons.mp h).imp (·.trans hback.symm) id
        · exact .inr (List.mem_cons_of_mem _ h)
      · split at h
        · cases h
        · exact .inl ((List.mem_singleton.mp h).trans hback.symm)
    · exact List.mem_cons.mp h

theorem mem_foldl_push {s : List Char} (h : s ∈ pieces.foldl (push rooted) stack) :
    s ∈ pieces ∨ s ∈ stack := by
  induction pieces generalizing stack with
  | nil => exact .inr h
  | cons segment pieces ih =>
    rcases ih h with hmem | hmem
    · exact .inl (List.mem_cons_of_mem _ hmem)
    · rcases mem_push hmem with rfl | hmem
      · exact .inl List.mem_cons_self
      · exact .inr hmem

theorem slash_notMem_segments (h : segment ∈ segments path) : '/' ∉ segment := by
  rw [segments, List.mem_reverse] at h
  exact Text.notMem_of_mem_splitAt ((mem_foldl_push h).resolve_right List.not_mem_nil)

theorem IsClean.ne_nil (H : IsClean rooted stack) (h : segment ∈ stack) : segment ≠ [] := by
  obtain ⟨names, ups, rfl, _⟩ := H
  rcases List.mem_append.mp h with h | h
  · obtain ⟨name, _, rfl⟩ := List.mem_map.mp h
    exact name.2.1
  · rw [List.eq_of_mem_replicate h]
    exact List.cons_ne_nil _ _

theorem splitAt_slash (rest : List Char) : splitAt '/' ('/' :: rest) = [] :: splitAt '/' rest :=
  if_pos rfl

/-- A text without an empty segment at its start is not rooted. -/
theorem isRooted_of_splitAt (h : splitAt '/' path = segment :: pieces) (hne : segment ≠ []) :
    isRooted path = false := by
  cases path with
  | nil => rfl
  | cons c rest =>
    refine beq_false_of_ne fun hc => hne ?_
    cases hc
    rw [splitAt_slash] at h
    exact (List.cons.inj h).1.symm

/-- The text of clean segments is rooted as they are, and has these segments. -/
theorem IsClean.rooted_segments (H : IsClean rooted pieces.reverse)
    (hslash : ∀ segment ∈ pieces, '/' ∉ segment) :
    isRooted (ofSegments rooted pieces) = rooted ∧ segments (ofSegments rooted pieces) = pieces := by
  have hfold : pieces.foldl (push rooted) [] = pieces.reverse := by
    simpa using H.foldl_reverse
  cases rooted with
  | true =>
    have hroot : isRooted ('/' :: Text.joinWith ['/'] pieces) = true := rfl
    refine ⟨rfl, ?_⟩
    rw [ofSegments, if_pos rfl, segments, hroot, splitAt_slash, List.foldl_cons, push_nil]
    cases pieces with
    | nil => rfl
    | cons segment pieces =>
      rw [Text.splitAt_joinWith hslash (List.cons_ne_nil _ _), hfold, List.reverse_reverse]
  | false =>
    cases pieces with
    | nil => exact ⟨rfl, rfl⟩
    | cons segment pieces =>
      have hsplit := Text.splitAt_joinWith hslash (List.cons_ne_nil _ _)
      have hroot : isRooted (Text.joinWith ['/'] (segment :: pieces)) = false :=
        isRooted_of_splitAt hsplit (H.ne_nil (List.mem_reverse.mpr List.mem_cons_self))
      rw [ofSegments, if_neg Bool.false_ne_true, List.isEmpty_cons, if_neg Bool.false_ne_true]
      refine ⟨hroot, ?_⟩
      rw [segments, hroot, hsplit, hfold, List.reverse_reverse]

theorem isRooted_clean (path : List Char) : isRooted (clean path) = isRooted path :=
  ((isClean_segments path).rooted_segments fun _ => slash_notMem_segments).1

theorem segments_clean (path : List Char) : segments (clean path) = segments path :=
  ((isClean_segments path).rooted_segments fun _ => slash_notMem_segments).2

/-- Paths are cleaned to one text exactly if they are the same walk. -/
theorem clean_eq_clean_iff : clean path = clean path' ↔ SameWalk path path' := by
  constructor
  · intro h
    have hrooted : isRooted path = isRooted path' := by
      rw [← isRooted_clean path, h, isRooted_clean]
    have hsegments : segments path = segments path' := by
      rw [← segments_clean path, h, segments_clean]
    refine ⟨hrooted, ?_⟩
    split
    · rw [← leads_segments fun _ => rfl, ← leads_segments fun _ => rfl, hsegments]
    · rename_i hfree
      intro stack
      rw [← leads_segments (absurd · hfree), ← leads_segments (absurd · (hrooted ▸ hfree)), hsegments]
  · rintro ⟨hrooted, hwalk⟩
    have hstacks : (segments path).reverse = (segments path').reverse := by
      refine (isClean_segments path).eq_of_leads (hrooted ▸ isClean_segments path') fun base hbase => ?_
      rw [leads_segments hbase, leads_segments (hrooted ▸ hbase)]
      split at hwalk
      · rename_i hroot
        rw [hbase hroot, hwalk]
      · exact hwalk base
    rw [clean, clean, hrooted, List.reverse_inj.mp hstacks]

/-! ### Clean forms -/

/-- A text in clean form: the root, the current place, names behind a slash, or names behind steps
back. -/
inductive Canonical : Bool → List Char → Prop
  | root : Canonical true ['/']
  | here : Canonical false ['.']
  | rooted {path : List Char} (hnames : ∀ segment ∈ splitAt '/' path, IsName segment) :
    Canonical true ('/' :: path)
  | relative {path : List Char} {ups : Nat} {names : List (List Char)}
    (hsplit : splitAt '/' path = List.replicate ups back ++ names)
    (hnames : ∀ segment ∈ names, IsName segment) : Canonical false path

theorem isClean_iff : IsClean rooted pieces.reverse ↔
    ∃ (ups : Nat) (names : List (List Char)), pieces = List.replicate ups back ++ names ∧
      (∀ segment ∈ names, IsName segment) ∧ (rooted = true → ups = 0) := by
  constructor
  · rintro ⟨names, ups, hstack, hups⟩
    refine ⟨ups, (names.map (·.1)).reverse, ?_, fun segment hsegment => ?_, hups⟩
    · rw [← List.reverse_inj, hstack, List.reverse_append, List.reverse_reverse,
        List.reverse_replicate]
    · obtain ⟨name, _, rfl⟩ := List.mem_map.mp (List.mem_reverse.mp hsegment)
      exact name.2
  · rintro ⟨ups, names, rfl, hnames, hups⟩
    refine ⟨(names.attachWith _ hnames).reverse, ups, ?_, hups⟩
    rw [List.reverse_append, List.reverse_replicate, List.map_reverse,
      List.attachWith_map_subtype_val]

theorem canonical_clean (path : List Char) : Canonical (isRooted path) (clean path) := by
  have hslash : ∀ segment ∈ segments path, '/' ∉ segment := fun _ => slash_notMem_segments
  obtain ⟨ups, names, hpieces, hnames, hups⟩ := isClean_iff.mp (isClean_segments path)
  rw [clean]
  generalize segments path = pieces at hslash hpieces ⊢
  generalize isRooted path = rooted at hups ⊢
  cases rooted with
  | true =>
    obtain rfl := hups rfl
    obtain rfl : pieces = names := hpieces
    cases pieces with
    | nil => exact .root
    | cons segment pieces =>
      exact .rooted ((Text.splitAt_joinWith hslash (List.cons_ne_nil _ _)).symm ▸ hnames)
  | false =>
    cases pieces with
    | nil => exact .here
    | cons segment pieces =>
      exact .relative ((Text.splitAt_joinWith hslash (List.cons_ne_nil _ _)).trans hpieces) hnames

/-- A text in clean form is cleaned to itself. -/
theorem Canonical.clean_eq (H : Canonical rooted path) : clean path = path := by
  cases H with
  | root | here => rfl
  | @rooted path hnames =>
    have hclean : IsClean true (splitAt '/' path).reverse :=
      isClean_iff.mpr ⟨0, _, rfl, hnames, fun _ => rfl⟩
    have hroot : isRooted ('/' :: path) = true := rfl
    have hfold := hclean.foldl_reverse
    rw [List.reverse_reverse] at hfold
    rw [clean, segments, hroot, splitAt_slash, List.foldl_cons, push_nil, hfold, List.reverse_reverse,
      ofSegments, if_pos rfl, Text.joinWith_splitAt]
  | @relative path ups names hsplit hnames =>
    have hclean : IsClean false (splitAt '/' path).reverse :=
      isClean_iff.mpr ⟨ups, names, hsplit, hnames, nofun⟩
    obtain ⟨segment, pieces, hpieces⟩ := List.exists_cons_of_ne_nil (Text.splitAt_ne_nil '/' path)
    have hroot : isRooted path = false := isRooted_of_splitAt hpieces
      (hclean.ne_nil (List.mem_reverse.mpr (hpieces ▸ List.mem_cons_self)))
    have hfold := hclean.foldl_reverse
    rw [List.reverse_reverse] at hfold
    rw [clean, segments, hroot, hfold, List.reverse_reverse, ofSegments, if_neg Bool.false_ne_true,
      hpieces, List.isEmpty_cons, if_neg Bool.false_ne_true, ← hpieces, Text.joinWith_splitAt]

/-- **Clean paths are canonical.** Two paths are cleaned to one text exactly if they are the same
walk. What a path is cleaned to is in clean form, rooted as the path is, and the texts in clean form
are those that cleaning leaves as they are, so cleaning again changes nothing. -/
theorem cleanPath_canonical (path path' : String) :
    (cleanPath path = cleanPath path' ↔ SameWalk path.toList path'.toList) ∧
      Canonical (isRooted path.toList) (cleanPath path).toList ∧
        (cleanPath path = path ↔ Canonical (isRooted path.toList) path.toList) ∧
          cleanPath (cleanPath path) = cleanPath path := by
  have hcanonical : Canonical (isRooted path.toList) (cleanPath path).toList := by
    rw [cleanPath, String.toList_ofList]
    exact canonical_clean path.toList
  refine ⟨?_, hcanonical, ⟨fun h => by rwa [h] at hcanonical, fun H => ?_⟩, ?_⟩
  · rw [cleanPath, cleanPath, String.ofList_inj, clean_eq_clean_iff]
  · rw [cleanPath, H.clean_eq, String.ofList_toList]
  · rw [cleanPath, hcanonical.clean_eq, String.ofList_toList]

end Entrypoint.Route
