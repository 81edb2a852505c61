import Entrypoint.Proofs.Results
import Entrypoint.Service.Build

/-! Initializers. What a function makes, and what counts as an error type, are relations on types as
written; a candidate is an initializer of the service that it makes, and it is sound if it returns a
result of the service and an error. The initializer of a service is found exactly if the service has
one candidate and that one is sound. -/

namespace Entrypoint

/-! ### Types as written -/

namespace TypeExpr

/-- A type once the box around it, if there is one, is opened. -/
inductive Unboxes : TypeExpr → TypeExpr → Prop
  | box {type inner : TypeExpr} {rest : List TypeExpr}
      (h : type.argumentsOf? "Box" = some (inner :: rest)) : Unboxes type inner
  | plain {type : TypeExpr}
      (h : ∀ inner rest, type.argumentsOf? "Box" ≠ some (inner :: rest)) : Unboxes type type

/-- What a function with this result makes, seen through a result and a box. -/
inductive Makes : TypeExpr → TypeExpr → Prop
  | ofResult {type value made : TypeExpr} {rest : List TypeExpr}
      (h : type.argumentsOf? "Result" = some (value :: rest)) (hvalue : value.Unboxes made) :
      Makes type made
  | plain {type made : TypeExpr}
      (h : type.argumentsOf? "Result" = none) (htype : type.Unboxes made) : Makes type made

/-- A type means the type of a name; `Self` means the implementing type. -/
inductive Names (selfName : Option String) : TypeExpr → String → Prop
  | written {type : TypeExpr} {name : String}
      (h : type.lastName? = some name) (hself : name ≠ "Self") : Names selfName type name
  | implementing {type : TypeExpr} {name : String}
      (h : type.lastName? = some "Self") (hself : selfName = some name) : Names selfName type name

theorem unboxed_eq_iff {type made : TypeExpr} : type.unboxed = made ↔ type.Unboxes made := by
  rw [unboxed]
  constructor
  · rintro rfl
    cases hbox : type.argumentsOf? "Box" with
    | none => exact .plain fun _ _ h => nomatch hbox.symm.trans h
    | some inside =>
      cases inside with
      | nil => exact .plain fun _ _ h => nomatch hbox.symm.trans h
      | cons inner rest => exact .box hbox
  · rintro (h | h)
    · rw [h]
      rfl
    · cases hbox : type.argumentsOf? "Box" with
      | none => rfl
      | some inside =>
        cases inside with
        | nil => rfl
        | cons inner rest => exact absurd hbox (h inner rest)

theorem produced?_eq_some_iff {type made : TypeExpr} :
    type.produced? = some made ↔ type.Makes made := by
  rw [produced?]
  cases hresult : type.argumentsOf? "Result" with
  | none =>
    simp only [Option.some.injEq, unboxed_eq_iff]
    refine ⟨.plain hresult, fun h => ?_⟩
    cases h with
    | ofResult h => exact nomatch hresult.symm.trans h
    | plain _ h => exact h
  | some args =>
    cases args with
    | nil =>
      refine ⟨nofun, fun h => ?_⟩
      cases h with
      | ofResult h => exact nomatch hresult.symm.trans h
      | plain h => exact nomatch hresult.symm.trans h
    | cons value rest =>
      simp only [List.head?_cons, Option.map_some, Option.some.injEq, unboxed_eq_iff]
      refine ⟨.ofResult hresult, fun h => ?_⟩
      cases h with
      | ofResult h hvalue =>
        cases hresult.symm.trans h
        exact hvalue
      | plain h => exact nomatch hresult.symm.trans h

end TypeExpr

/-- A bound of an object is a trait with `Error` in its name. -/
def Bound.NamesError (bound : Bound) : Prop :=
  ∃ (inParens : Bool) (modifiers : List TokenTree) (path : PathExpr),
    bound = .named inParens modifiers path ∧ "Error".toList <:+: path.last.name.text.toList

/-- A type of errors: its name ends in `Error`, or it is a box of one, or a box of an object bounded
by one. -/
inductive TypeExpr.IsError : TypeExpr → Prop
  | named {type : TypeExpr} {name : String}
      (h : type.lastName? = some name) (hname : "Error".toList <:+ name.toList) : IsError type
  | boxed {type inner : TypeExpr} {rest : List TypeExpr}
      (h : type.argumentsOf? "Box" = some (inner :: rest)) (hinner : IsError inner) : IsError type
  | object {type : TypeExpr} {marked trailing : Bool} {bounds : List Bound} {bound : Bound}
      {rest : List TypeExpr}
      (h : type.argumentsOf? "Box" = some (.object marked bounds trailing :: rest))
      (hmem : bound ∈ bounds) (hbound : bound.NamesError) : IsError type

theorem Text.hasInfix_iff {part text : List Char} : hasInfix part text = true ↔ part <:+: text := by
  induction text with
  | nil => rw [hasInfix, List.isEmpty_iff, List.infix_nil]
  | cons c text ih =>
    rw [hasInfix, Bool.or_eq_true, List.isPrefixOf_iff_prefix, ih, List.infix_cons_iff]

theorem Bound.namesError_iff {bound : Bound} : bound.namesError = true ↔ bound.NamesError := by
  cases bound with
  | named inParens modifiers path =>
    rw [Bound.namesError, Text.hasInfix_iff]
    refine ⟨fun h => ⟨inParens, modifiers, path, rfl, h⟩, ?_⟩
    rintro ⟨_, _, _, ⟨⟩, h⟩
    exact h
  | lifetime name => exact ⟨nofun, nofun⟩
  | constant tokens => exact ⟨nofun, nofun⟩
  | captures tokens => exact ⟨nofun, nofun⟩

namespace TypeExpr

/-- The type in a box makes the box an error. -/
def isErrorInside : TypeExpr → Bool
  | .object _ bounds _ => bounds.any (·.namesError)
  | type => type.isErrorLike

theorem isErrorInside_eq_true {type : TypeExpr} : type.isErrorInside = true ↔
    type.isErrorLike = true ∨ ∃ marked bounds trailing bound,
      type = .object marked bounds trailing ∧ bound ∈ bounds ∧ bound.namesError = true := by
  cases type with
  | object marked bounds trailing =>
    rw [isErrorInside, List.any_eq_true]
    constructor
    · rintro ⟨bound, hmem, hbound⟩
      exact .inr ⟨marked, bounds, trailing, bound, rfl, hmem, hbound⟩
    · rintro (h | ⟨_, _, _, bound, ⟨⟩, hmem, hbound⟩)
      · cases h
      · exact ⟨bound, hmem, hbound⟩
  | path | projection | reference | other =>
    exact ⟨.inl, fun h => h.resolve_right fun ⟨_, _, _, _, heq, _⟩ => nomatch heq⟩

theorem firstIsError_eq (items : List Argument) :
    Argument.firstIsError items = (ofArguments items).head?.any isErrorInside := by
  induction items with
  | nil => rfl
  | cons item items ih =>
    cases item with
    | lifetime name => exact ih
    | other tokens => exact ih
    | type type => cases type <;> rfl

/-- The types among what stands in brackets. -/
def ofBrackets : Arguments → List TypeExpr
  | .angle _ items _ => ofArguments items
  | _ => []

theorem argumentsOf?_of_name {type : TypeExpr} {segment : Segment} {name : String}
    (h : type.lastSegment? = some segment) (hname : segment.name.text = name) :
    type.argumentsOf? name = some (ofBrackets segment.arguments) := by
  simp only [argumentsOf?, h, if_pos hname]
  cases segment.arguments <;> rfl

theorem argumentsOf?_of_ne {type : TypeExpr} {segment : Segment} {name : String}
    (h : type.lastSegment? = some segment) (hname : segment.name.text ≠ name) :
    type.argumentsOf? name = none := by
  simp only [argumentsOf?, h, if_neg hname]

theorem argumentsOf?_eq_some {type : TypeExpr} {name : String} {args : List TypeExpr}
    (h : type.argumentsOf? name = some args) :
    ∃ segment, type.lastSegment? = some segment ∧ segment.name.text = name ∧
      ofBrackets segment.arguments = args := by
  cases hlast : type.lastSegment? with
  | none => simp [argumentsOf?, hlast] at h
  | some segment =>
    by_cases hname : segment.name.text = name
    · rw [argumentsOf?_of_name hlast hname] at h
      exact ⟨segment, rfl, hname, Option.some.inj h⟩
    · rw [argumentsOf?_of_ne hlast hname] at h
      cases h

theorem sizeOf_lt_of_ofArguments {items : List Argument} {inner : TypeExpr} {rest : List TypeExpr}
    (h : ofArguments items = inner :: rest) : sizeOf inner < sizeOf items := by
  induction items with
  | nil => cases h
  | cons item items ih =>
    rw [List.cons.sizeOf_spec]
    cases item with
    | lifetime name =>
      have hrest := ih h
      omega
    | other tokens =>
      have hrest := ih h
      omega
    | type type =>
      cases h
      rw [Argument.type.sizeOf_spec]
      omega

/-- The arguments of a type are smaller than the type. -/
theorem sizeOf_lt_of_argumentsOf? {type inner : TypeExpr} {name : String} {rest : List TypeExpr}
    (h : type.argumentsOf? name = some (inner :: rest)) : sizeOf inner < sizeOf type := by
  obtain ⟨⟨word, arguments⟩, hlast, _, hinside⟩ := argumentsOf?_eq_some h
  have hsegment : sizeOf arguments < sizeOf type := by
    cases type with
    | path path =>
      obtain ⟨rooted, parents, last⟩ := path
      cases hlast
      simp only [path.sizeOf_spec, PathExpr.mk.sizeOf_spec, Segment.mk.sizeOf_spec]
      omega
    | projection self seenAs parents last =>
      cases hlast
      simp only [projection.sizeOf_spec, Segment.mk.sizeOf_spec]
      omega
    | reference | object | other => cases hlast
  cases arguments with
  | absent => cases hinside
  | call tokens => cases hinside
  | angle marked items trailing =>
    have hinner : sizeOf inner < sizeOf items := sizeOf_lt_of_ofArguments hinside
    simp only [Arguments.angle.sizeOf_spec] at hsegment
    omega

theorem isErrorLike_of_lastSegment? {type : TypeExpr} {segment : Segment}
    (h : type.lastSegment? = some segment) : type.isErrorLike = segment.isErrorLike := by
  cases type with
  | path path =>
    obtain ⟨rooted, parents, last⟩ := path
    cases h
    rfl
  | projection self seenAs parents last =>
    cases h
    rfl
  | reference | object | other => cases h

/-- A box is an error by what is inside. -/
theorem isErrorLike_of_box {type : TypeExpr} {inside : List TypeExpr}
    (h : type.argumentsOf? "Box" = some inside) :
    type.isErrorLike = inside.head?.any isErrorInside := by
  obtain ⟨⟨name, arguments⟩, hlast, hname, rfl⟩ := argumentsOf?_eq_some h
  rw [isErrorLike_of_lastSegment? hlast]
  refine (if_pos hname).trans ?_
  cases arguments with
  | absent => rfl
  | angle marked items trailing => exact firstIsError_eq items
  | call tokens => rfl

/-- A type that is no box is an error by its name. -/
theorem isErrorLike_of_not_box {type : TypeExpr} (h : type.argumentsOf? "Box" = none) :
    type.isErrorLike = type.lastName?.any fun name => "Error".toList.isSuffixOf name.toList := by
  cases hlast : type.lastSegment? with
  | none =>
    rw [lastName?, hlast]
    cases type with
    | path | projection => cases hlast
    | reference | object | other => rfl
  | some segment =>
    have hname : segment.name.text ≠ "Box" := fun hname =>
      nomatch (argumentsOf?_of_name hlast hname).symm.trans h
    rw [isErrorLike_of_lastSegment? hlast, lastName?, hlast]
    obtain ⟨name, arguments⟩ := segment
    exact if_neg hname

theorem isError_of_isErrorLike {type : TypeExpr} (h : type.isErrorLike = true) : type.IsError := by
  cases hbox : type.argumentsOf? "Box" with
  | none =>
    rw [isErrorLike_of_not_box hbox, Option.any_eq_true] at h
    obtain ⟨name, hname, hsuffix⟩ := h
    exact .named hname (List.isSuffixOf_iff_suffix.mp hsuffix)
  | some inside =>
    rw [isErrorLike_of_box hbox, Option.any_eq_true] at h
    obtain ⟨inner, hinner, h⟩ := h
    obtain ⟨rest, rfl⟩ := List.head?_eq_some_iff.mp hinner
    have hsize := sizeOf_lt_of_argumentsOf? hbox
    rcases isErrorInside_eq_true.mp h with h | ⟨marked, bounds, trailing, bound, rfl, hmem, hbound⟩
    · exact .boxed hbox (isError_of_isErrorLike h)
    · exact .object hbox hmem (Bound.namesError_iff.mp hbound)
termination_by sizeOf type

theorem IsError.isErrorLike {type : TypeExpr} (h : type.IsError) : type.isErrorLike = true := by
  induction h with
  | @named type name h hname =>
    have hbox : type.argumentsOf? "Box" = none := by
      obtain ⟨segment, hlast, rfl⟩ := Option.map_eq_some_iff.mp h
      refine argumentsOf?_of_ne hlast fun hbox => ?_
      -- The name of a box is no longer than three letters.
      have hlength := hname.length_le
      rw [hbox] at hlength
      exact absurd hlength (by decide)
    rw [isErrorLike_of_not_box hbox, h]
    exact List.isSuffixOf_iff_suffix.mpr hname
  | @boxed type inner rest h _ ih =>
    rw [isErrorLike_of_box h]
    exact isErrorInside_eq_true.mpr (.inl ih)
  | @object type marked trailing bounds bound rest h hmem hbound =>
    rw [isErrorLike_of_box h]
    exact isErrorInside_eq_true.mpr
      (.inr ⟨marked, bounds, trailing, bound, rfl, hmem, Bound.namesError_iff.mpr hbound⟩)

theorem isErrorLike_iff {type : TypeExpr} : type.isErrorLike = true ↔ type.IsError :=
  ⟨isError_of_isErrorLike, IsError.isErrorLike⟩

end TypeExpr

/-! ### Candidates -/

namespace Candidate

/-- What a candidate makes, seen through a result and a box, is the type of a name. -/
def MakesType (candidate : Candidate) (name : String) : Prop :=
  ∃ result made, candidate.signature.result = some result ∧ result.Makes made ∧
    made.Names candidate.selfName name

/-- A candidate of a service is free or a method of the service, and what it makes has the name of
the service. -/
structure IsOf (candidate : Candidate) (service : String) : Prop where
  owner : ∀ name, candidate.selfName = some name → name = service
  makes : candidate.MakesType service

/-- The signature of an initializer: it takes no receiver and returns a result of a service and an
error. Only a method may write `Self`. -/
structure IsSound (candidate : Candidate) : Prop where
  result : ∃ result made error, candidate.signature.result = some result ∧
    result.argumentsOf? "Result" = some [made, error] ∧ error.IsError ∧
      (candidate.selfName = none → made.lastName? ≠ some "Self")
  receiver : candidate.signature.receiver = none

/-- What is wrong with the signature of a candidate. Its result is looked at first, then the receiver,
then the two types of the result. -/
inductive Breaches (candidate : Candidate) : Breach → Prop
  | noResult (h : ∀ result, candidate.signature.result = some result →
        result.argumentsOf? "Result" = none) : Breaches candidate .resultRequired
  | arity {result : TypeExpr} {args : List TypeExpr} (h : candidate.signature.result = some result)
      (hargs : result.argumentsOf? "Result" = some args) (hcount : args.length ≠ 2) :
      Breaches candidate (.resultArity args.length)
  | receiver {result made error : TypeExpr} (h : candidate.signature.result = some result)
      (hargs : result.argumentsOf? "Result" = some [made, error])
      (hreceiver : candidate.signature.receiver ≠ none) : Breaches candidate .initializerTakesSelf
  | selfOutside {result made error : TypeExpr} (h : candidate.signature.result = some result)
      (hargs : result.argumentsOf? "Result" = some [made, error])
      (hreceiver : candidate.signature.receiver = none) (hfree : candidate.selfName = none)
      (hself : made.lastName? = some "Self") : Breaches candidate .selfOutsideImpl
  | noError {result made error : TypeExpr} (h : candidate.signature.result = some result)
      (hargs : result.argumentsOf? "Result" = some [made, error])
      (hreceiver : candidate.signature.receiver = none)
      (hself : candidate.selfName = none → made.lastName? ≠ some "Self") (herror : ¬error.IsError) :
      Breaches candidate (.notAnError error.text)

variable {candidate : Candidate} {service : String} {breach : Breach}

theorem target?_eq_some_iff : candidate.target? = some service ↔ candidate.MakesType service := by
  rw [target?, MakesType, Option.bind_eq_some_iff]
  simp only [Option.bind_eq_some_iff, TypeExpr.produced?_eq_some_iff]
  constructor
  · rintro ⟨made, ⟨result, hresult, hmakes⟩, name, hname, h⟩
    refine ⟨result, made, hresult, hmakes, ?_⟩
    by_cases hself : name = "Self"
    · rw [if_pos hself] at h
      exact .implementing (hself ▸ hname) h
    · rw [if_neg hself] at h
      exact .written (Option.some.inj h ▸ hname) (Option.some.inj h ▸ hself)
  · rintro ⟨result, made, hresult, hmakes, hnames⟩
    refine ⟨made, ⟨result, hresult, hmakes⟩, ?_⟩
    cases hnames with
    | written hname hself => exact ⟨_, hname, if_neg hself⟩
    | implementing hname hself => exact ⟨_, hname, (if_pos rfl).trans hself⟩

/-- A candidate makes one type. -/
theorem MakesType.unique {candidate : Candidate} {name name' : String}
    (h : candidate.MakesType name) (h' : candidate.MakesType name') : name = name' :=
  Option.some.inj ((target?_eq_some_iff.mpr h).symm.trans (target?_eq_some_iff.mpr h'))

theorem isFor_iff : candidate.isFor service = true ↔ candidate.IsOf service := by
  rw [isFor, Bool.and_eq_true, beq_iff_eq, target?_eq_some_iff]
  refine ⟨fun h => ⟨fun name hname => ?_, h.2⟩, fun h => ⟨?_, h.makes⟩⟩
  · rw [hname] at h
    exact beq_iff_eq.mp h.1
  · cases hself : candidate.selfName with
    | none => rfl
    | some name => exact beq_iff_eq.mpr (h.owner name hself)

/-- What a candidate with a result of two types is refused for. -/
theorem breach?_of_result {result made error : TypeExpr} (h : candidate.signature.result = some result)
    (hargs : result.argumentsOf? "Result" = some [made, error]) : candidate.breach? =
      if candidate.signature.receiver.isSome then some .initializerTakesSelf
      else if candidate.selfName.isNone ∧ made.lastName? = some "Self" then some .selfOutsideImpl
      else if error.isErrorLike then none
      else some (.notAnError error.text) := by
  have hfound : candidate.signature.result.bind (·.argumentsOf? "Result") = some [made, error] := by
    rw [h]
    exact hargs
  simp only [breach?, hfound]

theorem breach?_of_arity {result : TypeExpr} {args : List TypeExpr}
    (h : candidate.signature.result = some result) (hargs : result.argumentsOf? "Result" = some args)
    (hcount : args.length ≠ 2) : candidate.breach? = some (.resultArity args.length) := by
  have hfound : candidate.signature.result.bind (·.argumentsOf? "Result") = some args := by
    rw [h]
    exact hargs
  unfold breach?
  rw [hfound]
  split
  · contradiction
  · rename_i heq
    cases heq
    exact absurd rfl hcount
  · rename_i heq
    cases heq
    rfl

theorem breach?_eq_some_iff : candidate.breach? = some breach ↔ candidate.Breaches breach := by
  constructor
  · intro h
    cases hfound : candidate.signature.result.bind (·.argumentsOf? "Result") with
    | none =>
      simp only [breach?, hfound, Option.some.injEq] at h
      exact h ▸ .noResult fun result hresult => by simpa [hresult] using hfound
    | some args =>
      obtain ⟨result, hresult, hargs⟩ := Option.bind_eq_some_iff.mp hfound
      by_cases hcount : args.length = 2
      · obtain ⟨made, error, rfl⟩ := List.length_eq_two.mp hcount
        rw [breach?_of_result hresult hargs] at h
        split at h
        · rename_i hreceiver
          cases h
          exact .receiver hresult hargs (Option.isSome_iff_ne_none.mp hreceiver)
        rename_i hreceiver
        have hreceiver := Option.not_isSome_iff_eq_none.mp hreceiver
        split at h
        · rename_i hself
          cases h
          exact .selfOutside hresult hargs hreceiver (Option.isNone_iff_eq_none.mp hself.1) hself.2
        rename_i hself
        split at h
        · cases h
        · rename_i herror
          cases h
          refine .noError hresult hargs hreceiver (fun hfree hname => hself ⟨?_, hname⟩) fun h => ?_
          · exact Option.isNone_iff_eq_none.mpr hfree
          · exact herror (TypeExpr.isErrorLike_iff.mpr h)
      · cases (breach?_of_arity hresult hargs hcount).symm.trans h
        exact .arity hresult hargs hcount
  · intro h
    cases h with
    | noResult h =>
      have hnone : candidate.signature.result.bind (·.argumentsOf? "Result") = none :=
        Option.bind_eq_none_iff.mpr h
      simp only [breach?, hnone]
    | arity h hargs hcount => exact breach?_of_arity h hargs hcount
    | receiver h hargs hreceiver =>
      rw [breach?_of_result h hargs, if_pos (Option.isSome_iff_ne_none.mpr hreceiver)]
    | selfOutside h hargs hreceiver hfree hself =>
      rw [breach?_of_result h hargs, if_neg (by simp [hreceiver]), if_pos (by simp [hfree, hself])]
    | noError h hargs hreceiver hself herror =>
      rw [breach?_of_result h hargs, if_neg (by simp [hreceiver]), if_neg (by simpa using hself),
        if_neg (mt TypeExpr.isErrorLike_iff.mp herror)]

/-- A signature is sound exactly if nothing is wrong with it. -/
theorem isSound_iff : candidate.IsSound ↔ ∀ breach, ¬candidate.Breaches breach := by
  constructor
  · rintro ⟨⟨result, made, error, hresult, hargs, herror, hself⟩, hreceiver⟩ breach hbreach
    have hfree : ¬(candidate.selfName.isNone ∧ made.lastName? = some "Self") :=
      fun h => hself (Option.isNone_iff_eq_none.mp h.1) h.2
    have hnone := breach?_of_result hresult hargs
    rw [hreceiver, if_neg (by simp), if_neg hfree, if_pos (TypeExpr.isErrorLike_iff.mpr herror)]
      at hnone
    exact nomatch hnone.symm.trans (breach?_eq_some_iff.mpr hbreach)
  · intro h
    obtain ⟨result, hresult, hsome⟩ : ∃ result, candidate.signature.result = some result ∧
        result.argumentsOf? "Result" ≠ none := by
      by_contra hnot
      refine h _ (.noResult fun result hresult => ?_)
      by_contra hsome
      exact hnot ⟨result, hresult, hsome⟩
    obtain ⟨args, hargs⟩ := Option.ne_none_iff_exists'.mp hsome
    have hcount : args.length = 2 := by
      by_contra hcount
      exact h _ (.arity hresult hargs hcount)
    obtain ⟨made, error, rfl⟩ := List.length_eq_two.mp hcount
    have hreceiver : candidate.signature.receiver = none := by
      by_contra hreceiver
      exact h _ (.receiver hresult hargs hreceiver)
    have hself : candidate.selfName = none → made.lastName? ≠ some "Self" := fun hfree hself =>
      h _ (.selfOutside hresult hargs hreceiver hfree hself)
    refine ⟨⟨result, made, error, hresult, hargs, ?_, hself⟩, hreceiver⟩
    by_contra herror
    exact h _ (.noError hresult hargs hreceiver hself herror)

theorem breach?_eq_none_iff : candidate.breach? = none ↔ candidate.IsSound := by
  simp only [isSound_iff, ← breach?_eq_some_iff, Option.eq_none_iff_forall_ne_some, ne_eq]

instance : Decidable (candidate.IsOf service) := decidable_of_iff _ isFor_iff

end Candidate

/-! ### Services -/

namespace TaggedCatalog

variable {t : TaggedCatalog} {service : String} {candidate : Candidate}

/-- A candidate makes some service. -/
def MakesService (t : TaggedCatalog) (candidate : Candidate) : Prop :=
  ∃ s ∈ t.serviceStructs, candidate.MakesType s.name

theorem isServiceName_iff {name : String} :
    t.isServiceName name = true ↔ name ∈ t.serviceStructs.map (·.name) := by
  simp [isServiceName]

theorem makesService_iff :
    candidate.target?.any t.isServiceName = true ↔ t.MakesService candidate := by
  rw [Option.any_eq_true]
  constructor
  · rintro ⟨name, htarget, hservice⟩
    obtain ⟨s, hs, rfl⟩ := List.mem_map.mp (isServiceName_iff.mp hservice)
    exact ⟨s, hs, Candidate.target?_eq_some_iff.mp htarget⟩
  · rintro ⟨s, hs, hmakes⟩
    exact ⟨s.name, Candidate.target?_eq_some_iff.mpr hmakes,
      isServiceName_iff.mpr (List.mem_map_of_mem hs)⟩

instance : Decidable (t.MakesService candidate) := decidable_of_iff _ makesService_iff

/-- The candidates of a service, in the order of the catalogue. -/
def initializersOf (t : TaggedCatalog) (service : String) : List Candidate :=
  t.candidates.filter fun candidate => candidate.IsOf service

/-- The one candidate of a service, which is sound. -/
def HasInitializer (t : TaggedCatalog) (service : String) (candidate : Candidate) : Prop :=
  t.initializersOf service = [candidate] ∧ candidate.IsSound

/-- The fault of a service without one: that of its first unsound candidate, or else that of having
no candidate or several. -/
inductive InitializerFault (t : TaggedCatalog) (service : String) : Fault → Prop
  | unsound {before after : List Candidate} {candidate : Candidate} {breach : Breach}
      (h : t.initializersOf service = before ++ candidate :: after)
      (hbefore : ∀ other ∈ before, other.IsSound) (hbreach : candidate.breach? = some breach) :
      InitializerFault t service (.breach candidate.declaration breach)
  | missing (h : t.initializersOf service = []) :
      InitializerFault t service (.breach service .noInitializer)
  | several (h : 2 ≤ (t.initializersOf service).length)
      (hsound : ∀ candidate ∈ t.initializersOf service, candidate.IsSound) :
      InitializerFault t service
        (.breach service (.manyInitializers ((t.initializersOf service).map (·.declaration))))

theorem initializersOf_eq :
    t.initializersOf service = t.candidates.filter (·.isFor service) := by
  refine List.filter_congr fun candidate _ => ?_
  rw [Bool.eq_iff_iff, decide_eq_true_iff, Candidate.isFor_iff]

theorem fault?_eq_none_iff {candidate : Candidate} :
    candidate.fault? = none ↔ candidate.IsSound := by
  rw [Candidate.fault?, Option.map_eq_none_iff, Candidate.breach?_eq_none_iff]

/-- The candidates of a service are searched for a bad signature before they are counted. -/
theorem initializer_cases :
    (∃ fault, t.initializer service = .error fault ∧ t.InitializerFault service fault) ∨
      ∃ candidate, t.initializer service = .ok candidate.initializer ∧
        t.HasInitializer service candidate := by
  rw [TaggedCatalog.initializer, ← initializersOf_eq]
  cases hfault : (t.initializersOf service).findSome? (·.fault?) with
  | some fault =>
    obtain ⟨before, candidate, after, hlist, hcandidate, hbefore⟩ :=
      List.findSome?_eq_some_iff.mp hfault
    obtain ⟨breach, hbreach, rfl⟩ := Option.map_eq_some_iff.mp hcandidate
    refine .inl ⟨_, rfl, .unsound hlist (fun other hother => ?_) hbreach⟩
    exact fault?_eq_none_iff.mp (hbefore other hother)
  | none =>
    have hsound : ∀ candidate ∈ t.initializersOf service, candidate.IsSound := fun candidate h =>
      fault?_eq_none_iff.mp (List.findSome?_eq_none_iff.mp hfault candidate h)
    cases hlist : t.initializersOf service with
    | nil => exact .inl ⟨_, rfl, .missing hlist⟩
    | cons candidate rest =>
      cases rest with
      | nil => exact .inr ⟨candidate, rfl, hlist, hsound candidate (by simp [hlist])⟩
      | cons other rest =>
        refine .inl ⟨_, ?_, .several (by simp [hlist]) hsound⟩
        rw [hlist]

theorem HasInitializer.not_fault {candidate : Candidate} {fault : Fault}
    (h : t.HasInitializer service candidate) : ¬ t.InitializerFault service fault := by
  intro hfault
  obtain ⟨hlist, hsound⟩ := h
  cases hfault with
  | @unsound before after other breach h _ hbreach =>
    have hother : other ∈ t.initializersOf service := by
      rw [h]
      exact List.mem_append_right _ List.mem_cons_self
    rw [hlist, List.mem_singleton] at hother
    subst hother
    exact nomatch (Candidate.breach?_eq_none_iff.mpr hsound).symm.trans hbreach
  | missing h => exact nomatch hlist.symm.trans h
  | several h =>
    rw [hlist] at h
    exact absurd h (by simp)

theorem initializer_eq_ok {candidate : Candidate} (h : t.HasInitializer service candidate) :
    t.initializer service = .ok candidate.initializer := by
  rcases initializer_cases with ⟨fault, _, hfault⟩ | ⟨found, heq, hfound⟩
  · exact absurd hfault h.not_fault
  · have hsame : [found] = [candidate] := hfound.1.symm.trans h.1
    rw [heq, List.head_eq_of_cons_eq hsame]

theorem hasInitializer_of_ok {initializer : Initializer}
    (h : t.initializer service = .ok initializer) :
    ∃ candidate, t.HasInitializer service candidate ∧ candidate.initializer = initializer := by
  rcases initializer_cases with ⟨fault, heq, _⟩ | ⟨candidate, heq, hcandidate⟩
  · exact nomatch heq.symm.trans h
  · exact ⟨candidate, hcandidate, Except.ok.inj (heq.symm.trans h)⟩

theorem initializerFault_of_error {fault : Fault} (h : t.initializer service = .error fault) :
    t.InitializerFault service fault := by
  rcases initializer_cases with ⟨found, heq, hfound⟩ | ⟨candidate, heq, _⟩
  · exact Except.error.inj (heq.symm.trans h) ▸ hfound
  · exact nomatch heq.symm.trans h

theorem service_eq_ok {s : CatalogStruct} {made : Service} : t.service s = .ok made ↔
    ∃ candidate, t.HasInitializer s.name candidate ∧
      t.serviceOf s candidate.initializer = made := by
  rw [TaggedCatalog.service, Results.map_eq_ok]
  constructor
  · rintro ⟨initializer, h, rfl⟩
    obtain ⟨candidate, hcandidate, rfl⟩ := hasInitializer_of_ok h
    exact ⟨candidate, hcandidate, rfl⟩
  · rintro ⟨candidate, hcandidate, rfl⟩
    exact ⟨_, initializer_eq_ok hcandidate, rfl⟩

end TaggedCatalog

end Entrypoint
