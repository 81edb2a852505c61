import Entrypoint.ErrorBody
import Entrypoint.Proofs.Json.Bytes
import Entrypoint.Proofs.Json.Quotation
import Entrypoint.Service.Descriptor
import Mathlib.Data.List.Nodup
import Mathlib.Data.List.TakeWhile

/-! Records of texts. An object whose members are all texts, under keys of their own, is written on
one line and is read back as it was, from its characters and from its bytes. Route descriptors and
error bodies are such records. -/

namespace Entrypoint

/-- The members of an object of texts. -/
def Json.textMembers (texts : List (String × String)) : List (String × Json) :=
  texts.map fun entry => (entry.1, .text entry.2)

/-- The fields of an object of texts. -/
def Shape.textFields (texts : List (String × String)) : List (String × Shape) :=
  texts.map fun entry => (entry.1, .text)

theorem Json.textMembers_cons (entry : String × String) (texts : List (String × String)) :
    textMembers (entry :: texts) = (entry.1, .text entry.2) :: textMembers texts := rfl

theorem Shape.textFields_cons (entry : String × String) (texts : List (String × String)) :
    textFields (entry :: texts) = (entry.1, .text) :: textFields texts := rfl

namespace Json

/-- What is written for a member of an object of texts. -/
def member (entry : String × String) : List Char := quoted entry.1 ++ ':' :: quoted entry.2

/-- What is written for members, each after a comma; but the very first has none. -/
def memberRow (first : Bool) : List (String × String) → List Char
  | [] => []
  | entry :: texts => (if first then [] else [',']) ++ (member entry ++ memberRow false texts)

theorem memberChars_textMembers (texts : List (String × String)) :
    memberChars (textMembers texts) = memberRow true texts := by
  induction texts with
  | nil => rfl
  | cons entry texts ih =>
    cases texts with
    | nil => simp [textMembers, memberChars, memberRow, member, chars]
    | cons next texts =>
      rw [textMembers_cons] at ih
      simp [textMembers_cons, memberChars, memberRow, member, chars, ih]

theorem length_le_memberRow (first : Bool) (texts : List (String × String)) :
    texts.length ≤ (memberRow first texts).length := by
  induction texts generalizing first with
  | nil => exact Nat.le_refl _
  | cons entry texts ih =>
    have hrest := ih false
    simp only [memberRow, member, List.length_append, List.length_cons]
    omega

theorem chars_texts (texts : List (String × String)) : (object (textMembers texts)).chars =
    '\x7b' :: (memberRow true texts ++ ['\x7d']) := by
  rw [chars, memberChars_textMembers]
  rfl

theorem le_of_mem_member {entry : String × String} {c : Char} (h : c ∈ member entry) : ' ' ≤ c := by
  rw [member, List.mem_append, List.mem_cons] at h
  rcases h with h | rfl | h
  · exact JsonReading.le_of_mem_quoted h
  · decide
  · exact JsonReading.le_of_mem_quoted h

theorem le_of_mem_memberRow {first : Bool} {texts : List (String × String)} {c : Char}
    (h : c ∈ memberRow first texts) : ' ' ≤ c := by
  induction texts generalizing first with
  | nil => cases h
  | cons entry texts ih =>
    rw [memberRow, List.mem_append, List.mem_append] at h
    rcases h with h | h | h
    · cases first with
      | true => cases h
      | false => exact List.mem_singleton.mp h ▸ by decide
    · exact le_of_mem_member h
    · exact ih h

/-- No control is written for an object of texts. -/
theorem le_of_mem_chars_texts (texts : List (String × String)) {c : Char}
    (h : c ∈ (object (textMembers texts)).chars) : ' ' ≤ c := by
  rw [chars_texts, List.mem_cons, List.mem_append, List.mem_singleton] at h
  rcases h with rfl | h | rfl
  · decide
  · exact le_of_mem_memberRow h
  · decide

end Json

namespace Shape

open JsonReading

variable {decode : Shape → JsonReading Json} {fields : List (String × Shape)}
  {found : List (String × Json)} {texts : List (String × String)} {entry : String × String}
  {first : Bool} {fuel : Nat} {rest : List Symbol}

theorem run_moreMembers_end :
    (moreMembers first).run (.char '\x7d' :: rest) = .ok (false, .char '\x7d' :: rest) := by
  cases first <;> rfl

theorem takes_moreMembers :
    Takes (moreMembers first) ((if first then [] else [',']) ++ ['"']) true := by
  intro rest
  cases first <;> rfl

theorem run_enter_bind {α : Type} {s : Symbol} (f : (Shape → JsonReading Json) → JsonReading α) :
    (enter (some decode) >>= f).run (s :: rest) = (f decode).run rest := rfl

theorem takes_colon : Takes colon [':'] () := fun _ => rfl

theorem takes_text (nested : Option (Shape → JsonReading Json)) (value : String) :
    Takes (decodeWith nested .text) (Json.quoted value) (.text value) := by
  intro rest
  have hstring : (do return Json.text (← string) : JsonReading Json).run
      (Symbol.row (value.toList.flatMap Json.escape ++ ['"']) ++ rest) = .ok (.text value, rest) :=
    run_bind_of_ok _ (takes_string value rest)
  rw [decodeWith]
  exact hstring

/-- One step through the members of a record. -/
theorem run_fieldMembers_member
    (hdecode : ∀ value, Takes (decode .text) (Json.quoted value) (.text value))
    (hfield : fields.lookup entry.1 = some .text) (hnew : found.lookup entry.1 = none) :
    (fieldMembers decode fields first found (fuel + 1)).run
        (Symbol.row ((if first then [] else [',']) ++ Json.member entry) ++ rest) =
      (fieldMembers decode fields false ((entry.1, .text entry.2) :: found) fuel).run rest := by
  have hrow : Symbol.row ((if first then [] else [',']) ++ Json.member entry) ++ rest =
      Symbol.row ((if first then [] else [',']) ++ ['"']) ++
        (Symbol.row (entry.1.toList.flatMap Json.escape ++ ['"']) ++
          (Symbol.row [':'] ++ (Symbol.row (Json.quoted entry.2) ++ rest))) := by
    simp [Json.member, Json.quoted, Symbol.row]
  rw [hrow, fieldMembers, run_bind_of_ok _ (takes_moreMembers _), if_pos rfl,
    run_bind_of_ok _ (takes_string _ _), hfield]
  simp only [hnew]
  rw [Option.isSome_none, if_neg Bool.false_ne_true, run_bind_of_ok _ (takes_colon _),
    run_bind_of_ok _ (hdecode _ _)]

/-- The members of a record are found in the order that they are written in. -/
theorem run_fieldMembers
    (hdecode : ∀ value, Takes (decode .text) (Json.quoted value) (.text value))
    (hkeys : (texts.map (·.1)).Nodup)
    (hfields : ∀ entry ∈ texts, fields.lookup entry.1 = some .text)
    (hnew : ∀ entry ∈ texts, found.lookup entry.1 = none) (hfuel : texts.length < fuel) :
    (fieldMembers decode fields first found fuel).run
        (Symbol.row (Json.memberRow first texts) ++ .char '\x7d' :: rest) =
      .ok ((Json.textMembers texts).reverse ++ found, .char '\x7d' :: rest) := by
  induction texts generalizing first found fuel with
  | nil =>
    obtain ⟨fuel, rfl⟩ := Nat.exists_eq_add_one.mpr hfuel
    rw [fieldMembers]
    exact run_bind_of_ok _ run_moreMembers_end
  | cons entry texts ih =>
    obtain ⟨fuel, rfl⟩ := Nat.exists_eq_add_one.mpr (Nat.zero_lt_of_lt hfuel)
    obtain ⟨hentry, hkeys⟩ := List.nodup_cons.mp hkeys
    have hlater : ∀ later ∈ texts,
        ((entry.1, Json.text entry.2) :: found).lookup later.1 = none := by
      intro later hlater
      have hne : later.1 ≠ entry.1 := fun h => hentry (List.mem_map.mpr ⟨later, hlater, h⟩)
      rw [List.lookup_cons, beq_false_of_ne hne]
      exact hnew later (List.mem_cons_of_mem _ hlater)
    rw [Json.memberRow, ← List.append_assoc, Symbol.row_append, List.append_assoc,
      run_fieldMembers_member hdecode (hfields entry List.mem_cons_self)
        (hnew entry List.mem_cons_self),
      ih hkeys (fun later h => hfields later (List.mem_cons_of_mem _ h)) hlater
        (Nat.lt_of_succ_lt_succ hfuel), Json.textMembers_cons, List.reverse_cons,
      List.append_assoc]
    rfl

theorem lookup_of_mem {α : Type} {entries : List (String × α)} (entry : String × α)
    (hkeys : (entries.map (·.1)).Nodup) (h : entry ∈ entries) :
    entries.lookup entry.1 = some entry.2 := by
  induction entries with
  | nil => cases h
  | cons first entries ih =>
    obtain ⟨hfirst, hkeys⟩ := List.nodup_cons.mp hkeys
    rw [List.lookup_cons]
    rcases List.mem_cons.mp h with rfl | h
    · rw [beq_self_eq_true]
    · have hne : entry.1 ≠ first.1 := fun heq => hfirst (List.mem_map.mpr ⟨entry, h, heq⟩)
      rw [beq_false_of_ne hne]
      exact ih hkeys h

theorem lookup_textFields (hkeys : (texts.map (·.1)).Nodup) (h : entry ∈ texts) :
    (textFields texts).lookup entry.1 = some .text := by
  refine lookup_of_mem (entry.1, Shape.text) ?_ (List.mem_map_of_mem h)
  rwa [textFields, List.map_map]

theorem lookup_textMembers (hkeys : (texts.map (·.1)).Nodup) (h : entry ∈ texts) :
    (Json.textMembers texts).reverse.lookup entry.1 = some (.text entry.2) := by
  refine lookup_of_mem (entry.1, Json.text entry.2) ?_ ?_
  · rwa [Json.textMembers, List.map_reverse, List.nodup_reverse, List.map_map]
  · exact List.mem_reverse.mpr (List.mem_map_of_mem h)

/-- Fields that were found are put in the order of the record. -/
theorem arrange_texts (h : ∀ entry ∈ texts, found.lookup entry.1 = some (.text entry.2)) :
    arrange found (textFields texts) = .ok (Json.textMembers texts) := by
  induction texts with
  | nil => rfl
  | cons entry texts ih =>
    rw [textFields_cons, arrange, h entry List.mem_cons_self,
      ih fun later hlater => h later (List.mem_cons_of_mem _ hlater)]
    rfl

/-- A record of texts is read as what was written. -/
theorem takes_recordValue
    (hdecode : ∀ value, Takes (decode .text) (Json.quoted value) (.text value))
    (hkeys : (texts.map (·.1)).Nodup) :
    Takes (recordValue (some decode) (textFields texts))
      (Json.object (Json.textMembers texts)).chars (.object (Json.textMembers texts)) := by
  intro rest
  have hrow : Symbol.row (Json.object (Json.textMembers texts)).chars ++ rest =
      .char '\x7b' :: (Symbol.row (Json.memberRow true texts) ++ .char '\x7d' :: rest) := by
    simp [Json.chars_texts, Symbol.row]
  have hfuel : texts.length <
      (Symbol.row (Json.memberRow true texts) ++ .char '\x7d' :: rest).length + 1 := by
    have hle := Json.length_le_memberRow true texts
    rw [List.length_append, Symbol.length_row]
    omega
  have hmembers : (fieldMembers decode (textFields texts) true []
      ((Symbol.row (Json.memberRow true texts) ++ .char '\x7d' :: rest).length + 1)).run
        (Symbol.row (Json.memberRow true texts) ++ .char '\x7d' :: rest) =
      .ok ((Json.textMembers texts).reverse ++ [], .char '\x7d' :: rest) :=
    run_fieldMembers hdecode hkeys (fun _ => lookup_textFields hkeys) (fun _ _ => rfl) hfuel
  rw [List.append_nil] at hmembers
  rw [hrow, recordValue, run_peek_bind]
  show StateT.run (enter (some decode) >>= _) _ = _
  rw [run_enter_bind, run_get_bind, run_bind_of_ok _ hmembers,
    arrange_texts fun _ => lookup_textMembers hkeys]
  rfl

/-- A record of texts is read at every depth but the last. -/
theorem takes_record (depth : Nat) (hkeys : (texts.map (·.1)).Nodup) :
    Takes (Shape.decode (depth + 1) (.record (textFields texts)))
      (Json.object (Json.textMembers texts)).chars (.object (Json.textMembers texts)) := by
  have hdecode : ∀ value, Takes (Shape.decode depth .text) (Json.quoted value) (.text value) := by
    cases depth with
    | zero => exact takes_text none
    | succ depth => exact takes_text _
  intro rest
  have hrecord := takes_recordValue hdecode hkeys rest
  rw [Json.chars_texts] at hrecord ⊢
  rw [Shape.decode, decodeWith]
  exact hrecord

/-- A text that is read as a value, with blanks behind it, is a document of the value. -/
theorem run_document {shape : Shape} {chars : List Char} {value : Json} {trailing : List Symbol}
    (hvalue : Takes (Shape.decode greatestDepth shape) chars value)
    (htrailing : trailing.all isBlank = true) :
    shape.document.run (Symbol.row chars ++ trailing) = .ok (value, []) := by
  have hblanks : blanks.run trailing = .ok ((), []) := congrArg (fun row => Except.ok ((), row))
    (List.dropWhile_eq_nil_iff.mpr (List.all_eq_true.mp htrailing))
  rw [document, run_bind_of_ok _ (hvalue _), run_bind_of_ok _ hblanks]
  rfl

/-- The bytes of a record of texts, with blanks behind it, are a body of the record. -/
theorem ofBody_texts (texts : List (String × String)) (trailing : String)
    (hkeys : (texts.map (·.1)).Nodup)
    (htrailing : (Symbol.ofText trailing).all isBlank = true) :
    (Shape.record (textFields texts)).ofBody (Symbol.ofBytes
        ((Json.object (Json.textMembers texts)).render ++ trailing).toUTF8.data.toList) =
      .ok (.object (Json.textMembers texts)) := by
  have hsymbols : Symbol.ofText ((Json.object (Json.textMembers texts)).render ++ trailing) =
      Symbol.row (Json.object (Json.textMembers texts)).chars ++ Symbol.ofText trailing := by
    simp [Symbol.ofText, Symbol.row, Json.render]
  have hdocument := run_document (takes_record 126 hkeys) htrailing
  have hbrace : (Symbol.row (Json.object (Json.textMembers texts)).chars ++
      Symbol.ofText trailing).all isBodyBlank = false := by
    rw [Json.chars_texts]
    rfl
  rw [Symbol.ofBytes_toUTF8, hsymbols, ofBody, hbrace, if_neg Bool.false_ne_true, hdocument]
  rfl

end Shape

/-! ### Descriptors and error bodies -/

/-- The data of a kind that the bytes of a body hold. -/
def Shape.readBody {α : Type} (shape : Shape) (ofJson? : Json → Option α) (bytes : List UInt8) :
    Except JsonFault (Option α) :=
  (shape.ofBody (Symbol.ofBytes bytes)).map ofJson?

theorem RouteDescriptor.readBody_text (d : RouteDescriptor) :
    RouteDescriptor.shape.readBody RouteDescriptor.ofJson? d.text.toUTF8.data.toList =
      .ok (some d) := by
  have hbody := Shape.ofBody_texts [("method", d.verb), ("path", d.path)] "\n"
    (show ["method", "path"].Nodup by decide) rfl
  exact congrArg (Except.map RouteDescriptor.ofJson?) hbody

/-- Descriptors are told apart by their texts. -/
theorem RouteDescriptor.text_injective : Function.Injective RouteDescriptor.text := by
  intro d d' h
  have hread := d.readBody_text
  rw [h, d'.readBody_text] at hread
  cases hread
  rfl

theorem ErrorBody.readBody_render (body : ErrorBody) :
    ErrorBody.shape.readBody ErrorBody.ofJson? body.toJson.render.toUTF8.data.toList =
      .ok (some body) := by
  have hbody := Shape.ofBody_texts [("message", body.message), ("error", body.error)] ""
    (show ["message", "error"].Nodup by decide) rfl
  rw [String.append_empty] at hbody
  exact congrArg (Except.map ErrorBody.ofJson?) hbody

/-- **What is written reads back**, whatever texts it is made of. A route descriptor is one line,
without controls, and its line end; both it and an error body are read from their bytes as what they
were. -/
theorem records_read_back :
    (∀ d : RouteDescriptor,
      (∃ line : String, d.text = line ++ "\n" ∧ ∀ c ∈ line.toList, ' ' ≤ c) ∧
        RouteDescriptor.shape.readBody RouteDescriptor.ofJson? d.text.toUTF8.data.toList =
          .ok (some d)) ∧
      ∀ body : ErrorBody,
        ErrorBody.shape.readBody ErrorBody.ofJson? body.toJson.render.toUTF8.data.toList =
          .ok (some body) := by
  refine ⟨fun d => ⟨⟨d.toJson.render, rfl, fun c hc => ?_⟩, d.readBody_text⟩,
    fun body => body.readBody_render⟩
  rw [Json.render, String.toList_ofList] at hc
  exact Json.le_of_mem_chars_texts [("method", d.verb), ("path", d.path)] hc

/-- Quotes, backslashes and controls are escaped. -/
example : (RouteDescriptor.mk "GET" "a\"\\\n\x01é").text =
    "\x7b\"method\":\"GET\",\"path\":\"a\\\"\\\\\\n\\u0001é\"\x7d\n" := by
  decide

end Entrypoint
