import Entrypoint.Program.Statement

/-! How the statements of a program are spelled. Each spelling is written out from end to end, with its
gaps for the names, types and literals of one program. The texts of statements are these spellings, and
they stand one after the other in the function that handles a request. -/

namespace Entrypoint

/-- A text stands somewhere within another. -/
def Text.StandsIn (part whole : String) : Prop := part.toList <:+: whole.toList

open Text (StandsIn)

/-! ### Spellings -/

namespace Spelling

/-- The function that converts a text to a scalar. -/
def conversion : Scalar → String
  | .string => "runtime :: coerce_string"
  | .boolean => "runtime :: coerce_bool"
  | .integer .i8 => "runtime :: coerce_integer :: < i8 >"
  | .integer .i16 => "runtime :: coerce_integer :: < i16 >"
  | .integer .i32 => "runtime :: coerce_integer :: < i32 >"
  | .integer .i64 => "runtime :: coerce_integer :: < i64 >"
  | .integer .i128 => "runtime :: coerce_integer :: < i128 >"
  | .integer .isize => "runtime :: coerce_integer :: < isize >"
  | .integer .u8 => "runtime :: coerce_integer :: < u8 >"
  | .integer .u16 => "runtime :: coerce_integer :: < u16 >"
  | .integer .u32 => "runtime :: coerce_integer :: < u32 >"
  | .integer .u64 => "runtime :: coerce_integer :: < u64 >"
  | .integer .u128 => "runtime :: coerce_integer :: < u128 >"
  | .integer .usize => "runtime :: coerce_integer :: < usize >"

/-- The statement that binds the variables of a place. -/
def lookup : Origin → String
  | .path => "let path_parameters = request . path_parameters () ;"
  | .query => "let query_parameters = request . query_string_parameters () ;"

/-- The expression for a variable of a place, by a literal of its name. -/
def variableOf (literal : String) : Origin → String
  | .path => "path_parameters . first (" ++ literal ++ ") . unwrap_or_default ()"
  | .query => "query_parameters . first (" ++ literal ++ ") . unwrap_or_default ()"

/-- What is said about a variable that does not convert. -/
def complaint (externalName : String) : Origin → String
  | .path => "invalid path parameter `" ++ externalName ++ "`"
  | .query => "invalid query parameter `" ++ externalName ++ "`"

/-- A match that binds a good value and returns an error answer, whose message is a literal, for a bad
one. -/
def matched (value good status message : String) : String :=
  "match " ++ value ++ " \x7b Ok (" ++ good ++ ") => " ++ good ++ " , Err (err) => return " ++
    "respond_error (" ++ status ++ " , ApiError :: new (" ++ message ++ " , err)) , \x7d"

/-- The expression for a converted value. -/
def converted (value message : String) : FailurePolicy → String
  | .respond => matched value "value" "400" message
  | .abort => value ++ " . unwrap_or_else (| err | panic ! (\"\x7b\x7d\" , ApiError :: new (" ++
      message ++ " , err)))"

/-- The statement that binds a converted variable to its local. -/
def parameter (policy : FailurePolicy) (index : Nat) (origin : Origin) (scalar : Scalar)
    (literal message : String) : String :=
  "let arg_" ++ toString index ++ " = " ++
    converted (conversion scalar ++ " (" ++ variableOf literal origin ++ ")") message policy ++ " ;"

/-- The statement that binds the decoded body to its local. -/
def body (index : Nat) (type : String) : String :=
  "let arg_" ++ toString index ++ " : " ++ type ++ " = " ++
    matched "runtime :: from_json (request . body () . as_ref ())" "value" "400"
      "\"invalid request body\"" ++ " ;"

/-- The statement that binds the config, each field from the local of its number. -/
def config (type : String) (fields : List String) (hasRest : Bool) : String :=
  " ".intercalate (["let config =", type, "\x7b"] ++
    fields.mapIdx (fun index field => field ++ " : arg_" ++ toString index ++ " ,") ++
    (if hasRest then [".. Default :: default ()"] else []) ++ ["\x7d ;"])

/-- The statement that makes the service. -/
def service (initializer : String) (awaits : Bool) : String :=
  "# [allow (unused_mut)] let mut service = " ++
    matched (initializer ++ " ()" ++ if awaits then " . await" else "") "service" "500"
      "\"failed to initialize service\"" ++ " ;"

/-- The argument for the context. -/
def argument : ContextPassing → String
  | .byValue => "context"
  | .byReference => "& context"

/-- The call of the method, with the context alone or with the config too. -/
def call (method : String) (passing : ContextPassing) (withConfig awaits : Bool) : String :=
  "service . " ++ method ++ " (" ++ argument passing ++ (if withConfig then " , config" else "") ++
    ")" ++ if awaits then " . await" else ""

/-- The statement that answers with what a call returns. -/
def answer (call : String) : ReturnShape → String
  | .result => "match " ++ call ++ " \x7b Ok (output) => respond_output (& output) , " ++
      "Err (err) => respond_error (500 , ApiError :: new (\"handler failed\" , err)) , \x7d"
  | .plain => "let output = " ++ call ++ " ; respond_output (& output)"

/-- The function that handles a request. -/
def function (statements : List String) : String :=
  "async fn handle (request : Request) -> Result < Response < Body > , Error > \x7b " ++
    " ".intercalate statements ++ " \x7d"

end Spelling

namespace Text.Quoted

/-- A character of ASCII that prints and is neither a quote nor a backslash. -/
def isPlain (c : Char) : Bool := 0x20 ≤ c.toNat && c.toNat < 0x7f && c != '"' && c != '\\'

theorem le_of_mem_graphemeExtendRanges : ∀ r ∈ graphemeExtendRanges, 0x7f ≤ r.1 := by
  decide +kernel

theorem encodeChar_of_isPlain {c : Char} (h : isPlain c = true) (next : Option Char) :
    encodeChar c next = [c] := by
  obtain ⟨⟨⟨hleast, hgreatest⟩, hquote⟩, hslash⟩ :
      ((0x20 ≤ c.toNat ∧ c.toNat < 0x7f) ∧ c ≠ '"') ∧ c ≠ '\\' := by
    simpa only [isPlain, Bool.and_eq_true, decide_eq_true_eq, bne_iff_ne] using h
  have hcontrol : ∀ d : Char, d.toNat < 0x20 → c ≠ d := by
    rintro d hd rfl
    omega
  have hextends : extendsGrapheme c = false := by
    rw [extendsGrapheme, Bool.eq_false_iff, ne_eq, inRanges_iff]
    rintro ⟨r, hr, hle, _⟩
    exact absurd (Nat.le_trans (le_of_mem_graphemeExtendRanges r hr) hle) (by omega)
  have hprints : isPrintable c = true := by
    rw [isPrintable, if_pos (by omega), Bool.and_eq_true, decide_eq_true_iff, decide_eq_true_iff]
    exact ⟨hleast, hgreatest⟩
  unfold encodeChar
  rw [if_neg (hcontrol _ (by decide)), if_neg (hcontrol _ (by decide)),
    if_neg (hcontrol _ (by decide)), if_neg (hcontrol _ (by decide)), if_neg (by simp [hquote, hslash]),
    if_neg (by simp [hextends]), if_pos hprints]

/-- Plain characters stand for themselves in a quoted text. -/
theorem literal_ofList {chars : List Char} (h : chars.all isPlain = true) :
    literal (String.ofList chars) = String.ofList ('"' :: chars ++ ['"']) := by
  have hencode : encode chars = chars := by
    induction chars with
    | nil => rfl
    | cons c rest ih =>
      rw [List.all_cons, Bool.and_eq_true] at h
      obtain ⟨hc, hrest⟩ := h
      rw [encode, encodeChar_of_isPlain hc, ih hrest, List.singleton_append]
  rw [literal, String.toList_ofList, hencode]

end Text.Quoted

namespace Statement

/-! Texts are compared letter by letter. -/

theorem conversion_eq (scalar : Scalar) : conversion scalar = Spelling.conversion scalar := by
  cases scalar with
  | string => rfl
  | boolean => rfl
  | integer kind =>
    refine String.toList_inj.mp ?_
    cases kind <;> dsimp only [conversion, IntegerKind.name, Spelling.conversion] <;>
      simp only [String.toList_append] <;> (repeat rw [String.toList_ofList]) <;> rfl

theorem text_lookup (policy : FailurePolicy) (origin : Origin) :
    (lookup origin).text policy = Spelling.lookup origin := by
  refine String.toList_inj.mp ?_
  cases origin <;> dsimp only [text, mapName, mapCall, Spelling.lookup, spaced] <;>
    simp only [String.intercalate_cons_cons, String.intercalate_singleton, String.toList_append] <;>
    (repeat rw [String.toList_ofList]) <;> rfl

theorem invalidMessage_eq (origin : Origin) (externalName : String) :
    invalidMessage origin externalName = Spelling.complaint externalName origin := by
  refine String.toList_inj.mp ?_
  cases origin <;> dsimp only [invalidMessage, Origin.label, Spelling.complaint] <;>
    simp only [String.toList_append] <;> (repeat rw [String.toList_ofList]) <;> rfl

theorem converted_eq (origin : Origin) (scalar : Scalar) (externalName : String) :
    converted origin scalar externalName = Spelling.conversion scalar ++ " (" ++
      Spelling.variableOf (Text.Quoted.literal externalName) origin ++ ")" := by
  rw [converted, conversion_eq]
  refine String.toList_inj.mp ?_
  cases origin <;> dsimp only [mapName, Spelling.variableOf] <;>
    simp only [String.toList_append, List.append_assoc] <;> (repeat rw [String.toList_ofList]) <;> rfl

theorem matchOrReturn_eq (value good status message : String) :
    matchOrReturn value good status message =
      Spelling.matched value good status (Text.Quoted.literal message) := by
  unfold matchOrReturn errorAnswer report Spelling.matched braced spaced
  refine String.toList_inj.mp ?_
  simp only [String.intercalate_cons_cons, String.intercalate_singleton, String.toList_append,
    List.append_assoc]
  repeat rw [String.toList_ofList]
  simp only [List.cons_append, List.nil_append]

theorem spaced_pair (a b : String) : spaced [a, b] = a ++ " " ++ b := by
  rw [spaced, String.intercalate_cons_cons, String.intercalate_singleton]

/-- What is between two texts has a blank on either side. -/
theorem spaced_three (a b c : String) : spaced [a, b, c] = a ++ " " ++ b ++ " " ++ c := by
  simp only [spaced, String.intercalate_cons_cons, String.intercalate_singleton, String.append_assoc]

theorem spaced_optional {texts : List String} (hne : texts ≠ []) (condition : Bool) (text : String) :
    spaced (texts ++ optional condition text) =
      spaced texts ++ if condition then " " ++ text else "" := by
  cases condition with
  | true =>
    rw [optional, if_pos rfl, spaced, String.intercalate_append_of_ne_nil hne (List.cons_ne_nil _ _),
      String.intercalate_singleton, String.append_assoc]
    rfl
  | false =>
    rw [optional, if_neg Bool.false_ne_true, List.append_nil, if_neg Bool.false_ne_true,
      String.append_empty]

theorem spaced_await {texts : List String} (hne : texts ≠ []) (awaits : Bool) :
    spaced (texts ++ optional awaits ". await") =
      spaced texts ++ if awaits then " . await" else "" := by
  have hblank : " " ++ ". await" = " . await" := by decide
  rw [spaced_optional hne, hblank]

theorem text_service (policy : FailurePolicy) (initializer : PathExpr) (awaits : Bool) :
    (service initializer awaits).text policy =
      Spelling.service (TokenTree.textAll initializer.tokens) awaits := by
  have hmessage : Text.Quoted.literal "failed to initialize service" =
      "\"failed to initialize service\"" := Text.Quoted.literal_ofList (by decide)
  have hcall : spaced [TokenTree.textAll initializer.tokens, "()"] =
      TokenTree.textAll initializer.tokens ++ " ()" := by
    have hblank : " " ++ "()" = " ()" := by decide
    rw [spaced_pair, String.append_assoc, hblank]
  dsimp only [text, Spelling.service]
  rw [matchOrReturn_eq, hmessage, spaced_await (List.cons_ne_nil _ _), PathExpr.text, hcall,
    spaced_three]
  refine String.toList_inj.mp ?_
  simp only [String.toList_append]
  repeat rw [String.toList_ofList]
  simp only [List.append_assoc, List.cons_append, List.nil_append]

theorem text_converted (policy : FailurePolicy) (index : Nat) (origin : Origin) (scalar : Scalar)
    (externalName : String) :
    (extract index (.converted origin scalar externalName)).text policy =
      Spelling.parameter policy index origin scalar (Text.Quoted.literal externalName)
        (Text.Quoted.literal (Spelling.complaint externalName origin)) := by
  have hbraces : Text.Quoted.literal "\x7b\x7d" = "\"\x7b\x7d\"" :=
    Text.Quoted.literal_ofList (by decide)
  rw [Spelling.parameter, ← converted_eq, ← invalidMessage_eq]
  refine String.toList_inj.mp ?_
  cases policy <;> dsimp only [text, extractText, report, localName, Spelling.converted, spaced] <;>
    simp only [hbraces, matchOrReturn_eq, String.intercalate_cons_cons, String.intercalate_singleton,
      String.toList_append, List.append_assoc] <;> (repeat rw [String.toList_ofList]) <;>
    simp only [List.cons_append, List.nil_append]

theorem text_decoded (policy : FailurePolicy) (index : Nat) (type : PathExpr) :
    (extract index (.decoded type)).text policy =
      Spelling.body index (TokenTree.textAll type.tokens) := by
  have hmessage : Text.Quoted.literal "invalid request body" =
      "\"invalid request body\"" := Text.Quoted.literal_ofList (by decide)
  refine String.toList_inj.mp ?_
  dsimp only [text, extractText, localName, Spelling.body, spaced]
  simp only [hmessage, matchOrReturn_eq, PathExpr.text, String.intercalate_cons_cons,
    String.intercalate_singleton, String.toList_append, List.append_assoc]
  repeat rw [String.toList_ofList]
  simp only [List.cons_append, List.nil_append]

theorem callText_eq (method : Ident) (passing : ContextPassing) (withConfig awaits : Bool) :
    callText method passing withConfig awaits =
      Spelling.call method.text passing withConfig awaits := by
  unfold callText Spelling.call
  rw [spaced_await (List.cons_ne_nil _ _), spaced_three]
  refine String.toList_inj.mp ?_
  cases passing <;> dsimp only [Spelling.argument] <;>
    simp only [String.toList_append, List.append_assoc] <;> (repeat rw [String.toList_ofList]) <;>
    simp only [List.cons_append, List.nil_append]

theorem text_answer (policy : FailurePolicy) (method : Ident) (passing : ContextPassing)
    (withConfig awaits : Bool) (returns : ReturnShape) :
    (answer method passing withConfig awaits returns).text policy =
      Spelling.answer (Spelling.call method.text passing withConfig awaits) returns := by
  have hmessage : Text.Quoted.literal "handler failed" =
      "\"handler failed\"" := Text.Quoted.literal_ofList (by decide)
  dsimp only [text]
  rw [← callText_eq]
  refine String.toList_inj.mp ?_
  cases returns <;> dsimp only [answerText, errorAnswer, report, braced, Spelling.answer, spaced] <;>
    simp only [hmessage, String.intercalate_cons_cons, String.intercalate_singleton,
      String.toList_append, List.append_assoc] <;> (repeat rw [String.toList_ofList]) <;>
    simp only [List.cons_append, List.nil_append]

theorem spaced_field (field : Ident) (index : Nat) :
    spaced [field.text, ":", localName index, ","] =
      field.text ++ " : arg_" ++ toString index ++ " ," := by
  refine String.toList_inj.mp ?_
  simp only [spaced, localName, String.intercalate_cons_cons, String.intercalate_singleton,
    String.toList_append, List.append_assoc]
  repeat rw [String.toList_ofList]
  simp only [List.cons_append, List.nil_append]

/-- A literal holds what stands inside, if there is anything, between its braces. -/
theorem spaced_literal (type : String) (inside : List String) :
    spaced ["let config =", if inside.isEmpty then type ++ " \x7b \x7d"
        else type ++ " " ++ braced (spaced inside), ";"] =
      " ".intercalate (["let config =", type, "\x7b"] ++ inside ++ ["\x7d ;"]) := by
  have hopen : " ".intercalate ["let config =", type, "\x7b"] = "let config =" ++ " " ++ type ++
      " " ++ "\x7b" := spaced_three ..
  rw [spaced_three, String.intercalate_append_of_ne_nil (by simp) (List.cons_ne_nil _ _),
    String.intercalate_singleton]
  refine String.toList_inj.mp ?_
  cases inside with
  | nil =>
    simp only [List.isEmpty_nil, if_true, List.append_nil, hopen, String.toList_append,
      List.append_assoc]
    repeat rw [String.toList_ofList]
    rfl
  | cons first rest =>
    rw [String.intercalate_append_of_ne_nil (List.cons_ne_nil _ _) (List.cons_ne_nil _ _), hopen]
    simp only [List.isEmpty_cons, Bool.false_eq_true, if_false, braced, spaced,
      String.toList_append, List.append_assoc]
    repeat rw [String.toList_ofList]
    simp only [List.cons_append, List.nil_append]

theorem text_config (policy : FailurePolicy) (type : PathExpr) (fields : List Ident) (hasRest : Bool) :
    (config type (fields.mapIdx fun index field => (field, index)) hasRest).text policy =
      Spelling.config (TokenTree.textAll type.tokens) (fields.map (·.text)) hasRest := by
  have hfields : (fields.mapIdx fun index field => (field, index)).map
        (fun f => spaced [f.1.text, ":", localName f.2, ","]) =
      (fields.map (·.text)).mapIdx fun index field => field ++ " : arg_" ++ toString index ++ " ," := by
    refine List.ext_getElem? fun index => ?_
    simp only [List.getElem?_map, List.getElem?_mapIdx, Option.map_map]
    exact congrArg (Option.map · _) (funext fun field => spaced_field field index)
  dsimp only [text, literalText]
  rw [hfields, spaced_literal, Spelling.config, ← List.append_assoc, PathExpr.text]
  cases hasRest <;> rfl

/-! ### Where texts stand -/

variable {part text : String} {texts : List String}

theorem standsIn_append_left (before : String) : StandsIn text (before ++ text) := by
  rw [StandsIn, String.toList_append]
  exact (List.suffix_append _ _).isInfix

theorem standsIn_append_right (after : String) : StandsIn text (text ++ after) := by
  rw [StandsIn, String.toList_append]
  exact (List.prefix_append _ _).isInfix

theorem standsIn_spaced (h : text ∈ texts) : StandsIn text (spaced texts) := by
  induction texts with
  | nil => cases h
  | cons first rest ih =>
    cases rest with
    | nil =>
      rw [List.mem_singleton.mp h, spaced, String.intercalate_singleton]
      exact List.infix_rfl
    | cons second rest =>
      rw [spaced, String.intercalate_cons_cons]
      rcases List.mem_cons.mp h with rfl | h
      · exact List.IsInfix.trans (standsIn_append_right " ") (standsIn_append_right _)
      · exact List.IsInfix.trans (ih h) (standsIn_append_left _)

theorem standsIn_spaced_append (more : List String) :
    StandsIn (spaced texts) (spaced (texts ++ more)) := by
  by_cases htexts : texts = []
  · subst htexts
    exact List.nil_infix
  by_cases hmore : more = []
  · subst hmore
    rw [List.append_nil]
    exact List.infix_rfl
  · rw [spaced, spaced, String.intercalate_append_of_ne_nil htexts hmore, String.append_assoc]
    exact standsIn_append_right _

theorem standsIn_spaced_inner (first : String) (texts more : List String) :
    StandsIn (spaced texts) (spaced (first :: (texts ++ more))) := by
  have hrest : StandsIn (spaced texts) (spaced (texts ++ more)) := standsIn_spaced_append more
  cases hall : texts ++ more with
  | nil =>
    rw [List.append_eq_nil_iff.mp hall |>.1]
    exact List.nil_infix
  | cons second rest =>
    have hcons : spaced (first :: second :: rest) = first ++ " " ++ spaced (second :: rest) :=
      String.intercalate_cons_cons
    rw [hall] at hrest
    exact hcons ▸ hrest.trans (standsIn_append_left (first ++ " "))

end Statement

namespace Program

variable {policy : FailurePolicy} {p : Program}

/-- The statements of a program stand in the function that handles a request. -/
theorem standsIn_function (policy : FailurePolicy) (p : Program) :
    StandsIn (Spelling.function (p.statements.map (·.text policy))) (p.text policy) := by
  have hfunction : Spelling.function (p.statements.map (·.text policy)) =
      Statement.spaced [handleSignature, Statement.braced (p.bodyText policy)] := by
    refine .trans (String.toList_inj.mp ?_) (Statement.spaced_pair ..).symm
    unfold Spelling.function handleSignature Statement.braced bodyText Statement.spaced
    simp only [String.toList_append, List.append_assoc]
    repeat rw [String.toList_ofList]
    simp only [List.cons_append, List.nil_append]
  have hrow := Statement.standsIn_spaced_inner imports
    [handleSignature, Statement.braced (p.bodyText policy)] [epilogue]
  have hheader := hrow.trans (Statement.standsIn_append_left (header ++ "\n\n"))
  rw [hfunction, Program.text]
  exact hheader.trans (Statement.standsIn_append_right "\n")

theorem standsIn_of_mem {statements : List String} {text : String} (h : text ∈ statements) :
    StandsIn text (Spelling.function statements) :=
  .trans (Statement.standsIn_spaced h)
    (.trans (Statement.standsIn_append_left _) (Statement.standsIn_append_right _))

/-- The text of each statement stands in that of the program. -/
theorem standsIn_statement {s : Statement} (h : s ∈ p.statements) :
    StandsIn (s.text policy) (p.text policy) :=
  .trans (standsIn_of_mem (List.mem_map_of_mem h)) (standsIn_function policy p)

end Program

end Entrypoint
