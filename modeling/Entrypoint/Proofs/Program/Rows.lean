import Entrypoint.Program.Statement
import Entrypoint.Proofs.Source.NameReading

/-! The tokens of a program whose paths have no arguments, as rows of trees. -/

namespace Entrypoint

/-! ### Programs without arguments in their paths -/

/-- The type of a value has no arguments. -/
def Extraction.isPlain : Extraction → Bool
  | converted .. => true
  | decoded type => type.isPlain

/-- The types of a literal have no arguments. -/
def ConfigLiteral.isPlain (l : ConfigLiteral) : Bool :=
  l.type.isPlain && l.assignments.all fun a => a.extraction.isPlain

/-- No path of a program has arguments. -/
def Program.isPlain (p : Program) : Bool :=
  p.initializer.isPlain && p.config.all (·.isPlain)

namespace Statement

/-- No path of a statement has arguments. -/
def isPlain : Statement → Bool
  | service initializer _ => initializer.isPlain
  | extract _ extraction => extraction.isPlain
  | config type _ _ => type.isPlain
  | _ => true

/-! ### Names that are not fixed -/

theorem localName_eq (index : Nat) :
    localName index = String.ofList ('a' :: 'r' :: 'g' :: '_' :: Nat.toDigits 10 index) := by
  rw [localName, Nat.toString_eq_ofList_toDigits,
    show "arg_" = String.ofList ['a', 'r', 'g', '_'] from rfl, ← String.ofList_append]
  rfl

theorem isText_localName (index : Nat) : Word.isText (localName index).toList = true := by
  have hdigits : (Nat.toDigits 10 index).all Text.isIdentContinue = true := by
    refine List.all_eq_true.mpr fun c hc => ?_
    have hdigit := Nat.isDigit_of_mem_toDigits (by decide) (by decide) hc
    have hlow : c.toNat < 128 := by
      simp only [Char.isDigit, Bool.and_eq_true, decide_eq_true_eq] at hdigit
      have hhigh : c.toNat ≤ 57 := UInt32.le_iff_toNat_le.mp hdigit.2
      omega
    simp [Text.isIdentContinue, hlow, Char.isAlphanum, hdigit]
  have hstart : ['r', 'g', '_'].all Text.isIdentContinue = true ∧ Text.isIdentStart 'a' = true := by
    decide
  rw [localName_eq, String.toList_ofList]
  simp_all [Word.isText, Word.isPlain]

theorem localName_ne {index : Nat} {text : String} {chars : List Char} (h : text = String.ofList chars)
    (hchars : chars.take 4 ≠ ['a', 'r', 'g', '_']) : text ≠ localName index := by
  rw [localName_eq, h, Ne, String.ofList_inj]
  rintro rfl
  exact hchars rfl

/-- The identifier of a numbered local. -/
def localIdent (index : Nat) : Ident where
  word := ⟨localName index, isText_localName index⟩
  isKeyword_word := by
    refine Bool.eq_false_iff.mpr fun h => ?_
    have hmem := List.contains_iff_mem.mp h
    simp only [Word.keywords, List.mem_cons, List.not_mem_nil, or_false] at hmem
    repeat' rcases hmem with hmem | hmem
    all_goals exact localName_ne rfl (by decide) hmem.symm

/-- The identifier of an integer type. -/
def kindIdent (kind : IntegerKind) : Ident where
  word := ⟨kind.name, by cases kind <;> decide⟩
  isKeyword_word := by cases kind <;> rfl

/-! ### Rows -/

/-- The tokens of the report of an error. -/
def reportRow (message : String) : List TokenTree :=
  [.named "ApiError", .punct ':' true, .punct ':' false, .named "new",
    .group .paren [.literal (Text.Quoted.literal message), .punct ',' false, .named "err"]]

/-- The tokens of an error answer. -/
def errorAnswerRow (status message : String) : List TokenTree :=
  [.named "respond_error",
    .group .paren (.literal status :: .punct ',' false :: reportRow message)]

/-- The tokens of the arm for a good value. -/
def okRow (pattern : TokenTree) (value : List TokenTree) : List TokenTree :=
  [.named "Ok", .group .paren [pattern], .punct '=' true, .punct '>' false] ++ value ++
    [.punct ',' false]

/-- The tokens of the arm that answers about a bad value, perhaps by a jump. -/
def errRow (jump : List TokenTree) (status message : String) : List TokenTree :=
  [.named "Err", .group .paren [.named "err"], .punct '=' true, .punct '>' false] ++ jump ++
    errorAnswerRow status message ++ [.punct ',' false]

/-- The tokens of the arms that bind a good value and answer about a bad one. -/
def armsRow (good : TokenTree) (status message : String) : List TokenTree :=
  okRow good [good] ++ errRow [.named "return"] status message

/-- The tokens of a match that binds a good value and answers about a bad one. -/
def matchRow (scrutinee : List TokenTree) (good : TokenTree) (status message : String) :
    List TokenTree :=
  .named "match" :: scrutinee ++ [.group .brace (armsRow good status message)]

/-- The token of the name that the variables of a place are bound to. -/
def mapToken : Origin → TokenTree
  | .path => .named "path_parameters"
  | .query => .named "query_parameters"

/-- The tokens of the function that converts to a scalar. -/
def conversionRow : Scalar → List TokenTree
  | .string => [.named "runtime", .punct ':' true, .punct ':' false, .named "coerce_string"]
  | .boolean => [.named "runtime", .punct ':' true, .punct ':' false, .named "coerce_bool"]
  | .integer kind => [.named "runtime", .punct ':' true, .punct ':' false, .named "coerce_integer",
      .punct ':' true, .punct ':' false, .punct '<' false, .word (kindIdent kind).word,
      .punct '>' false]

/-- The tokens of reading a variable. -/
def argumentRow (origin : Origin) (externalName : String) : List TokenTree :=
  [mapToken origin, .punct '.' false, .named "first",
    .group .paren [.literal (Text.Quoted.literal externalName)], .punct '.' false,
    .named "unwrap_or_default", .group .paren []]

/-- The tokens of the expression that reads a variable and converts it. -/
def convertedRow (origin : Origin) (scalar : Scalar) (externalName : String) : List TokenTree :=
  conversionRow scalar ++ [.group .paren (argumentRow origin externalName)]

/-- The tokens of ending with the report of an error. -/
def abortRow (message : String) : List TokenTree :=
  [.punct '.' false, .named "unwrap_or_else", .group .paren ([.punct '|' false, .named "err",
    .punct '|' false, .named "panic", .punct '!' false, .group .paren
      ([.literal (Text.Quoted.literal "\x7b\x7d"), .punct ',' false] ++ reportRow message)])]

/-- The tokens of decoding the body. -/
def decodedRow : List TokenTree :=
  [.named "runtime", .punct ':' true, .punct ':' false, .named "from_json",
    .group .paren [.named "request", .punct '.' false, .named "body", .group .paren [],
      .punct '.' false, .named "as_ref", .group .paren []]]

/-- The tokens of a binding of a pattern to a value. -/
def letRow (pattern value : List TokenTree) : List TokenTree :=
  .named "let" :: pattern ++ .punct '=' false :: value ++ [.punct ';' false]

/-- The tokens of taking a value. -/
def extractRow (policy : FailurePolicy) (index : Nat) : Extraction → List TokenTree
  | .converted origin scalar externalName =>
    letRow [.word (localIdent index).word] <| match policy with
      | .respond => matchRow (convertedRow origin scalar externalName) (.named "value") "400"
          (invalidMessage origin externalName)
      | .abort => convertedRow origin scalar externalName ++
          abortRow (invalidMessage origin externalName)
  | .decoded type =>
    letRow (.word (localIdent index).word :: .punct ':' false :: type.tokens)
      (matchRow decodedRow (.named "value") "400" "invalid request body")

/-- The tokens of a field of a config literal. -/
def fieldRow (field : Ident × Nat) : List TokenTree :=
  [.word field.1.word, .punct ':' false, .word (localIdent field.2).word, .punct ',' false]

/-- The tokens of the defaults of the other fields. -/
def defaultRow : List TokenTree :=
  [.punct '.' true, .punct '.' false, .named "Default", .punct ':' true, .punct ':' false,
    .named "default", .group .paren []]

/-- The tokens of the fields of a config literal. -/
def fieldsRow (fields : List (Ident × Nat)) (hasRest : Bool) : List TokenTree :=
  fields.flatMap fieldRow ++ if hasRest then defaultRow else []

/-- The tokens of a call that may be waited for. -/
def awaitRow (call : List TokenTree) (awaits : Bool) : List TokenTree :=
  call ++ if awaits then [.punct '.' false, .named "await"] else []

/-- The tokens of the call of an initializer. -/
def initializerRow (initializer : PathExpr) (awaits : Bool) : List TokenTree :=
  awaitRow (initializer.tokens ++ [.group .paren []]) awaits

/-- The tokens of the arguments of a method call. -/
def argumentsRow (passing : ContextPassing) (withConfig : Bool) : List TokenTree :=
  (match passing with
    | .byValue => [.named "context"]
    | .byReference => [.punct '&' false, .named "context"]) ++
    if withConfig then [.punct ',' false, .named "config"] else []

/-- The tokens of a method call. -/
def callRow (method : Ident) (passing : ContextPassing) (withConfig awaits : Bool) :
    List TokenTree :=
  awaitRow [.named "service", .punct '.' false, .word method.word,
    .group .paren (argumentsRow passing withConfig)] awaits

/-- The tokens of answering with the value of a call. -/
def outputRow : List TokenTree :=
  [.named "respond_output", .group .paren [.punct '&' false, .named "output"]]

/-- The tokens of the arms that answer with what a call returns. -/
def resultRow : List TokenTree :=
  okRow (.named "output") outputRow ++ errRow [] "500" "handler failed"

/-- The tokens of answering with what a call returns. -/
def answerRow (call : List TokenTree) : ReturnShape → List TokenTree
  | .result => .named "match" :: call ++ [.group .brace resultRow]
  | .plain => letRow [.named "output"] call ++ outputRow

/-- The tokens of the attribute before the binding of the service. -/
def allowRow : List TokenTree :=
  [.punct '#' false, .group .bracket [.named "allow", .group .paren [.named "unused_mut"]]]

/-- The tokens of a statement. -/
def row (policy : FailurePolicy) : Statement → List TokenTree
  | service initializer awaits => allowRow ++ letRow [.named "mut", .named "service"]
      (matchRow (initializerRow initializer awaits) (.named "service")
        "500" "failed to initialize service")
  | context => letRow [.named "context"] [.named "request", .punct '.' false,
      .named "lambda_context", .group .paren []]
  | lookup .path => letRow [.named "path_parameters"] [.named "request", .punct '.' false,
      .named "path_parameters", .group .paren []]
  | lookup .query => letRow [.named "query_parameters"] [.named "request", .punct '.' false,
      .named "query_string_parameters", .group .paren []]
  | extract index extraction => extractRow policy index extraction
  | config type fields hasRest => letRow [.named "config"]
      (type.tokens ++ [.group .brace (fieldsRow fields hasRest)])
  | answer method passing withConfig awaits returns =>
    answerRow (callRow method passing withConfig awaits) returns

end Statement

namespace Program

open Statement (okRow errRow)

/-! ### Rows of programs -/

/-- The tokens of two colons. -/
def colonsRow : List TokenTree := [.punct ':' true, .punct ':' false]

/-- The tokens of the names that are imported for requests. -/
def requestImportsRow : List TokenTree :=
  [.named "lambda_http"] ++ colonsRow ++ [.group .brace [.named "run", .punct ',' false,
    .named "service_fn", .punct ',' false, .named "Body", .punct ',' false, .named "Error",
    .punct ',' false, .named "Request", .punct ',' false, .named "RequestExt", .punct ',' false,
    .named "Response"]]

/-- The tokens of the names that are imported for conversions. -/
def runtimeImportsRow : List TokenTree :=
  [.named "lambdagen"] ++ colonsRow ++ [.named "runtime"] ++ colonsRow ++
    [.group .brace [.named "self", .punct ',' false, .named "ApiError"]]

/-- The tokens of an import. -/
def useRow (tree : List TokenTree) : List TokenTree := .named "use" :: tree ++ [.punct ';' false]

/-- The tokens of the type of a response. -/
def responseRow : List TokenTree :=
  [.punct '-' true, .punct '>' false, .named "Result", .punct '<' false, .named "Response",
    .punct '<' false, .named "Body", .punct '>' false, .punct ',' false, .named "Error",
    .punct '>' false]

/-- The tokens of the signature of the function that handles a request. -/
def handleRow : List TokenTree :=
  [.named "async", .named "fn", .named "handle", .group .paren [.named "request", .punct ':' false,
    .named "Request"]] ++ responseRow

/-- The tokens of a parameter that can be encoded. -/
def boundRow : List TokenTree :=
  [.punct '<' false, .named "T", .punct ':' false, .named "runtime"] ++ colonsRow ++
    [.named "Serialize", .punct '>' false]

/-- The tokens of encoding a value. -/
def encodeRow : List TokenTree :=
  [.named "runtime"] ++ colonsRow ++ [.named "to_json", .group .paren [.named "output"]]

/-- The tokens of answering with an encoded value. -/
def encodedRow : List TokenTree :=
  [.named "respond_json", .group .paren [.literal "200", .punct ',' false, .named "body"]]

/-- The tokens of the arms that answer with an encoded value. -/
def encodingRow : List TokenTree :=
  okRow (.named "body") encodedRow ++ errRow [] "500" "failed to encode response"

/-- The tokens of a function that gives a response. -/
def respondRow (name : Ident) (parameters list body : List TokenTree) : List TokenTree :=
  .named "fn" :: .word name.word :: parameters ++ .group .paren list :: responseRow ++
    [.group .brace body]

/-- The tokens of the function that answers with a value. -/
def respondOutputRow : List TokenTree :=
  respondRow (.named "respond_output") boundRow
    [.named "output", .punct ':' false, .punct '&' false, .named "T"]
    (.named "match" :: encodeRow ++ [.group .brace encodingRow])

/-- The tokens of the function that answers with an error. -/
def respondErrorRow : List TokenTree :=
  respondRow (.named "respond_error") [] [.named "status", .punct ':' false, .named "u16",
      .punct ',' false, .named "error", .punct ':' false, .named "ApiError"]
    [.named "respond_json", .group .paren ([.named "status", .punct ',' false, .named "runtime"] ++
      colonsRow ++ [.named "to_json", .group .paren [.punct '&' false, .named "error"],
        .punct '?' false])]

/-- The tokens of giving a response its status. -/
def statusRow : List TokenTree :=
  [.group .paren [], .punct '.' false, .named "status", .group .paren [.named "status"]]

/-- The tokens of giving a response a header. -/
def headerRow (name value : String) : List TokenTree :=
  [.punct '.' false, .named "header", .group .paren [.literal (Text.Quoted.literal name),
    .punct ',' false, .literal (Text.Quoted.literal value)]]

/-- The tokens of giving a response its body. -/
def contentRow : List TokenTree :=
  [.punct '.' false, .named "body", .group .paren ([.named "Body"] ++ colonsRow ++ [.named "from",
    .group .paren [.named "body"]]), .punct '?' false]

/-- The tokens of making a response. -/
def builtRow : List TokenTree :=
  [.named "Response"] ++ colonsRow ++ .named "builder" ::
    (statusRow ++ (headerRow "content-type" "application/json" ++ contentRow))

/-- The tokens of the function that answers with a text. -/
def respondJsonRow : List TokenTree :=
  respondRow (.named "respond_json") [] [.named "status", .punct ':' false, .named "u16",
      .punct ',' false, .named "body", .punct ':' false, .named "String"]
    [.named "Ok", .group .paren builtRow]

/-- The tokens of the attribute of the function that a program starts in. -/
def mainAttributeRow : List TokenTree :=
  [.punct '#' false, .group .bracket ([.named "tokio"] ++ colonsRow ++ [.named "main"])]

/-- The tokens of the result of the function that a program starts in. -/
def mainResultRow : List TokenTree :=
  [.punct '-' true, .punct '>' false, .named "Result", .punct '<' false, .group .paren [],
    .punct ',' false, .named "Error", .punct '>' false]

/-- The tokens of waiting for requests. -/
def mainBodyRow : List TokenTree :=
  [.named "run", .group .paren [.named "service_fn", .group .paren [.named "handle"]],
    .punct '.' false, .named "await"]

/-- The tokens of the function that a program starts in. -/
def mainRow : List TokenTree :=
  mainAttributeRow ++ [.named "async", .named "fn", .named "main", .group .paren []] ++
    mainResultRow ++ [.group .brace mainBodyRow]

/-- The tokens of the statements of a program. -/
def bodyRow (policy : FailurePolicy) (p : Program) : List TokenTree :=
  p.statements.flatMap (·.row policy)

/-- The rows of the declarations of a program. -/
def rows (policy : FailurePolicy) (p : Program) : List (List TokenTree) :=
  [useRow requestImportsRow, useRow runtimeImportsRow,
    handleRow ++ [.group .brace (p.bodyRow policy)], respondOutputRow, respondErrorRow,
    respondJsonRow, mainRow]

end Program

end Entrypoint
