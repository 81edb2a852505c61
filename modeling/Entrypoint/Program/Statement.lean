import Entrypoint.Program.Basic
import Entrypoint.Text.Quoted

/-! The statements of a program and the text of each. The text of a program is a header line, an
empty line, and all tokens on one line. -/

namespace Entrypoint

/-- What a program does with a request value that cannot be converted: it answers with an error, or
it ends. -/
inductive FailurePolicy
  | respond
  | abort
  deriving DecidableEq, Repr

/-- A statement of the function that handles a request. -/
inductive Statement
  /-- Makes the service. -/
  | service (initializer : PathExpr) (awaits : Bool)
  | context
  /-- Binds the variables of a place. -/
  | lookup (origin : Origin)
  /-- Takes a request value into a numbered local. -/
  | extract (index : Nat) (extraction : Extraction)
  /-- Binds the config, each field from a numbered local. -/
  | config (type : PathExpr) (fields : List (Ident × Nat)) (hasRest : Bool)
  /-- Calls the method and answers with what it returns. -/
  | answer (method : Ident) (context : ContextPassing) (withConfig awaits : Bool)
      (returns : ReturnShape)

namespace Extraction

/-- The value is a variable of the given place. -/
def isFrom (origin : Origin) : Extraction → Bool
  | converted o _ _ => o == origin
  | decoded _ => false

end Extraction

namespace ConfigLiteral

/-- Some field takes a variable of the given place. -/
def uses (l : ConfigLiteral) (origin : Origin) : Bool :=
  l.assignments.any (·.extraction.isFrom origin)

/-- The statements that bind the places of variables that are used. -/
def lookups (l : ConfigLiteral) : List Statement :=
  ([Origin.path, .query].filter l.uses).map .lookup

/-- The statements that take the values, numbered from zero. -/
def extracts (l : ConfigLiteral) : List Statement :=
  l.assignments.mapIdx fun i a => .extract i a.extraction

/-- The statement that binds the config. -/
def binding (l : ConfigLiteral) : Statement :=
  .config l.type (l.assignments.mapIdx fun i a => (a.field, i)) l.hasRest

/-- The statements of a config. -/
def statements (l : ConfigLiteral) : List Statement := l.lookups ++ l.extracts ++ [l.binding]

end ConfigLiteral

namespace Program

/-- The statements of a program. -/
def statements (p : Program) : List Statement :=
  [.service p.initializer p.awaitsInitializer, .context] ++
    (p.config.map ConfigLiteral.statements).getD [] ++
    [.answer p.method p.context p.config.isSome p.awaitsMethod p.returns]

end Program

/-! ### Texts -/

/-- The text of a path. -/
def PathExpr.text (path : PathExpr) : String := TokenTree.textAll path.tokens

namespace Statement

/-- The text between braces. -/
def braced (inside : String) : String := "\x7b " ++ inside ++ " \x7d"

/-- The texts with one blank between two. -/
def spaced (texts : List String) : String := " ".intercalate texts

/-- A text, or none. -/
def optional (condition : Bool) (text : String) : List String := if condition then [text] else []

/-- The name of a numbered local. -/
def localName (index : Nat) : String := "arg_" ++ toString index

/-- The name that the variables of a place are bound to. -/
def mapName : Origin → String
  | .path => "path_parameters"
  | .query => "query_parameters"

/-- The call that gives the variables of a place. -/
def mapCall : Origin → String
  | .path => "path_parameters"
  | .query => "query_string_parameters"

/-- The message about a value that does not convert. -/
def invalidMessage (origin : Origin) (externalName : String) : String :=
  "invalid " ++ origin.label ++ " parameter `" ++ externalName ++ "`"

/-- The function that converts to a scalar. -/
def conversion : Scalar → String
  | .string => "runtime :: coerce_string"
  | .boolean => "runtime :: coerce_bool"
  | .integer kind => "runtime :: coerce_integer :: < " ++ kind.name ++ " >"

/-- The expression that reads a variable and converts it. -/
def converted (origin : Origin) (scalar : Scalar) (externalName : String) : String :=
  conversion scalar ++ " (" ++ mapName origin ++ " . first (" ++
    Text.Quoted.literal externalName ++ ") . unwrap_or_default ())"

/-- The report of an error with a message, as an expression. -/
def report (message : String) : String :=
  "ApiError :: new (" ++ Text.Quoted.literal message ++ " , err)"

/-- The answer with a status and the report of an error. -/
def errorAnswer (status message : String) : String :=
  "respond_error (" ++ status ++ " , " ++ report message ++ ")"

/-- A match that binds a good value and returns an error answer for a bad one. -/
def matchOrReturn (scrutinee good status message : String) : String :=
  spaced ["match", scrutinee, braced (spaced
    ["Ok (" ++ good ++ ") =>", good, ", Err (err) => return", errorAnswer status message, ","])]

/-- The text of taking a value. The policy decides about variables; a body that does not decode is
always answered. -/
def extractText (policy : FailurePolicy) (index : Nat) : Extraction → String
  | .converted origin scalar externalName =>
    let value := converted origin scalar externalName
    let message := invalidMessage origin externalName
    match policy with
    | .respond => spaced ["let", localName index, "=", matchOrReturn value "value" "400" message, ";"]
    | .abort => spaced ["let", localName index, "=", value, ". unwrap_or_else (| err | panic ! (" ++
        Text.Quoted.literal "\x7b\x7d" ++ " , " ++ report message ++ "))", ";"]
  | .decoded type =>
    spaced ["let", localName index, ":", type.text, "=",
      matchOrReturn "runtime :: from_json (request . body () . as_ref ())" "value" "400"
        "invalid request body", ";"]

/-- The text of a config literal. -/
def literalText (type : PathExpr) (fields : List (Ident × Nat)) (hasRest : Bool) : String :=
  let inside := (fields.map fun f => spaced [f.1.text, ":", localName f.2, ","]) ++
    optional hasRest ".. Default :: default ()"
  if inside.isEmpty then type.text ++ " \x7b \x7d" else type.text ++ " " ++ braced (spaced inside)

/-- The text of a method call. -/
def callText (method : Ident) (passing : ContextPassing) (withConfig awaits : Bool) : String :=
  let passed := match passing with
    | .byValue => "context"
    | .byReference => "& context"
  let args := passed ++ if withConfig then " , config" else ""
  spaced (["service .", method.text, "(" ++ args ++ ")"] ++ optional awaits ". await")

/-- The text of answering with what a call returns. -/
def answerText (call : String) : ReturnShape → String
  | .result => spaced ["match", call, braced (spaced
      ["Ok (output) => respond_output (& output) , Err (err) =>",
        errorAnswer "500" "handler failed", ","])]
  | .plain => spaced ["let output =", call, "; respond_output (& output)"]

/-- The text of a statement. -/
def text (policy : FailurePolicy) : Statement → String
  | service initializer awaits =>
    spaced ["# [allow (unused_mut)] let mut service =",
      matchOrReturn (spaced ([initializer.text, "()"] ++ optional awaits ". await")) "service" "500"
        "failed to initialize service", ";"]
  | context => "let context = request . lambda_context () ;"
  | lookup origin => spaced ["let", mapName origin, "= request .", mapCall origin, "() ;"]
  | extract index extraction => extractText policy index extraction
  | config type fields hasRest => spaced ["let config =", literalText type fields hasRest, ";"]
  | answer method passing withConfig awaits returns =>
    answerText (callText method passing withConfig awaits) returns

end Statement

namespace Program

/-- The first line of every program. -/
def header : String := "// Code generated by lambdagen. DO NOT EDIT."

/-- The imports of every program. -/
def imports : String :=
  "use lambda_http :: \x7b run , service_fn , Body , Error , Request , RequestExt , Response \x7d ; " ++
    "use lambdagen :: runtime :: \x7b self , ApiError \x7d ;"

/-- The signature of the function that handles a request. -/
def handleSignature : String :=
  "async fn handle (request : Request) -> Result < Response < Body > , Error >"

/-- The functions that answer, and the start of every program. -/
def epilogue : String :=
  "fn respond_output < T : runtime :: Serialize > (output : & T) -> " ++
    "Result < Response < Body > , Error > \x7b match runtime :: to_json (output) \x7b " ++
    "Ok (body) => respond_json (200 , body) , Err (err) => " ++
    Statement.errorAnswer "500" "failed to encode response" ++ " , \x7d \x7d " ++
  "fn respond_error (status : u16 , error : ApiError) -> Result < Response < Body > , Error > " ++
    "\x7b respond_json (status , runtime :: to_json (& error) ?) \x7d " ++
  "fn respond_json (status : u16 , body : String) -> Result < Response < Body > , Error > " ++
    "\x7b Ok (Response :: builder () . status (status) . " ++
    "header (\"content-type\" , \"application/json\") . body (Body :: from (body)) ?) \x7d " ++
  "# [tokio :: main] async fn main () -> Result < () , Error > " ++
    "\x7b run (service_fn (handle)) . await \x7d"

/-- The text of the statements of a program. -/
def bodyText (policy : FailurePolicy) (p : Program) : String :=
  Statement.spaced (p.statements.map (·.text policy))

/-- The text of a program. -/
def text (policy : FailurePolicy) (p : Program) : String :=
  header ++ "\n\n" ++
    Statement.spaced [imports, handleSignature, Statement.braced (bodyText policy p), epilogue] ++
    "\n"

end Program

/-- The text of the program of a handler, or the fault of its unit. -/
def Service.render (policy : FailurePolicy) (service : Service) (handler : Handler) :
    Except Fault String :=
  ((Program.ofHandler service handler).mapError (.render (service.location handler))).map
    (Program.text policy)

end Entrypoint
