import Entrypoint.Json.Shape

/-! The body of an answer to a request that failed. -/

namespace Entrypoint

/-- What went wrong with a request, and the error behind it. -/
structure ErrorBody where
  message : String
  error : String
  deriving DecidableEq, Repr

namespace ErrorBody

/-- The text of an error body for people. -/
def display (body : ErrorBody) : String := body.message ++ ": " ++ body.error

/-- The JSON of an error body. -/
def toJson (body : ErrorBody) : Json :=
  .object [("message", .text body.message), ("error", .text body.error)]

/-- The shape of an error body. -/
def shape : Shape := .record [("message", .text), ("error", .text)]

/-- The error body that data of its shape holds. -/
def ofJson? : Json → Option ErrorBody
  | .object [("message", .text message), ("error", .text error)] => some ⟨message, error⟩
  | _ => none

/-- What is written for an error body reads back as it. -/
theorem ofJson?_toJson (body : ErrorBody) : ofJson? body.toJson = some body := rfl

end ErrorBody

end Entrypoint
