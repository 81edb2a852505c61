/-! Names of declarations. A qualified name carries the scope a declaration lives in: the path of
modules from the crate down, with double colons between them. -/

namespace Entrypoint

/-- The name of a declaration within its scope. -/
structure QualifiedName where
  scope : String
  name : String
  deriving DecidableEq, Repr

/-- The path of a name from outside; without a scope it is the name alone. -/
def QualifiedName.path (q : QualifiedName) : String :=
  if q.scope = "" then q.name else q.scope ++ "::" ++ q.name

/-- A type name as written: bare, or behind a path. -/
inductive WrittenName
  | bare (name : String)
  | qualified (scope name : String)
  deriving DecidableEq, Repr

namespace WrittenName

/-- The last part of a written name. -/
def name : WrittenName → String
  | bare name => name
  | qualified _ name => name

/-- The written text. -/
def text : WrittenName → String
  | bare name => name
  | qualified scope name => scope ++ "::" ++ name

end WrittenName

end Entrypoint
