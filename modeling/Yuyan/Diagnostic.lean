import Yuyan.Error

/-!
# Diagnostics

What an error comes to for a reader: a code and a title, the place in a file with
the message that belongs there, and notes.
-/

namespace Yuyan

/-- An error as it is shown. -/
structure Diagnostic where
  /-- The name of the kind of error. -/
  code : String
  /-- What sort of rule was broken. -/
  title : String
  /-- The number of the file. -/
  file : Nat
  /-- The place in the file. -/
  span : Span
  /-- What is said of the place. -/
  message : String
  /-- What else is to be said. -/
  notes : List String
  deriving DecidableEq, Repr

/-- The diagnostic of an error in a file. -/
def AnalysisError.diagnostic (e : AnalysisError) (file : Nat) : Diagnostic :=
  { code := e.cause.code
    title := e.cause.title
    file := file
    span := e.span
    message := e.cause.message
    notes := e.cause.note?.toList }

end Yuyan
