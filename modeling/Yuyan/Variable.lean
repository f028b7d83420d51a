import Yuyan.Ty

/-!
# Variables

A variable is what a declaration introduces: a name, the type it is declared
with, and a number that tells the declarations of one program apart. Two
declarations may share a name where neither sees the other, so it is the number
that says which declaration a reference means.
-/

namespace Yuyan

/-- A declared variable. -/
structure Variable where
  /-- The name in the program. -/
  name : String
  /-- The declared type. -/
  ty : Ty
  /-- The number of the declaration; `0` if it has none. -/
  id : Nat := 0
  deriving DecidableEq, Repr

/-- The name of a variable followed by its number, as in `y_2`. -/
def Variable.uniqueName (v : Variable) : String := v.name ++ "_" ++ toString v.id

end Yuyan
