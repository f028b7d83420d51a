import Yuyan.Number.Shortest
import Yuyan.Text.Quoted
import Yuyan.Ty

/-!
# Literals

The constants of the language: a literal is a value of one of the primitive
types. Two floating-point literals are equal if they have the same bits, so that
`0.0` and `-0.0` differ here although the language's `==` holds of them.
-/

namespace Yuyan

/-- A constant. -/
inductive Literal where
  | boolean (b : Bool)
  | int (n : Int64)
  | float (x : Float)
  | string (s : String)
  | char (c : Char)
  deriving DecidableEq

namespace Literal

/-- The type of a literal. -/
def ty : Literal → Ty
  | boolean _ => .boolean | int _ => .int | float _ => .float | string _ => .string
  | char _ => .char

/-- The number zero of a numeric type. -/
def zero? : Ty → Option Literal
  | .int => some (int 0)
  | .float => some (float 0)
  | _ => none

/-- The number one of a numeric type. -/
def one? : Ty → Option Literal
  | .int => some (int 1)
  | .float => some (float 1)
  | _ => none

/-- A number equal to zero, of either sign. -/
def isZero : Literal → Bool
  | int n => n == 0
  | float x => x == 0
  | _ => false

/-- A number equal to one. -/
def isOne : Literal → Bool
  | int n => n == 1
  | float x => x == 1
  | _ => false

/-- The truth value of a Boolean literal. -/
def bool? : Literal → Option Bool
  | boolean b => some b
  | _ => none

/-- The number of an integer literal. -/
def int? : Literal → Option Int64
  | int n => some n
  | _ => none

theorem ty_of_zero? {t : Ty} {v : Literal} (h : zero? t = some v) : v.ty = t := by
  cases t <;> simp_all [zero?] <;> subst h <;> rfl

theorem ty_of_one? {t : Ty} {v : Literal} (h : one? t = some v) : v.ty = t := by
  cases t <;> simp_all [one?] <;> subst h <;> rfl

@[simp] theorem bool?_eq_some {v : Literal} {b : Bool} : v.bool? = some b ↔ v = boolean b := by
  cases v <;> simp [bool?]

@[simp] theorem int?_eq_some {v : Literal} {n : Int64} : v.int? = some n ↔ v = int n := by
  cases v <;> simp [int?]

/-! ### Written form -/

/-- Numbers from `0.0001` on and below `10 ^ 16` have their point in place and a
digit after it. -/
def floatLayout : Number.Layout :=
  { least := -4, bound := 16, noFraction := ['.', '0'], mark := ['e'] }

/-- The text of a literal that is not Boolean, quoted if it is text. Booleans are
written with the two words given. -/
def textWith (yes no : String) : Literal → String
  | boolean b => if b then yes else no
  | int n => toString n.toInt
  | float x => Number.floatText floatLayout x
  | string s => Text.quoted '"' s.toList
  | char c => Text.quoted '\'' [c]

/-- The text of a literal, as a program would have it. -/
def text (v : Literal) : String := v.textWith "真" "假"

end Literal

end Yuyan
