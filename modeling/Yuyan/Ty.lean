/-!
# Types

The language has five primitive types and homogeneous arrays of any depth. A
type has two written forms: its English name, which messages use (`Int[]`), and
its keyword, which programs use (`整数[]`).

There are no conversions between types, so the only question ever asked about
two of them is whether they match (`Ty.conforms`), and that is equality
(`conforms_iff`).
-/

namespace Yuyan

/-- A type of the language. -/
inductive Ty where
  /-- Truth values, `真假`. -/
  | boolean
  /-- Integers of 64 bits, `整数`. -/
  | int
  /-- Binary floating-point numbers of 64 bits, `小数`. -/
  | float
  /-- Text, `词`. -/
  | string
  /-- A single character, `字`. -/
  | char
  /-- Arrays whose elements all have the type `element`. -/
  | array (element : Ty)
  deriving DecidableEq, Repr, Inhabited

namespace Ty

/-- The name of a type in messages. -/
def text : Ty → String
  | boolean => "Boolean" | int => "Int" | float => "Float" | string => "String" | char => "Char"
  | array t => t.text ++ "[]"

/-- The spelling of a type in programs. -/
def keyword : Ty → String
  | boolean => "真假" | int => "整数" | float => "小数" | string => "词" | char => "字"
  | array t => t.keyword ++ "[]"

/-- The primitive type a keyword names. -/
def ofKeyword? (word : String) : Option Ty :=
  if word = "真假" then some boolean
  else if word = "整数" then some int
  else if word = "小数" then some float
  else if word = "词" then some string
  else if word = "字" then some char
  else none

/-- Two types match if they are the same primitive, or arrays whose element
types match. -/
def conforms : Ty → Ty → Bool
  | boolean, boolean | int, int | float, float | string, string | char, char => true
  | array a, array b => a.conforms b
  | _, _ => false

/-- The types that arithmetic and ordering work on. -/
def isNumeric : Ty → Bool
  | int | float => true
  | _ => false

/-- The type that conditions and the logical operators work on. -/
def isBoolean : Ty → Bool
  | boolean => true
  | _ => false

/-- The element type, if this is the type of an array. -/
def element? : Ty → Option Ty
  | array t => some t
  | _ => none

/-! ### Matching is equality -/

@[simp] theorem conforms_self (a : Ty) : a.conforms a = true := by
  induction a <;> simp_all [conforms]

theorem eq_of_conforms : ∀ {a b : Ty}, a.conforms b = true → a = b
  | array a, array b, h => by rw [eq_of_conforms (a := a) (b := b) h]
  | boolean, b, h | int, b, h | float, b, h | string, b, h | char, b, h => by
    cases b <;> simp_all [conforms]

theorem conforms_iff {a b : Ty} : a.conforms b = true ↔ a = b :=
  ⟨eq_of_conforms, fun h => h ▸ conforms_self a⟩

@[simp] theorem isBoolean_iff {t : Ty} : t.isBoolean = true ↔ t = boolean := by
  cases t <;> simp [isBoolean]

theorem isNumeric_iff {t : Ty} : t.isNumeric = true ↔ t = int ∨ t = float := by
  cases t <;> simp [isNumeric]

@[simp] theorem element?_eq_some {t e : Ty} : t.element? = some e ↔ t = array e := by
  cases t <;> simp [element?]

end Ty

end Yuyan
