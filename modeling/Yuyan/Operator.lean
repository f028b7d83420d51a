/-!
# Operators and words for loops

The operators of the language and their spellings. Each operator has one
canonical spelling, the one messages show, and may have others that are read as
the same operator. `BinOp.ofSymbol?_symbol` and `UnOp.ofSymbol?_symbol` say that
a canonical spelling is read back as its operator.

The language has two words for a loop, and both mean the same: repeat the body
while the test holds.
-/

namespace Yuyan

/-- Operators between two operands. -/
inductive BinOp where
  | eq | ne | lt | le | gt | ge | add | sub | mul | div | rem | pow | and | or
  deriving DecidableEq, Repr

/-- Operators in front of one operand: arithmetic and logical negation. -/
inductive UnOp where
  | neg | not
  deriving DecidableEq, Repr

/-- The word a loop is written with. -/
inductive Loop where
  | whileLoop | forLoop
  deriving DecidableEq, Repr

namespace BinOp

/-- The canonical spelling. -/
def symbol : BinOp → String
  | eq => "==" | ne => "≠" | lt => "<" | le => "≤" | gt => ">" | ge => "≥"
  | add => "+" | sub => "-" | mul => "*" | div => "÷" | rem => "%" | pow => "**"
  | and => "且" | or => "或"

/-- Every operator with its spellings, the canonical one first. -/
def spellings : List (BinOp × List String) :=
  [(eq, ["=="]), (ne, ["≠", "!="]), (lt, ["<"]), (le, ["≤", "<="]), (gt, [">"]), (ge, ["≥", ">="]),
   (add, ["+"]), (sub, ["-"]), (mul, ["*"]), (div, ["÷", "/"]), (rem, ["%"]), (pow, ["**"]),
   (and, ["且", "and", "&&"]), (or, ["或", "or", "||"])]

/-- The operator a spelling stands for. -/
def ofSymbol? (symbol : String) : Option BinOp :=
  (spellings.find? fun entry => entry.2.contains symbol).map (·.1)

/-- `==` and `≠`, which compare values of any one type. -/
def isEquality : BinOp → Bool
  | eq | ne => true
  | _ => false

/-- `<`, `≤`, `>` and `≥`, which compare numbers. -/
def isOrdering : BinOp → Bool
  | lt | le | gt | ge => true
  | _ => false

/-- The operators whose result says how two values compare. -/
def isComparison (op : BinOp) : Bool := op.isEquality || op.isOrdering

/-- `且` and `或`. -/
def isLogical : BinOp → Bool
  | and | or => true
  | _ => false

theorem ofSymbol?_symbol (op : BinOp) : ofSymbol? op.symbol = some op := by
  cases op <;> decide

end BinOp

namespace UnOp

/-- The canonical spelling. -/
def symbol : UnOp → String
  | neg => "-" | not => "非"

/-- Every operator with its spellings, the canonical one first. -/
def spellings : List (UnOp × List String) :=
  [(neg, ["-"]), (not, ["非", "not", "!"])]

/-- The operator a spelling stands for. -/
def ofSymbol? (symbol : String) : Option UnOp :=
  (spellings.find? fun entry => entry.2.contains symbol).map (·.1)

theorem ofSymbol?_symbol (op : UnOp) : ofSymbol? op.symbol = some op := by
  cases op <;> decide

end UnOp

end Yuyan
