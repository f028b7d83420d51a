import Yuyan.Operator
import Yuyan.Span
import Yuyan.Ty

/-!
# Programs as written

The tree of a program before anything is known about its names and types. Every
node has the span it was written in. Parentheses are kept, types are the words
of the program, and variables are names.
-/

namespace Yuyan.Source

/-- A written type. -/
inductive TyExpr where
  | boolean (span : Span)
  | int (span : Span)
  | float (span : Span)
  | string (span : Span)
  | char (span : Span)
  | array (element : TyExpr) (span : Span)
  deriving DecidableEq, Repr

/-- The type that a written type means. -/
def TyExpr.resolve : TyExpr → Ty
  | boolean _ => .boolean | int _ => .int | float _ => .float | string _ => .string
  | char _ => .char
  | array element _ => .array element.resolve

/-- A name where it is declared or assigned to. -/
structure Ident where
  /-- The name. -/
  name : String
  /-- Where it stands. -/
  span : Span
  deriving DecidableEq, Repr

/-- An expression. -/
inductive Expr where
  | int (n : Int64) (span : Span)
  | float (x : Float) (span : Span)
  | string (s : String) (span : Span)
  | char (c : Char) (span : Span)
  | bool (b : Bool) (span : Span)
  | name (name : String) (span : Span)
  | paren (inner : Expr) (span : Span)
  | unary (op : UnOp) (operand : Expr) (span : Span)
  | binary (op : BinOp) (left right : Expr) (span : Span)
  | array (elements : List Expr) (span : Span)
  | index (array index : Expr) (span : Span)
  deriving Inhabited

mutual

/-- A statement. -/
inductive Stmt where
  /-- The declaration of a variable with its first value. -/
  | decl (written : TyExpr) (target : Ident) (value : Expr) (span : Span)
  /-- The assignment of a value to a variable. -/
  | assign (target : Ident) (value : Expr) (span : Span)
  | print (argument : Expr) (span : Span)
  | loop (kind : Loop) (test : Expr) (body : Block) (span : Span)
  /-- A choice; without an alternate, nothing is done where the test fails. -/
  | cond (test : Expr) (consequent : Block) (alternate : Option Block) (span : Span)
  /-- The statement that does nothing. -/
  | skip (span : Span)
  | ret (argument : Expr) (span : Span)

/-- The body of a loop or of a branch. -/
inductive Block where
  | mk (statements : List Stmt) (span : Span)

end

/-- A whole program. -/
structure Program where
  /-- The statements at the top level. -/
  statements : List Stmt
  /-- Where the program stands. -/
  span : Span

/-- An array without elements, possibly in parentheses: the one expression whose
type only its surroundings can tell. -/
def Expr.isEmptyArray : Expr → Bool
  | array elements _ => elements.isEmpty
  | paren inner _ => inner.isEmptyArray
  | _ => false

end Yuyan.Source
