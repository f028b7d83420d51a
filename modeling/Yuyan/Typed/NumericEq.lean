import Yuyan.Typed

/-!
# Numeric equality of programs

Two typed programs are numerically equal if they are the same tree up to the
bits of their floating-point literals, which are compared as numbers: the two
zeros are equal, and a NaN is equal to nothing, not even to itself.
-/

namespace Yuyan

/-- Literals of one type with equal values. -/
def Literal.numericEq : Literal → Literal → Bool
  | float x, float y => x == y
  | v, w => v = w

namespace Typed

mutual

/-- Expressions that are numerically equal. -/
def Expr.numericEq : Expr → Expr → Bool
  | .lit v t s, .lit v' t' s' => v.numericEq v' && t = t' && s = s'
  | .var x t s, .var x' t' s' => x = x' && t = t' && s = s'
  | .unary op e t s, .unary op' e' t' s' => op = op' && e.numericEq e' && t = t' && s = s'
  | .binary op l r t s, .binary op' l' r' t' s' =>
    op = op' && l.numericEq l' && r.numericEq r' && t = t' && s = s'
  | .array es t s, .array es' t' s' => numericEqs es es' && t = t' && s = s'
  | .index a i t s, .index a' i' t' s' => a.numericEq a' && i.numericEq i' && t = t' && s = s'
  | _, _ => false
termination_by structural e => e

/-- Expressions that are numerically equal in pairs. -/
def numericEqs : List Expr → List Expr → Bool
  | [], [] => true
  | e :: es, e' :: es' => e.numericEq e' && numericEqs es es'
  | _, _ => false
termination_by structural es => es

end

mutual

/-- Statements that are numerically equal. -/
def Stmt.numericEq : Stmt → Stmt → Bool
  | .decl t x e s, .decl t' x' e' s' => t = t' && x = x' && e.numericEq e' && s = s'
  | .assign x e s, .assign x' e' s' => x = x' && e.numericEq e' && s = s'
  | .print e s, .print e' s' => e.numericEq e' && s = s'
  | .loop kind test body s, .loop kind' test' body' s' =>
    kind = kind' && test.numericEq test' && stmtsNumericEq body body' && s = s'
  | .cond test c none s, .cond test' c' none s' =>
    test.numericEq test' && stmtsNumericEq c c' && s = s'
  | .cond test c (some a) s, .cond test' c' (some a') s' =>
    test.numericEq test' && stmtsNumericEq c c' && stmtsNumericEq a a' && s = s'
  | .skip s, .skip s' => s = s'
  | .ret e s, .ret e' s' => e.numericEq e' && s = s'
  | _, _ => false
termination_by structural s => s

/-- Statements that are numerically equal in pairs. -/
def stmtsNumericEq : List Stmt → List Stmt → Bool
  | [], [] => true
  | s :: ss, s' :: ss' => s.numericEq s' && stmtsNumericEq ss ss'
  | _, _ => false
termination_by structural ss => ss

end

/-- Programs that are numerically equal. -/
def Program.numericEq (p q : Program) : Bool :=
  stmtsNumericEq p.statements q.statements && p.span = q.span

end Typed

end Yuyan
