import Yuyan.Source

/-!
# Programs without parentheses

A parenthesis makes way for the expression in it, which keeps its own span. Everything
else is as it was.
-/

namespace Yuyan.Source

mutual

/-- An expression without the parentheses in it. -/
def Expr.withoutParens : Expr → Expr
  | .int n s => .int n s
  | .float x s => .float x s
  | .string t s => .string t s
  | .char c s => .char c s
  | .bool b s => .bool b s
  | .name x s => .name x s
  | .paren e _ => e.withoutParens
  | .unary op e s => .unary op e.withoutParens s
  | .binary op l r s => .binary op l.withoutParens r.withoutParens s
  | .array es s => .array (elementsWithoutParens es) s
  | .index a i s => .index a.withoutParens i.withoutParens s
termination_by structural e => e

/-- Each element of an array without the parentheses in it. -/
def elementsWithoutParens : List Expr → List Expr
  | [] => []
  | e :: es => e.withoutParens :: elementsWithoutParens es
termination_by structural es => es

end

mutual

/-- A statement without the parentheses in it. -/
def Stmt.withoutParens : Stmt → Stmt
  | .decl written x e s => .decl written x e.withoutParens s
  | .assign x e s => .assign x e.withoutParens s
  | .print e s => .print e.withoutParens s
  | .loop kind test body s => .loop kind test.withoutParens body.withoutParens s
  | .cond test consequent none s => .cond test.withoutParens consequent.withoutParens none s
  | .cond test consequent (some alternate) s =>
    .cond test.withoutParens consequent.withoutParens (some alternate.withoutParens) s
  | .skip s => .skip s
  | .ret e s => .ret e.withoutParens s
termination_by structural s => s

/-- A body without the parentheses in it. -/
def Block.withoutParens : Block → Block
  | .mk ss s => .mk (allWithoutParens ss) s
termination_by structural b => b

/-- Each statement without the parentheses in it. -/
def allWithoutParens : List Stmt → List Stmt
  | [] => []
  | s :: ss => s.withoutParens :: allWithoutParens ss
termination_by structural ss => ss

end

/-- A program without the parentheses in it. -/
def Program.withoutParens (p : Program) : Program := ⟨allWithoutParens p.statements, p.span⟩

end Yuyan.Source
