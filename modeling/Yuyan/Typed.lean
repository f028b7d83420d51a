import Yuyan.Literal
import Yuyan.Operator
import Yuyan.Span
import Yuyan.Variable

/-!
# Typed programs

The tree of a program whose names are resolved and whose expressions have types.
Every expression carries its type, every reference is the variable that its
declaration introduced, and parentheses are gone. The spans are those of the
program as written.

The tree itself does not force the types it carries to be the right ones: that
is what elaboration establishes and optimization keeps.
-/

namespace Yuyan.Typed

/-- An expression with its type. -/
inductive Expr where
  | lit (value : Literal) (ty : Ty) (span : Span)
  | var (target : Variable) (ty : Ty) (span : Span)
  | unary (op : UnOp) (operand : Expr) (ty : Ty) (span : Span)
  | binary (op : BinOp) (left right : Expr) (ty : Ty) (span : Span)
  | array (elements : List Expr) (ty : Ty) (span : Span)
  | index (array index : Expr) (ty : Ty) (span : Span)
  deriving Inhabited

/-- A statement. -/
inductive Stmt where
  /-- The declaration of a variable with its first value. -/
  | decl (ty : Ty) (target : Variable) (value : Expr) (span : Span)
  /-- The assignment of a value to a variable. -/
  | assign (target : Variable) (value : Expr) (span : Span)
  | print (argument : Expr) (span : Span)
  | loop (kind : Loop) (test : Expr) (body : List Stmt) (span : Span)
  /-- A choice; without an alternate, nothing is done where the test fails. -/
  | cond (test : Expr) (consequent : List Stmt) (alternate : Option (List Stmt)) (span : Span)
  /-- The statement that does nothing. -/
  | skip (span : Span)
  | ret (argument : Expr) (span : Span)

/-- A whole program. -/
structure Program where
  /-- The statements at the top level. -/
  statements : List Stmt
  /-- Where the program stands. -/
  span : Span

namespace Expr

/-- The type of an expression. -/
def ty : Expr → Ty
  | lit _ t _ | var _ t _ | unary _ _ t _ | binary _ _ _ t _ | array _ t _ | index _ _ t _ => t

/-- Where an expression stands. -/
def span : Expr → Span
  | lit _ _ s | var _ _ s | unary _ _ _ s | binary _ _ _ _ s | array _ _ s | index _ _ _ s => s

/-- A literal with its own type. -/
def ofLiteral (v : Literal) (span : Span) : Expr := lit v v.ty span

/-- A reference to a variable, with the type of the variable. -/
def ofVariable (v : Variable) (span : Span) : Expr := var v v.ty span

/-- The literal, if the expression is one. -/
def literal? : Expr → Option Literal
  | lit v _ _ => some v
  | _ => none

/-- The number of elements, if the expression is an array literal. -/
def length? : Expr → Option Nat
  | array elements _ _ => some elements.length
  | _ => none

@[simp] theorem literal?_eq_some {e : Expr} {v : Literal} :
    e.literal? = some v ↔ ∃ t s, e = lit v t s := by
  cases e <;> simp [literal?]

@[simp] theorem length?_eq_some {e : Expr} {n : Nat} :
    e.length? = some n ↔ ∃ es t s, e = array es t s ∧ es.length = n := by
  cases e <;> simp [length?]

end Expr

/-! ### The nodes of a tree, in program order -/

mutual

/-- An expression and all expressions inside it. -/
def Expr.nodes : Expr → List Expr
  | e@(.lit ..) | e@(.var ..) => [e]
  | e@(.unary _ operand _ _) => e :: operand.nodes
  | e@(.binary _ l r _ _) => e :: (l.nodes ++ r.nodes)
  | e@(.array elements _ _) => e :: nodesOfAll elements
  | e@(.index a i _ _) => e :: (a.nodes ++ i.nodes)
termination_by structural e => e

/-- The nodes of each expression in turn. -/
def nodesOfAll : List Expr → List Expr
  | [] => []
  | e :: es => e.nodes ++ nodesOfAll es
termination_by structural es => es

end

mutual

/-- All expressions of a statement, those in its bodies included. -/
def Stmt.expressions : Stmt → List Expr
  | .decl _ _ e _ | .assign _ e _ | .print e _ | .ret e _ => e.nodes
  | .loop _ test body _ => test.nodes ++ expressionsOfAll body
  | .cond test consequent none _ => test.nodes ++ expressionsOfAll consequent
  | .cond test consequent (some alternate) _ =>
    test.nodes ++ (expressionsOfAll consequent ++ expressionsOfAll alternate)
  | .skip _ => []
termination_by structural s => s

/-- The expressions of each statement in turn. -/
def expressionsOfAll : List Stmt → List Expr
  | [] => []
  | s :: ss => s.expressions ++ expressionsOfAll ss
termination_by structural ss => ss

end

/-- All expressions of a program. -/
def Program.expressions (p : Program) : List Expr := expressionsOfAll p.statements

end Yuyan.Typed
