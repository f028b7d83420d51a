import Yuyan.Source

/-!
# The expressions in a program

An expression with all expressions inside it, and the expression that a statement has of its
own, outside of its bodies.

An array has a list of elements, for each of which `Expr.induction` gives the hypothesis.
-/

namespace Yuyan.Source

/-- What holds of an expression whenever it holds of its parts holds of every expression. -/
@[induction_eliminator]
theorem Expr.induction {P : Expr → Prop} (int : ∀ n s, P (.int n s)) (float : ∀ x s, P (.float x s))
    (string : ∀ t s, P (.string t s)) (char : ∀ c s, P (.char c s)) (bool : ∀ b s, P (.bool b s))
    (name : ∀ x s, P (.name x s)) (paren : ∀ e s, P e → P (.paren e s))
    (unary : ∀ op e s, P e → P (.unary op e s))
    (binary : ∀ op l r s, P l → P r → P (.binary op l r s))
    (array : ∀ es s, (∀ e ∈ es, P e) → P (.array es s))
    (index : ∀ a i s, P a → P i → P (.index a i s)) (e : Expr) : P e :=
  @Expr.rec P (fun es => ∀ e ∈ es, P e) int float string char bool name paren unary binary array
    index (List.forall_mem_nil P) (fun _ _ h hs => List.forall_mem_cons.2 ⟨h, hs⟩) e

mutual

/-- An expression and all expressions inside it. -/
def Expr.nodes : Expr → List Expr
  | e@(.int ..) | e@(.float ..) | e@(.string ..) | e@(.char ..) | e@(.bool ..) | e@(.name ..) => [e]
  | e@(.paren inner _) | e@(.unary _ inner _) => e :: inner.nodes
  | e@(.binary _ l r _) => e :: (l.nodes ++ r.nodes)
  | e@(.array es _) => e :: nodesOfElements es
  | e@(.index a i _) => e :: (a.nodes ++ i.nodes)
termination_by structural e => e

/-- The nodes of each element in turn. -/
def nodesOfElements : List Expr → List Expr
  | [] => []
  | e :: es => e.nodes ++ nodesOfElements es
termination_by structural es => es

end

/-- An expression is one of its nodes. -/
theorem Expr.mem_nodes_self (e : Expr) : e ∈ e.nodes := by
  cases e <;> exact List.mem_cons_self

/-- The expression that stands in the statement itself, outside of its bodies. -/
def Stmt.own? : Stmt → Option Expr
  | .decl _ _ e _ | .assign _ e _ | .print e _ | .loop _ e _ _ | .cond e _ _ _ | .ret e _ => some e
  | .skip _ => none

end Yuyan.Source
