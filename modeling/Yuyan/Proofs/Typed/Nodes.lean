import Yuyan.Typed

/-!
# Nodes and expressions of lists

What holds of all nodes of a list of expressions, or of all expressions of a list of
statements, holds of those of each member.

An array has a list of elements, of which the induction principle of the type makes a
second statement. `Expr.induction` gives the hypothesis for every element instead, so
that what is proved of all expressions is not proved again of lists of them, and
`Stmt.induction` gives it for every statement of a body.
-/

namespace Yuyan.Typed

/-- What holds of an expression whenever it holds of its parts holds of every expression. -/
@[induction_eliminator]
theorem Expr.induction {P : Expr → Prop} (lit : ∀ v t s, P (.lit v t s))
    (var : ∀ x t s, P (.var x t s)) (unary : ∀ op e t s, P e → P (.unary op e t s))
    (binary : ∀ op l r t s, P l → P r → P (.binary op l r t s))
    (array : ∀ es t s, (∀ e ∈ es, P e) → P (.array es t s))
    (index : ∀ a i t s, P a → P i → P (.index a i t s)) (e : Expr) : P e :=
  @Expr.rec P (fun es => ∀ e ∈ es, P e) lit var unary binary array index
    (List.forall_mem_nil P) (fun _ _ h hs => List.forall_mem_cons.2 ⟨h, hs⟩) e

/-- What holds of a statement whenever it holds of the statements in its bodies holds of every
statement. -/
@[induction_eliminator]
theorem Stmt.induction {P : Stmt → Prop} (decl : ∀ t x e s, P (.decl t x e s))
    (assign : ∀ x e s, P (.assign x e s)) (print : ∀ e s, P (.print e s))
    (loop : ∀ kind e ss s, (∀ s' ∈ ss, P s') → P (.loop kind e ss s))
    (cond : ∀ e c a s, (∀ s' ∈ c, P s') → (∀ s' ∈ a.getD [], P s') → P (.cond e c a s))
    (skip : ∀ s, P (.skip s)) (ret : ∀ e s, P (.ret e s)) (s : Stmt) : P s :=
  @Stmt.rec P (fun ss => ∀ s ∈ ss, P s) (fun a => ∀ s ∈ a.getD [], P s) decl assign print loop cond
    skip ret (List.forall_mem_nil P) (fun _ _ h hs => List.forall_mem_cons.2 ⟨h, hs⟩)
    (List.forall_mem_nil P) (fun _ h => h) s

/-- An expression is one of its nodes. -/
theorem Expr.mem_nodes_self (e : Expr) : e ∈ e.nodes := by
  cases e <;> exact List.mem_cons_self

theorem nodesOfAll_eq_flatMap (es : List Expr) : nodesOfAll es = es.flatMap Expr.nodes := by
  induction es with
  | nil => rfl
  | cons e es ih => rw [nodesOfAll, ih, List.flatMap_cons]

theorem expressionsOfAll_eq_flatMap (ss : List Stmt) :
    expressionsOfAll ss = ss.flatMap Stmt.expressions := by
  induction ss with
  | nil => rfl
  | cons s ss ih => rw [expressionsOfAll, ih, List.flatMap_cons]

theorem forall_mem_nodesOfAll {P : Expr → Prop} {es : List Expr} :
    (∀ n ∈ nodesOfAll es, P n) ↔ ∀ e ∈ es, ∀ n ∈ e.nodes, P n := by
  rw [nodesOfAll_eq_flatMap, List.forall_mem_flatMap]

theorem forall_mem_expressionsOfAll {P : Expr → Prop} {ss : List Stmt} :
    (∀ e ∈ expressionsOfAll ss, P e) ↔ ∀ s ∈ ss, ∀ e ∈ s.expressions, P e := by
  rw [expressionsOfAll_eq_flatMap, List.forall_mem_flatMap]

end Yuyan.Typed
