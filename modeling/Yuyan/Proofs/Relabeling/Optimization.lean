import Yuyan.Proofs.Optimize.Traversal
import Yuyan.Proofs.Relabeling.Typed

/-!
# Optimizing relabeled programs

A relabeled program is optimized to the relabeled program (`Program.optimize_relabel`). Every
rewrite hangs on operators, types and literals alone, but for one: an assignment is removed
if the variable on its right side is the one that is assigned to, and different variables
stay different.
-/

namespace Yuyan.Typed

variable {ρ : Relabeling}

/-! ### Expressions -/

namespace Expr

/-- Operators see nothing of names, numbers and spans. -/
theorem unseen_relabel : Unseen (relabel ρ) ρ.span where
  literal? := literal?_relabel
  ty := ty_relabel
  ofLiteral _ _ := rfl
  unary _ _ _ _ := rfl

/-- A relabeled expression is optimized to the relabeled expression. -/
theorem optimize_relabel (e : Expr) :
    (e.relabel ρ).optimize.value = e.optimize.value.relabel ρ := by
  induction e with
  | lit v t s => rfl
  | var x t s => rfl
  | unary op e t s ih =>
    rw [relabel, value_optimize_unary, ih]
    exact unseen_relabel.reduceUnary op _ t s
  | binary op l r t s ihl ihr =>
    rw [relabel, value_optimize_binary, ihl, ihr]
    exact unseen_relabel.reduceBinary rfl
  | array es t s ih =>
    rw [relabel, value_optimize_array, value_optimize_array, relabel, relabelElements_eq_map,
      relabelElements_eq_map, List.map_map, List.map_map]
    congr 1
    exact List.map_congr_left ih
  | index a i t s iha ihi =>
    rw [relabel, value_optimize_index, iha, ihi]
    rfl

end Expr

/-! ### Statements -/

theorem Stmt.reduceAssign_relabel (hρ : ρ.Faithful) (x : Variable) (e : Expr) (s : Span) :
    (reduceAssign (x.relabel ρ) (e.relabel ρ) (ρ.span s)).value =
      relabelAll ρ (reduceAssign x e s).value := by
  cases e with
  | var y t s' =>
    simp only [Expr.relabel, reduceAssign, Variable.relabel_inj hρ]
    split <;> rfl
  | _ => rfl

theorem Stmt.reduceCond_relabel (test : Expr) (c : List Stmt) (a : Option (List Stmt)) (s : Span) :
    (reduceCond (test.relabel ρ) (relabelAll ρ c) (a.map (relabelAll ρ)) (ρ.span s)).value =
      relabelAll ρ (reduceCond test c a s).value := by
  rw [reduceCond, reduceCond, Expr.literal?_relabel]
  cases test.literal?.bind Literal.bool? with
  | none => cases a <;> rfl
  | some b => cases b <;> cases a <;> rfl

mutual

/-- A relabeled statement is optimized to the relabeled statements. -/
theorem Stmt.optimize_relabel (hρ : ρ.Faithful) : ∀ s : Stmt,
    (s.relabel ρ).optimize.value = relabelAll ρ s.optimize.value
  | .decl t x e s => by
    rw [Stmt.relabel, Stmt.value_optimize_decl, Expr.optimize_relabel]
    rfl
  | .assign x e s => by
    rw [Stmt.relabel, Stmt.value_optimize_assign, Expr.optimize_relabel,
      Stmt.reduceAssign_relabel hρ]
    rfl
  | .print e s => by
    rw [Stmt.relabel, Stmt.value_optimize_print, Expr.optimize_relabel]
    rfl
  | .loop kind test body s => by
    rw [Stmt.relabel, Stmt.value_optimize_loop, Expr.optimize_relabel,
      optimizeAll_relabel hρ body]
    rfl
  | .cond test c none s => by
    have h := Stmt.reduceCond_relabel (ρ := ρ) test.optimize.value (optimizeAll c).value none s
    rw [← Expr.optimize_relabel, ← optimizeAll_relabel hρ c] at h
    exact h
  | .cond test c (some a) s => by
    have h := Stmt.reduceCond_relabel (ρ := ρ) test.optimize.value (optimizeAll c).value
      (some (optimizeAll a).value) s
    rw [← Expr.optimize_relabel, ← optimizeAll_relabel hρ c, Option.map_some,
      ← optimizeAll_relabel hρ a] at h
    exact h
  | .skip _ => rfl
  | .ret e s => by
    rw [Stmt.relabel, Stmt.value_optimize_ret, Expr.optimize_relabel]
    rfl

theorem optimizeAll_relabel (hρ : ρ.Faithful) : ∀ ss : List Stmt,
    (optimizeAll (relabelAll ρ ss)).value = relabelAll ρ (optimizeAll ss).value
  | [] => rfl
  | s :: ss => by
    rw [relabelAll, value_optimizeAll_cons, value_optimizeAll_cons, relabelAll_append,
      Stmt.optimize_relabel hρ s, optimizeAll_relabel hρ ss]

end

/-- **A relabeled program is optimized to the relabeled program.** -/
theorem Program.optimize_relabel (hρ : ρ.Faithful) (p : Program) :
    (p.relabel ρ).optimize.value = p.optimize.value.relabel ρ := by
  rw [value_optimize, value_optimize, relabel, optimizeAll_relabel hρ]
  rfl

end Yuyan.Typed
