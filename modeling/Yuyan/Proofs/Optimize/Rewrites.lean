import Yuyan.Optimize.Program
import Yuyan.Proofs.Optimize.Identities

/-!
# What one rewrite can come to

An operator on two operands is kept, or it becomes one of a few other expressions,
each under a condition on the operands that are literals. `Rewritten` lists them,
and `rewritten_reduceBinary` says that the list is complete, so that what is to hold
of every rewrite need only be checked of the cases. An operator on one operand, an
assignment and a choice have two or three cases each (`value_reduceUnary`,
`value_reduceAssign`, `value_reduceCond`).

Of its operands an operator sees which literals they are, if any, and their types. A change
of expressions that leaves these alone is `Unseen`, and it may be made before an operator is
simplified or after it (`Unseen.reduceUnary`, `Unseen.reduceBinary`).
-/

namespace Yuyan.Typed

namespace Expr

/-- What an operator on two operands can come to. -/
inductive Rewritten (op : BinOp) (l r : Expr) (t : Ty) (s : Span) : Expr → Prop where
  | kept : Rewritten op l r t s (.binary op l r t s)
  | folded {a b v : Literal} (left : l.literal? = some a) (right : r.literal? = some b)
      (value : op.eval? a b = some v) : Rewritten op l r t s (.ofLiteral v s)
  | left (applies : op.identity l.literal? r.literal? = .takeLeft) (ty : l.ty = t) :
      Rewritten op l r t s l
  | right (applies : op.identity l.literal? r.literal? = .takeRight) (ty : r.ty = t) :
      Rewritten op l r t s r
  | negated (applies : op.identity l.literal? r.literal? = .negateRight)
      (operand : r.literal? = none) (ty : r.ty = t) : Rewritten op l r t s (.unary .neg r t s)
  | zero {v : Literal} (applies : op.identity l.literal? r.literal? = .becomeZero)
      (value : Literal.zero? t = some v) : Rewritten op l r t s (.ofLiteral v s)
  | one {v : Literal} (applies : op.identity l.literal? r.literal? = .becomeOne)
      (value : Literal.one? t = some v) : Rewritten op l r t s (.ofLiteral v s)

/-- An operator on one operand is computed, or kept. -/
theorem value_reduceUnary (op : UnOp) (e : Expr) (t : Ty) (s : Span) :
    (∃ a v, e.literal? = some a ∧ op.eval? a = some v ∧
      (reduceUnary op e t s).value = .ofLiteral v s) ∨
    (reduceUnary op e t s).value = .unary op e t s := by
  unfold reduceUnary
  split
  · rename_i a ha
    split
    · rename_i v hv
      exact .inl ⟨a, v, ha, hv, rfl⟩
    · exact .inr rfl
  · exact .inr rfl

theorem value_reduceUnary_of_literal?_eq_none {e : Expr} (h : e.literal? = none) (op : UnOp)
    (t : Ty) (s : Span) : (reduceUnary op e t s).value = .unary op e t s := by
  simp [reduceUnary, h]

/-- A constant takes the place of the whole if there is one, else the whole is kept. -/
theorem value_collapse (op : BinOp) (value : Option Literal) (l r : Expr) (t : Ty) (s : Span) :
    (∃ v, value = some v ∧ (collapse op value l r t s).value = .ofLiteral v s) ∨
    (collapse op value l r t s).value = .binary op l r t s := by
  rcases value with _ | v
  · exact .inr rfl
  · exact .inl ⟨v, rfl, rfl⟩

/-- The identities, where the operands are not both literals. -/
theorem rewritten_applyIdentity {op : BinOp} {l r : Expr} {t : Ty} {s : Span}
    (h : ∀ a b, l.literal? = some a → r.literal? ≠ some b) :
    Rewritten op l r t s (applyIdentity op l r t s).value := by
  unfold applyIdentity
  split
  · exact .kept
  · rename_i hi
    split
    · rename_i ht; exact .left hi ht
    · exact .kept
  · rename_i hi
    split
    · rename_i ht; exact .right hi ht
    · exact .kept
  · rename_i hi
    obtain ⟨-, a, ha, -⟩ := Identity.asks_of_identity hi
    have hr : r.literal? = none := Option.eq_none_iff_forall_ne_some.2 fun b => h a b ha
    split
    · rename_i ht
      simp only [Logged.value_bind, value_reduceUnary_of_literal?_eq_none hr]
      exact .negated hi hr ht
    · exact .kept
  · rename_i hi
    rcases value_collapse op (Literal.zero? t) l r t s with ⟨v, hv, he⟩ | he <;> rw [he]
    · exact .zero hi hv
    · exact .kept
  · rename_i hi
    rcases value_collapse op (Literal.one? t) l r t s with ⟨v, hv, he⟩ | he <;> rw [he]
    · exact .one hi hv
    · exact .kept

/-- **The list is complete**: an operator on two operands comes to one of the cases. -/
theorem rewritten_reduceBinary (op : BinOp) (l r : Expr) (t : Ty) (s : Span) :
    Rewritten op l r t s (reduceBinary op l r t s).value := by
  unfold reduceBinary
  split
  · rename_i a b ha hb
    split
    · rename_i v hv; exact .folded ha hb hv
    · exact .kept
  · rename_i h
    exact rewritten_applyIdentity fun a b ha hb => h a b ha hb

/-! ### Operands that are changed -/

/-- A change of expressions, and of where they stand, of which no operator sees anything. -/
structure Unseen (f : Expr → Expr) (g : Span → Span) : Prop where
  literal? (e : Expr) : (f e).literal? = e.literal?
  ty (e : Expr) : (f e).ty = e.ty
  ofLiteral (v : Literal) (s : Span) : ofLiteral v (g s) = f (ofLiteral v s)
  unary (op : UnOp) (e : Expr) (t : Ty) (s : Span) : unary op (f e) t (g s) = f (unary op e t s)

namespace Unseen

variable {f : Expr → Expr} {g : Span → Span} (hf : Unseen f g)

include hf

protected theorem reduceUnary (op : UnOp) (e : Expr) (t : Ty) (s : Span) :
    (reduceUnary op (f e) t (g s)).value = f (reduceUnary op e t s).value := by
  simp only [reduceUnary, hf.literal?]
  split
  · split
    · exact hf.ofLiteral _ s
    · exact hf.unary op e t s
  · exact hf.unary op e t s

variable {op : BinOp} {l r : Expr} {t : Ty} {s : Span}

/-- A constant in place of the operator does not have the operands any more. -/
protected theorem collapse {l' r' : Expr} (kept : binary op l' r' t (g s) = f (binary op l r t s))
    (value : Option Literal) :
    (collapse op value l' r' t (g s)).value = f (collapse op value l r t s).value := by
  cases value with
  | some v => exact hf.ofLiteral v s
  | none => exact kept

variable (kept : binary op (f l) (f r) t (g s) = f (binary op l r t s))

include kept

protected theorem applyIdentity :
    (applyIdentity op (f l) (f r) t (g s)).value = f (applyIdentity op l r t s).value := by
  simp only [applyIdentity, hf.literal?, hf.ty]
  cases op.identity l.literal? r.literal? with
  | keep => exact kept
  | takeLeft =>
    dsimp only
    split
    · rfl
    · exact kept
  | takeRight =>
    dsimp only
    split
    · rfl
    · exact kept
  | negateRight =>
    dsimp only
    split
    · exact hf.reduceUnary .neg r t s
    · exact kept
  | becomeZero => exact hf.collapse kept _
  | becomeOne => exact hf.collapse kept _

protected theorem reduceBinary :
    (reduceBinary op (f l) (f r) t (g s)).value = f (reduceBinary op l r t s).value := by
  simp only [reduceBinary, hf.literal?]
  split
  · split
    · exact hf.ofLiteral _ s
    · exact kept
  · exact hf.applyIdentity kept

end Unseen

end Expr

namespace Stmt

/-- An assignment of a variable to itself is removed, any other one is kept. -/
theorem value_reduceAssign (x : Variable) (e : Expr) (s : Span) :
    (∃ t s', e = .var x t s' ∧ (reduceAssign x e s).value = []) ∨
    (reduceAssign x e s).value = [.assign x e s] := by
  unfold reduceAssign
  split
  · rename_i y t s'
    split
    · rename_i h; exact .inl ⟨t, s', by rw [h], rfl⟩
    · exact .inr rfl
  · exact .inr rfl

/-- A choice comes to the branch that its test takes, or is kept. -/
theorem value_reduceCond (test : Expr) (c : List Stmt) (a : Option (List Stmt)) (s : Span) :
    (test.literal? = some (.boolean true) ∧ (reduceCond test c a s).value = c) ∨
    (test.literal? = some (.boolean false) ∧ (reduceCond test c a s).value = a.getD []) ∨
    (reduceCond test c a s).value = [.cond test c a s] := by
  unfold reduceCond
  split
  · rename_i h
    obtain ⟨v, hv, hb⟩ := Option.bind_eq_some_iff.1 h
    rw [Literal.bool?_eq_some] at hb
    exact .inl ⟨by rw [hv, hb], rfl⟩
  · rename_i h
    obtain ⟨v, hv, hb⟩ := Option.bind_eq_some_iff.1 h
    rw [Literal.bool?_eq_some] at hb
    exact .inr (.inl ⟨by rw [hv, hb], rfl⟩)
  · exact .inr (.inr rfl)

end Stmt

end Yuyan.Typed
