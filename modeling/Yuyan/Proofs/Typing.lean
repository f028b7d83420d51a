import Yuyan.Constant
import Yuyan.Typing

/-!
# What the rules of typing accept

When each rule is satisfied, said of types alone. An operator looks at nothing of its
operands but their types: `UnOp.ty?` and `BinOp.ty?` give the type of the result from
theirs (`resultTy_eq_ok_iff`).

What an operator computes from literals has the type that the rules give to the
operator on literals of these types (`ty?_of_eval?`): no computation outruns the rules.
-/

namespace Yuyan

open Typed (Expr)

/-- Two steps in sequence succeed if both do. -/
theorem bind_eq_ok_iff {ε α β : Type} {x : Except ε α} {f : α → Except ε β} {b : β} :
    (x >>= f) = .ok b ↔ ∃ a, x = .ok a ∧ f a = .ok b := by
  cases x with
  | ok a => exact ⟨fun h => ⟨a, rfl, h⟩, by rintro ⟨_, ⟨⟩, h⟩; exact h⟩
  | error e => exact ⟨nofun, by rintro ⟨_, ⟨⟩, _⟩⟩

/-- Two steps in sequence fail if the first one does, or the second one after it. -/
theorem bind_eq_error_iff {ε α β : Type} {x : Except ε α} {f : α → Except ε β} {e : ε} :
    (x >>= f) = .error e ↔ x = .error e ∨ ∃ a, x = .ok a ∧ f a = .error e := by
  cases x with
  | ok a => exact ⟨fun h => .inr ⟨a, rfl, h⟩, by rintro (⟨⟨⟩⟩ | ⟨_, ⟨⟩, h⟩); exact h⟩
  | error e' => exact ⟨fun h => .inl (by cases h; rfl), by rintro (⟨⟨⟩⟩ | ⟨_, ⟨⟩, _⟩); rfl⟩

/-- A check succeeds with what follows it if both do. -/
theorem check_bind_eq_ok_iff {ε β : Type} {x : Except ε Unit} {f : Unit → Except ε β} {b : β} :
    (x >>= f) = .ok b ↔ x = .ok () ∧ f () = .ok b :=
  bind_eq_ok_iff.trans ⟨fun ⟨_, hx, hb⟩ => ⟨hx, hb⟩, fun ⟨hx, hb⟩ => ⟨(), hx, hb⟩⟩

/-! ### Single expressions -/

theorem elementTy_eq_ok_iff {e : Expr} {t : Ty} : e.elementTy = .ok t ↔ e.ty = .array t := by
  unfold Expr.elementTy
  split
  · rename_i u hu
    rw [Ty.element?_eq_some] at hu
    simp [hu]
  · rename_i hu
    simp only [reduceCtorEq, false_iff]
    intro ht
    rw [ht] at hu
    cases hu

theorem expectIndex_eq_ok_iff {e : Expr} : e.expectIndex = .ok () ↔ e.ty = .int := by
  unfold Expr.expectIndex
  split <;> simp_all

theorem expectTy_eq_ok_iff {e : Expr} {t : Ty} : e.expectTy t = .ok () ↔ e.ty = t := by
  unfold Expr.expectTy
  split
  · rename_i h; exact iff_of_true rfl (Ty.eq_of_conforms h).symm
  · rename_i h; exact iff_of_false nofun fun ht => h (Ty.conforms_iff.2 ht.symm)

theorem expectCondition_eq_ok_iff {e : Expr} : e.expectCondition = .ok () ↔ e.ty = .boolean := by
  unfold Expr.expectCondition
  split <;> simp_all

theorem expectNumeric_eq_ok_iff {e : Expr} {op : String} :
    e.expectNumeric op = .ok () ↔ e.ty.isNumeric = true := by
  unfold Expr.expectNumeric
  split <;> simp_all

/-! ### Operators -/

/-- The type of the result of an operator on a value of the type `t`. -/
def UnOp.ty? : UnOp → Ty → Option Ty
  | neg, t => if t.isNumeric then some t else none
  | not, t => if t = .boolean then some .boolean else none

/-- The type of the result of an operator on values of the types `t` and `u`. -/
def BinOp.ty? (op : BinOp) (t u : Ty) : Option Ty :=
  if op.isEquality then if t = u then some .boolean else none
  else if op.isLogical then if t = .boolean ∧ u = .boolean then some .boolean else none
  else if t.isNumeric ∧ t = u then some (if op.isOrdering then .boolean else t)
  else none

theorem UnOp.resultTy_eq_ok_iff {op : UnOp} {e : Expr} {t : Ty} :
    op.resultTy e = .ok t ↔ op.ty? e.ty = some t := by
  cases op with
  | neg =>
    rw [resultTy, ty?, check_bind_eq_ok_iff, expectNumeric_eq_ok_iff]
    split <;> simp_all [pure, Except.pure]
  | not =>
    rw [resultTy, ty?, check_bind_eq_ok_iff, expectTy_eq_ok_iff]
    split <;> simp_all [pure, Except.pure]

theorem BinOp.resultTy_eq_ok_iff {op : BinOp} {l r : Expr} {s : Span} {t : Ty} :
    op.resultTy l r s = .ok t ↔ op.ty? l.ty r.ty = some t := by
  unfold resultTy ty?
  split
  · simp only [Ty.conforms_iff]
    split <;> simp
  split
  · rw [check_bind_eq_ok_iff, check_bind_eq_ok_iff, expectTy_eq_ok_iff, expectTy_eq_ok_iff]
    split <;> simp_all [pure, Except.pure]
  · simp only [check_bind_eq_ok_iff, expectNumeric_eq_ok_iff, Ty.conforms_iff]
    by_cases h : l.ty = r.ty
    · rw [if_pos h, h]
      split <;> simp_all [pure, Except.pure]
    · simp [h, throw, throwThe, MonadExceptOf.throw]

theorem UnOp.eq_of_ty? {op : UnOp} {t u : Ty} (h : op.ty? t = some u) : u = t := by
  unfold ty? at h
  split at h
  · split at h
    · cases h; rfl
    · cases h
  · split at h
    · rename_i ht
      cases h
      exact ht.symm
    · cases h

/-- The operands of an operator have one type, and the result has that type or is a truth
value. -/
theorem BinOp.eq_of_ty? {op : BinOp} {t u w : Ty} (h : op.ty? t u = some w) :
    t = u ∧ (w = t ∨ w = .boolean) := by
  unfold ty? at h
  split at h
  · split at h
    · rename_i ht
      cases h
      exact ⟨ht, .inr rfl⟩
    · cases h
  split at h
  · split at h
    · rename_i ht
      cases h
      exact ⟨ht.1.trans ht.2.symm, .inr rfl⟩
    · cases h
  · split at h
    · rename_i ht
      refine ⟨ht.2, ?_⟩
      rw [← Option.some.inj h]
      split
      · exact .inr rfl
      · exact .inl rfl
    · cases h

/-- What an arithmetic operator gives is a number. -/
theorem BinOp.isNumeric_of_ty? {op : BinOp} {t u w : Ty} (hc : op.isComparison = false)
    (hl : op.isLogical = false) (h : op.ty? t u = some w) : w.isNumeric = true := by
  obtain ⟨he, ho⟩ := Bool.or_eq_false_iff.1 hc
  rw [ty?, he, hl, ho, if_neg nofun, if_neg nofun] at h
  split at h
  · rename_i ht
    rw [← Option.some.inj h]
    exact ht.1
  · cases h

/-- No operator gives an array. -/
theorem UnOp.ty?_ne_array (op : UnOp) (t u : Ty) : op.ty? t ≠ some (.array u) := by
  intro h
  obtain rfl := eq_of_ty? h
  cases op <;> simp [ty?, Ty.isNumeric] at h

theorem BinOp.ty?_ne_array (op : BinOp) (t u w : Ty) : op.ty? t u ≠ some (.array w) := by
  intro h
  obtain ⟨-, rfl | hb⟩ := eq_of_ty? h
  · cases op <;> simp [ty?, isEquality, isLogical, Ty.isNumeric] at h
  · cases hb

/-- The two operands of an equality have one type. -/
theorem BinOp.ty_of_isEquality {op : BinOp} {l r : Expr} {s : Span} {t : Ty}
    (hop : op.isEquality = true) (h : op.resultTy l r s = .ok t) : l.ty = r.ty ∧ t = .boolean := by
  rw [resultTy_eq_ok_iff] at h
  refine ⟨(eq_of_ty? h).1, ?_⟩
  rw [ty?, if_pos hop] at h
  split at h
  · cases h; rfl
  · cases h

/-! ### Computed literals -/

theorem UnOp.ty?_of_eval? {op : UnOp} {a v : Literal} (h : op.eval? a = some v) :
    op.ty? a.ty = some v.ty := by
  cases a with
  | int n =>
    cases op with
    | neg => obtain ⟨m, -, rfl⟩ := Option.map_eq_some_iff.1 h; rfl
    | not => cases h
  | float x =>
    cases op with
    | neg => cases h; rfl
    | not => cases h
  | boolean b =>
    cases op with
    | neg => cases h
    | not => cases h; rfl
  | string s => cases op <;> cases h
  | char c => cases op <;> cases h

namespace BinOp

variable {op : BinOp} {v : Literal}

theorem ty?_of_onInts? {m n : Int64} (h : op.onInts? m n = some v) :
    op.ty? .int .int = some v.ty := by
  cases op with
  | add | sub | mul | div | rem | pow =>
    obtain ⟨k, -, rfl⟩ := Option.map_eq_some_iff.1 h
    rfl
  | and | or => cases h
  | _ => cases h; rfl

theorem ty?_of_onFloats? {x y : Float} (h : op.onFloats? x y = some v) :
    op.ty? .float .float = some v.ty := by
  have finite {z : Float} (hz : Literal.finite? z = some v) : v.ty = .float := by
    unfold Literal.finite? at hz
    split at hz
    · cases hz; rfl
    · cases hz
  cases op with
  | add | sub | mul | div | rem =>
    rw [finite h]
    rfl
  | pow =>
    rw [onFloats?] at h
    split at h
    · cases h
    · rw [finite h]
      rfl
  | and | or => cases h
  | _ => cases h; rfl

theorem ty?_of_onBooleans? {p q : Bool} (h : op.onBooleans? p q = some v) :
    op.ty? .boolean .boolean = some v.ty := by
  cases op with
  | and | or => cases h; rfl
  | _ => cases h

/-- What is computed from two literals has the type that the rules give. -/
theorem ty?_of_eval? {a b : Literal} (h : op.eval? a b = some v) :
    op.ty? a.ty b.ty = some v.ty := by
  unfold eval? at h
  split at h
  · exact ty?_of_onInts? h
  · exact ty?_of_onFloats? h
  · exact ty?_of_onBooleans? h
  · cases h

end BinOp

end Yuyan
