import Yuyan.Proofs.Optimize.Constants
import Yuyan.Proofs.Optimize.Meaning

/-!
# Operands exchanged

The operands of `+`, `*`, `且` and `或` may be exchanged, and it makes no difference to
optimization whether that is done before or after it: for each of these operators, what it does
with a literal on the left it does with one on the right (`optimize_mirror`). An operator around
them sees nothing of it (`unseen_mirror`).

The identities are tried one after the other, those for the right operand mostly before those
for the left one. This order cannot be seen from outside, since identities are tried only where
one operand at most is a literal, and then those for one side are all that may apply
(`BinOp.identity_comm`). Two literals are computed, and of integers and truth values the four
operators compute the same either way (`BinOp.eval?_comm`). Floating-point numbers are left out,
of whose sums and products nothing is known here.
-/

namespace Yuyan

/-! ### Operators -/

/-- The operators, comparisons apart, whose operands may be exchanged. -/
def BinOp.isCommutative : BinOp → Bool
  | add | mul | and | or => true
  | _ => false

namespace BinOp

variable {op : BinOp}

theorem onInts?_comm (h : op.isCommutative = true) (a b : Int64) :
    op.onInts? a b = op.onInts? b a := by
  cases op with
  | add => rw [onInts?, Checked.add, Int.add_comm, ← Checked.add, ← onInts?]
  | mul => rw [onInts?, Checked.mul, Int.mul_comm, ← Checked.mul, ← onInts?]
  | and | or => rfl
  | _ => cases h

theorem onBooleans?_comm (h : op.isCommutative = true) (a b : Bool) :
    op.onBooleans? a b = op.onBooleans? b a := by
  cases op with
  | and => rw [onBooleans?, Bool.and_comm, ← onBooleans?]
  | or => rw [onBooleans?, Bool.or_comm, ← onBooleans?]
  | add | mul => rfl
  | _ => cases h

/-- Exchanged literals give the same, or are refused as before. -/
theorem eval?_comm (h : op.isCommutative = true) {a : Literal} (ha : a.ty ≠ .float) (b : Literal) :
    op.eval? a b = op.eval? b a := by
  cases a with
  | int m =>
    cases b with
    | int n => exact onInts?_comm h m n
    | _ => rfl
  | boolean p =>
    cases b with
    | boolean q => exact onBooleans?_comm h p q
    | _ => rfl
  | float => exact absurd rfl ha
  | string | char => cases b <;> rfl

end BinOp

/-- The identity for exchanged operands. Only a difference is ever negated, and there is none
for that. -/
def Identity.mirror : Identity → Identity
  | takeLeft => takeRight
  | takeRight => takeLeft
  | i => i

/-- Where one operand at most is a literal, it does not matter on which side. -/
theorem BinOp.identity_comm {op : BinOp} (h : op.isCommutative = true) {l r : Option Literal}
    (apart : ∀ a b, l = some a → r ≠ some b) : op.identity r l = (op.identity l r).mirror := by
  have unknown : l = none ∨ r = none := by
    cases l with
    | none => exact .inl rfl
    | some a => exact .inr (Option.eq_none_iff_forall_ne_some.2 fun b => apart a b rfl)
  cases op with
  | add | mul | and | or =>
    rcases unknown with rfl | rfl
    all_goals
      simp only [identity, Option.any_none, Option.bind_none, Bool.or_false, Bool.false_or]
      repeat' split
      all_goals first | rfl | contradiction
  | _ => cases h

namespace Typed

/-! ### Expressions -/

mutual

/-- The expression with the operands of `+`, `*`, `且` and `或` exchanged, at every depth. -/
def Expr.mirror : Expr → Expr
  | e@(.lit ..) | e@(.var ..) => e
  | .unary op e t s => .unary op e.mirror t s
  | .binary op l r t s =>
    if op.isCommutative then .binary op r.mirror l.mirror t s
    else .binary op l.mirror r.mirror t s
  | .array es t s => .array (mirrorElements es) t s
  | .index a i t s => .index a.mirror i.mirror t s
termination_by structural e => e

/-- The expressions with such operands exchanged. -/
def mirrorElements : List Expr → List Expr
  | [] => []
  | e :: es => e.mirror :: mirrorElements es
termination_by structural es => es

end

theorem mirrorElements_eq_map (es : List Expr) : mirrorElements es = es.map Expr.mirror := by
  induction es with
  | nil => rfl
  | cons e es ih => rw [mirrorElements, ih, List.map_cons]

namespace Expr

variable {op : BinOp}

theorem mirror_binary_of_commutative (h : op.isCommutative = true) (l r : Expr) (t : Ty)
    (s : Span) : (binary op l r t s).mirror = binary op r.mirror l.mirror t s := by
  rw [mirror, if_pos h]

theorem mirror_binary_of_not_commutative (h : ¬ op.isCommutative = true) (l r : Expr) (t : Ty)
    (s : Span) : (binary op l r t s).mirror = binary op l.mirror r.mirror t s := by
  rw [mirror, if_neg h]

theorem literal?_mirror (e : Expr) : e.mirror.literal? = e.literal? := by
  cases e with
  | binary op =>
    rw [mirror]
    split <;> rfl
  | _ => rfl

theorem ty_mirror (e : Expr) : e.mirror.ty = e.ty := by
  cases e with
  | binary op =>
    rw [mirror]
    split <;> rfl
  | _ => rfl

/-- Operators see nothing of what is exchanged inside their operands. -/
theorem unseen_mirror : Unseen mirror id where
  literal? := literal?_mirror
  ty := ty_mirror
  ofLiteral _ _ := rfl
  unary _ _ _ _ := rfl

section Commutative

variable (h : op.isCommutative = true) (l r : Expr) (t : Ty) (s : Span)

include h

theorem applyIdentity_mirror (apart : ∀ a b, l.literal? = some a → r.literal? ≠ some b) :
    (applyIdentity op r.mirror l.mirror t s).value = (applyIdentity op l r t s).value.mirror := by
  have kept := (mirror_binary_of_commutative h l r t s).symm
  simp only [applyIdentity, literal?_mirror, ty_mirror, BinOp.identity_comm h apart]
  cases applies : op.identity l.literal? r.literal? with
  | keep => exact kept
  | takeLeft =>
    dsimp only [Identity.mirror]
    split
    · rfl
    · exact kept
  | takeRight =>
    dsimp only [Identity.mirror]
    split
    · rfl
    · exact kept
  | negateRight =>
    obtain ⟨rfl, -⟩ := Identity.asks_of_identity applies
    cases h
  | becomeZero => exact unseen_mirror.collapse kept _
  | becomeOne => exact unseen_mirror.collapse kept _

theorem reduceBinary_mirror (hl : ∀ a, l.literal? = some a → a.ty ≠ .float) :
    (reduceBinary op r.mirror l.mirror t s).value = (reduceBinary op l r t s).value.mirror := by
  by_cases known : ∃ a b, l.literal? = some a ∧ r.literal? = some b
  · -- no identity is tried
    obtain ⟨a, b, ha, hb⟩ := known
    simp only [reduceBinary, literal?_mirror, ha, hb, BinOp.eval?_comm h (hl a ha) b]
    split
    · rfl
    · exact (mirror_binary_of_commutative h l r t s).symm
  · have apart : ∀ a b, l.literal? = some a → r.literal? ≠ some b :=
      fun a b ha hb => known ⟨a, b, ha, hb⟩
    rw [reduceBinary_of_not_literals apart, ← applyIdentity_mirror h l r t s apart,
      reduceBinary_of_not_literals]
    simp only [literal?_mirror]
    exact fun b a hb ha => apart a b ha hb

end Commutative

/-- **Exchanging operands before optimization is exchanging them after it.** The operands of
`+`, `*`, `且` and `或` may be exchanged throughout an expression without floating-point numbers,
be its types right or wrong: the identities for one side do what those for the other do. -/
theorem optimize_mirror {e : Expr} (h : ∀ n ∈ e.nodes, n.NoFloat) :
    e.mirror.optimize.value = e.optimize.value.mirror := by
  induction e with
  | lit v t s => rfl
  | var x t s => rfl
  | unary op e t s ih =>
    rw [nodes, List.forall_mem_cons] at h
    rw [mirror, value_optimize_unary, ih h.2]
    exact unseen_mirror.reduceUnary op _ t s
  | binary op l r t s ihl ihr =>
    simp only [nodes, List.forall_mem_cons, List.forall_mem_append] at h
    obtain ⟨-, hl, hr⟩ := h
    by_cases hop : op.isCommutative = true
    · rw [mirror_binary_of_commutative hop, value_optimize_binary, ihl hl, ihr hr]
      exact reduceBinary_mirror hop _ _ t s (ty_of_literal?_optimize l hl)
    · rw [mirror_binary_of_not_commutative hop, value_optimize_binary, ihl hl, ihr hr]
      exact unseen_mirror.reduceBinary (mirror_binary_of_not_commutative hop _ _ t s).symm
  | array es t s ih =>
    simp only [nodes, List.forall_mem_cons, forall_mem_nodesOfAll] at h
    rw [mirror, value_optimize_array, value_optimize_array, mirror, mirrorElements_eq_map,
      mirrorElements_eq_map, List.map_map, List.map_map]
    congr 1
    exact List.map_congr_left fun e he => ih e he (h.2 e he)
  | index a i t s iha ihi =>
    simp only [nodes, List.forall_mem_cons, List.forall_mem_append] at h
    obtain ⟨-, ha, hi⟩ := h
    rw [mirror, value_optimize_index, value_optimize_index, iha ha, ihi hi, mirror]

/-- Neutral operands on either side, one difference, and a sum that is refused since the types are
wrong: `((0 + x) - (y * 1)) * (真 + 2)` becomes `(x - y) * (真 + 2)`. -/
theorem optimize_mirror_sides :
    let x : Expr := .var ⟨"x", .int, 1⟩ .int {}
    let y : Expr := .var ⟨"y", .int, 2⟩ .int {}
    let lit (v : Literal) : Expr := .ofLiteral v {}
    let refused : Expr := .binary .add (lit (.boolean true)) (lit (.int 2)) .int {}
    let left : Expr := .binary .add (lit (.int 0)) x .int {}
    let right : Expr := .binary .mul y (lit (.int 1)) .int {}
    let e : Expr := .binary .mul (.binary .sub left right .int {}) refused .int {}
    (∀ n ∈ e.nodes, n.NoFloat) ∧ e.mirror.optimize.value = e.optimize.value.mirror ∧
      e.optimize.value = .binary .mul (.binary .sub x y .int {}) refused .int {} := by
  intro x y lit refused left right e
  have h : ∀ n ∈ e.nodes, n.NoFloat := by decide
  exact ⟨h, optimize_mirror h, rfl⟩

end Expr

end Typed

end Yuyan
