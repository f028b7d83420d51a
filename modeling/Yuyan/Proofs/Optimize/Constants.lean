import Yuyan.Proofs.Optimize.FixedPoint

/-!
# Constants before and after optimization

The value of an expression is known beforehand if it is built from literals by operators
that compute it (`Expr.constant?`). The optimizer makes a literal of every such expression
(`value_optimize_of_constant?`), and what it leaves is known beforehand only if it is a
literal (`constant?_optimize`).

It knows more than that in one way. A literal beside some operators decides the result by
itself, as zero does beside `*`, and then the other operand need not be known. If this does
not happen anywhere in an expression, the optimizer makes a literal of it only if its value
was known before (`constant?_of_literal?_optimize`).
-/

namespace Yuyan

/-- An operator became a literal that one of its operands decides by itself. -/
def Event.isCollapse : Event → Bool
  | collapsed _ _ => true
  | _ => false

namespace Typed.Expr

/-! ### What is known beforehand -/

theorem constant?_unary_eq_some_iff {op : UnOp} {e : Expr} {t : Ty} {s : Span} {v : Literal} :
    (unary op e t s).constant? = some v ↔ ∃ a, e.constant? = some a ∧ op.eval? a = some v :=
  Option.bind_eq_some_iff

theorem constant?_binary_eq_some_iff {op : BinOp} {l r : Expr} {t : Ty} {s : Span} {v : Literal} :
    (binary op l r t s).constant? = some v ↔
      ∃ a b, l.constant? = some a ∧ r.constant? = some b ∧ op.eval? a b = some v := by
  simp [constant?, Option.bind_eq_some_iff]

theorem constant?_of_literal? {e : Expr} {v : Literal} (h : e.literal? = some v) :
    e.constant? = some v := by
  obtain ⟨t, s, rfl⟩ := literal?_eq_some.1 h
  rfl

/-- An operator that can be computed is. -/
theorem value_reduceUnary_of_eval? {op : UnOp} {e : Expr} {a v : Literal}
    (he : e.literal? = some a) (hv : op.eval? a = some v) (t : Ty) (s : Span) :
    (reduceUnary op e t s).value = ofLiteral v s := by
  simp [reduceUnary, he, hv]

theorem value_reduceBinary_of_eval? {op : BinOp} {l r : Expr} {a b v : Literal}
    (hl : l.literal? = some a) (hr : r.literal? = some b) (hv : op.eval? a b = some v) (t : Ty)
    (s : Span) : (reduceBinary op l r t s).value = ofLiteral v s := by
  simp [reduceBinary, hl, hr, hv]

/-- An expression whose value is known beforehand becomes the literal of that value, in its
place. The literal has its own type, unless the expression was a literal with another one. -/
theorem value_optimize_of_constant? {e : Expr} {v : Literal} (h : e.constant? = some v) :
    ∃ t, e.optimize.value = .lit v t e.span ∧ (e.literal? = none → t = v.ty) := by
  induction e generalizing v with
  | lit w t s =>
    obtain rfl : w = v := Option.some.inj h
    exact ⟨t, rfl, nofun⟩
  | unary op e t s ih =>
    obtain ⟨a, ha, hv⟩ := constant?_unary_eq_some_iff.1 h
    obtain ⟨u, hu, -⟩ := ih ha
    have he : e.optimize.value.literal? = some a := by rw [hu]; rfl
    rw [value_optimize_unary, value_reduceUnary_of_eval? he hv]
    exact ⟨v.ty, rfl, fun _ => rfl⟩
  | binary op l r t s ihl ihr =>
    obtain ⟨a, b, ha, hb, hv⟩ := constant?_binary_eq_some_iff.1 h
    obtain ⟨u, hu, -⟩ := ihl ha
    obtain ⟨w, hw, -⟩ := ihr hb
    have hl : l.optimize.value.literal? = some a := by rw [hu]; rfl
    have hr : r.optimize.value.literal? = some b := by rw [hw]; rfl
    rw [value_optimize_binary, value_reduceBinary_of_eval? hl hr hv]
    exact ⟨v.ty, rfl, fun _ => rfl⟩
  | var | array | index => cases h

theorem literal?_optimize_of_constant? {e : Expr} {v : Literal} (h : e.constant? = some v) :
    e.optimize.value.literal? = some v := by
  obtain ⟨t, ht, -⟩ := value_optimize_of_constant? h
  rw [ht]
  rfl

/-- Of an optimized expression, only the value of a literal is known beforehand. -/
theorem constant?_optimize (e : Expr) :
    e.optimize.value.constant? = e.optimize.value.literal? := by
  refine Option.ext fun v => ⟨fun h => ?_, constant?_of_literal?⟩
  have ho := literal?_optimize_of_constant? h
  rwa [optimize_optimize] at ho

/-! ### What the optimizer knows besides -/

/-- Somewhere in the expression, one operand of an operator decides the result by itself. -/
def Collapses (e : Expr) : Prop := ∃ event ∈ e.optimize.events, event.isCollapse = true

theorem not_collapses_iff {e : Expr} :
    ¬ e.Collapses ↔ ∀ event ∈ e.optimize.events, event.isCollapse = false := by
  simp [Collapses]

theorem events_optimize_unary (op : UnOp) (e : Expr) (t : Ty) (s : Span) :
    (unary op e t s).optimize.events =
      e.optimize.events ++ (reduceUnary op e.optimize.value t s).events := rfl

theorem events_optimize_binary (op : BinOp) (l r : Expr) (t : Ty) (s : Span) :
    (binary op l r t s).optimize.events = l.optimize.events ++ (r.optimize.events ++
      (reduceBinary op l.optimize.value r.optimize.value t s).events) := rfl

/-- A constant takes the place of an operator only with notice. -/
theorem literal?_collapse {op : BinOp} {value : Option Literal} {l r : Expr} {t : Ty} {s : Span}
    (h : ∀ event ∈ (collapse op value l r t s).events, event.isCollapse = false) :
    (collapse op value l r t s).value.literal? = none := by
  cases value with
  | none => rfl
  | some v => cases h (.collapsed op v) List.mem_cons_self

/-- No identity makes a literal of operands that are not both literals, except where one of
them decides the result. -/
theorem literal?_applyIdentity {op : BinOp} {l r : Expr} {t : Ty} {s : Span}
    (hlr : ∀ a b, l.literal? = some a → r.literal? ≠ some b)
    (h : ∀ event ∈ (applyIdentity op l r t s).events, event.isCollapse = false) :
    (applyIdentity op l r t s).value.literal? = none := by
  unfold applyIdentity at h ⊢
  split
  · rfl
  · rename_i hi
    obtain ⟨b, hb, -⟩ := Identity.asks_of_identity hi
    split
    · exact Option.eq_none_iff_forall_ne_some.2 fun a ha => hlr a b ha hb
    · rfl
  · rename_i hi
    obtain ⟨a, ha, -⟩ := Identity.asks_of_identity hi
    split
    · exact Option.eq_none_iff_forall_ne_some.2 fun b => hlr a b ha
    · rfl
  · rename_i hi
    obtain ⟨-, a, ha, -⟩ := Identity.asks_of_identity hi
    have hr : r.literal? = none := Option.eq_none_iff_forall_ne_some.2 fun b => hlr a b ha
    split
    · simp [value_reduceUnary_of_literal?_eq_none hr, literal?]
    · rfl
  · rename_i hi
    rw [hi] at h
    exact literal?_collapse h
  · rename_i hi
    rw [hi] at h
    exact literal?_collapse h

theorem reduceBinary_of_not_literals {op : BinOp} {l r : Expr} {t : Ty} {s : Span}
    (hlr : ∀ a b, l.literal? = some a → r.literal? ≠ some b) :
    reduceBinary op l r t s = applyIdentity op l r t s := by
  unfold reduceBinary
  split
  · rename_i a b ha hb; exact absurd hb (hlr a b ha)
  · rfl

/-- An operator becomes a literal only by being computed, unless one of its operands decides
the result. -/
theorem eval?_of_literal?_reduceBinary {op : BinOp} {l r : Expr} {t : Ty} {s : Span} {v : Literal}
    (h : ∀ event ∈ (reduceBinary op l r t s).events, event.isCollapse = false)
    (hv : (reduceBinary op l r t s).value.literal? = some v) :
    ∃ a b, l.literal? = some a ∧ r.literal? = some b ∧ op.eval? a b = some v := by
  by_cases hlr : ∃ a b, l.literal? = some a ∧ r.literal? = some b
  · obtain ⟨a, b, ha, hb⟩ := hlr
    refine ⟨a, b, ha, hb, ?_⟩
    cases hw : op.eval? a b with
    | none =>
      have hk : (reduceBinary op l r t s).value = binary op l r t s := by
        simp [reduceBinary, ha, hb, hw]
      rw [hk] at hv
      cases hv
    | some w => rwa [value_reduceBinary_of_eval? ha hb hw] at hv
  · have hlr' : ∀ a b, l.literal? = some a → r.literal? ≠ some b :=
      fun a b ha hb => hlr ⟨a, b, ha, hb⟩
    rw [reduceBinary_of_not_literals hlr'] at h hv
    rw [literal?_applyIdentity hlr' h] at hv
    cases hv

/-- Where no operand decides a result by itself, what becomes a literal was known before. -/
theorem constant?_of_literal?_optimize {e : Expr} {v : Literal} (hc : ¬ e.Collapses)
    (h : e.optimize.value.literal? = some v) : e.constant? = some v := by
  rw [not_collapses_iff] at hc
  induction e generalizing v with
  | lit => exact h
  | unary op e t s ih =>
    rw [events_optimize_unary, List.forall_mem_append] at hc
    rw [value_optimize_unary] at h
    rcases value_reduceUnary op e.optimize.value t s with ⟨a, w, ha, hw, he⟩ | he <;> rw [he] at h
    · cases h
      exact constant?_unary_eq_some_iff.2 ⟨a, ih hc.1 ha, hw⟩
    · cases h
  | binary op l r t s ihl ihr =>
    rw [events_optimize_binary, List.forall_mem_append, List.forall_mem_append] at hc
    obtain ⟨hl, hr, hc⟩ := hc
    obtain ⟨a, b, ha, hb, hv⟩ := eval?_of_literal?_reduceBinary hc h
    exact constant?_binary_eq_some_iff.2 ⟨a, b, ihl hl ha, ihr hr hb, hv⟩
  | var | array | index => cases h

/-- The optimizer knows as much of an expression as was known before, unless one operand
decides a result by itself. -/
theorem constant?_optimize_eq {e : Expr} (h : e.constant? ≠ none ∨ ¬ e.Collapses) :
    e.optimize.value.constant? = e.constant? := by
  cases hv : e.constant? with
  | some v =>
    rw [constant?_optimize]
    exact literal?_optimize_of_constant? hv
  | none =>
    have hc : ¬ e.Collapses := h.resolve_left fun hne => hne hv
    rw [constant?_optimize, Option.eq_none_iff_forall_ne_some]
    intro v hl
    rw [constant?_of_literal?_optimize hc hl] at hv
    cases hv

end Typed.Expr

end Yuyan
