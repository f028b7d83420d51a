import Yuyan.Proofs.Optimize.Constants

/-!
# Refused operations

An operation on literals is refused if computing it beforehand could change what the program
means: a quotient that is not exact, a power that does not fit. It is to stay in the program
then, and it does where the optimizer comes to it. What the optimizer does around it is
another matter. Zero beside `*` makes the result zero whatever is on the other side, so in
`(1 ÷ 0) * 0` the whole product makes way for a literal, with the refused quotient in it
(`literal?_optimize_hidden`).

That is the only way for a refused operation to go. `Exposed n e` says that `n` stands in `e`
and that no operator around it is decided by one operand. A refused operation that is exposed
stays as it is written, and so does something of every operator around it: no identity takes
the literal of two operands and leaves the one that is not a literal
(`Exposed.kept_mem_nodes`). Conversely, where none is exposed a literal is all that is left
(`exists_exposed`), so that the literals an expression without variables can come to are told
exactly (`literal?_optimize_eq_none_iff`).
-/

namespace Yuyan.Typed.Expr

/-! ### Expressions without variables -/

/-- The expression is built from literals by operators. -/
inductive Ground : Expr → Prop where
  | lit {v : Literal} {t : Ty} {s : Span} : Ground (.lit v t s)
  | unary {op : UnOp} {e : Expr} {t : Ty} {s : Span} (operand : Ground e) :
      Ground (.unary op e t s)
  | binary {op : BinOp} {l r : Expr} {t : Ty} {s : Span} (left : Ground l) (right : Ground r) :
      Ground (.binary op l r t s)

/-- An operation that is refused: its operands come to literals of which the operator
computes nothing. -/
def Refused : Expr → Prop
  | unary op e _ _ => ∃ a, e.optimize.value.literal? = some a ∧ op.eval? a = none
  | binary op l r _ _ => ∃ a b, l.optimize.value.literal? = some a ∧
      r.optimize.value.literal? = some b ∧ op.eval? a b = none
  | _ => False

/-- An operator whose result one operand decides, by an identity: the operand comes to a
literal, and the other one does not. -/
def Decided : Expr → Prop
  | binary op l r _ _ => (l.optimize.value.literal? = none ∨ r.optimize.value.literal? = none) ∧
      (op.identity l.optimize.value.literal? r.optimize.value.literal? = .becomeZero ∨
        op.identity l.optimize.value.literal? r.optimize.value.literal? = .becomeOne)
  | _ => False

/-- The expression `n` stands in `e`, and in no operand of an operator that is decided. -/
inductive Exposed (n : Expr) : Expr → Prop where
  | self : Exposed n n
  | operand {op : UnOp} {e : Expr} {t : Ty} {s : Span} (inside : Exposed n e) :
      Exposed n (.unary op e t s)
  | left {op : BinOp} {l r : Expr} {t : Ty} {s : Span}
      (undecided : ¬ (binary op l r t s).Decided) (inside : Exposed n l) :
      Exposed n (.binary op l r t s)
  | right {op : BinOp} {l r : Expr} {t : Ty} {s : Span}
      (undecided : ¬ (binary op l r t s).Decided) (inside : Exposed n r) :
      Exposed n (.binary op l r t s)

/-- An operator as it is written, on what its operands come to. -/
def kept : Expr → Expr
  | unary op e t s => unary op e.optimize.value t s
  | binary op l r t s => binary op l.optimize.value r.optimize.value t s
  | e => e

/-! ### What stays -/

/-- An operation that is refused is kept. -/
theorem Refused.value_optimize {n : Expr} (h : n.Refused) :
    n.optimize.value = n.kept ∧ n.kept.literal? = none := by
  cases n with
  | unary op e t s =>
    obtain ⟨a, ha, hv⟩ := h
    refine ⟨?_, rfl⟩
    simp [value_optimize_unary, reduceUnary, ha, hv, kept]
  | binary op l r t s =>
    obtain ⟨a, b, ha, hb, hv⟩ := h
    refine ⟨?_, rfl⟩
    simp [value_optimize_binary, reduceBinary, ha, hb, hv, kept]
  | _ => cases h

section Rewritten

variable {op : BinOp} {l r e n : Expr} {t : Ty} {s : Span}

/-- Unless one operand decides the result, an operand that is not a literal stays in what the
operator comes to, and that is not a literal. -/
theorem Rewritten.mem_nodes_left (h : Rewritten op l r t s e) (hl : l.literal? = none)
    (hz : op.identity l.literal? r.literal? ≠ .becomeZero)
    (ho : op.identity l.literal? r.literal? ≠ .becomeOne) (hn : n ∈ l.nodes) :
    e.literal? = none ∧ n ∈ e.nodes := by
  cases h with
  | kept => exact ⟨rfl, List.mem_cons_of_mem _ (List.mem_append_left _ hn)⟩
  | folded ha => simp [hl] at ha
  | left => exact ⟨hl, hn⟩
  | right hi =>
    obtain ⟨a, ha, -⟩ := Identity.asks_of_identity hi
    simp [hl] at ha
  | negated hi =>
    obtain ⟨-, a, ha, -⟩ := Identity.asks_of_identity hi
    simp [hl] at ha
  | zero hi => exact absurd hi hz
  | one hi => exact absurd hi ho

@[inherit_doc Rewritten.mem_nodes_left]
theorem Rewritten.mem_nodes_right (h : Rewritten op l r t s e) (hr : r.literal? = none)
    (hz : op.identity l.literal? r.literal? ≠ .becomeZero)
    (ho : op.identity l.literal? r.literal? ≠ .becomeOne) (hn : n ∈ r.nodes) :
    e.literal? = none ∧ n ∈ e.nodes := by
  cases h with
  | kept => exact ⟨rfl, List.mem_cons_of_mem _ (List.mem_append_right _ hn)⟩
  | folded _ hb => simp [hr] at hb
  | left hi =>
    obtain ⟨b, hb, -⟩ := Identity.asks_of_identity hi
    simp [hr] at hb
  | right => exact ⟨hr, hn⟩
  | negated => exact ⟨rfl, List.mem_cons_of_mem _ hn⟩
  | zero hi => exact absurd hi hz
  | one hi => exact absurd hi ho

end Rewritten

/-- A refused operation that is exposed stays, and what it stays in is not a literal. -/
theorem Exposed.kept_mem_nodes {n e : Expr} (h : Exposed n e) (hn : n.Refused) :
    e.optimize.value.literal? = none ∧ n.kept ∈ e.optimize.value.nodes := by
  induction h with
  | self =>
    obtain ⟨ho, hl⟩ := hn.value_optimize
    rw [ho]
    exact ⟨hl, n.kept.mem_nodes_self⟩
  | @operand op e t s _ ih =>
    obtain ⟨hl, hm⟩ := ih
    rw [value_optimize_unary, value_reduceUnary_of_literal?_eq_none hl]
    exact ⟨rfl, List.mem_cons_of_mem _ hm⟩
  | @left op l r t s hd _ ih =>
    obtain ⟨hl, hm⟩ := ih
    rw [value_optimize_binary]
    apply (rewritten_reduceBinary op l.optimize.value r.optimize.value t s).mem_nodes_left hl _ _ hm
    · exact fun hz => hd ⟨.inl hl, .inl hz⟩
    · exact fun ho => hd ⟨.inl hl, .inr ho⟩
  | @right op l r t s hd _ ih =>
    obtain ⟨hr, hm⟩ := ih
    rw [value_optimize_binary]
    apply (rewritten_reduceBinary op l.optimize.value r.optimize.value t s).mem_nodes_right hr _ _ hm
    · exact fun hz => hd ⟨.inr hr, .inl hz⟩
    · exact fun ho => hd ⟨.inr hr, .inr ho⟩

/-! ### What goes -/

/-- An operator that is decided becomes a literal, if its type is the right one. -/
theorem Decided.exists_literal {op : BinOp} {l r : Expr} {t : Ty} {s : Span}
    (h : (binary op l r t s).Decided) (hw : (binary op l r t s).WellTyped) :
    ∃ v, (binary op l r t s).optimize.value.literal? = some v := by
  obtain ⟨hlr, hi⟩ := h
  have arithmetic := Identity.isArithmetic_of_decides hi
  have ht : t = .int ∨ t = .float := by
    cases hw with
    | binary _ _ ht =>
      rw [BinOp.resultTy_eq_ok_iff] at ht
      exact Ty.isNumeric_iff.1 (BinOp.isNumeric_of_ty? arithmetic.1 arithmetic.2 ht)
  have apart : ∀ a b, l.optimize.value.literal? = some a → r.optimize.value.literal? ≠ some b := by
    intro a b ha hb
    simp [ha, hb] at hlr
  rw [value_optimize_binary, reduceBinary_of_not_literals apart, applyIdentity]
  rcases hi with hi | hi <;> rcases ht with rfl | rfl <;> rw [hi] <;> exact ⟨_, rfl⟩

/-- An expression without variables that does not come to a literal has a refused operation
that is exposed. -/
theorem exists_exposed {e : Expr} (hg : e.Ground) (hw : e.WellTyped)
    (h : e.optimize.value.literal? = none) : ∃ n, n.Refused ∧ Exposed n e := by
  induction hg with
  | lit => cases h
  | @unary op e t s _ ih =>
    cases hw with
    | unary he _ =>
      cases ha : e.optimize.value.literal? with
      | none =>
        obtain ⟨n, hn, hx⟩ := ih he ha
        exact ⟨n, hn, .operand hx⟩
      | some a =>
        cases hv : op.eval? a with
        | none => exact ⟨.unary op e t s, ⟨a, ha, hv⟩, .self⟩
        | some v =>
          rw [value_optimize_unary, value_reduceUnary_of_eval? ha hv] at h
          cases h
  | @binary op l r t s _ _ ihl ihr =>
    by_cases hd : (binary op l r t s).Decided
    · obtain ⟨v, hv⟩ := hd.exists_literal hw
      rw [hv] at h
      cases h
    cases hw with
    | binary hl hr _ =>
      cases ha : l.optimize.value.literal? with
      | none =>
        obtain ⟨n, hn, hx⟩ := ihl hl ha
        exact ⟨n, hn, .left hd hx⟩
      | some a =>
        cases hb : r.optimize.value.literal? with
        | none =>
          obtain ⟨n, hn, hx⟩ := ihr hr hb
          exact ⟨n, hn, .right hd hx⟩
        | some b =>
          cases hv : op.eval? a b with
          | none => exact ⟨.binary op l r t s, ⟨a, b, ha, hb, hv⟩, .self⟩
          | some v =>
            rw [value_optimize_binary, value_reduceBinary_of_eval? ha hb hv] at h
            cases h

/-! ### Where nothing is known beforehand -/

/-- An expression without variables has a value, or an operation in it is refused. -/
theorem exists_refused {e : Expr} (hg : e.Ground) (h : e.constant? = none) :
    ∃ n ∈ e.nodes, n.Refused := by
  induction hg with
  | lit => cases h
  | @unary op e t s _ ih =>
    cases ha : e.constant? with
    | none =>
      obtain ⟨n, hn, hr⟩ := ih ha
      exact ⟨n, List.mem_cons_of_mem _ hn, hr⟩
    | some a =>
      have hv : op.eval? a = none := by simpa [constant?, ha] using h
      exact ⟨_, List.mem_cons_self, a, literal?_optimize_of_constant? ha, hv⟩
  | @binary op l r t s _ _ ihl ihr =>
    cases ha : l.constant? with
    | none =>
      obtain ⟨n, hn, hr⟩ := ihl ha
      exact ⟨n, List.mem_cons_of_mem _ (List.mem_append_left _ hn), hr⟩
    | some a =>
      cases hb : r.constant? with
      | none =>
        obtain ⟨n, hn, hr⟩ := ihr hb
        exact ⟨n, List.mem_cons_of_mem _ (List.mem_append_right _ hn), hr⟩
      | some b =>
        have hv : op.eval? a b = none := by simpa [constant?, ha, hb] using h
        exact ⟨_, List.mem_cons_self, a, b, literal?_optimize_of_constant? ha,
          literal?_optimize_of_constant? hb, hv⟩

/-- **A refused operation goes only with an operator around it that one operand decides.** If
an expression without variables has no value, an operation in it is refused. Each refused
operation that is exposed is still there as it is written, and the whole becomes a literal
only if none is exposed. -/
theorem literal?_optimize_eq_none_iff {e : Expr} (hw : e.WellTyped) (hg : e.Ground)
    (h : e.constant? = none) :
    (∃ n ∈ e.nodes, n.Refused) ∧
    (∀ n, n.Refused → Exposed n e → n.kept ∈ e.optimize.value.nodes) ∧
    (e.optimize.value.literal? = none ↔ ∃ n, n.Refused ∧ Exposed n e) := by
  refine ⟨exists_refused hg h, fun n hn hx => (hx.kept_mem_nodes hn).2, ?_⟩
  constructor
  · exact exists_exposed hg hw
  · rintro ⟨n, hn, hx⟩
    exact (hx.kept_mem_nodes hn).1

/-- A quotient that is refused: `1 ÷ 0`. -/
def quotient : Expr := .binary .div (.ofLiteral (.int 1) {}) (.ofLiteral (.int 0) {}) .int {}

/-- The refused quotient beside a zero: `(1 ÷ 0) * 0`. -/
def hidden : Expr := .binary .mul quotient (.ofLiteral (.int 0) {}) .int {}

/-- Of the refused quotient beside a zero, nothing is left. -/
theorem literal?_optimize_hidden : hidden.WellTyped ∧ hidden.Ground ∧ hidden.constant? = none ∧
    hidden.optimize.value = .ofLiteral (.int 0) {} :=
  ⟨.binary (.binary .lit .lit rfl) .lit rfl, .binary (.binary .lit .lit) .lit, rfl, rfl⟩

/-- The refused quotient twice, and only once beside a zero: `(1 ÷ 0) * 0 - -(1 ÷ 0)`. -/
def halfHidden : Expr := .binary .sub hidden (.unary .neg quotient .int {}) .int {}

theorem literal?_optimize_halfHidden : halfHidden.WellTyped ∧ halfHidden.Ground ∧
    halfHidden.constant? = none ∧ (∃ n ∈ halfHidden.nodes, n.Refused) ∧
    (∀ n, n.Refused → Exposed n halfHidden → n.kept ∈ halfHidden.optimize.value.nodes) ∧
    (halfHidden.optimize.value.literal? = none ↔ ∃ n, n.Refused ∧ Exposed n halfHidden) ∧
    halfHidden.optimize.value = .unary .neg (.unary .neg quotient .int {}) .int {} := by
  have hq : quotient.WellTyped := .binary .lit .lit rfl
  have hw : halfHidden.WellTyped := .binary (.binary hq .lit rfl) (.unary hq rfl) rfl
  have gq : quotient.Ground := .binary .lit .lit
  have hg : halfHidden.Ground := .binary (.binary gq .lit) (.unary gq)
  have hc : halfHidden.constant? = none := rfl
  obtain ⟨refused, stays, literal⟩ := literal?_optimize_eq_none_iff hw hg hc
  exact ⟨hw, hg, hc, refused, stays, literal, rfl⟩

end Yuyan.Typed.Expr
