import Yuyan.Proofs.Optimize.Traversal

/-!
# Optimization keeps types

Every node of an optimized program has the right type if this was so before, and an
optimized expression has the type that it had. A literal that replaces an operator gets
its type from its value: what an operator computes has the type that the rules give
(`BinOp.ty?_of_eval?`), and a zero or a one is one of the type that is asked for. An
operand that replaces its operator has the type of the whole, as the optimizer makes
sure. An operator that is kept is given operands of the same types as before, which is
all that the rules look at (`BinOp.resultTy_eq_ok_iff`).
-/

namespace Yuyan.Typed

/-! ### Expressions -/

namespace Expr

/-- What an operator on two operands comes to has the type that the rules give it. -/
theorem Rewritten.wellTyped {op : BinOp} {l r e : Expr} {t : Ty} {s : Span}
    (h : Rewritten op l r t s e) (hl : l.WellTyped) (hr : r.WellTyped)
    (ht : op.ty? l.ty r.ty = some t) : e.WellTyped ∧ e.ty = t := by
  cases h with
  | kept => exact ⟨.binary hl hr (BinOp.resultTy_eq_ok_iff.2 ht), rfl⟩
  | @folded a b v ha hb hv =>
    rw [hl.ty_of_literal? ha, hr.ty_of_literal? hb, BinOp.ty?_of_eval? hv] at ht
    exact ⟨.lit, Option.some.inj ht⟩
  | left _ hty => exact ⟨hl, hty⟩
  | right _ hty => exact ⟨hr, hty⟩
  | negated hi _ hty =>
    obtain ⟨rfl, -⟩ := Identity.asks_of_identity hi
    have hneg : UnOp.neg.ty? r.ty = some t := by
      rw [hty, UnOp.ty?, if_pos (BinOp.isNumeric_of_ty? rfl rfl ht)]
    exact ⟨.unary hr (UnOp.resultTy_eq_ok_iff.2 hneg), rfl⟩
  | zero _ hv => exact ⟨.lit, Literal.ty_of_zero? hv⟩
  | one _ hv => exact ⟨.lit, Literal.ty_of_one? hv⟩

/-- An optimized expression is well typed and has the type that it had. -/
theorem WellTyped.optimize {e : Expr} (h : e.WellTyped) :
    e.optimize.value.WellTyped ∧ e.optimize.value.ty = e.ty := by
  induction h with
  | lit => exact ⟨.lit, rfl⟩
  | var => exact ⟨.var, rfl⟩
  | @unary op e t s _ ht ih =>
    obtain ⟨he, hty⟩ := ih
    rw [UnOp.resultTy_eq_ok_iff, ← hty] at ht
    rw [value_optimize_unary]
    rcases value_reduceUnary op e.optimize.value t s with ⟨a, v, ha, hv, h⟩ | h <;> rw [h]
    · rw [he.ty_of_literal? ha, UnOp.ty?_of_eval? hv] at ht
      exact ⟨.lit, Option.some.inj ht⟩
    · exact ⟨.unary he (UnOp.resultTy_eq_ok_iff.2 ht), rfl⟩
  | @binary op l r t s _ _ ht ihl ihr =>
    obtain ⟨hl, htl⟩ := ihl
    obtain ⟨hr, htr⟩ := ihr
    rw [BinOp.resultTy_eq_ok_iff, ← htl, ← htr] at ht
    exact (rewritten_reduceBinary op _ _ t s).wellTyped hl hr ht
  | array _ ht ih =>
    rw [value_optimize_array]
    refine ⟨.array ?_ ?_, rfl⟩
    · rw [List.forall_mem_map]
      exact fun e he => (ih e he).1
    · rw [List.forall_mem_map]
      exact fun e he => (ih e he).2.trans (ht e he)
  | index _ _ hat hit iha ihi =>
    exact ⟨.index iha.1 ihi.1 (iha.2.trans hat) (ihi.2.trans hit), rfl⟩

end Expr

/-! ### Statements -/

theorem Stmt.wellTyped_optimize_cond {test : Expr} {c : List Stmt} {a : Option (List Stmt)}
    {s : Span} (he : test.WellTyped) (ht : test.ty = .boolean)
    (hc : ∀ s ∈ (optimizeAll c).value, s.WellTyped)
    (ha : ∀ ss ∈ a, ∀ s ∈ (optimizeAll ss).value, s.WellTyped) :
    ∀ s' ∈ (cond test c a s).optimize.value, s'.WellTyped := by
  rcases optimize_cond_cases test c a s with ⟨-, h⟩ | ⟨-, h⟩ | h <;> rw [h]
  · exact hc
  · cases a with
    | none => exact List.forall_mem_nil _
    | some a => exact ha a rfl
  · obtain ⟨he', hty⟩ := he.optimize
    refine List.forall_mem_singleton.2 (.cond he' (hty.trans ht) hc ?_)
    intro us hus
    obtain ⟨ss, hss, rfl⟩ := Option.map_eq_some_iff.1 hus
    exact ha ss hss

mutual

/-- The statements that a well-typed statement is optimized to are well typed. -/
theorem Stmt.WellTyped.optimize : ∀ {s : Stmt}, s.WellTyped → ∀ s' ∈ s.optimize.value, s'.WellTyped
  | .decl .., .decl hd he ht => by
    obtain ⟨he', hty⟩ := he.optimize
    exact List.forall_mem_singleton.2 (.decl hd he' (hty.trans ht))
  | .assign x e s, .assign he ht => by
    obtain ⟨he', hty⟩ := he.optimize
    rcases Stmt.optimize_assign_cases x e s with ⟨_, _, -, h⟩ | h <;> rw [h]
    · exact List.forall_mem_nil _
    · exact List.forall_mem_singleton.2 (.assign he' (hty.trans ht))
  | .print .., .print he => List.forall_mem_singleton.2 (.print he.optimize.1)
  | .loop .., .loop he ht hss => by
    obtain ⟨he', hty⟩ := he.optimize
    exact List.forall_mem_singleton.2 (.loop he' (hty.trans ht) (wellTyped_optimizeAll hss))
  | .cond _ c none _, .cond he ht hc _ =>
    Stmt.wellTyped_optimize_cond he ht (wellTyped_optimizeAll hc) nofun
  | .cond _ c (some a) _, .cond he ht hc ha => by
    refine Stmt.wellTyped_optimize_cond he ht (wellTyped_optimizeAll hc) ?_
    rintro _ ⟨⟩
    exact wellTyped_optimizeAll (ha a rfl)
  | .skip .., .skip => List.forall_mem_singleton.2 .skip
  | .ret .., .ret he => List.forall_mem_singleton.2 (.ret he.optimize.1)
termination_by structural s => s

theorem wellTyped_optimizeAll : ∀ {ss : List Stmt}, (∀ s ∈ ss, s.WellTyped) →
    ∀ s ∈ (optimizeAll ss).value, s.WellTyped
  | [], _ => List.forall_mem_nil _
  | s :: ss, h => by
    rw [List.forall_mem_cons] at h
    rw [value_optimizeAll_cons, List.forall_mem_append]
    exact ⟨h.1.optimize, wellTyped_optimizeAll h.2⟩
termination_by structural ss => ss

end

/-! ### Programs -/

namespace Program

/-- **Types are kept.** An optimized expression is well typed and has the type that it had.
A well-typed program is optimized to one that is well typed at every depth, and what is
left of its statements is as it was apart from the expressions and the bodies, which are
optimized: declarations have their types and variables, assignments their targets. -/
theorem wellTyped_optimize :
    (∀ e : Expr, e.WellTyped → e.optimize.value.WellTyped ∧ e.optimize.value.ty = e.ty) ∧
    ∀ p : Program, p.WellTyped → p.optimize.value.WellTyped ∧
      (∀ s ∈ p.optimize.value.parts, s.WellTyped) ∧
      p.optimize.value.parts.Sublist (p.parts.map Stmt.kept) := by
  refine ⟨fun e he => he.optimize, fun p hp => ?_⟩
  have h : p.optimize.value.WellTyped := wellTyped_optimizeAll hp
  exact ⟨h, h.parts, parts_optimizeAll p.statements⟩

/-- A negation in disguise. -/
def negation : Expr :=
  .binary .sub (.ofLiteral (.int 0) {}) (.ofVariable ⟨"n", .int, 1⟩ {}) .int {}

/-- A program of which hardly an operator is left. -/
def reducible : Program :=
  let int (n : Int64) : Expr := .ofLiteral (.int n) {}
  let n : Variable := ⟨"n", .int, 1⟩
  let value : Expr := .ofVariable n {}
  ⟨[.decl .int n (.binary .add (int 2) (int 3) .int {}) {},
    .cond (.binary .lt (int 1) (int 2) .boolean {})
      [.decl (.array .int) ⟨"ns", .array .int, 2⟩
        (.array [negation, .binary .pow value (int 0) .int {}] (.array .int) {}) {}] none {},
    .loop .whileLoop
      (.binary .and (.ofLiteral (.boolean true) {}) (.binary .gt value (int 0) .boolean {})
        .boolean {})
      [.assign n (.binary .mul value (int 1) .int {}) {}, .assign n negation {}] {}], {}⟩

theorem wellTyped_negation : negation.WellTyped := .binary .lit .var rfl

theorem wellTyped_reducible : reducible.WellTyped := by
  have pow : (Expr.binary .pow (.ofVariable ⟨"n", .int, 1⟩ {}) (.ofLiteral (.int 0) {}) .int
      {}).WellTyped := .binary .var .lit rfl
  refine List.forall_mem_cons.2 ⟨.decl rfl (.binary .lit .lit rfl) rfl, ?_⟩
  refine List.forall_mem_cons.2 ⟨.cond (.binary .lit .lit rfl) rfl ?_ nofun, ?_⟩
  · refine List.forall_mem_singleton.2 (.decl rfl (.array ?_ ?_) rfl)
    · exact List.forall_mem_cons.2 ⟨wellTyped_negation, List.forall_mem_singleton.2 pow⟩
    · exact List.forall_mem_cons.2 ⟨rfl, List.forall_mem_singleton.2 rfl⟩
  · refine List.forall_mem_singleton.2
      (.loop (.binary .lit (.binary .var .lit rfl) rfl) rfl (List.forall_mem_cons.2 ⟨?_, ?_⟩))
    · exact .assign (.binary .var .lit rfl) rfl
    · exact List.forall_mem_singleton.2 (.assign wellTyped_negation rfl)

theorem wellTyped_optimize_reducible :
    (negation.WellTyped ∧ negation.optimize.value.WellTyped ∧
      negation.optimize.value.ty = negation.ty) ∧
    reducible.WellTyped ∧ reducible.optimize.value.WellTyped ∧
      (∀ s ∈ reducible.optimize.value.parts, s.WellTyped) ∧
      reducible.optimize.value.parts.Sublist (reducible.parts.map Stmt.kept) := by
  refine ⟨⟨wellTyped_negation, ?_⟩, wellTyped_reducible, ?_⟩
  · exact wellTyped_optimize.1 _ wellTyped_negation
  · exact wellTyped_optimize.2 _ wellTyped_reducible

end Program

end Yuyan.Typed
