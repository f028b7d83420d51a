import Yuyan.Proofs.Elaboration.Sequence
import Yuyan.Proofs.Source.Nodes

/-!
# Where an error comes from

An analysis that ends in an error ends at one check that has failed. The rules of elaboration
say nothing of it, as they are only about what is accepted, but the check is not far from
them: all that was looked at before has been accepted, and the rules hold of it.

`Source.Expr.Fails scope e err` says that `err` is the error of a failed check of the
expression `e`, apart from the expressions inside it, and `Source.Stmt.Fails` says it of a
statement. Which type the surroundings ask of an expression is not told, only that it is not
the one that the expression has. A statement is looked at in a state, and `Reaches` and
`ReachesAll` say to which statements, at any depth, an analysis comes in which states, by the
rules for the statements before them. Every error is that of a check that fails at a statement
which the analysis comes to (`exists_fails_of_elaborateAll`). What is to hold of all errors,
or of all errors of one kind, need then only be seen from the checks.
-/

namespace Yuyan

open Typed (Expr)

/-! ### Types that do not fit -/

/-- What is said of an expression with a type that its surroundings do not accept. -/
inductive Typed.Expr.Misfit (e : Expr) : AnalysisError → Prop where
  | expected {t : Ty} (ty : e.ty ≠ t) : Misfit e ⟨.typeMismatch (.expected t e.ty), e.span⟩
  | condition (ty : e.ty ≠ .boolean) : Misfit e ⟨.nonBooleanCondition e.ty, e.span⟩
  | operand {op : String} (ty : e.ty.isNumeric = false) :
      Misfit e ⟨.nonNumericOperand op e.ty, e.span⟩
  | element {t : Ty} (ty : e.ty ≠ t) : Misfit e ⟨.heterogeneousArrayElement t e.ty, e.span⟩
  | array (ty : e.ty.element? = none) : Misfit e ⟨.typeMismatch (.notAnArray e.ty), e.span⟩
  | index (ty : e.ty ≠ .int) : Misfit e ⟨.arrayIndexTypeError e.ty, e.span⟩

section Checks

variable {e : Expr} {err : AnalysisError}

theorem misfit_of_expectTy {t : Ty} (h : e.expectTy t = .error err) : e.Misfit err := by
  unfold Expr.expectTy at h
  split at h
  · cases h
  · rename_i ht
    cases h
    exact .expected fun he => ht (Ty.conforms_iff.2 he.symm)

theorem misfit_of_expectNumeric {op : String} (h : e.expectNumeric op = .error err) :
    e.Misfit err := by
  unfold Expr.expectNumeric at h
  split at h
  · cases h
  · rename_i ht
    cases h
    exact .operand (Bool.eq_false_iff.2 ht)

theorem misfit_of_expectCondition (h : e.expectCondition = .error err) : e.Misfit err := by
  unfold Expr.expectCondition at h
  split at h
  · cases h
  · rename_i ht
    cases h
    exact .condition fun he => ht (Ty.isBoolean_iff.2 he)

theorem misfit_of_elementTy (h : e.elementTy = .error err) : e.Misfit err := by
  unfold Expr.elementTy at h
  split at h
  · cases h
  · rename_i ht
    cases h
    exact .array ht

theorem misfit_of_expectIndex (h : e.expectIndex = .error err) : e.Misfit err := by
  unfold Expr.expectIndex at h
  split at h
  · cases h
  · rename_i ht
    cases h
    exact .index ht

theorem UnOp.misfit_of_resultTy {op : UnOp} (h : op.resultTy e = .error err) : e.Misfit err := by
  cases op with
  | neg =>
    rcases bind_eq_error_iff.1 h with h | ⟨_, -, h⟩
    · exact misfit_of_expectNumeric h
    · cases h
  | not =>
    rcases bind_eq_error_iff.1 h with h | ⟨_, -, h⟩
    · exact misfit_of_expectTy h
    · cases h

/-- What is said of two operands with types that do not go together. -/
inductive BinOp.Mismatched (op : BinOp) (t u : Ty) : Mismatch → Prop where
  | incomparable (isEquality : op.isEquality = true) (ty : t ≠ u) :
      Mismatched op t u (.incomparable t u)
  | mixedOperands (ty : t ≠ u) : Mismatched op t u (.mixedOperands op t u)

/-- An operator rejects its two operands together, or one of them if it is not an equality. -/
theorem BinOp.mismatched_of_resultTy {op : BinOp} {l r : Expr} {s : Span}
    (h : op.resultTy l r s = .error err) :
    (∃ m, op.Mismatched l.ty r.ty m ∧ err = ⟨.typeMismatch m, s⟩) ∨
      op.isEquality = false ∧ (l.Misfit err ∨ r.Misfit err) := by
  unfold resultTy at h
  split at h
  · rename_i hop
    split at h
    · cases h
    · rename_i ht
      cases h
      exact .inl ⟨_, .incomparable hop fun he => ht (Ty.conforms_iff.2 he), rfl⟩
  rename_i hop
  have notEquality : op.isEquality = false := Bool.eq_false_iff.2 hop
  split at h
  · rcases bind_eq_error_iff.1 h with h | ⟨_, -, h⟩
    · exact .inr ⟨notEquality, .inl (misfit_of_expectTy h)⟩
    rcases bind_eq_error_iff.1 h with h | ⟨_, -, h⟩
    · exact .inr ⟨notEquality, .inr (misfit_of_expectTy h)⟩
    · cases h
  · rcases bind_eq_error_iff.1 h with h | ⟨_, -, h⟩
    · exact .inr ⟨notEquality, .inl (misfit_of_expectNumeric h)⟩
    rcases bind_eq_error_iff.1 h with h | ⟨_, -, h⟩
    · exact .inr ⟨notEquality, .inr (misfit_of_expectNumeric h)⟩
    split at h
    · cases h
    · rename_i ht
      cases h
      exact .inl ⟨_, .mixedOperands fun he => ht (Ty.conforms_iff.2 he), rfl⟩

end Checks

/-! ### Expressions -/

namespace Source

/-- A check of the expression, apart from those inside it, fails where only the variables of
`scope` are visible. -/
inductive Expr.Fails (scope : Scope) : Expr → AnalysisError → Prop where
  | name {x : String} {s : Span} (hidden : scope.lookup? x = none) :
      Fails scope (.name x s) ⟨.undeclaredIdentifier x, s⟩
  /-- The expression has a type, which its surroundings do not accept. -/
  | misfit {e : Expr} {x : Option Ty} {e' : Typed.Expr} {err : AnalysisError}
      (typed : Elaborates scope x e e') (misfit : e'.Misfit err) : Fails scope e err
  /-- The operands have types, which do not go together. A text beside a character stands for
  a character. -/
  | operands {op : BinOp} {l r : Expr} {s : Span} {x y : Option Ty} {l₀ l' r' : Typed.Expr}
      {m : Mismatch} (left : Elaborates scope x l l₀) (same : l' = l₀ ∨ l' = l₀.asChar)
      (right : Elaborates scope y r r') (mismatched : op.Mismatched l'.ty r'.ty m) :
      Fails scope (.binary op l r s) ⟨.typeMismatch m, s⟩
  | emptyArray {s : Span} : Fails scope (.array [] s) ⟨.typeMismatch .unknownElement, s⟩
  | index {a i : Expr} {s : Span} {a' i' : Typed.Expr} {err : AnalysisError}
      (array : Elaborates scope none a a') (index : Elaborates scope none i i')
      (outOfRange : checkIndex a' i' = .error err) : Fails scope (.index a i s) err

/-- A check of one of the expressions fails. -/
def FailsAmong (scope : Scope) (ns : List Expr) (err : AnalysisError) : Prop :=
  ∃ n ∈ ns, n.Fails scope err

section FailsAmong

variable {scope : Scope} {e n : Expr} {ns ms : List Expr} {err : AnalysisError}

theorem Expr.Fails.here (h : n.Fails scope err) : FailsAmong scope (n :: ns) err :=
  ⟨n, List.mem_cons_self, h⟩

theorem Expr.Fails.inside (h : e.Fails scope err) : FailsAmong scope e.nodes err :=
  ⟨e, e.mem_nodes_self, h⟩

theorem FailsAmong.cons (h : FailsAmong scope ns err) : FailsAmong scope (n :: ns) err := by
  obtain ⟨m, hm, hf⟩ := h
  exact ⟨m, List.mem_cons_of_mem n hm, hf⟩

theorem FailsAmong.left (h : FailsAmong scope ns err) : FailsAmong scope (ns ++ ms) err := by
  obtain ⟨m, hm, hf⟩ := h
  exact ⟨m, List.mem_append_left ms hm, hf⟩

theorem FailsAmong.right (h : FailsAmong scope ms err) : FailsAmong scope (ns ++ ms) err := by
  obtain ⟨m, hm, hf⟩ := h
  exact ⟨m, List.mem_append_right ns hm, hf⟩

end FailsAmong

section Operators

variable {scope : Scope} {op : BinOp} {l r : Expr} {s : Span} {x y : Option Ty}
  {l₀ l' r' : Typed.Expr} {err : AnalysisError}

/-- Two operands are rejected together, or one of them is. -/
theorem failsAmong_of_resultTy (hl : Elaborates scope x l l') (hr : Elaborates scope y r r')
    (h : op.resultTy l' r' s = .error err) : FailsAmong scope (Expr.binary op l r s).nodes err := by
  rcases BinOp.mismatched_of_resultTy h with ⟨m, hm, rfl⟩ | ⟨-, hm | hm⟩
  · exact (Expr.Fails.operands hl (.inl rfl) hr hm).here
  · exact (Expr.Fails.misfit hl hm).inside.left.cons
  · exact (Expr.Fails.misfit hr hm).inside.right.cons

/-- The sides of an equality are only rejected together, also if the left one was made a
character. -/
theorem failsAmong_of_equality (hop : op.isEquality = true) (hl : Elaborates scope x l l₀)
    (same : l' = l₀ ∨ l' = l₀.asChar) (hr : Elaborates scope y r r')
    (h : op.resultTy l' r' s = .error err) : FailsAmong scope (Expr.binary op l r s).nodes err := by
  rcases BinOp.mismatched_of_resultTy h with ⟨m, hm, rfl⟩ | ⟨hne, -⟩
  · exact (Expr.Fails.operands hl same hr hm).here
  · rw [hop] at hne
    cases hne

end Operators

variable {scope : Scope}

mutual

/-- An expression is rejected because a check of one of its nodes fails. -/
theorem Expr.failsAmong_of_elaborate : ∀ {e : Expr} {x : Option Ty} {err : AnalysisError},
    e.elaborate scope x = .error err → FailsAmong scope e.nodes err
  | .int .., _, _, h | .float .., _, _, h | .bool .., _, _, h | .char .., _, _, h
  | .string .., _, _, h => nomatch h
  | .name n s, _, err, h => by
    rcases bind_eq_error_iff.1 h with h | ⟨_, -, h⟩
    · obtain ⟨hn, rfl⟩ := Scope.resolve_eq_error_iff.1 h
      exact (Expr.Fails.name hn).here
    · cases h
  | .paren e s, _, err, h => (Expr.failsAmong_of_elaborate (e := e) h).cons
  | .unary op e s, _, err, h => by
    rcases bind_eq_error_iff.1 h with h | ⟨e', he, h⟩
    · exact (Expr.failsAmong_of_elaborate h).cons
    rcases bind_eq_error_iff.1 h with h | ⟨_, -, h⟩
    · have hm := UnOp.misfit_of_resultTy h
      exact (Expr.Fails.misfit (elaborate_eq_ok_iff.1 he) hm).inside.cons
    · cases h
  | .binary op l r s, _, err, h => by
    rw [Expr.elaborate] at h
    split at h
    · rename_i hop
      split at h
      · rcases bind_eq_error_iff.1 h with h | ⟨r', hr, h⟩
        · exact (Expr.failsAmong_of_elaborate h).right.cons
        rcases bind_eq_error_iff.1 h with h | ⟨l', hl, h⟩
        · exact (Expr.failsAmong_of_elaborate h).left.cons
        rcases bind_eq_error_iff.1 h with h | ⟨_, -, h⟩
        · exact failsAmong_of_equality hop (elaborate_eq_ok_iff.1 hl) (.inl rfl)
            (elaborate_eq_ok_iff.1 hr) h
        · cases h
      · rcases bind_eq_error_iff.1 h with h | ⟨l', hl, h⟩
        · exact (Expr.failsAmong_of_elaborate h).left.cons
        rcases bind_eq_error_iff.1 h with h | ⟨r', hr, h⟩
        · exact (Expr.failsAmong_of_elaborate h).right.cons
        rcases bind_eq_error_iff.1 h with h | ⟨_, -, h⟩
        · refine failsAmong_of_equality hop (elaborate_eq_ok_iff.1 hl) ?_
            (elaborate_eq_ok_iff.1 hr) h
          split
          · exact .inr rfl
          · exact .inl rfl
        · cases h
    · rcases bind_eq_error_iff.1 h with h | ⟨l', hl, h⟩
      · exact (Expr.failsAmong_of_elaborate h).left.cons
      rcases bind_eq_error_iff.1 h with h | ⟨r', hr, h⟩
      · exact (Expr.failsAmong_of_elaborate h).right.cons
      rcases bind_eq_error_iff.1 h with h | ⟨_, -, h⟩
      · exact failsAmong_of_resultTy (elaborate_eq_ok_iff.1 hl) (elaborate_eq_ok_iff.1 hr) h
      · cases h
  | .array [] s, _, err, h => by
    rw [Expr.elaborate] at h
    split at h
    · cases h
    · cases h
      exact Expr.Fails.emptyArray.here
  | .array (e :: es) s, _, err, h => by
    rcases bind_eq_error_iff.1 h with h | ⟨_, -, h⟩
    · exact (Expr.failsAmong_of_elaborate h).left.cons
    rcases bind_eq_error_iff.1 h with h | ⟨_, -, h⟩
    · exact (failsAmong_of_elaborateElements h).right.cons
    · cases h
  | .index a i s, _, err, h => by
    rcases bind_eq_error_iff.1 h with h | ⟨a', ha, h⟩
    · exact (Expr.failsAmong_of_elaborate h).left.cons
    have ha := elaborate_eq_ok_iff.1 ha
    rcases bind_eq_error_iff.1 h with h | ⟨_, -, h⟩
    · exact (Expr.Fails.misfit ha (misfit_of_elementTy h)).inside.left.cons
    rcases bind_eq_error_iff.1 h with h | ⟨i', hi, h⟩
    · exact (Expr.failsAmong_of_elaborate h).right.cons
    have hi := elaborate_eq_ok_iff.1 hi
    rcases bind_eq_error_iff.1 h with h | ⟨_, -, h⟩
    · exact (Expr.Fails.misfit hi (misfit_of_expectIndex h)).inside.right.cons
    rcases bind_eq_error_iff.1 h with h | ⟨_, -, h⟩
    · exact (Expr.Fails.index ha hi h).here
    · cases h
termination_by structural e => e

theorem failsAmong_of_elaborateElements : ∀ {es : List Expr} {t : Ty} {err : AnalysisError},
    elaborateElements scope es t = .error err → FailsAmong scope (nodesOfElements es) err
  | [], _, _, h => nomatch h
  | e :: es, t, err, h => by
    rcases bind_eq_error_iff.1 h with h | ⟨e', he, h⟩
    · exact (Expr.failsAmong_of_elaborate h).left
    split at h
    · rcases bind_eq_error_iff.1 h with h | ⟨_, -, h⟩
      · exact (failsAmong_of_elaborateElements h).right
      · cases h
    · rename_i ht
      cases h
      have hm : e'.ty ≠ t := fun hty => ht (Ty.conforms_iff.2 hty.symm)
      exact (Expr.Fails.misfit (elaborate_eq_ok_iff.1 he) (.element hm)).inside.left
termination_by structural es => es

end

/-! ### Statements -/

/-- An expression that is checked once more as a whole is rejected because a check of one of
its nodes fails. -/
theorem failsAmong_of_checked {e : Expr} {x : Option Ty}
    {check : Typed.Expr → Except AnalysisError Unit} {err : AnalysisError}
    (misfit : ∀ {e'}, check e' = .error err → e'.Misfit err)
    (h : (do let e' ← e.elaborate scope x; check e'; return e') = .error err) :
    FailsAmong scope e.nodes err := by
  rcases bind_eq_error_iff.1 h with h | ⟨e', he, h⟩
  · exact Expr.failsAmong_of_elaborate h
  rcases bind_eq_error_iff.1 h with h | ⟨_, -, h⟩
  · exact (Expr.Fails.misfit (elaborate_eq_ok_iff.1 he) (misfit h)).inside
  · cases h

theorem failsAmong_of_elaborateTest {e : Expr} {err : AnalysisError}
    (h : e.elaborateTest scope = .error err) : FailsAmong scope e.nodes err :=
  failsAmong_of_checked misfit_of_expectCondition h

theorem failsAmong_of_elaborateValue {e : Expr} {t : Ty} {err : AnalysisError}
    (h : e.elaborateValue t scope = .error err) : FailsAmong scope e.nodes err :=
  failsAmong_of_checked misfit_of_expectTy h

/-- A check at the statement fails, outside of its bodies, in the state `c`. -/
inductive Stmt.Fails (c : Context) : Stmt → AnalysisError → Prop where
  /-- The check is one of the expression that the statement has of its own. -/
  | inside {s : Stmt} {e : Expr} {err : AnalysisError} (own : s.own? = some e)
      (fails : FailsAmong c.scope e.nodes err) : Fails c s err
  | redeclared {written : TyExpr} {target : Ident} {e : Expr} {s : Span}
      (visible : c.scope.isVisible target.name = true) :
      Fails c (.decl written target e s) ⟨.duplicateDeclaration target.name, target.span⟩
  | undeclared {target : Ident} {e : Expr} {s : Span}
      (hidden : c.scope.lookup? target.name = none) :
      Fails c (.assign target e s) ⟨.undeclaredIdentifier target.name, target.span⟩
  | misplaced {e : Expr} {s : Span} (outside : c.scope.isRoot = true) :
      Fails c (.ret e s) ⟨.misplacedReturn, s⟩

end Source

mutual

/-- The analysis of a statement from the state `c` comes, in the state `c'`, to the statement
itself or to one in its bodies. -/
inductive Reaches : Context → Source.Stmt → Context → Source.Stmt → Prop where
  | self {c : Context} {s : Source.Stmt} : Reaches c s c s
  | loop {c c' : Context} {kind : Loop} {e : Source.Expr} {e' : Expr} {ss : List Source.Stmt}
      {b s : Span} {t : Source.Stmt} (test : Elaborates c.scope none e e')
      (ty : e'.ty = .boolean) (body : ReachesAll c.enter ss c' t) :
      Reaches c (.loop kind e (.mk ss b) s) c' t
  | consequent {c c' : Context} {e : Source.Expr} {e' : Expr} {ss : List Source.Stmt}
      {alternate : Option Source.Block} {b s : Span} {t : Source.Stmt}
      (test : Elaborates c.scope none e e') (ty : e'.ty = .boolean)
      (consequent : ReachesAll c.enter ss c' t) :
      Reaches c (.cond e (.mk ss b) alternate s) c' t
  | alternate {c c' : Context} {e : Source.Expr} {e' : Expr} {ss us : List Source.Stmt}
      {ss' : List Typed.Stmt} {b₁ b₂ s : Span} {t : Source.Stmt}
      (test : Elaborates c.scope none e e') (ty : e'.ty = .boolean)
      (consequent : ElaboratesAll c.enter ss ss')
      (alternate : ReachesAll (c.afterBody ss').enter us c' t) :
      Reaches c (.cond e (.mk ss b₁) (some (.mk us b₂)) s) c' t

/-- The analysis of statements in order comes to one of them, or to one in their bodies. Those
before it have been accepted. -/
inductive ReachesAll : Context → List Source.Stmt → Context → Source.Stmt → Prop where
  | head {c c' : Context} {s t : Source.Stmt} {ss : List Source.Stmt} (head : Reaches c s c' t) :
      ReachesAll c (s :: ss) c' t
  | tail {c c' : Context} {s t : Source.Stmt} {s' : Typed.Stmt} {ss : List Source.Stmt}
      (head : ElaboratesStmt c s s') (tail : ReachesAll (c.after s') ss c' t) :
      ReachesAll c (s :: ss) c' t

end

namespace Source

open Analysis (result_bind_eq_error)

mutual

/-- A statement is rejected because a check fails at a statement which the analysis comes to. -/
theorem exists_fails_of_elaborate : ∀ {s : Stmt} {c : Context} {err : AnalysisError},
    (s.elaborate c).result = .error err → ∃ c' t, Reaches c s c' t ∧ t.Fails c' err
  | .decl written target e s, c, err, h => by
    rcases result_bind_eq_error.1 h with h | ⟨e', _, ⟨-, rfl⟩, h⟩
    · exact ⟨c, _, .self, .inside rfl (failsAmong_of_elaborateValue h)⟩
    rcases result_bind_eq_error.1 h with h | ⟨_, _, -, h⟩
    · obtain ⟨hv, rfl⟩ := Analysis.result_declare_eq_error.1 h
      exact ⟨c, _, .self, .redeclared hv⟩
    · cases h
  | .assign target e s, c, err, h => by
    rcases bind_eq_error_iff.1 h with h | ⟨x, -, h⟩
    · obtain ⟨hx, rfl⟩ := Scope.resolve_eq_error_iff.1 h
      exact ⟨c, _, .self, .undeclared hx⟩
    rcases bind_eq_error_iff.1 h with h | ⟨_, -, h⟩
    · exact ⟨c, _, .self, .inside rfl (failsAmong_of_elaborateValue h)⟩
    · cases h
  | .print e s, c, err, h => by
    rcases bind_eq_error_iff.1 h with h | ⟨_, -, h⟩
    · exact ⟨c, _, .self, .inside rfl (Expr.failsAmong_of_elaborate h)⟩
    · cases h
  | .loop kind test (.mk ss b) s, c, err, h => by
    rcases result_bind_eq_error.1 h with h | ⟨e', _, ⟨he, rfl⟩, h⟩
    · exact ⟨c, _, .self, .inside rfl (failsAmong_of_elaborateTest h)⟩
    obtain ⟨he, ht⟩ := elaborateTest_eq_ok_iff.1 he
    rcases result_bind_eq_error.1 h with h | ⟨_, _, -, h⟩
    · obtain ⟨c', t, hr, hf⟩ := exists_fails_of_elaborateBody h
      exact ⟨c', t, .loop he ht hr, hf⟩
    · cases h
  | .cond test (.mk ss b) none s, c, err, h => by
    rcases result_bind_eq_error.1 h with h | ⟨e', _, ⟨he, rfl⟩, h⟩
    · exact ⟨c, _, .self, .inside rfl (failsAmong_of_elaborateTest h)⟩
    obtain ⟨he, ht⟩ := elaborateTest_eq_ok_iff.1 he
    rcases result_bind_eq_error.1 h with h | ⟨_, _, -, h⟩
    · obtain ⟨c', t, hr, hf⟩ := exists_fails_of_elaborateBody h
      exact ⟨c', t, .consequent he ht hr, hf⟩
    · cases h
  | .cond test (.mk ss b₁) (some (.mk us b₂)) s, c, err, h => by
    rcases result_bind_eq_error.1 h with h | ⟨e', _, ⟨he, rfl⟩, h⟩
    · exact ⟨c, _, .self, .inside rfl (failsAmong_of_elaborateTest h)⟩
    obtain ⟨he, ht⟩ := elaborateTest_eq_ok_iff.1 he
    rcases result_bind_eq_error.1 h with h | ⟨ss', _, gives, h⟩
    · obtain ⟨c', t, hr, hf⟩ := exists_fails_of_elaborateBody h
      exact ⟨c', t, .consequent he ht hr, hf⟩
    obtain ⟨hss, rfl⟩ := gives_elaborateBody.1 gives
    rcases result_bind_eq_error.1 h with h | ⟨_, _, -, h⟩
    · obtain ⟨c', t, hr, hf⟩ := exists_fails_of_elaborateBody h
      exact ⟨c', t, .alternate he ht hss hr, hf⟩
    · cases h
  | .skip s, c, err, h => nomatch h
  | .ret e s, c, err, h => by
    rw [Stmt.elaborate, Analysis.reading_apply] at h
    split at h
    · rename_i hr
      cases h
      exact ⟨c, _, .self, .misplaced hr⟩
    · rcases bind_eq_error_iff.1 h with h | ⟨_, -, h⟩
      · exact ⟨c, _, .self, .inside rfl (Expr.failsAmong_of_elaborate h)⟩
      · cases h
termination_by structural s => s

theorem exists_fails_of_elaborateBody : ∀ {b : Block} {c : Context} {err : AnalysisError},
    (b.elaborate c).result = .error err →
      ∃ c' t, ReachesAll c.enter b.statements c' t ∧ t.Fails c' err
  | .mk ss _, c, _, h => @exists_fails_of_elaborateAll ss c.enter _ h
termination_by structural b => b

/-- **Statements are rejected because a check fails at a statement**, one of them or one in
their bodies, which the analysis comes to. -/
theorem exists_fails_of_elaborateAll : ∀ {ss : List Stmt} {c : Context} {err : AnalysisError},
    (elaborateAll ss c).result = .error err → ∃ c' t, ReachesAll c ss c' t ∧ t.Fails c' err
  | [], _, _, h => nomatch h
  | s :: ss, c, err, h => by
    rcases result_bind_eq_error.1 h with h | ⟨s', _, gives, h⟩
    · obtain ⟨c', t, hr, hf⟩ := exists_fails_of_elaborate h
      exact ⟨c', t, .head hr, hf⟩
    obtain ⟨hs, rfl⟩ := gives_elaborate.1 gives
    rcases result_bind_eq_error.1 h with h | ⟨_, _, -, h⟩
    · obtain ⟨c', t, hr, hf⟩ := exists_fails_of_elaborateAll h
      exact ⟨c', t, .tail hs hr, hf⟩
    · cases h
termination_by structural ss => ss

end

end Source

end Yuyan
