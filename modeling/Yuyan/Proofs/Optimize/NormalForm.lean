import Yuyan.Proofs.Optimize.Constants
import Yuyan.Proofs.Optimize.Size
import Yuyan.Proofs.Optimize.Types

/-!
# Normal form

What is never found in an optimized program, said of the program alone. No operator stands on
literals of which it computes something, and none stands beside a literal that decides it or
changes nothing (`Expr.Irreducible`). No test of a choice is a truth value, and no variable is
assigned to itself (`Stmt.Irreducible`).

One pass from the leaves up gets there. An operator is looked at when its operands are
irreducible already, and so is anything it can come to, with one exception: the operator may be
kept. Then no identity applied to it, for the only thing that can keep an identity from being
used is a type, and in a well-typed program the types agree (`events_applyIdentity_ne_nil`). That
an operator which is still there was not rewritten follows from its size, as each rewrite makes
an expression smaller.

Statements need no types. A choice that is kept has a test that is no truth value, and what
takes the place of any other choice is a branch that was optimized before.
-/

namespace Yuyan

/-! ### Literals beside an operator -/

namespace BinOp

/-- The literals that an operator does not keep on its left, unless there is one on its right. -/
def dropsLeft : BinOp → Literal → Bool
  | and, a => a.bool? == some true
  | or, a => a.bool? == some false
  | add, a | sub, a | div, a => a.isZero
  | mul, a => a.isZero || a.isOne
  | pow, a => a.isOne
  | _, _ => false

/-- The literals that an operator does not keep on its right, unless there is one on its left. -/
def dropsRight : BinOp → Literal → Bool
  | and, b => b.bool? == some true
  | or, b => b.bool? == some false
  | add, b | sub, b | pow, b => b.isZero
  | mul, b => b.isZero || b.isOne
  | div, b => b.isOne
  | _, _ => false

variable {op : BinOp} {a b : Literal}

/-- Where no identity applies, the literal on the left is one that the operator keeps. -/
theorem dropsLeft_of_identity (h : op.identity (some a) none = .keep) : op.dropsLeft a = false := by
  cases op with
  | mul =>
    rw [dropsLeft, Bool.or_eq_false_iff]
    by_cases one : a.isOne <;> by_cases zero : a.isZero <;> simp_all [identity]
  | _ => simp_all [identity, dropsLeft]

/-- Where no identity applies, the literal on the right is one that the operator keeps. -/
theorem dropsRight_of_identity (h : op.identity none (some b) = .keep) :
    op.dropsRight b = false := by
  cases op with
  | mul =>
    rw [dropsRight, Bool.or_eq_false_iff]
    by_cases one : b.isOne <;> by_cases zero : b.isZero <;> simp_all [identity]
  | _ => simp_all [identity, dropsRight]

/-- No identity is about a comparison. -/
theorem isComparison_of_identity {l r : Option Literal} (h : op.identity l r ≠ .keep) :
    op.isComparison = false := by
  cases op <;> first | rfl | exact absurd rfl h

/-- An operator that does not compare gives what it is given. -/
theorem ty_eq_of_ty? {t u w : Ty} (hc : op.isComparison = false) (h : op.ty? t u = some w) :
    t = w ∧ u = w := by
  obtain ⟨he, ho⟩ := Bool.or_eq_false_iff.1 hc
  rw [ty?, he, ho, if_neg Bool.false_ne_true] at h
  split at h
  · split at h
    · rename_i ht
      cases h
      exact ht
    · cases h
  · split at h
    · rename_i ht
      cases h
      exact ⟨rfl, ht.2.symm⟩
    · cases h

end BinOp

namespace Typed

/-! ### Irreducible trees -/

/-- No rewrite applies to the expression itself: an operator that stands on literals computes
nothing of them, and one beside a single literal keeps it. -/
def Expr.Irreducible : Expr → Prop
  | .unary op e _ _ => ∀ a, e.literal? = some a → op.eval? a = none
  | .binary op l r _ _ =>
    (∀ a b, l.literal? = some a → r.literal? = some b → op.eval? a b = none) ∧
    (∀ a, l.literal? = some a → r.literal? = none → op.dropsLeft a = false) ∧
    (∀ b, l.literal? = none → r.literal? = some b → op.dropsRight b = false)
  | _ => True

/-- The statement itself does not make way: a test is no truth value, and the source of an
assignment is not a reference to its target. -/
def Stmt.Irreducible : Stmt → Prop
  | .cond test _ _ _ => ∀ b, test.literal? ≠ some (.boolean b)
  | .assign x e _ => e.target? ≠ some x
  | _ => True

/-- No rewrite applies to any expression or statement of a program, at any depth. -/
structure Program.Normal (p : Program) : Prop where
  expressions : ∀ e ∈ p.expressions, e.Irreducible
  statements : ∀ s ∈ p.parts, s.Irreducible

/-! ### Expressions -/

namespace Expr

variable {op : BinOp} {l r e : Expr} {t : Ty} {s : Span}

/-- If the types are right, an identity that applies is used. -/
theorem events_applyIdentity_ne_nil (ht : op.ty? l.ty r.ty = some t)
    (h : op.identity l.literal? r.literal? ≠ .keep) : (applyIdentity op l r t s).events ≠ [] := by
  obtain ⟨hl, hr⟩ := BinOp.ty_eq_of_ty? (BinOp.isComparison_of_identity h) ht
  have number (hd : op.identity l.literal? r.literal? = .becomeZero ∨
      op.identity l.literal? r.literal? = .becomeOne) : t = .int ∨ t = .float := by
    obtain ⟨hc, hb⟩ := Identity.isArithmetic_of_decides hd
    exact Ty.isNumeric_iff.1 (BinOp.isNumeric_of_ty? hc hb ht)
  unfold applyIdentity
  split
  · rename_i hi
    exact absurd hi h
  · simp [hl]
  · simp [hr]
  · simp [hr]
  · rename_i hi
    obtain rfl | rfl := number (.inl hi) <;> simp [Literal.zero?, collapse]
  · rename_i hi
    obtain rfl | rfl := number (.inr hi) <;> simp [Literal.one?, collapse]

/-- An operator that was not rewritten is irreducible, if its type is the right one. -/
theorem irreducible_of_events (ht : op.ty? l.ty r.ty = some t)
    (h : (reduceBinary op l r t s).events = []) : (binary op l r t s).Irreducible := by
  have keep (apart : ∀ a b, l.literal? = some a → r.literal? ≠ some b) :
      op.identity l.literal? r.literal? = .keep := by
    rw [reduceBinary_of_not_literals apart] at h
    exact Decidable.byContradiction fun hi => events_applyIdentity_ne_nil ht hi h
  refine ⟨fun a b ha hb => ?_, fun a ha hb => ?_, fun b ha hb => ?_⟩
  · rw [reduceBinary, ha, hb] at h
    cases hv : op.eval? a b with
    | none => rfl
    | some v => simp [hv] at h
  · have keep := keep (by simp [hb])
    rw [ha, hb] at keep
    exact BinOp.dropsLeft_of_identity keep
  · have keep := keep (by simp [ha])
    rw [ha, hb] at keep
    exact BinOp.dropsRight_of_identity keep

/-- An operator that is still there is irreducible: rewritten, it would be smaller. -/
theorem irreducible_of_kept (ht : op.ty? l.ty r.ty = some t)
    (h : (reduceBinary op l r t s).value = binary op l r t s) :
    (binary op l r t s).Irreducible := by
  have smaller := (shrinks_reduceBinary op l r t s).size_le
  rw [h] at smaller
  exact irreducible_of_events ht (List.eq_nil_of_length_eq_zero (by omega))

theorem irreducible_reduceUnary {op : UnOp} (he : ∀ n ∈ e.nodes, n.Irreducible) :
    ∀ n ∈ (reduceUnary op e t s).value.nodes, n.Irreducible := by
  have kept (h : ∀ a, e.literal? = some a → op.eval? a = none) :
      ∀ n ∈ (unary op e t s).nodes, n.Irreducible := List.forall_mem_cons.2 ⟨h, he⟩
  unfold reduceUnary
  split
  · rename_i a ha
    split
    · exact List.forall_mem_singleton.2 trivial
    · rename_i hv
      refine kept fun b hb => ?_
      rw [ha, Option.some.injEq] at hb
      rwa [← hb]
  · rename_i ha
    exact kept (by simp [ha])

theorem irreducible_reduceBinary (ht : op.ty? l.ty r.ty = some t)
    (hl : ∀ n ∈ l.nodes, n.Irreducible) (hr : ∀ n ∈ r.nodes, n.Irreducible) :
    ∀ n ∈ (reduceBinary op l r t s).value.nodes, n.Irreducible := by
  have rewritten := rewritten_reduceBinary op l r t s
  have kept := irreducible_of_kept (s := s) ht
  generalize (reduceBinary op l r t s).value = e at rewritten kept
  cases rewritten with
  | kept =>
    rw [nodes, List.forall_mem_cons, List.forall_mem_append]
    exact ⟨kept rfl, hl, hr⟩
  | left => exact hl
  | right => exact hr
  | negated _ hn => exact List.forall_mem_cons.2 ⟨by simp [Irreducible, hn], hr⟩
  | folded | zero | one => exact List.forall_mem_singleton.2 trivial

/-- Every node of an optimized expression is irreducible. -/
theorem WellTyped.irreducible (h : e.WellTyped) :
    ∀ n ∈ e.optimize.value.nodes, n.Irreducible := by
  induction h with
  | lit | var => exact List.forall_mem_singleton.2 trivial
  | unary _ _ ih => exact irreducible_reduceUnary ih
  | @binary op l r t s hl hr ht ihl ihr =>
    rw [BinOp.resultTy_eq_ok_iff, ← hl.optimize.2, ← hr.optimize.2] at ht
    exact irreducible_reduceBinary ht ihl ihr
  | array _ _ ih =>
    rw [value_optimize_array, Expr.nodes, List.forall_mem_cons, forall_mem_nodesOfAll,
      List.forall_mem_map]
    exact ⟨trivial, ih⟩
  | index _ _ _ _ iha ihi =>
    rw [value_optimize_index, Expr.nodes, List.forall_mem_cons, List.forall_mem_append]
    exact ⟨trivial, iha, ihi⟩

end Expr

/-! ### Statements -/

namespace Stmt

/-- The own expression of a well-typed statement is well typed. -/
theorem WellTyped.own? {s : Stmt} {e : Expr} (h : s.WellTyped) (he : s.own? = some e) :
    e.WellTyped := by
  cases h <;> cases he <;> assumption

/-- An assignment of a variable to itself is removed. -/
theorem value_optimize_assign_of_target? {x : Variable} {e : Expr}
    (h : e.optimize.value.target? = some x) (s : Span) : (assign x e s).optimize.value = [] := by
  rw [value_optimize_assign]
  cases he : e.optimize.value with
  | var y t s' =>
    obtain rfl : y = x := by simpa [he, Expr.target?] using h
    simp [reduceAssign]
  | _ => simp [he, Expr.target?] at h

end Stmt

theorem forall_mem_partsOfAll_optimizeAll {P : Stmt → Prop} {ss : List Stmt} :
    (∀ s' ∈ partsOfAll (optimizeAll ss).value, P s') ↔
      ∀ s ∈ ss, ∀ s' ∈ partsOfAll s.optimize.value, P s' := by
  induction ss with
  | nil => simp [optimizeAll, partsOfAll]
  | cons s ss ih =>
    rw [value_optimizeAll_cons, partsOfAll_append, List.forall_mem_append, ih, List.forall_mem_cons]

/-- Every statement that an optimized statement comes to is irreducible, at all depths. -/
theorem Stmt.irreducible_optimize (s : Stmt) :
    ∀ s' ∈ partsOfAll s.optimize.value, s'.Irreducible := by
  induction s with
  | decl | print | skip | ret => exact List.forall_mem_singleton.2 trivial
  | assign x e s =>
    by_cases h : e.optimize.value.target? = some x
    · rw [value_optimize_assign_of_target? h]
      exact List.forall_mem_nil _
    · rcases optimize_assign_cases x e s with ⟨_, _, he, -⟩ | hk
      · simp [he, Expr.target?] at h
      · rw [hk]
        exact List.forall_mem_singleton.2 h
  | loop kind test ss s ih =>
    rw [value_optimize_loop, partsOfAll_singleton, parts, List.forall_mem_cons]
    exact ⟨trivial, forall_mem_partsOfAll_optimizeAll.2 ih⟩
  | cond test c a s ihc iha =>
    by_cases h : ∃ b, test.optimize.value.literal? = some (.boolean b)
    · obtain ⟨b, hb⟩ := h
      rw [value_optimize_cond_of_known hb]
      cases b with
      | true => exact forall_mem_partsOfAll_optimizeAll.2 ihc
      | false => exact forall_mem_partsOfAll_optimizeAll.2 iha
    · rw [not_exists] at h
      rcases optimize_cond_cases test c a s with ⟨ht, -⟩ | ⟨ht, -⟩ | hk
      · exact absurd ht (h true)
      · exact absurd ht (h false)
      · rw [hk, partsOfAll_singleton, kept, parts_cond, getD_map_optimizeAll, List.forall_mem_cons,
          List.forall_mem_append]
        exact ⟨h, forall_mem_partsOfAll_optimizeAll.2 ihc, forall_mem_partsOfAll_optimizeAll.2 iha⟩

/-! ### Programs -/

namespace Program

/-- **An optimized program is in normal form.** -/
theorem normal_optimize {p : Program} (h : p.WellTyped) : p.optimize.value.Normal where
  expressions := by
    intro n hn
    obtain ⟨s, hs, e, he, hn⟩ := exists_own?_of_mem_optimizeAll hn
    exact ((h.parts s hs).own? he).irreducible n hn
  statements := forall_mem_partsOfAll_optimizeAll.2 fun s _ => s.irreducible_optimize

/-- The sum `2 + 3`, among others, keeps a program from being in normal form before. -/
theorem normal_optimize_reducible :
    reducible.WellTyped ∧ ¬ reducible.Normal ∧ reducible.optimize.value.Normal := by
  refine ⟨wellTyped_reducible, fun h => ?_, normal_optimize wellTyped_reducible⟩
  have sum : (Expr.binary .add (.ofLiteral (.int 2) {}) (.ofLiteral (.int 3) {}) .int
      {}).Irreducible := h.expressions _ List.mem_cons_self
  exact absurd (sum.1 (.int 2) (.int 3) rfl rfl) (by decide)

end Program

end Typed

end Yuyan
