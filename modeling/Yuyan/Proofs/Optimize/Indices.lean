import Yuyan.Compile
import Yuyan.Proofs.Elaboration.WellFormed
import Yuyan.Proofs.Optimize.Constants
import Yuyan.Proofs.Optimize.Types

/-!
# Indices of compiled programs

The analysis checks an index that is known beforehand. The optimizer does not check any, and
it may come to know an index that the analysis did not: in `n * 0 + 2` the value of `n` does
not matter. Such an index can be out of range in the optimized program although the program
was accepted (`not_inRange_pastEnd`).

There is no other way to it. An index that is left is what became of an index of the
program, and so is the array (`Expr.exists_of_index_mem_optimize`); the array is written out
only if it was, with as many elements; and the index is known only if it was known and has
been checked, or one operand in it decided the result of an operator by itself
(`inRange_of_compile`).

What the analysis did know stays what it was: the optimizer makes a literal of it, and of an
index the literal that the analysis has checked (`optimize_of_constant?`).
-/

namespace Yuyan

namespace Typed

/-! ### What an index comes from -/

namespace Expr

/-- What an operator comes to has no index but those of its operands. -/
theorem Rewritten.index_mem {op : BinOp} {l r e a i : Expr} {t u : Ty} {s s' : Span}
    (h : Rewritten op l r t s e) (hi : index a i u s' ∈ e.nodes) :
    index a i u s' ∈ l.nodes ∨ index a i u s' ∈ r.nodes := by
  cases h with
  | kept => simpa [nodes] using hi
  | left => exact .inl hi
  | right => exact .inr hi
  | negated => exact .inr (by simpa [nodes] using hi)
  | folded | zero | one => simp [ofLiteral, nodes] at hi

/-- An index in an optimized expression is one of the expression, with its array and its
index optimized. -/
theorem exists_of_index_mem_optimize {e a' i' : Expr} {t : Ty} {s : Span}
    (h : index a' i' t s ∈ e.optimize.value.nodes) :
    ∃ a i, index a i t s ∈ e.nodes ∧ a.optimize.value = a' ∧ i.optimize.value = i' := by
  induction e with
  | lit | var => simp [nodes] at h
  | unary op e u s' ih =>
    have he : index a' i' t s ∈ e.optimize.value.nodes := by
      rw [value_optimize_unary] at h
      rcases value_reduceUnary op e.optimize.value u s' with ⟨_, _, -, -, ho⟩ | ho <;> rw [ho] at h
      · simp [ofLiteral, nodes] at h
      · simpa [nodes] using h
    obtain ⟨a, i, hi, ha⟩ := ih he
    exact ⟨a, i, List.mem_cons_of_mem _ hi, ha⟩
  | binary op l r u s' ihl ihr =>
    rcases (rewritten_reduceBinary op _ _ u s').index_mem h with hl | hr
    · obtain ⟨a, i, hi, ha⟩ := ihl hl
      exact ⟨a, i, List.mem_cons_of_mem _ (List.mem_append_left _ hi), ha⟩
    · obtain ⟨a, i, hi, ha⟩ := ihr hr
      exact ⟨a, i, List.mem_cons_of_mem _ (List.mem_append_right _ hi), ha⟩
  | array es u s' ih =>
    simp only [value_optimize_array, nodes, nodesOfAll_eq_flatMap, List.mem_cons, reduceCtorEq,
      false_or, List.flatMap_map, List.mem_flatMap] at h
    obtain ⟨e, he, hi⟩ := h
    obtain ⟨a, i, hi, ha⟩ := ih e he hi
    refine ⟨a, i, List.mem_cons_of_mem _ ?_, ha⟩
    rw [nodesOfAll_eq_flatMap]
    exact List.mem_flatMap_of_mem he hi
  | index a i u s' iha ihi =>
    rw [value_optimize_index, nodes, List.mem_cons, List.mem_append] at h
    rcases h with h | h | h
    · cases h
      exact ⟨a, i, List.mem_cons_self, rfl, rfl⟩
    · obtain ⟨a, i, hi, ha⟩ := iha h
      exact ⟨a, i, List.mem_cons_of_mem _ (List.mem_append_left _ hi), ha⟩
    · obtain ⟨a, i, hi, ha⟩ := ihi h
      exact ⟨a, i, List.mem_cons_of_mem _ (List.mem_append_right _ hi), ha⟩

/-! ### Indices in range -/

/-- An array is written out after it is optimized if it was before, and its length is the
same. -/
theorem WellTyped.length?_optimize {a : Expr} {t : Ty} (h : a.WellTyped) (ht : a.ty = .array t) :
    a.optimize.value.length? = a.length? := by
  cases h with
  | @lit v s => cases v <;> cases ht
  | var => rfl
  | @unary op e u s _ hop =>
    obtain rfl : u = .array t := ht
    exact absurd (UnOp.resultTy_eq_ok_iff.1 hop) (op.ty?_ne_array _ _)
  | @binary op l r u s _ _ hop =>
    obtain rfl : u = .array t := ht
    exact absurd (BinOp.resultTy_eq_ok_iff.1 hop) (op.ty?_ne_array _ _ _)
  | array => simp [length?]
  | index => rfl

/-- An index stays in range if it was known, or if no operand in it decides the result of an
operator by itself. -/
theorem inRange_optimize {a i : Expr} {t : Ty} {s : Span} (hw : (index a i t s).WellTyped)
    (h : (index a i t s).InRange) (hi : i.constant? ≠ none ∨ ¬ i.Collapses) :
    (index a i t s).optimize.value.InRange := by
  cases hw with
  | index ha _ hat _ =>
    rw [value_optimize_index, InRange, constant?_optimize_eq hi, ha.length?_optimize hat]
    exact h

end Expr

end Typed

/-! ### Programs -/

namespace Source.Program

open Typed.Expr (exists_of_index_mem_optimize inRange_optimize)

/-- **An index of a compiled program is in range**, as far as its value and the length of the
array are known, unless one operand in it decides the result of an operator by itself: then
the index may have become known only now, and not when the program was analyzed. -/
theorem inRange_of_compile {u : Source.Program} {q : Typed.Program}
    (h : (u.compile {}).value = .ok q) :
    ∃ p, u.analyze.value = .ok p ∧ p.optimize.value = q ∧ ∀ e ∈ q.expressions, e.InRange ∨
      ∃ a i t s, .index a i t s ∈ p.expressions ∧
        (Typed.Expr.index a i t s).optimize.value = e ∧ i.constant? = none ∧ i.Collapses := by
  obtain ⟨p, hp, rfl⟩ := compile_eq_ok_iff.1 h
  have hwf := wellFormed_of_analyze hp
  refine ⟨p, hp, rfl, fun e he => ?_⟩
  cases e with
  | index a' i' t s =>
    obtain ⟨st, hst, x, hx, hn⟩ := Typed.exists_own?_of_mem_optimizeAll he
    obtain ⟨a, i, hi, rfl, rfl⟩ := exists_of_index_mem_optimize hn
    have hmem : .index a i t s ∈ p.expressions :=
      Typed.mem_expressionsOfAll_iff.2 ⟨st, hst, x, hx, hi⟩
    by_cases hc : i.constant? = none ∧ i.Collapses
    · exact .inr ⟨a, i, t, s, hmem, rfl, hc⟩
    · have hw := hwf.wellTyped.expressions _ hmem
      have hi : i.constant? ≠ none ∨ ¬ i.Collapses := Classical.not_and_iff_not_or_not.1 hc
      exact .inl (inRange_optimize hw (hwf.inRange _ hmem) hi)
  | _ => exact .inl trivial

/-- Two arrays of two numbers that are read, one at an index that is computed and the other
past its end: `int n = 1; print [10, 20][3 - 2]; print [10, 20][n * 0 + 2]`. -/
def pastEnd : Source.Program :=
  let int (n : Int64) : Expr := .int n {}
  let read (i : Expr) : Stmt := .print (.index (.array [int 10, int 20] {}) i {}) {}
  ⟨[.decl (.int {}) ⟨"n", {}⟩ (int 1) {},
    read (.binary .sub (int 3) (int 2) {}),
    read (.binary .add (.binary .mul (.name "n" {}) (int 0) {}) (int 2) {})], {}⟩

/-- What it is compiled to. -/
def compiledPastEnd : Typed.Program :=
  let int (n : Int64) : Typed.Expr := .ofLiteral (.int n) {}
  let read (n : Int64) : Typed.Stmt :=
    .print (.index (.array [int 10, int 20] (.array .int) {}) (int n) .int {}) {}
  ⟨[.decl .int ⟨"n", .int, 1⟩ (int 1) {}, read 1, read 2], {}⟩

/-- The program is accepted, and what it is compiled to reads an array past its end. -/
theorem not_inRange_pastEnd : (pastEnd.compile {}).value = .ok compiledPastEnd ∧
    ¬ ∀ e ∈ compiledPastEnd.expressions, e.InRange :=
  ⟨rfl, by decide⟩

theorem inRange_of_compile_pastEnd : (pastEnd.compile {}).value = .ok compiledPastEnd ∧
    ∃ p, pastEnd.analyze.value = .ok p ∧ p.optimize.value = compiledPastEnd ∧
      ∀ e ∈ compiledPastEnd.expressions, e.InRange ∨
        ∃ a i t s, .index a i t s ∈ p.expressions ∧
          (Typed.Expr.index a i t s).optimize.value = e ∧ i.constant? = none ∧ i.Collapses := by
  have h : (pastEnd.compile {}).value = .ok compiledPastEnd := rfl
  exact ⟨h, inRange_of_compile h⟩

end Source.Program

/-! ### Known values -/

namespace Typed.Expr

/-- **What is known beforehand becomes its literal.** The literal stands where the expression
stood, and has its own type unless the expression was a literal already. An index that was
known when a program was analyzed is the literal that was checked then. -/
theorem optimize_of_constant? {e : Expr} {v : Literal} (h : e.constant? = some v) :
    (∃ t, e.optimize.value = .lit v t e.span ∧ (e.literal? = none → t = v.ty)) ∧
    ∀ (u : Source.Program) (p : Program), u.analyze.value = .ok p →
      ∀ a t s, .index a e t s ∈ p.expressions →
        (index a e t s).optimize.value = .index a.optimize.value (.ofLiteral v e.span) t s := by
  have known := value_optimize_of_constant? h
  refine ⟨known, fun u p hp a t s hi => ?_⟩
  obtain ⟨w, hw, -⟩ := known
  have typed := (Source.Program.wellFormed_of_analyze hp).wellTyped.expressions _ hi
  have own : w = v.ty := by
    cases typed with
    | index _ he _ _ =>
      -- the literal that is left is well typed as the index was
      have hl := he.optimize.1
      rw [hw] at hl
      exact hl.ty_of_literal? rfl
  rw [value_optimize_index, hw, own]
  rfl

/-- The index `3 - 2` of a number in an array of two. -/
theorem optimize_of_constant?_pastEnd :
    let int (n : Int64) : Expr := .ofLiteral (.int n) {}
    let i : Expr := .binary .sub (int 3) (int 2) .int {}
    let ns : Expr := .array [int 10, int 20] (.array .int) {}
    i.constant? = some (.int 1) ∧
      (∃ t, i.optimize.value = .lit (.int 1) t {} ∧ (i.literal? = none → t = .int)) ∧
      ∃ p, Source.Program.pastEnd.analyze.value = .ok p ∧ index ns i .int {} ∈ p.expressions ∧
        (index ns i .int {}).optimize.value = .index ns (int 1) .int {} := by
  intro int i ns
  have hi : i.constant? = some (.int 1) := rfl
  obtain ⟨literal, indices⟩ := optimize_of_constant? hi
  refine ⟨hi, literal, _, rfl, ?_, ?_⟩
  · exact .tail _ (.head _)
  · exact indices Source.Program.pastEnd _ rfl ns .int {} (.tail _ (.head _))

end Typed.Expr

end Yuyan
