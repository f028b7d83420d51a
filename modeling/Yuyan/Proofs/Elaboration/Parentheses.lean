import Yuyan.Compile
import Yuyan.Proofs.Source.Parentheses

/-!
# Parentheses are transparent

A program is analyzed as if the parentheses in it were not there: the same typed program
comes out, the same error about the same span, and the same log. A parenthesis hands on
what is expected around it, and an array without elements is one also inside parentheses.
Everything else that looks at an expression looks at what it was elaborated to, and there
are no parentheses in that.
-/

namespace Yuyan.Source

/-! ### Expressions -/

@[simp] theorem Expr.isEmptyArray_withoutParens :
    ∀ e : Expr, e.withoutParens.isEmptyArray = e.isEmptyArray
  | .paren e _ => Expr.isEmptyArray_withoutParens e
  | .array [] _ | .array (_ :: _) _ => rfl
  | .int .. | .float .. | .string .. | .char .. | .bool .. | .name .. | .unary .. | .binary ..
  | .index .. => rfl
termination_by structural e => e

mutual

/-- An expression is elaborated as if there were no parentheses in it, whatever is expected. -/
theorem Expr.elaborate_withoutParens (scope : Scope) :
    ∀ (e : Expr) (x : Option Ty), e.withoutParens.elaborate scope x = e.elaborate scope x
  | .int .., _ | .float .., _ | .string .., _ | .char .., _ | .bool .., _ | .name .., _ => rfl
  | .paren e _, x => Expr.elaborate_withoutParens scope e x
  | .unary op e s, _ => by
    rw [Expr.withoutParens, Expr.elaborate, Expr.elaborate, Expr.elaborate_withoutParens scope e]
  | .binary op l r s, _ => by
    simp only [Expr.withoutParens, Expr.elaborate, Expr.isEmptyArray_withoutParens,
      Expr.elaborate_withoutParens scope l, Expr.elaborate_withoutParens scope r]
  | .array [] _, _ => rfl
  | .array (e :: es) s, x => by
    simp only [Expr.withoutParens, elementsWithoutParens, Expr.elaborate,
      Expr.elaborate_withoutParens scope e, elaborateElements_withoutParens scope es]
  | .index a i s, _ => by
    simp only [Expr.withoutParens, Expr.elaborate, Expr.elaborate_withoutParens scope a,
      Expr.elaborate_withoutParens scope i]

theorem elaborateElements_withoutParens (scope : Scope) :
    ∀ (es : List Expr) (t : Ty),
      elaborateElements scope (elementsWithoutParens es) t = elaborateElements scope es t
  | [], _ => rfl
  | e :: es, t => by
    simp only [elementsWithoutParens, elaborateElements, Expr.elaborate_withoutParens scope e,
      elaborateElements_withoutParens scope es]

end

theorem Expr.elaborateTest_withoutParens (e : Expr) :
    e.withoutParens.elaborateTest = e.elaborateTest := by
  funext scope
  rw [elaborateTest, elaborate_withoutParens, elaborateTest]

theorem Expr.elaborateValue_withoutParens (e : Expr) :
    e.withoutParens.elaborateValue = e.elaborateValue := by
  funext t scope
  rw [elaborateValue, elaborate_withoutParens, elaborateValue]

/-! ### Statements -/

mutual

/-- A statement is elaborated as if there were no parentheses in it. -/
theorem Stmt.elaborate_withoutParens : ∀ s : Stmt, s.withoutParens.elaborate = s.elaborate
  | .decl written target value s => by
    rw [Stmt.withoutParens, Stmt.elaborate, Stmt.elaborate, Expr.elaborateValue_withoutParens]
  | .assign target value s => by
    rw [Stmt.withoutParens, Stmt.elaborate, Stmt.elaborate, Expr.elaborateValue_withoutParens]
  | .print e s => by
    simp only [Stmt.withoutParens, Stmt.elaborate, Expr.elaborate_withoutParens]
  | .loop kind test body s => by
    rw [Stmt.withoutParens, Stmt.elaborate, Stmt.elaborate, Expr.elaborateTest_withoutParens,
      Block.elaborate_withoutParens body]
  | .cond test c none s => by
    rw [Stmt.withoutParens, Stmt.elaborate, Stmt.elaborate, Expr.elaborateTest_withoutParens,
      Block.elaborate_withoutParens c]
  | .cond test c (some a) s => by
    rw [Stmt.withoutParens, Stmt.elaborate, Stmt.elaborate, Expr.elaborateTest_withoutParens,
      Block.elaborate_withoutParens c, Block.elaborate_withoutParens a]
  | .skip _ => rfl
  | .ret e s => by
    simp only [Stmt.withoutParens, Stmt.elaborate, Expr.elaborate_withoutParens]

theorem Block.elaborate_withoutParens : ∀ b : Block, b.withoutParens.elaborate = b.elaborate
  | .mk ss _ => by
    rw [Block.withoutParens, Block.elaborate, Block.elaborate, elaborateAll_withoutParens ss]

theorem elaborateAll_withoutParens :
    ∀ ss : List Stmt, elaborateAll (allWithoutParens ss) = elaborateAll ss
  | [] => rfl
  | s :: ss => by
    rw [allWithoutParens, elaborateAll, elaborateAll, Stmt.elaborate_withoutParens s,
      elaborateAll_withoutParens ss]

end

/-! ### Programs -/

theorem length_allWithoutParens (ss : List Stmt) : (allWithoutParens ss).length = ss.length := by
  induction ss with
  | nil => rfl
  | cons s ss ih => rw [allWithoutParens, List.length_cons, ih, List.length_cons]

theorem Program.elaborate_withoutParens (u : Program) :
    u.withoutParens.elaborate = u.elaborate := by
  simp only [Program.elaborate, Program.withoutParens, elaborateAll_withoutParens,
    length_allWithoutParens]

/-- **Parentheses are transparent**: without them a program is accepted as the same typed
program, or rejected with the same error, and programs that differ in parentheses alone,
wherever these are and however many, are analyzed alike. -/
theorem Program.analyze_withoutParens :
    (∀ u : Program, u.withoutParens.analyze = u.analyze) ∧
      ∀ u v : Program, u.withoutParens = v.withoutParens → u.analyze = v.analyze := by
  have h (u : Program) : u.withoutParens.analyze = u.analyze := by
    rw [Program.analyze, Program.elaborate_withoutParens, Program.analyze]
  refine ⟨h, fun u v huv => ?_⟩
  calc u.analyze = u.withoutParens.analyze := (h u).symm
    _ = v.withoutParens.analyze := by rw [huv]
    _ = v.analyze := h v

/-- Expressions to put parentheses around, where something hangs on what is expected or on
what is known beforehand: an array without elements that is typed from the right, a text
that is a character because of its neighbour or of the other side, and an index past the
end: `print [] == [['a'], ["b"]]; print "c" == 'd'; print [1, 2][2]`. -/
def wrapped (wrap : Expr → Expr) : Program :=
  ⟨[.print (.binary .eq (wrap (.array [] ⟨6, 8⟩))
        (wrap (.array [wrap (.array [wrap (.char 'a' ⟨14, 17⟩)] ⟨13, 18⟩),
          wrap (.array [wrap (.string "b" ⟨21, 24⟩)] ⟨20, 25⟩)] ⟨12, 26⟩)) ⟨6, 26⟩) ⟨0, 26⟩,
    .print (.binary .eq (wrap (.string "c" ⟨34, 37⟩)) (wrap (.char 'd' ⟨41, 44⟩)) ⟨34, 44⟩)
      ⟨28, 44⟩,
    .print (.index (wrap (.array [wrap (.int 1 ⟨53, 54⟩), .int 2 ⟨56, 57⟩] ⟨52, 58⟩))
      (wrap (.int 2 ⟨59, 60⟩)) ⟨52, 61⟩) ⟨46, 61⟩], ⟨0, 62⟩⟩

/-- An expression in two pairs of parentheses. -/
def Expr.inParens (e : Expr) : Expr := .paren (.paren e ⟨1, 99⟩) ⟨0, 100⟩

/-- With all of them in parentheses or none, only the index is wrong. -/
theorem Program.analyze_wrapped :
    (wrapped Expr.inParens).withoutParens = (wrapped id).withoutParens ∧
      (wrapped Expr.inParens).analyze = (wrapped id).analyze ∧
      (wrapped id).analyze.value = .error ⟨.arrayIndexOutOfRange 2 (some 2), ⟨59, 60⟩⟩ :=
  ⟨rfl, Program.analyze_withoutParens.2 _ _ rfl, rfl⟩

end Yuyan.Source
