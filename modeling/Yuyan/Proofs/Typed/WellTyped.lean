import Yuyan.Proofs.Typed.Nodes
import Yuyan.Proofs.Typing

/-!
# Well-typed programs

Every node of a typed program carries a type. Here is what it means that these are
the right ones, as a judgement on the tree alone: it does not ask where the program
comes from.
-/

namespace Yuyan

namespace Typed

/-- Every node of an expression has the type that its parts give it. -/
inductive Expr.WellTyped : Expr → Prop where
  | lit {v : Literal} {s : Span} : WellTyped (.lit v v.ty s)
  | var {x : Variable} {s : Span} : WellTyped (.var x x.ty s)
  | unary {op : UnOp} {e : Expr} {t : Ty} {s : Span} (operand : WellTyped e)
      (ty : op.resultTy e = .ok t) : WellTyped (.unary op e t s)
  | binary {op : BinOp} {l r : Expr} {t : Ty} {s : Span} (left : WellTyped l)
      (right : WellTyped r) (ty : op.resultTy l r s = .ok t) : WellTyped (.binary op l r t s)
  | array {es : List Expr} {t : Ty} {s : Span} (elements : ∀ e ∈ es, WellTyped e)
      (ty : ∀ e ∈ es, e.ty = t) : WellTyped (.array es (.array t) s)
  | index {a i : Expr} {t : Ty} {s : Span} (array : WellTyped a) (index : WellTyped i)
      (arrayTy : a.ty = .array t) (indexTy : i.ty = .int) : WellTyped (.index a i t s)

/-- Every node of a statement is well typed, values have the type of the variable they
are for, and tests are truth values. -/
inductive Stmt.WellTyped : Stmt → Prop where
  | decl {t : Ty} {x : Variable} {e : Expr} {s : Span} (declared : x.ty = t) (value : e.WellTyped)
      (ty : e.ty = t) : WellTyped (.decl t x e s)
  | assign {x : Variable} {e : Expr} {s : Span} (value : e.WellTyped) (ty : e.ty = x.ty) :
      WellTyped (.assign x e s)
  | print {e : Expr} {s : Span} (argument : e.WellTyped) : WellTyped (.print e s)
  | loop {kind : Loop} {test : Expr} {body : List Stmt} {s : Span} (test_wellTyped : test.WellTyped)
      (ty : test.ty = .boolean) (body_wellTyped : ∀ s ∈ body, WellTyped s) :
      WellTyped (.loop kind test body s)
  | cond {test : Expr} {consequent : List Stmt} {alternate : Option (List Stmt)} {s : Span}
      (test_wellTyped : test.WellTyped) (ty : test.ty = .boolean)
      (consequent_wellTyped : ∀ s ∈ consequent, WellTyped s)
      (alternate_wellTyped : ∀ ss ∈ alternate, ∀ s ∈ ss, WellTyped s) :
      WellTyped (.cond test consequent alternate s)
  | skip {s : Span} : WellTyped (.skip s)
  | ret {e : Expr} {s : Span} (argument : e.WellTyped) : WellTyped (.ret e s)

/-- Every statement of a program is well typed. -/
def Program.WellTyped (p : Program) : Prop := ∀ s ∈ p.statements, s.WellTyped

/-- The statement is a return. -/
def Stmt.IsReturn : Stmt → Prop
  | .ret .. => True
  | _ => False

instance : DecidablePred Stmt.IsReturn
  | .ret .. => inferInstanceAs (Decidable True)
  | .decl .. | .assign .. | .print .. | .loop .. | .cond .. | .skip .. =>
    inferInstanceAs (Decidable False)

/-! ### Well-typed at every depth -/

/-- The nodes of a well-typed expression are well typed. -/
theorem Expr.WellTyped.nodes {e : Expr} (h : e.WellTyped) : ∀ n ∈ e.nodes, n.WellTyped := by
  induction h with
  | lit => simp [Expr.nodes, WellTyped.lit]
  | var => simp [Expr.nodes, WellTyped.var]
  | unary he ht ih =>
    rw [Expr.nodes, List.forall_mem_cons]
    exact ⟨.unary he ht, ih⟩
  | binary hl hr ht ihl ihr =>
    rw [Expr.nodes, List.forall_mem_cons, List.forall_mem_append]
    exact ⟨.binary hl hr ht, ihl, ihr⟩
  | array hes ht ih =>
    rw [Expr.nodes, List.forall_mem_cons, forall_mem_nodesOfAll]
    exact ⟨.array hes ht, ih⟩
  | index ha hi hat hit iha ihi =>
    rw [Expr.nodes, List.forall_mem_cons, List.forall_mem_append]
    exact ⟨.index ha hi hat hit, iha, ihi⟩

/-- The expressions of a well-typed statement are well typed. -/
theorem Stmt.WellTyped.expressions {s : Stmt} (h : s.WellTyped) :
    ∀ e ∈ s.expressions, e.WellTyped := by
  induction h with
  | decl _ he | assign he | print he | ret he => exact he.nodes
  | loop ht _ _ ih =>
    rw [Stmt.expressions, List.forall_mem_append]
    exact ⟨ht.nodes, forall_mem_expressionsOfAll.2 ih⟩
  | @cond _ _ alternate _ ht _ _ _ ihc iha =>
    rcases alternate with _ | alternate
    · rw [Stmt.expressions, List.forall_mem_append]
      exact ⟨ht.nodes, forall_mem_expressionsOfAll.2 ihc⟩
    · rw [Stmt.expressions, List.forall_mem_append, List.forall_mem_append]
      exact ⟨ht.nodes, forall_mem_expressionsOfAll.2 ihc, forall_mem_expressionsOfAll.2 (iha _ rfl)⟩
  | skip => simp [Stmt.expressions]

/-- The expressions of a well-typed program are well typed. -/
theorem Program.WellTyped.expressions {p : Program} (h : p.WellTyped) :
    ∀ e ∈ p.expressions, e.WellTyped :=
  forall_mem_expressionsOfAll.2 fun s hs => (h s hs).expressions

/-- A literal has its own type. -/
theorem Expr.WellTyped.ty_of_literal? {e : Expr} {v : Literal} (h : e.WellTyped)
    (hv : e.literal? = some v) : e.ty = v.ty := by
  cases h with
  | lit => cases hv; rfl
  | _ => cases hv

/-- A value that is known beforehand has the type of the expression. -/
theorem Expr.WellTyped.ty_of_constant? {e : Expr} {v : Literal} (h : e.WellTyped)
    (hv : e.constant? = some v) : e.ty = v.ty := by
  induction h generalizing v with
  | lit =>
    cases hv
    rfl
  | unary _ ht ih =>
    obtain ⟨a, ha, hv⟩ := Option.bind_eq_some_iff.1 hv
    rw [UnOp.resultTy_eq_ok_iff, ih ha, UnOp.ty?_of_eval? hv] at ht
    exact (Option.some.inj ht).symm
  | binary _ _ ht ihl ihr =>
    obtain ⟨a, ha, hv⟩ := Option.bind_eq_some_iff.1 hv
    obtain ⟨b, hb, hv⟩ := Option.bind_eq_some_iff.1 hv
    rw [BinOp.resultTy_eq_ok_iff, ihl ha, ihr hb, BinOp.ty?_of_eval? hv] at ht
    exact (Option.some.inj ht).symm
  | var | array | index => cases hv

end Typed

end Yuyan
