import Yuyan.Constant
import Yuyan.Proofs.Relabeling.Basic
import Yuyan.Proofs.Typed.Nodes

/-!
# Typed programs relabeled

Every node gets its new span, every variable its new name and number and every loop its new
word. Types, literals and the shape of the tree stay, and so does what is known of an
expression beforehand (`Expr.constant?_relabel`).

Changing spans does not change a program exactly if it changes none of the spans that stand
in it (`Program.relabel_eq_self_iff`).
-/

namespace Yuyan.Typed

/-! ### Relabeled trees -/

mutual

/-- An expression with other spans and variables. -/
def Expr.relabel (ρ : Relabeling) : Expr → Expr
  | .lit v t s => .lit v t (ρ.span s)
  | .var x t s => .var (x.relabel ρ) t (ρ.span s)
  | .unary op e t s => .unary op (e.relabel ρ) t (ρ.span s)
  | .binary op l r t s => .binary op (l.relabel ρ) (r.relabel ρ) t (ρ.span s)
  | .array es t s => .array (relabelElements ρ es) t (ρ.span s)
  | .index a i t s => .index (a.relabel ρ) (i.relabel ρ) t (ρ.span s)
termination_by structural e => e

/-- Each element of an array with other spans and variables. -/
def relabelElements (ρ : Relabeling) : List Expr → List Expr
  | [] => []
  | e :: es => e.relabel ρ :: relabelElements ρ es
termination_by structural es => es

end

mutual

/-- A statement with other spans, variables and words for loops. -/
def Stmt.relabel (ρ : Relabeling) : Stmt → Stmt
  | .decl t x e s => .decl t (x.relabel ρ) (e.relabel ρ) (ρ.span s)
  | .assign x e s => .assign (x.relabel ρ) (e.relabel ρ) (ρ.span s)
  | .print e s => .print (e.relabel ρ) (ρ.span s)
  | .loop kind test body s => .loop (ρ.loop kind) (test.relabel ρ) (relabelAll ρ body) (ρ.span s)
  | .cond test consequent none s =>
    .cond (test.relabel ρ) (relabelAll ρ consequent) none (ρ.span s)
  | .cond test consequent (some alternate) s =>
    .cond (test.relabel ρ) (relabelAll ρ consequent) (some (relabelAll ρ alternate)) (ρ.span s)
  | .skip s => .skip (ρ.span s)
  | .ret e s => .ret (e.relabel ρ) (ρ.span s)
termination_by structural s => s

/-- Each statement with other spans, variables and words for loops. -/
def relabelAll (ρ : Relabeling) : List Stmt → List Stmt
  | [] => []
  | s :: ss => s.relabel ρ :: relabelAll ρ ss
termination_by structural ss => ss

end

/-- A program with other spans, variables and words for loops. -/
def Program.relabel (ρ : Relabeling) (p : Program) : Program :=
  ⟨relabelAll ρ p.statements, ρ.span p.span⟩

/-! ### What a relabeling does not change -/

section Unchanged

variable {ρ : Relabeling}

theorem relabelElements_eq_map (es : List Expr) : relabelElements ρ es = es.map (Expr.relabel ρ) := by
  induction es with
  | nil => rfl
  | cons e es ih => rw [relabelElements, ih, List.map_cons]

theorem relabelAll_append (ss us : List Stmt) :
    relabelAll ρ (ss ++ us) = relabelAll ρ ss ++ relabelAll ρ us := by
  induction ss with
  | nil => rfl
  | cons s ss ih => rw [List.cons_append, relabelAll, relabelAll, ih, List.cons_append]

namespace Expr

@[simp] theorem ty_relabel (e : Expr) : (e.relabel ρ).ty = e.ty := by
  cases e <;> rfl

@[simp] theorem span_relabel (e : Expr) : (e.relabel ρ).span = ρ.span e.span := by
  cases e <;> rfl

@[simp] theorem literal?_relabel (e : Expr) : (e.relabel ρ).literal? = e.literal? := by
  cases e <;> rfl

@[simp] theorem length?_relabel (e : Expr) : (e.relabel ρ).length? = e.length? := by
  cases e with
  | array es t s => rw [relabel, length?, length?, relabelElements_eq_map, List.length_map]
  | _ => rfl

/-- What an expression is known to be beforehand hangs on its literals alone. -/
@[simp] theorem constant?_relabel (e : Expr) : (e.relabel ρ).constant? = e.constant? := by
  induction e with
  | unary op e t s ih => rw [relabel, constant?, constant?, ih]
  | binary op l r t s ihl ihr => rw [relabel, constant?, constant?, ihl, ihr]
  | _ => rfl

end Expr

end Unchanged

/-! ### Spans -/

mutual

/-- The spans in an expression. -/
def Expr.spans : Expr → List Span
  | .lit _ _ s | .var _ _ s => [s]
  | .unary _ e _ s => s :: e.spans
  | .binary _ l r _ s => s :: (l.spans ++ r.spans)
  | .array es _ s => s :: spansOfElements es
  | .index a i _ s => s :: (a.spans ++ i.spans)
termination_by structural e => e

/-- The spans in the elements of an array. -/
def spansOfElements : List Expr → List Span
  | [] => []
  | e :: es => e.spans ++ spansOfElements es
termination_by structural es => es

end

mutual

/-- The spans in a statement. -/
def Stmt.spans : Stmt → List Span
  | .decl _ _ e s | .assign _ e s | .print e s | .ret e s => s :: e.spans
  | .loop _ test body s => s :: (test.spans ++ spansOfAll body)
  | .cond test consequent none s => s :: (test.spans ++ spansOfAll consequent)
  | .cond test consequent (some alternate) s =>
    s :: (test.spans ++ (spansOfAll consequent ++ spansOfAll alternate))
  | .skip s => [s]
termination_by structural s => s

/-- The spans in statements in order. -/
def spansOfAll : List Stmt → List Span
  | [] => []
  | s :: ss => s.spans ++ spansOfAll ss
termination_by structural ss => ss

end

/-- The spans in a program. -/
def Program.spans (p : Program) : List Span := p.span :: spansOfAll p.statements

section Spans

variable {f : Span → Span}

mutual

theorem Expr.relabel_eq_self_iff : ∀ e : Expr,
    e.relabel { span := f } = e ↔ ∀ s ∈ e.spans, f s = s
  | .lit .. | .var .. => by simp [Expr.relabel, Expr.spans, Variable.relabel]
  | .unary _ e _ _ => by
    simp [Expr.relabel, Expr.spans, Expr.relabel_eq_self_iff e, and_comm]
  | .binary _ l r _ _ | .index l r _ _ => by
    rw [Expr.spans, List.forall_mem_cons, List.forall_mem_append, ← Expr.relabel_eq_self_iff l,
      ← Expr.relabel_eq_self_iff r, and_rotate]
    simp [Expr.relabel]
  | .array es _ _ => by
    simp [Expr.relabel, Expr.spans, relabelElements_eq_self_iff es, and_comm]

theorem relabelElements_eq_self_iff : ∀ es : List Expr,
    relabelElements { span := f } es = es ↔ ∀ s ∈ spansOfElements es, f s = s
  | [] => iff_of_true rfl (List.forall_mem_nil _)
  | e :: es => by
    rw [relabelElements, spansOfElements, List.forall_mem_append, ← Expr.relabel_eq_self_iff e,
      ← relabelElements_eq_self_iff es, List.cons.injEq]

end

mutual

theorem Stmt.relabel_eq_self_iff : ∀ s : Stmt,
    s.relabel { span := f } = s ↔ ∀ s' ∈ s.spans, f s' = s'
  | .decl _ x e _ | .assign x e _ => by
    simp [Stmt.relabel, Stmt.spans, Variable.relabel, Expr.relabel_eq_self_iff e, and_comm]
  | .print e _ | .ret e _ => by
    simp [Stmt.relabel, Stmt.spans, Expr.relabel_eq_self_iff e, and_comm]
  | .loop _ test body _ | .cond test body none _ => by
    rw [Stmt.spans, List.forall_mem_cons, List.forall_mem_append,
      ← Expr.relabel_eq_self_iff test, ← relabelAll_eq_self_iff body, and_rotate]
    simp [Stmt.relabel]
  | .cond test c (some a) _ => by
    rw [Stmt.spans, List.forall_mem_cons, List.forall_mem_append, List.forall_mem_append,
      ← Expr.relabel_eq_self_iff test, ← relabelAll_eq_self_iff c, ← relabelAll_eq_self_iff a,
      and_comm]
    simp [Stmt.relabel, and_assoc]
  | .skip _ => by simp [Stmt.relabel, Stmt.spans]

theorem relabelAll_eq_self_iff : ∀ ss : List Stmt,
    relabelAll { span := f } ss = ss ↔ ∀ s ∈ spansOfAll ss, f s = s
  | [] => iff_of_true rfl (List.forall_mem_nil _)
  | s :: ss => by
    rw [relabelAll, spansOfAll, List.forall_mem_append, ← Stmt.relabel_eq_self_iff s,
      ← relabelAll_eq_self_iff ss, List.cons.injEq]

end

theorem Program.relabel_eq_self_iff (p : Program) :
    p.relabel { span := f } = p ↔ ∀ s ∈ p.spans, f s = s := by
  rcases p with ⟨ss, s⟩
  rw [Program.spans, List.forall_mem_cons, ← relabelAll_eq_self_iff, and_comm]
  simp [Program.relabel]

end Spans

end Yuyan.Typed
