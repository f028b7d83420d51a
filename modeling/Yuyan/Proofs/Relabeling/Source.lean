import Yuyan.Proofs.Relabeling.Basic
import Yuyan.Source

/-!
# Programs as written, relabeled

Every node of a program gets its new span, every name its new name and every loop its new
word, also in declarations and types. The spans of a program are listed by `Program.spans`;
a program whose spans all stay what they are is not changed by changing spans
(`Program.relabel_of_spans`).
-/

namespace Yuyan.Source

/-! ### Relabeled trees -/

/-- A written type with other spans. -/
def TyExpr.relabel (ρ : Relabeling) : TyExpr → TyExpr
  | boolean s => boolean (ρ.span s)
  | int s => int (ρ.span s)
  | float s => float (ρ.span s)
  | string s => string (ρ.span s)
  | char s => char (ρ.span s)
  | array t s => array (t.relabel ρ) (ρ.span s)

/-- Another name at another place. -/
def Ident.relabel (ρ : Relabeling) (x : Ident) : Ident := ⟨ρ.name x.name, ρ.span x.span⟩

mutual

/-- An expression with other spans and names. -/
def Expr.relabel (ρ : Relabeling) : Expr → Expr
  | .int n s => .int n (ρ.span s)
  | .float x s => .float x (ρ.span s)
  | .string t s => .string t (ρ.span s)
  | .char c s => .char c (ρ.span s)
  | .bool b s => .bool b (ρ.span s)
  | .name x s => .name (ρ.name x) (ρ.span s)
  | .paren e s => .paren (e.relabel ρ) (ρ.span s)
  | .unary op e s => .unary op (e.relabel ρ) (ρ.span s)
  | .binary op l r s => .binary op (l.relabel ρ) (r.relabel ρ) (ρ.span s)
  | .array es s => .array (relabelElements ρ es) (ρ.span s)
  | .index a i s => .index (a.relabel ρ) (i.relabel ρ) (ρ.span s)
termination_by structural e => e

/-- Each element of an array with other spans and names. -/
def relabelElements (ρ : Relabeling) : List Expr → List Expr
  | [] => []
  | e :: es => e.relabel ρ :: relabelElements ρ es
termination_by structural es => es

end

mutual

/-- A statement with other spans, names and words for loops. -/
def Stmt.relabel (ρ : Relabeling) : Stmt → Stmt
  | .decl t x e s => .decl (t.relabel ρ) (x.relabel ρ) (e.relabel ρ) (ρ.span s)
  | .assign x e s => .assign (x.relabel ρ) (e.relabel ρ) (ρ.span s)
  | .print e s => .print (e.relabel ρ) (ρ.span s)
  | .loop kind test body s =>
    .loop (ρ.loop kind) (test.relabel ρ) (body.relabel ρ) (ρ.span s)
  | .cond test consequent none s =>
    .cond (test.relabel ρ) (consequent.relabel ρ) none (ρ.span s)
  | .cond test consequent (some alternate) s =>
    .cond (test.relabel ρ) (consequent.relabel ρ) (some (alternate.relabel ρ)) (ρ.span s)
  | .skip s => .skip (ρ.span s)
  | .ret e s => .ret (e.relabel ρ) (ρ.span s)
termination_by structural s => s

/-- A body with other spans, names and words for loops. -/
def Block.relabel (ρ : Relabeling) : Block → Block
  | .mk ss s => .mk (relabelAll ρ ss) (ρ.span s)
termination_by structural b => b

/-- Each statement with other spans, names and words for loops. -/
def relabelAll (ρ : Relabeling) : List Stmt → List Stmt
  | [] => []
  | s :: ss => s.relabel ρ :: relabelAll ρ ss
termination_by structural ss => ss

end

/-- A program with other spans, names and words for loops. -/
def Program.relabel (ρ : Relabeling) (p : Program) : Program :=
  ⟨relabelAll ρ p.statements, ρ.span p.span⟩

/-! ### What a relabeling does not change -/

@[simp] theorem TyExpr.resolve_relabel (ρ : Relabeling) (t : TyExpr) :
    (t.relabel ρ).resolve = t.resolve := by
  induction t with
  | array t s ih => rw [relabel, resolve, resolve, ih]
  | _ => rfl

@[simp] theorem Expr.isEmptyArray_relabel (ρ : Relabeling) :
    ∀ e : Expr, (e.relabel ρ).isEmptyArray = e.isEmptyArray
  | .paren e _ => Expr.isEmptyArray_relabel ρ e
  | .array [] _ | .array (_ :: _) _ => rfl
  | .int .. | .float .. | .string .. | .char .. | .bool .. | .name .. | .unary .. | .binary ..
  | .index .. => rfl
termination_by structural e => e

/-! ### Spans -/

/-- The spans in a written type. -/
def TyExpr.spans : TyExpr → List Span
  | boolean s | int s | float s | string s | char s => [s]
  | array t s => s :: t.spans

mutual

/-- The spans in an expression. -/
def Expr.spans : Expr → List Span
  | .int _ s | .float _ s | .string _ s | .char _ s | .bool _ s | .name _ s => [s]
  | .paren e s | .unary _ e s => s :: e.spans
  | .binary _ l r s => s :: (l.spans ++ r.spans)
  | .array es s => s :: spansOfElements es
  | .index a i s => s :: (a.spans ++ i.spans)
termination_by structural e => e

/-- The spans in the elements of an array. -/
def spansOfElements : List Expr → List Span
  | [] => []
  | e :: es => e.spans ++ spansOfElements es
termination_by structural es => es

end

mutual

/-- The spans in a statement. -/
def Stmt.spans : Stmt → List Span
  | .decl t x e s => s :: (t.spans ++ x.span :: e.spans)
  | .assign x e s => s :: x.span :: e.spans
  | .print e s | .ret e s => s :: e.spans
  | .loop _ test body s => s :: (test.spans ++ body.spans)
  | .cond test consequent none s => s :: (test.spans ++ consequent.spans)
  | .cond test consequent (some alternate) s =>
    s :: (test.spans ++ (consequent.spans ++ alternate.spans))
  | .skip s => [s]
termination_by structural s => s

/-- The spans in a body. -/
def Block.spans : Block → List Span
  | .mk ss s => s :: spansOfAll ss
termination_by structural b => b

/-- The spans in statements in order. -/
def spansOfAll : List Stmt → List Span
  | [] => []
  | s :: ss => s.spans ++ spansOfAll ss
termination_by structural ss => ss

end

/-- The spans in a program. -/
def Program.spans (p : Program) : List Span := p.span :: spansOfAll p.statements

section Unchanged

variable {ρ : Relabeling}

theorem TyExpr.relabel_of_spans {t : TyExpr} (h : ∀ s ∈ t.spans, ρ.span s = s) :
    t.relabel ρ = t := by
  induction t with
  | array t s ih =>
    rw [TyExpr.spans, List.forall_mem_cons] at h
    simp only [TyExpr.relabel, h.1, ih h.2]
  | boolean s | int s | float s | string s | char s =>
    simp only [TyExpr.relabel, h s (List.mem_singleton_self s)]

mutual

theorem Expr.relabel_of_spans (hn : ∀ n, ρ.name n = n) :
    ∀ {e : Expr}, (∀ s ∈ e.spans, ρ.span s = s) → e.relabel ρ = e
  | .int _ s, h | .float _ s, h | .string _ s, h | .char _ s, h | .bool _ s, h => by
    simp only [Expr.relabel, h s (List.mem_singleton_self s)]
  | .name _ s, h => by
    simp only [Expr.relabel, hn, h s (List.mem_singleton_self s)]
  | .paren e s, h | .unary _ e s, h => by
    rw [Expr.spans, List.forall_mem_cons] at h
    simp only [Expr.relabel, h.1, Expr.relabel_of_spans hn h.2]
  | .binary _ l r s, h | .index l r s, h => by
    rw [Expr.spans, List.forall_mem_cons, List.forall_mem_append] at h
    simp only [Expr.relabel, h.1, Expr.relabel_of_spans hn h.2.1, Expr.relabel_of_spans hn h.2.2]
  | .array es s, h => by
    rw [Expr.spans, List.forall_mem_cons] at h
    simp only [Expr.relabel, h.1, relabelElements_of_spans hn h.2]

theorem relabelElements_of_spans (hn : ∀ n, ρ.name n = n) :
    ∀ {es : List Expr}, (∀ s ∈ spansOfElements es, ρ.span s = s) → relabelElements ρ es = es
  | [], _ => rfl
  | e :: es, h => by
    rw [spansOfElements, List.forall_mem_append] at h
    rw [relabelElements, Expr.relabel_of_spans hn h.1, relabelElements_of_spans hn h.2]

end

mutual

theorem Stmt.relabel_of_spans (hn : ∀ n, ρ.name n = n) (hl : ∀ k, ρ.loop k = k) :
    ∀ {s : Stmt}, (∀ s' ∈ s.spans, ρ.span s' = s') → s.relabel ρ = s
  | .decl t x e s, h => by
    simp only [Stmt.spans, List.forall_mem_cons, List.forall_mem_append] at h
    simp only [Stmt.relabel, Ident.relabel, hn, h.1, TyExpr.relabel_of_spans h.2.1, h.2.2.1,
      Expr.relabel_of_spans hn h.2.2.2]
  | .assign x e s, h => by
    rw [Stmt.spans, List.forall_mem_cons, List.forall_mem_cons] at h
    simp only [Stmt.relabel, Ident.relabel, hn, h.1, h.2.1, Expr.relabel_of_spans hn h.2.2]
  | .print e s, h | .ret e s, h => by
    rw [Stmt.spans, List.forall_mem_cons] at h
    simp only [Stmt.relabel, h.1, Expr.relabel_of_spans hn h.2]
  | .loop _ test body s, h | .cond test body none s, h => by
    rw [Stmt.spans, List.forall_mem_cons, List.forall_mem_append] at h
    simp only [Stmt.relabel, hl, h.1, Expr.relabel_of_spans hn h.2.1,
      Block.relabel_of_spans hn hl h.2.2]
  | .cond test consequent (some alternate) s, h => by
    simp only [Stmt.spans, List.forall_mem_cons, List.forall_mem_append] at h
    simp only [Stmt.relabel, h.1, Expr.relabel_of_spans hn h.2.1,
      Block.relabel_of_spans hn hl h.2.2.1, Block.relabel_of_spans hn hl h.2.2.2]
  | .skip s, h => by simp only [Stmt.relabel, h s (List.mem_singleton_self s)]

theorem Block.relabel_of_spans (hn : ∀ n, ρ.name n = n) (hl : ∀ k, ρ.loop k = k) :
    ∀ {b : Block}, (∀ s ∈ b.spans, ρ.span s = s) → b.relabel ρ = b
  | .mk ss s, h => by
    rw [Block.spans, List.forall_mem_cons] at h
    simp only [Block.relabel, h.1, relabelAll_of_spans hn hl h.2]

/-- If names and words for loops stay, statements of whose spans none changes do not change. -/
theorem relabelAll_of_spans (hn : ∀ n, ρ.name n = n) (hl : ∀ k, ρ.loop k = k) :
    ∀ {ss : List Stmt}, (∀ s ∈ spansOfAll ss, ρ.span s = s) → relabelAll ρ ss = ss
  | [], _ => rfl
  | s :: ss, h => by
    rw [spansOfAll, List.forall_mem_append] at h
    rw [relabelAll, Stmt.relabel_of_spans hn hl h.1, relabelAll_of_spans hn hl h.2]

end

/-- A program of whose spans none changes does not change. -/
theorem Program.relabel_of_spans {f : Span → Span} {p : Program} (h : ∀ s ∈ p.spans, f s = s) :
    p.relabel { span := f } = p := by
  rw [Program.spans, List.forall_mem_cons] at h
  simp only [Program.relabel, h.1]
  rw [relabelAll_of_spans (fun _ => rfl) (fun _ => rfl) h.2]

end Unchanged

end Yuyan.Source
