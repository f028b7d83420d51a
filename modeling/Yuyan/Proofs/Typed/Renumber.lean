import Yuyan.Constant
import Yuyan.Proofs.Typed.Visibility

/-!
# Typed programs with other numbers

The variables of a tree get other numbers, and nothing else changes: names, types, spans and
the shape of the tree stay. A relabeling does so by the number alone (`Relabeling.number`).
Here the new number may hang on the whole variable, so that two variables can part that have
one number.

What becomes of a tree hangs on the new numbers of the variables that stand in it and on no
others (`renumberAll_congr`).
-/

namespace Yuyan

/-- A variable with another number. -/
def Variable.renumber (ν : Variable → Nat) (x : Variable) : Variable := { x with id := ν x }

theorem Variable.renumber_congr {ν ν' : Variable → Nat} {x : Variable} (h : ν x = ν' x) :
    x.renumber ν = x.renumber ν' := by
  rw [renumber, h, renumber]

theorem Variable.renumber_of_eq {ν : Variable → Nat} {x : Variable} (h : ν x = x.id) :
    x.renumber ν = x := by
  rw [renumber, h]

namespace Typed

mutual

/-- An expression with other numbers. -/
def Expr.renumber (ν : Variable → Nat) : Expr → Expr
  | .lit v t s => .lit v t s
  | .var x t s => .var (x.renumber ν) t s
  | .unary op e t s => .unary op (e.renumber ν) t s
  | .binary op l r t s => .binary op (l.renumber ν) (r.renumber ν) t s
  | .array es t s => .array (renumberElements ν es) t s
  | .index a i t s => .index (a.renumber ν) (i.renumber ν) t s
termination_by structural e => e

/-- Each element of an array with other numbers. -/
def renumberElements (ν : Variable → Nat) : List Expr → List Expr
  | [] => []
  | e :: es => e.renumber ν :: renumberElements ν es
termination_by structural es => es

end

mutual

/-- A statement with other numbers. -/
def Stmt.renumber (ν : Variable → Nat) : Stmt → Stmt
  | .decl t x e s => .decl t (x.renumber ν) (e.renumber ν) s
  | .assign x e s => .assign (x.renumber ν) (e.renumber ν) s
  | .print e s => .print (e.renumber ν) s
  | .loop kind test body s => .loop kind (test.renumber ν) (renumberAll ν body) s
  | .cond test consequent none s => .cond (test.renumber ν) (renumberAll ν consequent) none s
  | .cond test consequent (some alternate) s =>
    .cond (test.renumber ν) (renumberAll ν consequent) (some (renumberAll ν alternate)) s
  | .skip s => .skip s
  | .ret e s => .ret (e.renumber ν) s
termination_by structural s => s

/-- Each statement with other numbers. -/
def renumberAll (ν : Variable → Nat) : List Stmt → List Stmt
  | [] => []
  | s :: ss => s.renumber ν :: renumberAll ν ss
termination_by structural ss => ss

end

/-! ### What numbers do not change -/

section Unchanged

variable {ν : Variable → Nat}

theorem renumberElements_eq_map (es : List Expr) :
    renumberElements ν es = es.map (Expr.renumber ν) := by
  induction es with
  | nil => rfl
  | cons e es ih => rw [renumberElements, ih, List.map_cons]

namespace Expr

@[simp] theorem ty_renumber (e : Expr) : (e.renumber ν).ty = e.ty := by
  cases e <;> rfl

@[simp] theorem span_renumber (e : Expr) : (e.renumber ν).span = e.span := by
  cases e <;> rfl

@[simp] theorem length?_renumber (e : Expr) : (e.renumber ν).length? = e.length? := by
  cases e with
  | array es t s => rw [renumber, length?, length?, renumberElements_eq_map, List.length_map]
  | _ => rfl

@[simp] theorem constant?_renumber (e : Expr) : (e.renumber ν).constant? = e.constant? := by
  induction e with
  | unary op e t s ih => rw [renumber, constant?, constant?, ih]
  | binary op l r t s ihl ihr => rw [renumber, constant?, constant?, ihl, ihr]
  | _ => rfl

end Expr

end Unchanged

/-! ### The variables of a tree -/

/-- The variable that stands at a site. -/
def Site.target : Site → Variable
  | use _ x | declaration _ x => x

section Congruence

variable {ν ν' : Variable → Nat}

theorem Expr.renumber_congr {e : Expr} (h : ∀ x ∈ e.references, ν x = ν' x) :
    e.renumber ν = e.renumber ν' := by
  induction e with
  | lit v t s => rfl
  | var x t s =>
    rw [references_var, List.forall_mem_singleton] at h
    rw [renumber, Variable.renumber_congr h, renumber]
  | unary op e t s ih =>
    rw [renumber, ih h, renumber]
  | binary op l r t s ihl ihr =>
    rw [references_binary, List.forall_mem_append] at h
    rw [renumber, ihl h.1, ihr h.2, renumber]
  | array es t s ih =>
    rw [references_array, List.forall_mem_flatMap] at h
    rw [renumber, renumberElements_eq_map, List.map_congr_left fun e he => ih e he (h e he),
      ← renumberElements_eq_map, renumber]
  | index a i t s iha ihi =>
    rw [references_index, List.forall_mem_append] at h
    rw [renumber, iha h.1, ihi h.2, renumber]

theorem Expr.renumber_congr_sites {e : Expr} {vs : List Variable}
    (h : ∀ site ∈ e.sites vs, ν site.target = ν' site.target) : e.renumber ν = e.renumber ν' :=
  Expr.renumber_congr (List.forall_mem_map.1 h)

mutual

theorem Stmt.renumber_congr : ∀ {s : Stmt} {vs : List Variable},
    (∀ site ∈ s.sites vs, ν site.target = ν' site.target) → s.renumber ν = s.renumber ν'
  | .decl t x e s, vs, h => by
    rw [Stmt.sites, List.forall_mem_append, List.forall_mem_singleton] at h
    have hx : ν x = ν' x := h.2
    rw [Stmt.renumber, Variable.renumber_congr hx, Expr.renumber_congr_sites h.1, Stmt.renumber]
  | .assign x e s, vs, h => by
    rw [Stmt.sites, List.forall_mem_cons] at h
    have hx : ν x = ν' x := h.1
    rw [Stmt.renumber, Variable.renumber_congr hx, Expr.renumber_congr_sites h.2, Stmt.renumber]
  | .print e s, vs, h | .ret e s, vs, h => by
    rw [Stmt.renumber, Expr.renumber_congr_sites h, Stmt.renumber]
  | .loop kind test body s, vs, h => by
    rw [Stmt.sites, List.forall_mem_append] at h
    rw [Stmt.renumber, Expr.renumber_congr_sites h.1, renumberAll_congr h.2, Stmt.renumber]
  | .cond test c none s, vs, h => by
    rw [Stmt.sites, List.forall_mem_append] at h
    rw [Stmt.renumber, Expr.renumber_congr_sites h.1, renumberAll_congr h.2, Stmt.renumber]
  | .cond test c (some a) s, vs, h => by
    rw [Stmt.sites, List.forall_mem_append, List.forall_mem_append] at h
    rw [Stmt.renumber, Expr.renumber_congr_sites h.1, renumberAll_congr h.2.1,
      renumberAll_congr h.2.2, Stmt.renumber]
  | .skip s, vs, h => rfl
termination_by structural s => s

/-- New numbers that agree on the variables in statements make the same of the statements. -/
theorem renumberAll_congr : ∀ {ss : List Stmt} {vs : List Variable},
    (∀ site ∈ sitesOfAll vs ss, ν site.target = ν' site.target) →
      renumberAll ν ss = renumberAll ν' ss
  | [], vs, h => rfl
  | s :: ss, vs, h => by
    rw [sitesOfAll, List.forall_mem_append] at h
    rw [renumberAll, Stmt.renumber_congr h.1, renumberAll_congr h.2, renumberAll]
termination_by structural ss => ss

end

end Congruence

end Typed

end Yuyan
