import Yuyan.Proofs.Typed.Nodes

/-!
# Declarations and what they make visible

A declaration is visible from the statement after it to the end of its list of
statements, bodies included. What is visible at a point of a program is therefore a
list of variables: those declared before it in the same list, and those that were
visible where that list begins. `Stmt.sites` walks through a program with that list
and records each place where a variable is used or declared together with what is
visible there.
-/

namespace Yuyan.Typed

/-- The variables that a statement makes visible to those after it. -/
def Stmt.introduced : Stmt → List Variable
  | .decl _ x _ _ => [x]
  | _ => []

/-- The variables that statements in order make visible to what follows them, the last
declared first. -/
def introducedByAll : List Stmt → List Variable
  | [] => []
  | s :: ss => introducedByAll ss ++ s.introduced

mutual

/-- The variables of all declarations in a statement, in program order. -/
def Stmt.declarations : Stmt → List Variable
  | .decl _ x _ _ => [x]
  | .loop _ _ body _ => declarationsOfAll body
  | .cond _ consequent none _ => declarationsOfAll consequent
  | .cond _ consequent (some alternate) _ =>
    declarationsOfAll consequent ++ declarationsOfAll alternate
  | .assign .. | .print .. | .skip _ | .ret .. => []
termination_by structural s => s

/-- The declarations of each statement in turn. -/
def declarationsOfAll : List Stmt → List Variable
  | [] => []
  | s :: ss => s.declarations ++ declarationsOfAll ss
termination_by structural ss => ss

end

/-- What a statement makes visible to those after it is declared in it. -/
theorem Stmt.introduced_subset_declarations (s : Stmt) : s.introduced ⊆ s.declarations := by
  cases s with
  | decl t x e span => exact List.Subset.refl _
  | _ => exact List.nil_subset _

/-- The variables of all declarations of a program, in program order. -/
def Program.declarations (p : Program) : List Variable := declarationsOfAll p.statements

/-- The variable of a reference. -/
def Expr.target? : Expr → Option Variable
  | .var x _ _ => some x
  | _ => none

/-- The variables that an expression refers to. -/
def Expr.references (e : Expr) : List Variable := e.nodes.filterMap Expr.target?

namespace Expr

@[simp] theorem references_lit (v : Literal) (t : Ty) (s : Span) :
    (lit v t s).references = [] := rfl

@[simp] theorem references_var (x : Variable) (t : Ty) (s : Span) :
    (var x t s).references = [x] := rfl

@[simp] theorem references_unary (op : UnOp) (e : Expr) (t : Ty) (s : Span) :
    (unary op e t s).references = e.references := rfl

@[simp] theorem references_binary (op : BinOp) (l r : Expr) (t : Ty) (s : Span) :
    (binary op l r t s).references = l.references ++ r.references := by
  rw [references, nodes, List.filterMap_cons_none rfl, List.filterMap_append]
  rfl

@[simp] theorem references_array (es : List Expr) (t : Ty) (s : Span) :
    (array es t s).references = es.flatMap references := by
  rw [references, nodes, List.filterMap_cons_none rfl, nodesOfAll_eq_flatMap,
    List.filterMap_flatMap]
  rfl

@[simp] theorem references_index (a i : Expr) (t : Ty) (s : Span) :
    (index a i t s).references = a.references ++ i.references := by
  rw [references, nodes, List.filterMap_cons_none rfl, List.filterMap_append]
  rfl

end Expr

/-- A place where a variable stands, with the variables that are visible there. -/
inductive Site where
  /-- A reference in an expression, or the target of an assignment. -/
  | use (visible : List Variable) (target : Variable)
  | declaration (visible : List Variable) (target : Variable)
  deriving DecidableEq, Repr

/-- The variables that are visible at a site. -/
def Site.visible : Site → List Variable
  | use visible _ | declaration visible _ => visible

/-- The variable at a site is the one it should be: where a variable is used it is the
only visible one of its name, and where one is declared no visible one has its name. -/
def Site.Resolved : Site → Prop
  | use visible x => visible.filter (·.name = x.name) = [x]
  | declaration visible x => ∀ y ∈ visible, y.name ≠ x.name

instance : DecidablePred Site.Resolved
  | .use visible x => inferInstanceAs (Decidable (visible.filter (·.name = x.name) = [x]))
  | .declaration visible x => inferInstanceAs (Decidable (∀ y ∈ visible, y.name ≠ x.name))

/-- The variable at a site where one is used has been declared and is visible. -/
def Site.Declared : Site → Prop
  | use visible x => x ∈ visible
  | declaration .. => True

instance : DecidablePred Site.Declared
  | .use visible x => inferInstanceAs (Decidable (x ∈ visible))
  | .declaration .. => inferInstanceAs (Decidable True)

/-- The sites of the references of an expression. -/
def Expr.sites (visible : List Variable) (e : Expr) : List Site :=
  e.references.map (.use visible)

mutual

/-- The sites of a statement, at all depths. The value of a declaration does not see
what is declared. -/
def Stmt.sites (visible : List Variable) : Stmt → List Site
  | .decl _ x e _ => e.sites visible ++ [.declaration visible x]
  | .assign x e _ => .use visible x :: e.sites visible
  | .print e _ | .ret e _ => e.sites visible
  | .loop _ test body _ => test.sites visible ++ sitesOfAll visible body
  | .cond test consequent none _ => test.sites visible ++ sitesOfAll visible consequent
  | .cond test consequent (some alternate) _ =>
    test.sites visible ++ (sitesOfAll visible consequent ++ sitesOfAll visible alternate)
  | .skip _ => []
termination_by structural s => s

/-- The sites of statements in order, each of which sees what those before it
introduce. -/
def sitesOfAll (visible : List Variable) : List Stmt → List Site
  | [] => []
  | s :: ss => s.sites visible ++ sitesOfAll (s.introduced ++ visible) ss
termination_by structural ss => ss

end

/-- The sites of a program. -/
def Program.sites (p : Program) : List Site := sitesOfAll [] p.statements

/-- Every variable that is used is one that was declared before, in the same list of
statements or in one around it, and no two declarations have one number. -/
structure Program.IdClosed (p : Program) : Prop where
  declared : ∀ site ∈ p.sites, site.Declared
  distinct : (p.declarations.map Variable.id).Nodup

theorem Stmt.sites_cond (visible : List Variable) (test : Expr) (c : List Stmt)
    (a : Option (List Stmt)) (s : Span) : (cond test c a s).sites visible =
      test.sites visible ++ (sitesOfAll visible c ++ sitesOfAll visible (a.getD [])) := by
  cases a with
  | none => rw [sites, Option.getD_none, sitesOfAll, List.append_nil]
  | some a => rfl

theorem sitesOfAll_singleton (visible : List Variable) (s : Stmt) :
    sitesOfAll visible [s] = s.sites visible := List.append_nil _

/-- At a point of a list of statements, those before it are visible besides what is
visible where the list begins. -/
theorem sitesOfAll_append (visible : List Variable) (ss ss' : List Stmt) :
    sitesOfAll visible (ss ++ ss') =
      sitesOfAll visible ss ++ sitesOfAll (introducedByAll ss ++ visible) ss' := by
  induction ss generalizing visible with
  | nil => rfl
  | cons s ss ih =>
    simp only [List.cons_append, sitesOfAll, introducedByAll, ih, List.append_assoc]

/-! ### What is visible has been declared -/

theorem Expr.visible_subset {vs us : List Variable} (hvs : vs ⊆ us) (e : Expr) :
    ∀ site ∈ e.sites vs, site.visible ⊆ us := by
  rw [Expr.sites, List.forall_mem_map]
  exact fun _ _ => hvs

mutual

/-- Whatever the statements around it make visible, inside a statement there is only that
besides the declarations of the statement. -/
theorem Stmt.visible_subset : ∀ {s : Stmt} {vs us : List Variable}, vs ⊆ us →
    s.declarations ⊆ us → ∀ site ∈ s.sites vs, site.visible ⊆ us
  | .decl _ x e _, _, _, hvs, _ => by
    rw [Stmt.sites, List.forall_mem_append, List.forall_mem_singleton]
    exact ⟨e.visible_subset hvs, hvs⟩
  | .assign x e _, _, _, hvs, _ => by
    rw [Stmt.sites, List.forall_mem_cons]
    exact ⟨hvs, e.visible_subset hvs⟩
  | .print e _, _, _, hvs, _ | .ret e _, _, _, hvs, _ => e.visible_subset hvs
  | .loop _ test body _, _, _, hvs, hd => by
    rw [Stmt.sites, List.forall_mem_append]
    exact ⟨test.visible_subset hvs, visible_subset_of_mem_sitesOfAll hvs hd⟩
  | .cond test c none _, _, _, hvs, hd => by
    rw [Stmt.sites, List.forall_mem_append]
    exact ⟨test.visible_subset hvs, visible_subset_of_mem_sitesOfAll hvs hd⟩
  | .cond test c (some a) _, _, _, hvs, hd => by
    rw [Stmt.declarations, List.append_subset] at hd
    rw [Stmt.sites, List.forall_mem_append, List.forall_mem_append]
    exact ⟨test.visible_subset hvs, visible_subset_of_mem_sitesOfAll hvs hd.1,
      visible_subset_of_mem_sitesOfAll hvs hd.2⟩
  | .skip _, _, _, _, _ => List.forall_mem_nil _
termination_by structural s => s

theorem visible_subset_of_mem_sitesOfAll : ∀ {ss : List Stmt} {vs us : List Variable}, vs ⊆ us →
    declarationsOfAll ss ⊆ us → ∀ site ∈ sitesOfAll vs ss, site.visible ⊆ us
  | [], _, _, _, _ => List.forall_mem_nil _
  | s :: ss, _, _, hvs, hd => by
    rw [declarationsOfAll, List.append_subset] at hd
    rw [sitesOfAll, List.forall_mem_append]
    refine ⟨Stmt.visible_subset hvs hd.1, visible_subset_of_mem_sitesOfAll ?_ hd.2⟩
    exact List.append_subset.2 ⟨List.Subset.trans s.introduced_subset_declarations hd.1, hvs⟩
termination_by structural ss => ss

end

/-- A variable that is used where it is visible is declared in the program. -/
theorem Program.mem_declarations {p : Program} {vs : List Variable} {x : Variable}
    (hs : .use vs x ∈ p.sites) (hx : x ∈ vs) : x ∈ p.declarations :=
  visible_subset_of_mem_sitesOfAll (List.nil_subset _) (List.Subset.refl _) _ hs hx

end Yuyan.Typed
