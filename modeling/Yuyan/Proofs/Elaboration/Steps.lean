import Yuyan.Elaboration.Analysis
import Yuyan.Proofs.Typed.Visibility

/-!
# Steps of an analysis that succeed

`Gives x c a c'` says that a step succeeds with `a` and leaves the state `c'`. There is
one lemma for each way to make a step, which says when the step succeeds and what it
leaves, so that no later proof opens a step. Where a step may fail, another lemma says when.

What a statement leaves hangs only on the typed statement it becomes (`Context.after`):
a declaration adds its variable to the innermost scope, and every declaration inside
counts.
-/

namespace Yuyan

/-! ### States -/

namespace Context

/-- The state at the start of a body. -/
def enter (c : Context) : Context := { c with scope := c.scope.enter }

/-- The state after the end of a body, given the state at its end. -/
def leave (c : Context) : Context := { c with scope := c.scope.leave?.getD c.scope }

/-- The state after a body, given the statements the body becomes. -/
def afterBody (c : Context) (body : List Typed.Stmt) : Context :=
  { c with declared := c.declared + (Typed.declarationsOfAll body).length }

/-- The state after a statement, given the statement it becomes. -/
def after (c : Context) (s : Typed.Stmt) : Context where
  scope := ⟨s.introduced ++ c.scope.locals, c.scope.enclosing⟩
  declared := c.declared + s.declarations.length

/-- The state after statements in order, given the statements they become. -/
def afterAll (c : Context) (ss : List Typed.Stmt) : Context where
  scope := ⟨Typed.introducedByAll ss ++ c.scope.locals, c.scope.enclosing⟩
  declared := c.declared + (Typed.declarationsOfAll ss).length

theorem afterAll_cons (c : Context) (s : Typed.Stmt) (ss : List Typed.Stmt) :
    c.afterAll (s :: ss) = (c.after s).afterAll ss := by
  simp only [afterAll, after, Typed.introducedByAll, Typed.declarationsOfAll, List.append_assoc,
    List.length_append, Nat.add_assoc]

theorem after_cond (c : Context) (test : Typed.Expr) (consequent alternate : List Typed.Stmt)
    (s : Span) : c.after (.cond test consequent (some alternate) s) =
      (c.afterBody consequent).afterBody alternate := by
  simp only [after, afterBody, Typed.Stmt.introduced, Typed.Stmt.declarations, List.nil_append,
    List.length_append, Nat.add_assoc]

/-- Of what a body declares, only the numbers outlive it. -/
theorem leave_afterAll_enter (c : Context) (ss : List Typed.Stmt) :
    (c.enter.afterAll ss).leave = c.afterBody ss := rfl

@[simp] theorem visible_after (c : Context) (s : Typed.Stmt) :
    (c.after s).scope.visible = s.introduced ++ c.scope.visible := by
  simp [after, Scope.visible]

@[simp] theorem isRoot_after (c : Context) (s : Typed.Stmt) :
    (c.after s).scope.isRoot = c.scope.isRoot := rfl

end Context

/-! ### Steps -/

namespace Analysis

variable {α β : Type} {c c' : Context} {a : α}

/-- A step from the state `c` succeeds with `a` and leaves the state `c'`. -/
def Gives (x : Analysis α) (c : Context) (a : α) (c' : Context) : Prop :=
  (x c).result = .ok a ∧ (x c).context = c'

theorem gives_pure {b : α} : Gives (pure b) c a c' ↔ b = a ∧ c = c' := by
  simp [Gives]

theorem gives_bind {x : Analysis α} {f : α → Analysis β} {b : β} :
    Gives (x >>= f) c b c' ↔ ∃ a c₁, Gives x c a c₁ ∧ Gives (f a) c₁ b c' := by
  constructor
  · rintro ⟨h, hc⟩
    obtain ⟨a, ha, hb⟩ := result_bind_eq_ok.1 h
    rw [bind_of_ok ha] at hc
    exact ⟨a, _, ⟨ha, rfl⟩, hb, hc⟩
  · rintro ⟨a, _, ⟨ha, rfl⟩, hb, hc⟩
    refine ⟨result_bind_eq_ok.2 ⟨a, ha, hb⟩, ?_⟩
    rw [bind_of_ok ha]
    exact hc

/-- Two steps in sequence fail if the first one does, or the second one from the state that the
first has left. -/
theorem result_bind_eq_error {x : Analysis α} {f : α → Analysis β} {e : AnalysisError} :
    ((x >>= f) c).result = .error e ↔
      (x c).result = .error e ∨ ∃ a c₁, Gives x c a c₁ ∧ (f a c₁).result = .error e := by
  constructor
  · intro h
    rcases hx : (x c).result with e' | a
    · rw [bind_of_error hx] at h
      exact .inl (by simpa using h)
    · rw [bind_of_ok hx] at h
      exact .inr ⟨a, _, ⟨hx, rfl⟩, h⟩
  · rintro (h | ⟨a, _, ⟨ha, rfl⟩, h⟩)
    · rw [bind_of_error h]
    · rw [bind_of_ok ha]
      exact h

theorem gives_reading {f : Scope → Except AnalysisError α} :
    Gives (reading f) c a c' ↔ f c.scope = .ok a ∧ c = c' := Iff.rfl

theorem gives_write {e : Event} {u : Unit} : Gives (write e) c u c' ↔ c = c' := by
  simp [Gives]

theorem gives_restart {u : Unit} : Gives restart c u c' ↔ {} = c' := by
  simp [Gives, restart]

/-- A declaration succeeds where the name is not visible, and adds the variable under
the next number to the innermost scope. -/
theorem gives_declare {target : Source.Ident} {t : Ty} {v : Variable} :
    Gives (declare target t) c v c' ↔ c.scope.isVisible target.name = false ∧
      v = ⟨target.name, t, c.declared + 1⟩ ∧
      c' = ⟨⟨v :: c.scope.locals, c.scope.enclosing⟩, c.declared + 1⟩ := by
  rcases h : c.scope.declare ⟨target.name, t, c.declared + 1⟩ target.span with e | scope
  · refine iff_of_false (fun hg => ?_) fun ⟨hv, _⟩ => ?_
    · simp [Gives, declare, h] at hg
    · rw [Scope.declare_eq_ok_iff.2 ⟨hv, rfl⟩] at h
      cases h
  · obtain ⟨hv, rfl⟩ := Scope.declare_eq_ok_iff.1 h
    simp only [Gives, declare, h, hv, true_and, Except.ok.injEq]
    constructor
    · rintro ⟨rfl, rfl⟩
      exact ⟨rfl, rfl⟩
    · rintro ⟨rfl, rfl⟩
      exact ⟨rfl, rfl⟩

/-- A declaration fails where the name is visible. -/
theorem result_declare_eq_error {target : Source.Ident} {t : Ty} {e : AnalysisError} :
    (declare target t c).result = .error e ↔ c.scope.isVisible target.name = true ∧
      e = ⟨.duplicateDeclaration target.name, target.span⟩ := by
  rcases h : c.scope.declare ⟨target.name, t, c.declared + 1⟩ target.span with e' | scope
  · obtain ⟨hv, rfl⟩ := Scope.declare_eq_error_iff.1 h
    simp [declare, h, hv, eq_comm]
  · obtain ⟨hv, -⟩ := Scope.declare_eq_ok_iff.1 h
    simp [declare, h, hv]

/-- A body runs in a scope of its own, which is closed after it, also if the body fails. -/
theorem inBody_apply (body : Analysis α) (c : Context) :
    inBody body c = ⟨(body c.enter).result, (body c.enter).context.leave,
      .entered c.enter.scope.depth :: (body c.enter).events ++
        [.left (body c.enter).context.leave.scope.depth]⟩ := rfl

/-- A body runs in a scope of its own, which is closed after it. -/
theorem gives_inBody {body : Analysis α} :
    Gives (inBody body) c a c' ↔ ∃ c₁, Gives body c.enter a c₁ ∧ c₁.leave = c' := by
  constructor
  · rintro ⟨h, hc⟩
    exact ⟨_, ⟨h, rfl⟩, hc⟩
  · rintro ⟨_, ⟨h, rfl⟩, hc⟩
    exact ⟨h, hc⟩

end Analysis

end Yuyan
