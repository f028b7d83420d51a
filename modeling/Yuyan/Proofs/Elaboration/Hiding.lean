import Yuyan.Elaboration.Program
import Yuyan.Proofs.Elaboration.Steps
import Yuyan.Proofs.Source.Names

/-!
# Names that are not mentioned

A program that does not mention a name does not notice whether a variable of that name is
visible. Hiding the name in the open scopes (`Scope.hide`) takes away all variables that
have it. Statements that do not mention the name give the same then, be it a result or an
error, write the same to the log, and leave the state that they leave otherwise, with the
name hidden (`Analysis.Ignores`). There is one lemma for each way to make a step.
-/

namespace Yuyan

variable {n : String}

/-! ### Scopes -/

namespace Scope

/-- The open scopes without the variables of a name. -/
def hide (n : String) (s : Scope) : Scope :=
  ⟨s.locals.filter (·.name != n), s.enclosing.map (List.filter (·.name != n))⟩

variable (s : Scope)

theorem visible_hide : (s.hide n).visible = s.visible.filter (·.name != n) := by
  simp [hide, visible, List.filter_append, List.filter_flatten]

/-- Another name means what it meant. -/
theorem lookup?_hide {m : String} (h : m ≠ n) : (s.hide n).lookup? m = s.lookup? m := by
  rw [lookup?, visible_hide, List.find?_filter, lookup?]
  congr 1
  funext v
  by_cases hv : v.name = m
  · simp [hv, h]
  · simp [hv]

theorem isVisible_hide {m : String} (h : m ≠ n) : (s.hide n).isVisible m = s.isVisible m := by
  rw [isVisible, lookup?_hide s h, isVisible]

/-- The name itself is not visible. -/
theorem isVisible_hide_self : (s.hide n).isVisible n = false := by
  rw [isVisible_eq_false_iff, visible_hide]
  intro v hv
  simpa using (List.mem_filter.1 hv).2

theorem resolve_hide {m : String} (h : m ≠ n) (span : Span) :
    (s.hide n).resolve m span = s.resolve m span := by
  rw [resolve, lookup?_hide s h, resolve]

theorem declare_hide {v : Variable} (h : v.name ≠ n) (span : Span) :
    (s.hide n).declare v span = (s.declare v span).map (hide n) := by
  rw [declare, isVisible_hide s h, declare]
  split
  · rfl
  · simp [Except.map, hide, h]

@[simp] theorem enter_hide : (s.hide n).enter = s.enter.hide n := rfl

theorem leave?_hide : (s.hide n).leave? = s.leave?.map (hide n) := by
  rcases s with ⟨locals, enclosing⟩
  cases enclosing <;> rfl

@[simp] theorem isRoot_hide : (s.hide n).isRoot = s.isRoot := by
  simp [hide, isRoot]

@[simp] theorem depth_hide : (s.hide n).depth = s.depth := by
  simp [hide, depth]

end Scope

/-! ### Expressions -/

namespace Source

mutual

/-- An expression becomes what it becomes anyway where a name is hidden that it does not
mention. -/
theorem Expr.elaborate_hide (scope : Scope) :
    ∀ (e : Expr) (x : Option Ty), n ∉ e.names →
      e.elaborate (scope.hide n) x = e.elaborate scope x
  | .int .., _, _ | .float .., _, _ | .string .., _, _ | .char .., _, _ | .bool .., _, _ => rfl
  | .name m s, _, h => by
    have hm : m ≠ n := by simpa [Expr.names, eq_comm] using h
    rw [Expr.elaborate, scope.resolve_hide hm, Expr.elaborate]
  | .paren e _, x, h => Expr.elaborate_hide scope e x h
  | .unary op e s, _, h => by
    rw [Expr.elaborate, Expr.elaborate_hide scope e _ h, Expr.elaborate]
  | .binary op l r s, _, h => by
    simp only [Expr.names, List.mem_append, not_or] at h
    simp only [Expr.elaborate, Expr.elaborate_hide scope l _ h.1,
      Expr.elaborate_hide scope r _ h.2]
  | .array [] _, _, _ => rfl
  | .array (e :: es) s, x, h => by
    simp only [Expr.names, namesOfElements, List.mem_append, not_or] at h
    simp only [Expr.elaborate, Expr.elaborate_hide scope e _ h.1,
      elaborateElements_hide scope es _ h.2]
  | .index a i s, _, h => by
    simp only [Expr.names, List.mem_append, not_or] at h
    simp only [Expr.elaborate, Expr.elaborate_hide scope a _ h.1,
      Expr.elaborate_hide scope i _ h.2]

theorem elaborateElements_hide (scope : Scope) :
    ∀ (es : List Expr) (t : Ty), n ∉ namesOfElements es →
      elaborateElements (scope.hide n) es t = elaborateElements scope es t
  | [], _, _ => rfl
  | e :: es, t, h => by
    simp only [namesOfElements, List.mem_append, not_or] at h
    simp only [elaborateElements, Expr.elaborate_hide scope e _ h.1,
      elaborateElements_hide scope es _ h.2]

end

end Source

/-! ### Steps -/

/-- The state without the variables of a name. -/
def Context.hide (n : String) (c : Context) : Context := { c with scope := c.scope.hide n }

@[simp] theorem Context.enter_hide (c : Context) : (c.hide n).enter = c.enter.hide n := rfl

@[simp] theorem Context.depth_hide (c : Context) : (c.hide n).scope.depth = c.scope.depth :=
  c.scope.depth_hide

@[simp] theorem Context.leave_hide (c : Context) : (c.hide n).leave = c.leave.hide n := by
  simp only [leave, hide, Scope.leave?_hide]
  cases c.scope.leave? <;> rfl

namespace Analysis

variable {α β : Type}

/-- Hiding the name before a step hides it after the step, and makes no other difference. -/
def Ignores (n : String) (x : Analysis α) : Prop :=
  ∀ c : Context, x (c.hide n) = ⟨(x c).result, (x c).context.hide n, (x c).events⟩

theorem ignores_pure (a : α) : Ignores n (pure a : Analysis α) := fun _ => rfl

theorem Ignores.bind {x : Analysis α} {f : α → Analysis β} (hx : Ignores n x)
    (hf : ∀ a, Ignores n (f a)) : Ignores n (x >>= f) := by
  intro c
  have h := hx c
  cases hr : (x c).result with
  | ok a =>
    have hr' : (x (c.hide n)).result = .ok a := by rw [h, hr]
    rw [bind_of_ok hr', bind_of_ok hr, h, hf a]
  | error e =>
    have hr' : (x (c.hide n)).result = .error e := by rw [h, hr]
    rw [bind_of_error hr', bind_of_error hr, h]

theorem ignores_reading {f : Scope → Except AnalysisError α}
    (h : ∀ scope, f (scope.hide n) = f scope) : Ignores n (reading f) := by
  intro c
  simp [Context.hide, h]

theorem ignores_declare {target : Source.Ident} (h : target.name ≠ n) (t : Ty) :
    Ignores n (declare target t) := by
  intro c
  have hd := c.scope.declare_hide (v := ⟨target.name, t, c.declared + 1⟩) h target.span
  simp only [declare, Context.hide, hd]
  cases c.scope.declare ⟨target.name, t, c.declared + 1⟩ target.span <;> rfl

theorem ignores_elaborateTest (e : Source.Expr) (h : n ∉ e.names) :
    Ignores n (reading e.elaborateTest) := by
  apply ignores_reading
  intro scope
  rw [Source.Expr.elaborateTest, Source.Expr.elaborate_hide scope e none h,
    Source.Expr.elaborateTest]

theorem Ignores.inBody {x : Analysis α} (hx : Ignores n x) : Ignores n (inBody x) := by
  intro c
  rw [inBody_apply, inBody_apply, Context.enter_hide, hx c.enter]
  simp

end Analysis

/-! ### Statements -/

namespace Source

open Analysis

mutual

/-- A statement ignores a name that it does not mention. -/
theorem Stmt.ignores_elaborate : ∀ s : Stmt, n ∉ s.names → Ignores n s.elaborate
  | .decl written target value s, h => by
    simp only [Stmt.names, List.mem_cons, not_or] at h
    rw [Stmt.elaborate]
    refine (ignores_reading fun scope => ?_).bind fun _ =>
      (ignores_declare (Ne.symm h.1) _).bind fun _ => ignores_pure _
    rw [Expr.elaborateValue, Expr.elaborate_hide scope value _ h.2, Expr.elaborateValue]
  | .assign target value s, h => by
    simp only [Stmt.names, List.mem_cons, not_or] at h
    rw [Stmt.elaborate]
    apply ignores_reading
    intro scope
    simp only [scope.resolve_hide (Ne.symm h.1), Expr.elaborateValue,
      Expr.elaborate_hide scope value _ h.2]
  | .print e s, h => by
    rw [Stmt.elaborate]
    apply ignores_reading
    intro scope
    rw [Expr.elaborate_hide scope e none h]
  | .loop kind test body s, h => by
    simp only [Stmt.names, List.mem_append, not_or] at h
    rw [Stmt.elaborate]
    exact (ignores_elaborateTest test h.1).bind fun _ =>
      (Block.ignores_elaborate body h.2).bind fun _ => ignores_pure _
  | .cond test consequent none s, h => by
    simp only [Stmt.names, List.mem_append, not_or] at h
    rw [Stmt.elaborate]
    exact (ignores_elaborateTest test h.1).bind fun _ =>
      (Block.ignores_elaborate consequent h.2).bind fun _ => ignores_pure _
  | .cond test consequent (some alternate) s, h => by
    simp only [Stmt.names, List.mem_append, not_or] at h
    rw [Stmt.elaborate]
    exact (ignores_elaborateTest test h.1).bind fun _ =>
      (Block.ignores_elaborate consequent h.2.1).bind fun _ =>
        (Block.ignores_elaborate alternate h.2.2).bind fun _ => ignores_pure _
  | .skip s, _ => ignores_pure _
  | .ret e s, h => by
    rw [Stmt.elaborate]
    apply ignores_reading
    intro scope
    rw [Scope.isRoot_hide, Expr.elaborate_hide scope e none h]

theorem Block.ignores_elaborate : ∀ b : Block, n ∉ b.names → Ignores n b.elaborate
  | .mk ss _, h => by
    rw [Block.elaborate]
    exact (ignores_elaborateAll ss h).inBody

/-- Statements ignore a name that none of them mentions. -/
theorem ignores_elaborateAll : ∀ ss : List Stmt, n ∉ namesOfAll ss → Ignores n (elaborateAll ss)
  | [], _ => ignores_pure _
  | s :: ss, h => by
    simp only [namesOfAll, List.mem_append, not_or] at h
    rw [elaborateAll]
    exact (Stmt.ignores_elaborate s h.1).bind fun _ =>
      (ignores_elaborateAll ss h.2).bind fun _ => ignores_pure _

end

end Source

end Yuyan
