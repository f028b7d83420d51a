import Yuyan.Proofs.Elaboration.Sequence
import Yuyan.Proofs.Scope.Tables
import Yuyan.Proofs.Typed.Parts

/-!
# The open scopes after an error

An error ends the analysis wherever it is found, with any number of bodies open, and the
scopes of these bodies are closed on the way out. What a step asks of the open scopes is
therefore balanced, whether the step succeeds or fails (`Analysis.Balances`): there is one
lemma for each way to make a step, and none of them asks how the step ends.

Balanced calls can only leave declarations in the innermost scope. For a body that is the
scope of the body, which is gone with it, so a body leaves the open scopes as they were
(`Source.Block.restores_elaborate`). So does every statement but one. A declaration looks at
its value first, and what it adds to the scope is the last thing it does, so it has added
nothing if it fails.
-/

namespace Yuyan

namespace Scope

theorem Balanced.append {cs ds : List Call} (hc : Balanced cs) (hd : Balanced ds) :
    Balanced (cs ++ ds) := by
  induction hc with
  | nil => exact hd
  | declare _ ih => exact .declare ih
  | body inside _ _ ih =>
    rw [List.cons_append, List.append_assoc, List.cons_append]
    exact .body inside ih

end Scope

open Scope (Balanced)

namespace Analysis

variable {α β : Type}

/-- However the step ends, what it has asked of the open scopes is balanced. -/
def Balances (x : Analysis α) : Prop :=
  ∀ c, ∃ cs, Balanced cs ∧ (x c).context.scope = c.scope.afterAll cs

/-- However the step ends, it leaves the open scopes as they were. -/
def Restores (x : Analysis α) : Prop := ∀ c, (x c).context.scope = c.scope

/-- If the step fails, it leaves the open scopes as they were. -/
def RestoresOnError (x : Analysis α) : Prop :=
  ∀ c e, (x c).result = .error e → (x c).context.scope = c.scope

theorem restores_reading (f : Scope → Except AnalysisError α) : Restores (reading f) :=
  fun _ => rfl

theorem restores_pure (a : α) : Restores (pure a) := fun _ => rfl

theorem Restores.bind {x : Analysis α} {f : α → Analysis β} (hx : Restores x)
    (hf : ∀ a, Restores (f a)) : Restores (x >>= f) := by
  intro c
  cases hr : (x c).result with
  | error e =>
    rw [bind_of_error hr]
    exact hx c
  | ok a =>
    rw [bind_of_ok hr]
    exact (hf a _).trans (hx c)

theorem Restores.balances {x : Analysis α} (h : Restores x) : Balances x :=
  fun c => ⟨[], .nil, h c⟩

theorem Balances.bind {x : Analysis α} {f : α → Analysis β} (hx : Balances x)
    (hf : ∀ a, Balances (f a)) : Balances (x >>= f) := by
  intro c
  obtain ⟨cs, hb, hs⟩ := hx c
  cases hr : (x c).result with
  | error e =>
    rw [bind_of_error hr]
    exact ⟨cs, hb, hs⟩
  | ok a =>
    obtain ⟨ds, hb', hs'⟩ := hf a (x c).context
    rw [bind_of_ok hr]
    refine ⟨cs ++ ds, hb.append hb', ?_⟩
    rw [Scope.afterAll_append, ← hs]
    exact hs'

theorem Restores.onError {x : Analysis α} (h : Restores x) : RestoresOnError x :=
  fun c _ _ => h c

/-- A step that restores the open scopes can be taken before one that does so if it fails. -/
theorem Restores.bind_onError {x : Analysis α} {f : α → Analysis β} (hx : Restores x)
    (hf : ∀ a, RestoresOnError (f a)) : RestoresOnError (x >>= f) := by
  intro c e h
  cases hr : (x c).result with
  | error e' =>
    rw [bind_of_error hr]
    exact hx c
  | ok a =>
    rw [bind_of_ok hr] at h ⊢
    exact (hf a _ e h).trans (hx c)

/-- What cannot fail does not matter after a step. -/
theorem RestoresOnError.map {x : Analysis α} (h : RestoresOnError x) (f : α → β) :
    RestoresOnError (x >>= fun a => pure (f a)) := by
  intro c e he
  cases hr : (x c).result with
  | error e' =>
    rw [bind_of_error hr]
    exact h c e' hr
  | ok a =>
    rw [bind_of_ok hr] at he
    cases he

theorem restoresOnError_declare (target : Source.Ident) (t : Ty) :
    RestoresOnError (declare target t) := by
  intro c e h
  simp only [declare] at h ⊢
  split at h
  · cases h
  · rfl

theorem balances_declare (target : Source.Ident) (t : Ty) : Balances (declare target t) := by
  intro c
  refine ⟨[.declare ⟨target.name, t, c.declared + 1⟩ target.span], .declare .nil, ?_⟩
  exact scope_declare target t c

/-- A body is left as it was entered, and takes with it what it has declared. -/
theorem Balances.restores_inBody {x : Analysis α} (h : Balances x) : Restores (inBody x) := by
  intro c
  obtain ⟨cs, hb, hs⟩ := h c.enter
  have hl : (c.scope.enter.afterAll cs).leave? = some c.scope :=
    Scope.leave?_afterAll_of_balanced hb c.scope
  calc (inBody x c).context.scope
      = (x c.enter).context.scope.after .leave := scope_inBody x c
    _ = (c.scope.enter.afterAll cs).after .leave := by rw [hs]; rfl
    _ = c.scope := Scope.after_leave_of_eq_some hl

end Analysis

/-! ### Statements -/

namespace Source

open Analysis

theorem restores_loop {body : Block} (h : Restores body.elaborate) (kind : Loop) (test : Expr)
    (s : Span) : Restores (Stmt.loop kind test body s).elaborate := by
  rw [Stmt.elaborate]
  exact (restores_reading _).bind fun _ => h.bind fun _ => restores_pure _

theorem restores_cond {consequent : Block} {alternate : Option Block}
    (hc : Restores consequent.elaborate) (ha : ∀ b ∈ alternate, Restores b.elaborate) (test : Expr)
    (s : Span) : Restores (Stmt.cond test consequent alternate s).elaborate := by
  cases alternate with
  | none =>
    rw [Stmt.elaborate]
    exact (restores_reading _).bind fun _ => hc.bind fun _ => restores_pure _
  | some alternate =>
    rw [Stmt.elaborate]
    exact (restores_reading _).bind fun _ => hc.bind fun _ =>
      (ha alternate rfl).bind fun _ => restores_pure _

mutual

/-- What a statement asks of the open scopes is balanced. -/
theorem Stmt.balances_elaborate : ∀ s : Stmt, Balances s.elaborate
  | .decl written target value s => by
    rw [Stmt.elaborate]
    refine (restores_reading _).balances.bind fun _ => ?_
    exact (balances_declare target _).bind fun _ => (restores_pure _).balances
  | .assign .. | .print .. | .ret .. => (restores_reading _).balances
  | .skip _ => (restores_pure _).balances
  | .loop kind test body s => (restores_loop (Block.restores_elaborate body) kind test s).balances
  | .cond test consequent none s => by
    refine (restores_cond (Block.restores_elaborate consequent) ?_ test s).balances
    rintro _ ⟨⟩
  | .cond test consequent (some alternate) s => by
    refine (restores_cond (Block.restores_elaborate consequent) ?_ test s).balances
    rintro _ ⟨⟩
    exact Block.restores_elaborate alternate
termination_by structural s => s

/-- A body leaves the open scopes as they were. -/
theorem Block.restores_elaborate : ∀ b : Block, Restores b.elaborate
  | .mk ss _ => (balances_elaborateAll ss).restores_inBody
termination_by structural b => b

theorem balances_elaborateAll : ∀ ss : List Stmt, Balances (elaborateAll ss)
  | [] => (restores_pure _).balances
  | s :: ss => by
    rw [elaborateAll]
    refine (Stmt.balances_elaborate s).bind fun _ => ?_
    exact (balances_elaborateAll ss).bind fun _ => (restores_pure _).balances
termination_by structural ss => ss

end

/-- The variable that a statement declares, where so many declarations come before it. -/
def Stmt.declared? (before : Nat) : Stmt → Option Variable
  | .decl written target _ _ => some ⟨target.name, written.resolve, before + 1⟩
  | _ => none

/-- A statement that is not a declaration leaves the open scopes as they were. -/
theorem Stmt.restores_elaborate {s : Stmt} (h : s.declared? 0 = none) : Restores s.elaborate := by
  cases s with
  | decl => cases h
  | loop kind test body s => exact restores_loop body.restores_elaborate kind test s
  | cond test consequent alternate s =>
    exact restores_cond consequent.restores_elaborate (fun b _ => b.restores_elaborate) test s
  | skip s => exact restores_pure _
  | assign | print | ret => exact restores_reading _

/-- A statement that fails leaves the open scopes as they were: a declaration has added
nothing then. -/
theorem Stmt.restoresOnError_elaborate (s : Stmt) : RestoresOnError s.elaborate := by
  cases s with
  | decl written target value s =>
    rw [Stmt.elaborate]
    refine (restores_reading _).bind_onError fun _ => ?_
    exact (restoresOnError_declare target _).map _
  | _ => exact (Stmt.restores_elaborate rfl).onError

/-- What a statement becomes declares the variable of the statement, and nothing else is
introduced by it. -/
theorem declared?_of_elaborates {c : Context} {s : Stmt} {s' : Typed.Stmt}
    (h : ElaboratesStmt c s s') :
    s'.declared? = s.declared? c.declared ∧ s'.introduced = (s.declared? c.declared).toList := by
  cases h <;> exact ⟨rfl, rfl⟩

/-- **The open scopes are restored on every path.** A body leaves them exactly as they were,
whether it is accepted or an error is found in it at any depth. A statement leaves them as
they were if it fails; if it is accepted, it has added its own variable to the innermost scope
if it is a declaration, and nothing otherwise. -/
theorem scope_elaborate (c : Context) :
    (∀ b : Block, (b.elaborate c).context.scope = c.scope) ∧
    ∀ s : Stmt, match (s.elaborate c).result with
      | .error _ => (s.elaborate c).context.scope = c.scope
      | .ok s' => s'.declared? = s.declared? c.declared ∧ (s.elaborate c).context.scope =
          ⟨(s.declared? c.declared).toList ++ c.scope.locals, c.scope.enclosing⟩ := by
  refine ⟨fun b => b.restores_elaborate c, fun s => ?_⟩
  split
  · rename_i e h
    exact s.restoresOnError_elaborate c e h
  · rename_i s' h
    obtain ⟨hs, -⟩ := gives_elaborate.1 ⟨h, rfl⟩
    obtain ⟨hd, hi⟩ := declared?_of_elaborates hs
    rw [context_elaborate h, ← hi]
    exact ⟨hd, rfl⟩

end Source

end Yuyan
