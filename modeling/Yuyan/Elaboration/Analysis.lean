import Yuyan.Error
import Yuyan.Log
import Yuyan.Scope
import Yuyan.Source

/-!
# The state of an analysis

The statements of a program are elaborated in order, and what one declares the
later ones see. A step of the analysis takes the state the steps before it have
left, and leaves a state and events whether it succeeds or fails; after a failure
no further step is taken.
-/

namespace Yuyan

/-- What the analysis keeps from one statement to the next. -/
structure Context where
  /-- The open scopes. -/
  scope : Scope := .root
  /-- How many declarations were met. -/
  declared : Nat := 0
  deriving DecidableEq, Repr

/-- What a step of the analysis leaves. -/
structure Outcome (α : Type) where
  /-- What the step gave, or why it failed. -/
  result : Except AnalysisError α
  /-- The state after the step. -/
  context : Context
  /-- What was written to the log, in order. -/
  events : List Event

/-- A step of the analysis. -/
def Analysis (α : Type) : Type := Context → Outcome α

namespace Analysis

variable {α β : Type}

instance : Monad Analysis where
  pure a := fun context => ⟨.ok a, context, []⟩
  bind x f := fun context =>
    let first := x context
    match first.result with
    | .ok a =>
      let second := f a first.context
      ⟨second.result, second.context, first.events ++ second.events⟩
    | .error e => ⟨.error e, first.context, first.events⟩

/-- A step that looks at the open scopes and changes nothing. -/
def reading (f : Scope → Except AnalysisError α) : Analysis α := fun context =>
  ⟨f context.scope, context, []⟩

/-- Write one event. -/
def write (e : Event) : Analysis Unit := fun context => ⟨.ok (), context, [e]⟩

/-- Begin with nothing declared. -/
def restart : Analysis Unit := fun _ => ⟨.ok (), {}, []⟩

/-- Declare a variable under the next number. The number is used up even if the
name cannot be declared. -/
def declare (target : Source.Ident) (ty : Ty) : Analysis Variable := fun context =>
  let number := context.declared + 1
  let v : Variable := ⟨target.name, ty, number⟩
  match context.scope.declare v target.span with
  | .ok scope => ⟨.ok v, ⟨scope, number⟩, [.declared v]⟩
  | .error e => ⟨.error e, ⟨context.scope, number⟩, []⟩

/-- Analyze a body in a scope of its own. The scope is closed also if the body
fails. -/
def inBody (body : Analysis α) : Analysis α := fun context =>
  let inner := context.scope.enter
  let o := body { context with scope := inner }
  let outer := o.context.scope.leave?.getD o.context.scope
  ⟨o.result, { o.context with scope := outer },
    .entered inner.depth :: o.events ++ [.left outer.depth]⟩

/-! ### Steps in sequence -/

@[simp] theorem pure_apply (a : α) (context : Context) :
    (pure a : Analysis α) context = ⟨.ok a, context, []⟩ := rfl

@[simp] theorem reading_apply (f : Scope → Except AnalysisError α) (context : Context) :
    reading f context = ⟨f context.scope, context, []⟩ := rfl

@[simp] theorem write_apply (e : Event) (context : Context) :
    write e context = ⟨.ok (), context, [e]⟩ := rfl

/-- After a step that succeeds, the next one starts from the state it left. -/
theorem bind_of_ok {x : Analysis α} {f : α → Analysis β} {context : Context} {a : α}
    (h : (x context).result = .ok a) :
    (x >>= f) context = ⟨(f a (x context).context).result, (f a (x context).context).context,
      (x context).events ++ (f a (x context).context).events⟩ := by
  simp only [bind, h]

/-- After a step that fails, nothing more is done. -/
theorem bind_of_error {x : Analysis α} {f : α → Analysis β} {context : Context} {e : AnalysisError}
    (h : (x context).result = .error e) :
    (x >>= f) context = ⟨.error e, (x context).context, (x context).events⟩ := by
  simp only [bind, h]

/-- Two steps in sequence succeed if both do, the second from the state that the
first has left. -/
theorem result_bind_eq_ok {x : Analysis α} {f : α → Analysis β} {context : Context} {b : β} :
    ((x >>= f) context).result = .ok b ↔
      ∃ a, (x context).result = .ok a ∧ (f a (x context).context).result = .ok b := by
  cases h : (x context).result with
  | ok a => rw [bind_of_ok h]; simp
  | error e => rw [bind_of_error h]; simp

end Analysis

end Yuyan
