import Yuyan.Error
import Yuyan.Variable

/-!
# Scopes

The variables that can be seen from a point of a program. The top level is a
scope, and every body opens another one inside the scope it stands in. A name is
visible from where it is declared to the end of its scope, bodies included.

A name that is visible cannot be declared again, so no declaration hides another,
and a name means one variable at most.
-/

namespace Yuyan

/-- The open scopes, each with its variables, the last declared first. -/
structure Scope where
  /-- The variables of the innermost scope. -/
  locals : List Variable := []
  /-- The variables of the scopes around it, from the inside out. -/
  enclosing : List (List Variable) := []
  deriving DecidableEq, Repr

namespace Scope

/-- The scope of the top level before anything is declared. -/
def root : Scope := {}

/-- All visible variables, from the inside out. -/
def visible (s : Scope) : List Variable := s.locals ++ s.enclosing.flatten

/-- The visible variable of a name. -/
def lookup? (s : Scope) (name : String) : Option Variable := s.visible.find? (·.name == name)

/-- Whether a name is visible. -/
def isVisible (s : Scope) (name : String) : Bool := (s.lookup? name).isSome

/-- A variable that must be visible. -/
def resolve (s : Scope) (name : String) (span : Span) : Except AnalysisError Variable :=
  match s.lookup? name with
  | some v => .ok v
  | none => .error ⟨.undeclaredIdentifier name, span⟩

/-- Another variable in the innermost scope. -/
def declare (s : Scope) (v : Variable) (span : Span) : Except AnalysisError Scope :=
  if s.isVisible v.name then .error ⟨.duplicateDeclaration v.name, span⟩
  else .ok { s with locals := v :: s.locals }

/-- A new scope inside the innermost one. -/
def enter (s : Scope) : Scope := ⟨[], s.locals :: s.enclosing⟩

/-- The scopes without the innermost one, unless that is the top level. -/
def leave? (s : Scope) : Option Scope :=
  match s.enclosing with
  | [] => none
  | locals :: enclosing => some ⟨locals, enclosing⟩

/-- How many scopes lie around the innermost one. -/
def depth (s : Scope) : Nat := s.enclosing.length

/-- Whether only the top level is open. -/
def isRoot (s : Scope) : Bool := s.enclosing.isEmpty

/-! ### What is visible -/

theorem isVisible_iff {s : Scope} {name : String} :
    s.isVisible name = true ↔ ∃ v ∈ s.visible, v.name = name := by
  simp [isVisible, lookup?]

theorem isVisible_eq_false_iff {s : Scope} {name : String} :
    s.isVisible name = false ↔ ∀ v ∈ s.visible, v.name ≠ name := by
  rw [Bool.eq_false_iff, ne_eq, isVisible_iff]
  exact ⟨fun h v hv hn => h ⟨v, hv, hn⟩, fun h ⟨v, hv, hn⟩ => h v hv hn⟩

theorem mem_visible_of_lookup? {s : Scope} {name : String} {v : Variable}
    (h : s.lookup? name = some v) : v ∈ s.visible ∧ v.name = name :=
  ⟨List.mem_of_find?_eq_some h, by simpa using List.find?_some h⟩

/-- A variable is declared exactly where its name is not visible, and becomes the
first of the innermost scope. -/
theorem declare_eq_ok_iff {s s' : Scope} {v : Variable} {span : Span} :
    s.declare v span = .ok s' ↔ s.isVisible v.name = false ∧ s' = ⟨v :: s.locals, s.enclosing⟩ := by
  unfold declare
  split
  · rename_i h; simp [h]
  · rename_i h; simp [h, eq_comm]

theorem declare_eq_error_iff {s : Scope} {v : Variable} {span : Span} {e : AnalysisError} :
    s.declare v span = .error e ↔
      s.isVisible v.name = true ∧ e = ⟨.duplicateDeclaration v.name, span⟩ := by
  unfold declare
  cases s.isVisible v.name <;> simp [eq_comm]

theorem resolve_eq_ok_iff {s : Scope} {name : String} {span : Span} {v : Variable} :
    s.resolve name span = .ok v ↔ s.lookup? name = some v := by
  unfold resolve
  split <;> simp_all

theorem resolve_eq_error_iff {s : Scope} {name : String} {span : Span} {e : AnalysisError} :
    s.resolve name span = .error e ↔
      s.lookup? name = none ∧ e = ⟨.undeclaredIdentifier name, span⟩ := by
  unfold resolve
  cases s.lookup? name <;> simp [eq_comm]

@[simp] theorem visible_root : root.visible = [] := rfl

@[simp] theorem visible_enter (s : Scope) : s.enter.visible = s.visible := rfl

/-! ### Opening and closing scopes -/

@[simp] theorem leave?_enter (s : Scope) : s.enter.leave? = some s := rfl

@[simp] theorem depth_enter (s : Scope) : s.enter.depth = s.depth + 1 := rfl

theorem isRoot_iff {s : Scope} : s.isRoot = true ↔ s.depth = 0 := by
  simp [isRoot, depth]

end Scope

end Yuyan
