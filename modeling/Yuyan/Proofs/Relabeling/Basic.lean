import Yuyan.Operator
import Yuyan.Scope

/-!
# Relabelings

Much of what stands in a program only tells its parts apart or says where they are: spans,
the names of variables, the numbers of declarations, the word that a loop is written with.
A relabeling replaces all of these, each in the same way everywhere. Types, operators and
literals are not touched.

What the compiler does with a relabeled program is what it does with the program,
relabeled. This asks nothing of the spans and the words, since nothing looks at them, and
of names and numbers that different ones stay different (`Relabeling.Faithful`).
-/

namespace Yuyan

/-- What spans, names, numbers of declarations and words for loops are replaced by; each is
left as it is unless something else is said. -/
structure Relabeling where
  /-- The new span for a span. -/
  span : Span → Span := fun s => s
  /-- The new name for a name. -/
  name : String → String := fun n => n
  /-- The new number for the number of a declaration. -/
  number : Nat → Nat := fun n => n
  /-- The new word for the word of a loop. -/
  loop : Loop → Loop := fun k => k

/-- Different names stay different, and so do different numbers. -/
structure Relabeling.Faithful (ρ : Relabeling) : Prop where
  name : ∀ {m n : String}, ρ.name m = ρ.name n → m = n
  number : ∀ {m n : Nat}, ρ.number m = ρ.number n → m = n

variable {ρ : Relabeling}

/-! ### Variables -/

/-- A variable with another name and number. -/
def Variable.relabel (ρ : Relabeling) (x : Variable) : Variable :=
  ⟨ρ.name x.name, x.ty, ρ.number x.id⟩

@[simp] theorem Variable.name_relabel (x : Variable) : (x.relabel ρ).name = ρ.name x.name := rfl

theorem Variable.relabel_inj (hρ : ρ.Faithful) {x y : Variable} :
    x.relabel ρ = y.relabel ρ ↔ x = y := by
  constructor
  · intro h
    rcases x with ⟨n, t, i⟩
    rcases y with ⟨m, u, j⟩
    simp only [relabel, mk.injEq] at h ⊢
    exact ⟨hρ.name h.1, h.2.1, hρ.number h.2.2⟩
  · exact congrArg (Variable.relabel ρ)

/-! ### Errors -/

/-- A cause with another name, where it has one. -/
def Cause.relabel (ρ : Relabeling) : Cause → Cause
  | duplicateDeclaration n => duplicateDeclaration (ρ.name n)
  | undeclaredIdentifier n => undeclaredIdentifier (ρ.name n)
  | cause => cause

/-- An error about another span, with another name where it has one. -/
def AnalysisError.relabel (ρ : Relabeling) (e : AnalysisError) : AnalysisError :=
  ⟨e.cause.relabel ρ, ρ.span e.span⟩

/-- A result relabeled, a value by `f` and an error as errors are. -/
def Relabeling.onResult {α β : Type} (ρ : Relabeling) (f : α → β) :
    Except AnalysisError α → Except AnalysisError β
  | .ok a => .ok (f a)
  | .error e => .error (e.relabel ρ)

section Results

variable {α β γ δ : Type} {f : α → β}

@[simp] theorem Relabeling.onResult_ok (a : α) : ρ.onResult f (.ok a) = .ok (f a) := rfl

@[simp] theorem Relabeling.onResult_error (e : AnalysisError) :
    ρ.onResult f (.error e) = .error (e.relabel ρ) := rfl

/-- Of two steps in sequence, each may be relabeled. -/
theorem Relabeling.onResult_bind {x : Except AnalysisError α} {x' : Except AnalysisError β}
    {k : α → Except AnalysisError γ} {k' : β → Except AnalysisError δ} {g : γ → δ}
    (hx : x' = ρ.onResult f x) (hk : ∀ a, k' (f a) = ρ.onResult g (k a)) :
    (x' >>= k') = ρ.onResult g (x >>= k) := by
  subst hx
  cases x with
  | ok a => exact hk a
  | error e => rfl

/-- The same where the first step is a check. -/
theorem Relabeling.onResult_check {x x' : Except AnalysisError Unit}
    {k : Unit → Except AnalysisError γ} {k' : Unit → Except AnalysisError δ} {g : γ → δ}
    (hx : x' = ρ.onResult id x) (hk : k' () = ρ.onResult g (k ())) :
    (x' >>= k') = ρ.onResult g (x >>= k) :=
  Relabeling.onResult_bind hx fun _ => hk

end Results

/-! ### Scopes -/

namespace Scope

/-- The open scopes with other variables in place of theirs. -/
def map (f : Variable → Variable) (s : Scope) : Scope :=
  ⟨s.locals.map f, s.enclosing.map (List.map f)⟩

section Map

variable {f : Variable → Variable} (s : Scope)

theorem visible_map : (s.map f).visible = s.visible.map f := by
  simp only [map, visible, List.map_append, List.map_flatten]

theorem isRoot_map : (s.map f).isRoot = s.isRoot := by
  simp [map, isRoot]

theorem leave?_map : (s.map f).leave? = s.leave?.map (map f) := by
  rcases s with ⟨locals, enclosing⟩
  cases enclosing <;> rfl

/-- A name is looked up as the variable in place of another, if it is the new name of that
variable and of no other. -/
theorem lookup?_map {m n : String} (h : ∀ v, (f v).name = m ↔ v.name = n) :
    (s.map f).lookup? m = (s.lookup? n).map f := by
  have same : (fun v : Variable => v.name == m) ∘ f = fun v => v.name == n := by
    funext v
    rw [Function.comp_apply, Bool.eq_iff_iff, beq_iff_eq, beq_iff_eq]
    exact h v
  rw [lookup?, visible_map, List.find?_map, same, lookup?]

theorem isVisible_map {m n : String} (h : ∀ v, (f v).name = m ↔ v.name = n) :
    (s.map f).isVisible m = s.isVisible n := by
  rw [isVisible, lookup?_map s h, Option.isSome_map, isVisible]

/-- Scopes are what they were if each of their variables takes its own place. -/
theorem map_eq_self (h : ∀ x ∈ s.visible, f x = x) : s.map f = s := by
  have same : ∀ table ∈ s.locals :: s.enclosing, table.map f = table := by
    intro table ht
    refine (List.map_congr_left fun x hx => h x ?_).trans (List.map_id table)
    rw [visible, ← List.flatten_cons]
    exact List.mem_flatten.2 ⟨table, ht, hx⟩
  rw [List.forall_mem_cons] at same
  rw [map, same.1, (List.map_congr_left same.2).trans (List.map_id _)]

end Map

/-- The open scopes with their variables relabeled. -/
def relabel (ρ : Relabeling) (s : Scope) : Scope :=
  ⟨s.locals.map (Variable.relabel ρ), s.enclosing.map (List.map (Variable.relabel ρ))⟩

variable (s : Scope)

@[simp] theorem isRoot_relabel : (s.relabel ρ).isRoot = s.isRoot := s.isRoot_map

@[simp] theorem enter_relabel : (s.relabel ρ).enter = s.enter.relabel ρ := rfl

theorem leave?_relabel : (s.relabel ρ).leave? = s.leave?.map (relabel ρ) := s.leave?_map

/-- Only the name that a name becomes means what the name has meant. -/
theorem name_relabel_eq_iff (hρ : ρ.Faithful) (name : String) (v : Variable) :
    (v.relabel ρ).name = ρ.name name ↔ v.name = name :=
  ⟨hρ.name, congrArg ρ.name⟩

theorem lookup?_relabel (hρ : ρ.Faithful) (name : String) :
    (s.relabel ρ).lookup? (ρ.name name) = (s.lookup? name).map (Variable.relabel ρ) :=
  s.lookup?_map (name_relabel_eq_iff hρ name)

theorem isVisible_relabel (hρ : ρ.Faithful) (name : String) :
    (s.relabel ρ).isVisible (ρ.name name) = s.isVisible name :=
  s.isVisible_map (name_relabel_eq_iff hρ name)

theorem resolve_relabel (hρ : ρ.Faithful) (name : String) (span : Span) :
    (s.relabel ρ).resolve (ρ.name name) (ρ.span span) =
      ρ.onResult (Variable.relabel ρ) (s.resolve name span) := by
  rw [resolve, lookup?_relabel s hρ, resolve]
  cases s.lookup? name <;> rfl

theorem declare_relabel (hρ : ρ.Faithful) (v : Variable) (span : Span) :
    (s.relabel ρ).declare (v.relabel ρ) (ρ.span span) =
      ρ.onResult (relabel ρ) (s.declare v span) := by
  rw [declare, Variable.name_relabel, isVisible_relabel s hρ, declare]
  cases s.isVisible v.name <;> rfl

end Scope

end Yuyan
