import Yuyan.Proofs.Elaboration.Statements

/-!
# The type of an expression, expected of it

What the surroundings expect may change what an expression becomes: a text of one character is a
text where nothing is expected and a character where a character is. The type that it has is
another matter. Once an expression has become something, expecting the type of that changes
nothing any more, be it that nothing was expected before or that something else was
(`Elaborates.expected`).

What is expected reaches an expression inside parentheses, and the first element of an array, at
every depth. An element after the first is not told of it: of these the type of the first one is
expected, which stays as it was. So it is enough to follow the first elements down.

For statements: where a declaration or an assignment asks for the type that its value has anyway,
the value is what it would be if it stood by itself, and only the name can be wrong
(`elaborate_own_ty`).
-/

namespace Yuyan

open Typed (Expr)

/-- What an expression became, it becomes again where the type of that is expected. -/
theorem Elaborates.expected {scope : Scope} : ∀ {x : Option Ty} {e : Source.Expr} {e' : Expr},
    Elaborates scope x e e' → ∀ {y : Option Ty}, (∀ t ∈ y, t = e'.ty) → (y = none → x = none) →
      Elaborates scope y e e'
  | _, _, _, .int, _, _, _ => .int
  | _, _, _, .float, _, _, _ => .float
  | _, _, _, .bool, _, _, _ => .bool
  | _, _, _, .char, _, _, _ => .char
  | _, _, _, .text _, _, hy, _ => by
    refine .text fun hc => ?_
    cases hy .char hc
  | _, _, _, .character only, y, hy, hx => by
    cases y with
    | none => cases hx rfl
    | some t =>
      obtain rfl := hy t rfl
      exact .character only
  | _, _, _, .name hv, _, _, _ => .name hv
  | _, _, _, .paren he, _, hy, hx => .paren (he.expected hy hx)
  | _, _, _, .unary he ht, _, _, _ => .unary he ht
  | _, _, _, .equalityRight hop hl hr' hl' ht, _, _, _ => .equalityRight hop hl hr' hl' ht
  | _, _, _, .equality hop hl hl' hr' ht, _, _, _ => .equality hop hl hl' hr' ht
  | _, _, _, .binary hop hl hr ht, _, _, _ => .binary hop hl hr ht
  | _, _, _, .emptyArray, y, hy, hx => by
    cases y with
    | none => cases hx rfl
    | some t =>
      obtain rfl := hy t rfl
      exact .emptyArray
  | _, _, _, .array he hes, y, hy, hx => by
    -- the elements after the first are elaborated as before
    refine .array (he.expected ?_ ?_) hes
    · intro u hu
      obtain ⟨t, ht, hu⟩ := Option.bind_eq_some_iff.1 hu
      rw [hy t ht] at hu
      cases hu
      rfl
    · intro hn
      cases y with
      | none => rw [hx rfl]; rfl
      | some t =>
        obtain rfl := hy t rfl
        cases hn
  | _, _, _, .index ha hat hi hit hc, _, _, _ => .index ha hat hi hit hc

/-- What an expression becomes by itself, it becomes as a value for a variable of its type. -/
theorem Elaborates.elaborateValue {scope : Scope} {e : Source.Expr} {e' : Expr}
    (h : Elaborates scope none e e') : e.elaborateValue e'.ty scope = .ok e' :=
  elaborateValue_eq_ok_iff.2 ⟨h.expected (by simp) nofun, rfl⟩

namespace Source.Expr

/-- **The own type of an expression changes nothing where it is expected.** An expression that
is accepted where nothing is expected becomes the same where the type of that is. A declaration
with this type comes to declaring the name, and an assignment to a visible variable of this type
is accepted. -/
theorem elaborate_own_ty {c : Context} {e : Source.Expr} {e' : Typed.Expr}
    (h : e.elaborate c.scope none = .ok e') :
    e.elaborate c.scope (some e'.ty) = .ok e' ∧
    (∀ written target s, written.resolve = e'.ty →
      (Stmt.decl written target e s).elaborate c =
        (do return .decl e'.ty (← Analysis.declare target e'.ty) e' s : Analysis Typed.Stmt) c) ∧
    ∀ x target s, c.scope.lookup? target.name = some x → x.ty = e'.ty →
      (Stmt.assign target e s).elaborate c = ⟨.ok (.assign x e' s), c, []⟩ := by
  have he : Elaborates c.scope none e e' := elaborate_eq_ok_iff.1 h
  have value : e.elaborateValue e'.ty c.scope = .ok e' := he.elaborateValue
  refine ⟨elaborate_eq_ok_iff.2 (elaborateValue_eq_ok_iff.1 value).1, ?_, ?_⟩
  · intro written target s hw
    rw [Stmt.elaborate, hw]
    exact Analysis.bind_of_ok value
  · intro x target s hx ht
    have assigned : (do
        let x ← c.scope.resolve target.name target.span
        return Typed.Stmt.assign x (← e.elaborateValue x.ty c.scope) s) = .ok (.assign x e' s) :=
      bind_eq_ok_iff.2 ⟨x, Scope.resolve_eq_ok_iff.2 hx, bind_eq_ok_iff.2 ⟨e', ht ▸ value, rfl⟩⟩
    rw [Stmt.elaborate, Analysis.reading_apply, assigned]

/-- `[(["a"]), ["b", "cd"]]` has the type of two rows of texts, and is the value of a declaration
that asks for that and of an assignment to a variable that was declared so. -/
theorem elaborate_own_ty_rows :
    let c : Context := ⟨⟨[⟨"xss", .array (.array .string), 1⟩], []⟩, 1⟩
    let e : Source.Expr :=
      .array [.paren (.array [.string "a" {}] {}) {},
        .array [.string "b" {}, .string "cd" {}] {}] {}
    ∃ e', e.elaborate c.scope none = .ok e' ∧ e'.ty = .array (.array .string) ∧
      e.elaborate c.scope (some e'.ty) = .ok e' ∧
      (∃ x, ((Stmt.decl (.array (.array (.string {}) {}) {}) ⟨"yss", {}⟩ e {}).elaborate c).result =
        .ok (.decl e'.ty x e' {})) ∧
      ∃ x, (Stmt.assign ⟨"xss", {}⟩ e {}).elaborate c = ⟨.ok (.assign x e' {}), c, []⟩ := by
  intro c e
  obtain ⟨e', h, ty⟩ : ∃ e', e.elaborate c.scope none = .ok e' ∧ e'.ty = .array (.array .string) :=
    ⟨_, rfl, rfl⟩
  obtain ⟨same, decl, assign⟩ := elaborate_own_ty h
  have value := decl (.array (.array (.string {}) {}) {}) ⟨"yss", {}⟩ {} ty.symm
  refine ⟨e', h, ty, same, ⟨_, by rw [value, ty]; rfl⟩, _, assign _ ⟨"xss", {}⟩ {} rfl ty.symm⟩

end Source.Expr

end Yuyan
