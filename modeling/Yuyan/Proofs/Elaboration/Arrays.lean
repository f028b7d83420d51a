import Mathlib.Data.List.Perm.Basic
import Yuyan.Proofs.Elaboration.Statements
import Yuyan.Proofs.Source.Nodes

/-!
# The elements of an array

A written array is elaborated from its first element: the type that this one gets is expected of
the others, and must be theirs. Where the type of the array is expected as well, it is used for
the first element alone, and compared with what has come out only at the end.

That comes to the same as checking the elements one by one. If the first element does not get
the type that is expected of it, then whatever the others are made to fit, the array has another
type than the one expected and is rejected. If it does, the others are elaborated as it was. So
an array is a value for a variable of an array type exactly if each element is a value for a
variable of the element type, and it becomes the array of what the elements become
(`elaborateValue_array_eq_ok_iff`).

Nothing in this hangs on the order of the elements, nor does it hang on the order of theirs if
they are arrays: `Reordered` is the relation between written arrays, and between typed ones, that
differ in the order of elements at any depth (`elaborateValue_array`).
-/

namespace Yuyan

open Source (Expr)

/-! ### Element by element -/

/-- Where an array of a type is expected, that type is expected of its elements. -/
theorem Elaborates.elements {scope : Scope} {t : Ty} {es : List Expr}
    {es' : List Typed.Expr} {s : Span}
    (h : Elaborates scope (some (.array t)) (.array es s) (.array es' (.array t) s)) :
    ElaboratesElements scope t es es' := by
  cases h with
  | emptyArray => exact .nil
  | array first rest => exact .cons first rfl rest

/-- What the elements become, the array becomes. -/
theorem ElaboratesElements.array {scope : Scope} {t : Ty} {es : List Expr} {es' : List Typed.Expr}
    (h : ElaboratesElements scope t es es') (s : Span) :
    Elaborates scope (some (.array t)) (.array es s) (.array es' (.array t) s) := by
  cases h with
  | nil => exact .emptyArray
  | cons first ty rest =>
    subst ty
    exact .array first rest

/-- The elements are values for a variable of the element type, each by itself. -/
theorem elaboratesElements_iff {scope : Scope} {t : Ty} {es : List Expr} {es' : List Typed.Expr} :
    ElaboratesElements scope t es es' ↔
      List.Forall₂ (fun e e' => e.elaborateValue t scope = .ok e') es es' := by
  simp only [elaborateValue_eq_ok_iff]
  constructor
  · intro h
    induction es generalizing es' with
    | nil =>
      cases h
      exact .nil
    | cons e es ih =>
      cases h with
      | cons head ty tail => exact .cons ⟨head, ty⟩ (ih tail)
  · intro h
    induction h with
    | nil => exact .nil
    | cons he _ ih => exact .cons he.1 he.2 ih

/-- An array is a value for variables of array types only, and for one exactly if its elements
are values for a variable of the element type. -/
theorem elaborateValue_array_eq_ok_iff {scope : Scope} {t : Ty} {es : List Expr} {s : Span}
    {v : Typed.Expr} : (Expr.array es s).elaborateValue t scope = .ok v ↔
      ∃ u es', t = .array u ∧
        List.Forall₂ (fun e e' => e.elaborateValue u scope = .ok e') es es' ∧
        v = .array es' (.array u) s := by
  simp only [← elaboratesElements_iff]
  rw [elaborateValue_eq_ok_iff]
  constructor
  · rintro ⟨h, ty⟩
    cases h with
    | emptyArray => exact ⟨_, _, rfl, .nil, rfl⟩
    | array first rest =>
      -- the type expected of the first element is the one it got
      subst ty
      exact ⟨_, _, rfl, .cons first rfl rest, rfl⟩
  · rintro ⟨u, es', rfl, h, rfl⟩
    exact ⟨h.array s, rfl⟩

/-! ### Other orders -/

/-- The second expression is the first one with the elements of written arrays in another order:
those of the array that it is, those of the arrays that are elements of it, and so on. -/
inductive Source.Expr.Reordered : Expr → Expr → Prop where
  | refl (e : Expr) : Reordered e e
  | paren {e f : Expr} {s : Span} (inner : Reordered e f) : Reordered (.paren e s) (.paren f s)
  | array {es gs fs : List Expr} {s : Span} (inside : List.Forall₂ Reordered es gs)
      (order : gs.Perm fs) : Reordered (.array es s) (.array fs s)

@[inherit_doc Source.Expr.Reordered]
inductive Typed.Expr.Reordered : Typed.Expr → Typed.Expr → Prop where
  | refl (e : Typed.Expr) : Reordered e e
  | array {es gs fs : List Typed.Expr} {t : Ty} {s : Span} (inside : List.Forall₂ Reordered es gs)
      (order : gs.Perm fs) : Reordered (.array es t s) (.array fs t s)

namespace Source.Expr.Reordered

variable {scope : Scope} {e f : Expr}

theorem symm (h : Reordered e f) : Reordered f e := by
  induction e generalizing f with
  | paren e s ih =>
    cases h with
    | refl => exact .refl _
    | paren inner => exact .paren (ih inner)
  | array es s ih =>
    cases h with
    | refl => exact .refl _
    | array inside order =>
      have back := ((List.forall₂_and_left _ _).2 ⟨ih, inside⟩).imp fun _ _ h => h.1 h.2
      obtain ⟨hs, inside', order'⟩ := List.perm_comp_forall₂ order.symm back.flip
      exact .array inside' order'
  | _ =>
    cases h
    exact .refl _

/-- If the elements of a list become something else element by element, then so do those of
another list that are the same with their own elements in another order. -/
theorem exists_forall₂ {P : Expr → Typed.Expr → Prop} {es gs : List Expr} {es' : List Typed.Expr}
    (element : ∀ e ∈ es, ∀ {g e'}, Reordered e g → P e e' → ∃ g', P g g' ∧ e'.Reordered g')
    (inside : List.Forall₂ Reordered es gs) (h : List.Forall₂ P es es') :
    ∃ gs', List.Forall₂ P gs gs' ∧ List.Forall₂ Typed.Expr.Reordered es' gs' := by
  induction inside generalizing es' with
  | nil =>
    cases h
    exact ⟨[], .nil, .nil⟩
  | cons head _ ih =>
    rw [List.forall_mem_cons] at element
    cases h with
    | cons he hes =>
      obtain ⟨g', hg, hr⟩ := element.1 head he
      obtain ⟨gs', hgs, hrs⟩ := ih element.2 hes
      exact ⟨g' :: gs', .cons hg hgs, .cons hr hrs⟩

/-- A value with its elements in another order is a value for the same variables, and what it
becomes has them in another order. -/
theorem elaborateValue (h : Reordered e f) {t : Ty} {v : Typed.Expr}
    (hv : e.elaborateValue t scope = .ok v) :
    ∃ w, f.elaborateValue t scope = .ok w ∧ v.Reordered w := by
  induction e generalizing f t v with
  | paren e s ih =>
    cases h with
    | refl => exact ⟨v, hv, .refl v⟩
    | paren inner => exact ih inner hv
  | array es s ih =>
    cases h with
    | refl => exact ⟨v, hv, .refl v⟩
    | array inside order =>
      obtain ⟨u, es', rfl, hes, rfl⟩ := elaborateValue_array_eq_ok_iff.1 hv
      obtain ⟨gs', hgs, inside'⟩ := exists_forall₂ (fun e he _ _ hr h => ih e he hr h) inside hes
      obtain ⟨fs', hfs, order'⟩ := List.perm_comp_forall₂ order.symm hgs
      refine ⟨.array fs' (.array u) s, ?_, .array inside' order'.symm⟩
      exact elaborateValue_array_eq_ok_iff.2 ⟨u, fs', rfl, hfs, rfl⟩
  | _ =>
    cases h
    exact ⟨v, hv, .refl v⟩

end Source.Expr.Reordered

namespace Source.Expr

/-- **An array is checked element by element.** An array is a value for a variable of an array
type exactly if each element by itself is a value for a variable of the element type, and it
becomes the array of what they become. So it stays one with its elements in another order, at
any depth, and of what it becomes only the order of elements is another then. -/
theorem elaborateValue_array (scope : Scope) (t : Ty) (es : List Expr) (s : Span) :
    (∀ v, (Expr.array es s).elaborateValue (.array t) scope = .ok v ↔
      ∃ es', List.Forall₂ (fun e e' => e.elaborateValue t scope = .ok e') es es' ∧
        v = .array es' (.array t) s) ∧
    ∀ f, Reordered (.array es s) f →
      ((∃ v, (Expr.array es s).elaborateValue (.array t) scope = .ok v) ↔
        ∃ w, f.elaborateValue (.array t) scope = .ok w) ∧
      ∀ v w, (Expr.array es s).elaborateValue (.array t) scope = .ok v →
        f.elaborateValue (.array t) scope = .ok w → v.Reordered w := by
  refine ⟨fun v => ?_, fun f order => ⟨⟨?_, ?_⟩, ?_⟩⟩
  · rw [elaborateValue_array_eq_ok_iff]
    constructor
    · rintro ⟨_, es', ⟨⟩, h⟩
      exact ⟨es', h⟩
    · rintro ⟨es', h⟩
      exact ⟨t, es', rfl, h⟩
  · rintro ⟨v, hv⟩
    obtain ⟨w, hw, -⟩ := order.elaborateValue hv
    exact ⟨w, hw⟩
  · rintro ⟨w, hw⟩
    obtain ⟨v, hv, -⟩ := order.symm.elaborateValue hw
    exact ⟨v, hv⟩
  · intro v w hv hw
    obtain ⟨u, hu, reordered⟩ := order.elaborateValue hv
    cases hw.symm.trans hu
    exact reordered

/-- `[['a', "b"], [], ["c"]]` for rows of characters, and the same with the second row first and
the two characters of a row exchanged. -/
theorem elaborateValue_array_rows :
    let row : List Expr := [.char 'a' {}, .string "b" {}]
    let rows : List Expr := [.array row {}, .array [] {}, .array [.string "c" {}] {}]
    let others : List Expr := [.array [] {}, .array row.reverse {}, .array [.string "c" {}] {}]
    Reordered (.array rows {}) (.array others {}) ∧
    ∃ v w, (Expr.array rows {}).elaborateValue (.array (.array .char)) .root = .ok v ∧
      (Expr.array others {}).elaborateValue (.array (.array .char)) .root = .ok w ∧
      v.Reordered w := by
  intro row rows others
  have exchanged : Reordered (.array row {}) (.array row.reverse {}) :=
    .array (List.forall₂_same.2 fun e _ => .refl e) row.reverse_perm.symm
  have order : Reordered (.array rows {}) (.array others {}) :=
    .array (.cons exchanged (.cons (.refl _) (.cons (.refl _) .nil))) (.swap _ _ _)
  obtain ⟨-, reordered⟩ := elaborateValue_array .root (.array .char) rows {}
  obtain ⟨accepted, same⟩ := reordered _ order
  have hv : ∃ v, (Expr.array rows {}).elaborateValue (.array (.array .char)) .root = .ok v :=
    ⟨_, rfl⟩
  obtain ⟨w, hw⟩ := accepted.1 hv
  obtain ⟨v, hv⟩ := hv
  exact ⟨order, v, w, hv, hw, same v w hv hw⟩

end Source.Expr

end Yuyan
