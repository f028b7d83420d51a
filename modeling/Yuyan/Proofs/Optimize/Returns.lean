import Mathlib.Logic.Relation
import Yuyan.Compile
import Yuyan.Proofs.Elaboration.WellFormed
import Yuyan.Proofs.Optimize.Traversal

/-!
# Returns of compiled programs

A return of an accepted program stands in some body. Where a choice makes way for the branch
that it takes, the statements of the branch come to stand where the choice stood, and at the
top level that leaves a return outside of all bodies (`isReturn_guarded`).

This happens to the returns in the branch of such a choice, and of a choice that stands in
such a branch itself, and so on down, and to no others: a loop and a choice whose test is
not known keep their bodies (`isReturn_of_compile`).
-/

namespace Yuyan

open Relation (ReflTransGen TransGen)

namespace Typed.Stmt

/-! ### Branches that are known to be taken -/

/-- The first statement is a choice whose test becomes known when it is optimized, and the
second stands in the branch that it takes. -/
def Takes : Stmt → Stmt → Prop
  | cond test c a _, s => ∃ b, test.optimize.value.literal? = some (.boolean b) ∧
      s ∈ if b then c else a.getD []
  | _, _ => False

/-- A return is left of a statement if the statement is that return, or a choice of which it
is left because of the branch that is taken. -/
theorem mem_optimize_step {r : Stmt} (hr : r.IsReturn) (s : Stmt) :
    r ∈ s.optimize.value ↔ s.kept = r ∨ ∃ s₁, s.Takes s₁ ∧ r ∈ s₁.optimize.value := by
  cases s with
  | assign x e s =>
    have hk : kept (assign x e s) ≠ r := by rintro rfl; exact hr
    rcases optimize_assign_cases x e s with ⟨_, _, -, h⟩ | h <;> simp [h, hk, Takes, hk.symm]
  | cond test c a s =>
    have hk : kept (cond test c a s) ≠ r := by rintro rfl; exact hr
    by_cases h : ∃ b, test.optimize.value.literal? = some (.boolean b)
    · obtain ⟨b, hb⟩ := h
      rw [value_optimize_cond_of_known hb, value_optimizeAll, List.mem_flatMap]
      simp [Takes, hb, hk]
    · have ho : (cond test c a s).optimize.value = [kept (cond test c a s)] := by
        rcases optimize_cond_cases test c a s with ⟨hb, -⟩ | ⟨hb, -⟩ | ho
        · exact absurd ⟨true, hb⟩ h
        · exact absurd ⟨false, hb⟩ h
        · exact ho
      have ht : ∀ s₁, ¬ (cond test c a s).Takes s₁ := fun s₁ ⟨b, hb, _⟩ => h ⟨b, hb⟩
      simp [ho, ht, hk, hk.symm]
  | decl | print | loop | skip | ret => simp [Takes, kept, eq_comm]

/-- A return is left of a statement if it is in a branch that is known to be taken, at any
depth. -/
theorem mem_optimize_iff {r : Stmt} (hr : r.IsReturn) (s : Stmt) :
    r ∈ s.optimize.value ↔ ∃ s', ReflTransGen Takes s s' ∧ s'.kept = r := by
  have step {s : Stmt} (ih : ∀ s₁, s.Takes s₁ →
      (r ∈ s₁.optimize.value ↔ ∃ s', ReflTransGen Takes s₁ s' ∧ s'.kept = r)) :
      r ∈ s.optimize.value ↔ ∃ s', ReflTransGen Takes s s' ∧ s'.kept = r := by
    rw [mem_optimize_step hr]
    constructor
    · rintro (hk | ⟨s₁, hs₁, hr₁⟩)
      · exact ⟨s, .refl, hk⟩
      · obtain ⟨s', hs', hk⟩ := (ih s₁ hs₁).1 hr₁
        exact ⟨s', .head hs₁ hs', hk⟩
    · rintro ⟨s', hs', hk⟩
      rcases hs'.cases_head with rfl | ⟨s₁, hs₁, hs'⟩
      · exact .inl hk
      · exact .inr ⟨s₁, hs₁, (ih s₁ hs₁).2 ⟨s', hs', hk⟩⟩
  induction s with
  | cond test c a s ihc iha =>
    refine step fun s₁ ⟨b, _, hs₁⟩ => ?_
    cases b with
    | true => exact ihc s₁ hs₁
    | false => exact iha s₁ hs₁
  | _ => exact step nofun

theorem isReturn_kept (s : Stmt) : s.kept.IsReturn ↔ s.IsReturn := by
  cases s <;> rfl

end Typed.Stmt

/-! ### Programs -/

namespace Source.Program

open Typed.Stmt (Takes mem_optimize_iff isReturn_kept)

/-- **The returns of a compiled program that stand at its top level** are those of the
branches that are known to be taken, by a choice at the top level and then by any number of
choices in such branches; no other return has left its body. -/
theorem isReturn_of_compile {u : Source.Program} {q : Typed.Program}
    (h : (u.compile {}).value = .ok q) :
    ∃ p, u.analyze.value = .ok p ∧ p.optimize.value = q ∧ ∀ r : Typed.Stmt, r.IsReturn →
      (r ∈ q.statements ↔ ∃ s ∈ p.statements, ∃ s', TransGen Takes s s' ∧ s'.kept = r) := by
  obtain ⟨p, hp, rfl⟩ := compile_eq_ok_iff.1 h
  refine ⟨p, hp, rfl, fun r hr => ?_⟩
  have hq : r ∈ p.optimize.value.statements ↔ ∃ s ∈ p.statements, r ∈ s.optimize.value := by
    rw [Typed.Program.value_optimize, Typed.value_optimizeAll, List.mem_flatMap]
  rw [hq]
  refine exists_congr fun s => and_congr_right fun hs => ?_
  rw [mem_optimize_iff hr]
  -- a statement at the top level is no return itself, so it takes at least one branch
  have hs : ∀ {s'}, s'.kept = r → s' ≠ s := by
    rintro _ rfl rfl
    exact (wellFormed_of_analyze hp).inBodies _ hs ((isReturn_kept _).1 hr)
  refine exists_congr fun s' => and_congr_left fun hk => ?_
  rw [Relation.reflTransGen_iff_eq_or_transGen, or_iff_right (hs hk)]

/-- A return in a choice within a choice, both with tests that are known, and one in a loop:
`if (1 < 2) { if (not true) {} else { return 1 } } while (true) { return 2 }`. -/
def guarded : Source.Program :=
  let ret (n : Int64) : Stmt := .ret (.int n {}) {}
  let inner : Stmt :=
    .cond (.unary .not (.bool true {}) {}) (.mk [] {}) (some (.mk [ret 1] {})) {}
  ⟨[.cond (.binary .lt (.int 1 {}) (.int 2 {}) {}) (.mk [inner] {}) none {},
    .loop .whileLoop (.bool true {}) (.mk [ret 2] {}) {}], {}⟩

/-- What it is compiled to. -/
def compiledGuarded : Typed.Program :=
  let ret (n : Int64) : Typed.Stmt := .ret (.ofLiteral (.int n) {}) {}
  ⟨[ret 1, .loop .whileLoop (.ofLiteral (.boolean true) {}) [ret 2] {}], {}⟩

/-- The program is accepted, and what it is compiled to has a return outside of all
bodies. -/
theorem isReturn_guarded : (guarded.compile {}).value = .ok compiledGuarded ∧
    ¬ ∀ s ∈ compiledGuarded.statements, ¬ s.IsReturn :=
  ⟨rfl, by decide⟩

theorem isReturn_of_compile_guarded : (guarded.compile {}).value = .ok compiledGuarded ∧
    ∃ p, guarded.analyze.value = .ok p ∧ p.optimize.value = compiledGuarded ∧
      ∀ r : Typed.Stmt, r.IsReturn → (r ∈ compiledGuarded.statements ↔
        ∃ s ∈ p.statements, ∃ s', TransGen Takes s s' ∧ s'.kept = r) := by
  have h : (guarded.compile {}).value = .ok compiledGuarded := rfl
  exact ⟨h, isReturn_of_compile h⟩

end Source.Program

end Yuyan
