import Yuyan.Proofs.Elaboration.WellFormed
import Yuyan.Proofs.Optimize.Names

/-!
# Unique names

A unique name is a name, an underscore and a number. Names may have underscores and digits of
their own, so that `y_2` with the number `3` and `y` with some other number look alike. They are
told apart from the end: the digits of the number stop at the last underscore, and the name is
what stands before it (`Variable.uniqueName_eq_iff`).

In an accepted program the numbers of all declarations differ, and so do their unique names.
Names alone would not do: where a choice makes way for one of its branches, declarations of one
name come to stand beside each other. That each reference still means the declaration that its
name was resolved to does not need the names again: the references that the optimizer leaves
have the variables that they had (`Typed.SitesFrom`).
-/

namespace Yuyan

/-! ### The last underscore -/

section Last

variable {α : Type} {c : α} {xs ys xs' ys' between : List α}

/-- If a character stands at the beginning of a list and nowhere else, nothing is before it where
the list is cut at the character. -/
theorem eq_nil_of_last (hy : c ∉ ys) (h : c :: ys = between ++ c :: ys') :
    between = [] ∧ ys = ys' := by
  cases between with
  | nil => exact ⟨rfl, (List.cons_eq_cons.1 h).2⟩
  | cons d between =>
    obtain ⟨-, rfl⟩ := List.cons_eq_cons.1 h
    exact absurd List.mem_append_cons_self hy

/-- What stands before a character and what stands behind it are told from the whole, if the
character is not found behind it again. -/
theorem append_cons_inj_of_last (hy : c ∉ ys) (hy' : c ∉ ys')
    (h : xs ++ c :: ys = xs' ++ c :: ys') : xs = xs' ∧ ys = ys' := by
  rcases List.append_eq_append_iff.1 h with ⟨between, rfl, hb⟩ | ⟨between, rfl, hb⟩
  · obtain ⟨rfl, hys⟩ := eq_nil_of_last hy hb
    exact ⟨(List.append_nil xs).symm, hys⟩
  · obtain ⟨rfl, hys⟩ := eq_nil_of_last hy' hb
    exact ⟨List.append_nil xs', hys.symm⟩

end Last

/-- A number is written without an underscore. -/
theorem underscore_notMem_repr (n : Nat) : '_' ∉ (toString n).toList := by
  rw [Nat.toString_eq_repr, Nat.toList_repr]
  exact Nat.underscore_not_in_toDigits

/-- Variables have one unique name if they have one name and one number. -/
theorem Variable.uniqueName_eq_iff {a b : Variable} :
    a.uniqueName = b.uniqueName ↔ a.name = b.name ∧ a.id = b.id := by
  constructor
  · intro h
    have read := congrArg String.toList h
    simp only [uniqueName, String.toList_append, List.append_assoc] at read
    obtain ⟨name, number⟩ := append_cons_inj_of_last (underscore_notMem_repr a.id)
      (underscore_notMem_repr b.id) read
    refine ⟨String.toList_inj.1 name, ?_⟩
    -- the digits are read as the number again
    have value := congrArg (Nat.ofDigitChars 10 · 0) number
    simpa [Nat.toString_eq_repr] using value
  · rintro ⟨name, number⟩
    rw [uniqueName, uniqueName, name, number]

namespace Typed

/-- Variables with different numbers have different unique names. -/
theorem nodup_uniqueName {xs : List Variable} (h : (xs.map Variable.id).Nodup) :
    (xs.map Variable.uniqueName).Nodup := by
  rw [List.Nodup, List.pairwise_map] at h ⊢
  exact h.imp fun hid hname => hid (Variable.uniqueName_eq_iff.1 hname).2

namespace Program

/-- In `q`, which is `p` or what is left of it, a unique name tells which declaration a
reference was resolved to in `p`. -/
structure TellsApart (p q : Program) : Prop where
  distinct : (q.declarations.map Variable.uniqueName).Nodup
  /-- A reference has the unique name of one declaration, which it sees. -/
  declared : ∀ vs x, .use vs x ∈ q.sites →
    x ∈ vs ∧ q.declarations.filter (·.uniqueName = x.uniqueName) = [x]
  /-- The references come from references of `p` to the same variables, in order. -/
  sites : SitesFrom q.sites p.sites
  /-- In `p` the name of a reference means the variable. -/
  resolved : ∀ vs x, .use vs x ∈ p.sites → vs.filter (·.name = x.name) = [x]

/-- Where every reference sees its declaration and no number is given twice, unique names tell
the declarations apart. -/
theorem tellsApart_of_idClosed {p q : Program} (hp : p.WellFormed) (hq : q.IdClosed)
    (sites : SitesFrom q.sites p.sites) : p.TellsApart q := by
  have distinct := nodup_uniqueName hq.distinct
  refine ⟨distinct, ?_, sites, fun vs x hs => hp.resolved _ hs⟩
  intro vs x hs
  have visible : x ∈ vs := hq.declared _ hs
  exact ⟨visible, filter_eq_of_nodup_map distinct (mem_declarations hs visible)⟩

end Program

end Typed

/-! ### Accepted programs -/

namespace Source.Program

/-- **Unique names tell declarations apart.** Variables have one unique name if and only if
they have one name and one number. In what becomes of an accepted program, and in what is left
of it when it is optimized, no two declarations have one unique name, and every reference has
that of the declaration which its name was resolved to. -/
theorem tellsApart_of_analyze :
    (∀ a b : Variable, a.uniqueName = b.uniqueName ↔ a.name = b.name ∧ a.id = b.id) ∧
    ∀ (u : Program) (p : Typed.Program), u.analyze.value = .ok p →
      p.TellsApart p ∧ p.TellsApart p.optimize.value := by
  refine ⟨fun a b => Variable.uniqueName_eq_iff, ?_⟩
  intro u p h
  have hp := wellFormed_of_analyze h
  refine ⟨Typed.Program.tellsApart_of_idClosed hp hp.idClosed (.refl _), ?_⟩
  exact Typed.Program.tellsApart_of_idClosed hp (Typed.Program.idClosed_optimize hp.idClosed).1
    (Typed.sites_optimizeAll (List.Subset.refl _))

/-- A variable `y_2` and two variables `y` in branches that are known to be taken:
`int y_2 = 0; if true { int y = 1; y_2 = y }; if false {} else { int y = 2; y_2 = y }; print y_2`. -/
def lookalikes : Program :=
  let branch (n : Int64) : Block :=
    .mk [.decl (.int {}) ⟨"y", {}⟩ (.int n {}) {}, .assign ⟨"y_2", {}⟩ (.name "y" {}) {}] {}
  ⟨[.decl (.int {}) ⟨"y_2", {}⟩ (.int 0 {}) {},
    .cond (.bool true {}) (branch 1) none {},
    .cond (.bool false {}) (.mk [] {}) (some (branch 2)) {},
    .print (.name "y_2" {}) {}], {}⟩

/-- What becomes of it. -/
def typedLookalikes : Typed.Program :=
  let y_2 : Variable := ⟨"y_2", .int, 1⟩
  let literal (v : Literal) : Typed.Expr := .ofLiteral v {}
  let branch (n : Int64) (id : Nat) : List Typed.Stmt :=
    [.decl .int ⟨"y", .int, id⟩ (literal (.int n)) {},
      .assign y_2 (.ofVariable ⟨"y", .int, id⟩ {}) {}]
  ⟨[.decl .int y_2 (literal (.int 0)) {},
    .cond (literal (.boolean true)) (branch 1 2) none {},
    .cond (literal (.boolean false)) [] (some (branch 2 3)) {},
    .print (.ofVariable y_2 {}) {}], {}⟩

/-- The optimized program declares all three in one list. -/
theorem tellsApart_of_analyze_lookalikes :
    lookalikes.analyze.value = .ok typedLookalikes ∧
      (Typed.introducedByAll typedLookalikes.optimize.value.statements).map Variable.uniqueName =
        ["y_3", "y_2", "y_2_1"] ∧
      typedLookalikes.TellsApart typedLookalikes ∧
      typedLookalikes.TellsApart typedLookalikes.optimize.value := by
  have accepted : lookalikes.analyze.value = .ok typedLookalikes := rfl
  exact ⟨accepted, by decide, tellsApart_of_analyze.2 lookalikes typedLookalikes accepted⟩

end Source.Program

end Yuyan
