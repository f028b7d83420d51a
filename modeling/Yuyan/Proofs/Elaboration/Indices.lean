import Yuyan.Proofs.Elaboration.Errors
import Yuyan.Proofs.Elaboration.WellFormed

/-!
# The check of indices is exact

The check looks at an index only if its value is known beforehand and is a number. Two things
follow from it, one for each way that it can end.

A program that is accepted has no index that is known and wrong. An index has the type of a
number, and a value that is known has the type of its expression
(`Typed.Expr.WellTyped.ty_of_constant?`), so that no index with a known value is passed over.

A program that is rejected for an index has that index in it, with the value and the length
that the error tells. An error comes from a check that has failed (`Source.Stmt.Fails`), and
no other check gives an error of this kind.
-/

namespace Yuyan

/-- The check rejects an index whose value is known and lies before the array, or past the end
of an array that is written out. -/
theorem checkIndex_eq_error_iff {a i : Typed.Expr} {err : AnalysisError} :
    checkIndex a i = .error err ↔ ∃ n, i.constant? = some (.int n) ∧
      (n.toInt < 0 ∨ ∃ k, a.length? = some k ∧ k ≤ n.toInt) ∧
      err = ⟨.arrayIndexOutOfRange n a.length?, i.span⟩ := by
  have known (n : Int64) :
      i.constant? = some (.int n) ↔ i.constant?.bind Literal.int? = some n := by
    simp [Option.bind_eq_some_iff]
  simp only [known]
  unfold checkIndex
  cases i.constant?.bind Literal.int? with
  | none => exact iff_of_false nofun nofun
  | some n =>
    have before : n < 0 ↔ n.toInt < 0 := by rw [Int64.lt_iff_toInt_lt, Int64.toInt_zero]
    have pastEnd : a.length?.any (fun length => length ≤ n.toInt) = true ↔
        ∃ k, a.length? = some k ∧ k ≤ n.toInt := by
      cases a.length? <;> simp
    simp only [before, pastEnd, Option.some.injEq]
    constructor
    · intro h
      split at h
      · rename_i out
        cases h
        exact ⟨n, rfl, out, rfl⟩
      · cases h
    · rintro ⟨_, rfl, out, rfl⟩
      exact if_pos out

namespace Source.Program

/-- Somewhere in the program the analysis comes to the index of an array, and the array and the
index become `a` and `i`. -/
def ReachesIndex (u : Program) (a i : Typed.Expr) : Prop :=
  ∃ c t e array index s, ReachesAll {} u.statements c t ∧ t.own? = some e ∧
    .index array index s ∈ e.nodes ∧ Elaborates c.scope none array a ∧
    Elaborates c.scope none index i

/-- An error about an index that is out of range comes from the check of an index. -/
theorem exists_checkIndex_of_analyze {u : Program} {n : Int64} {length : Option Nat} {span : Span}
    (h : u.analyze.value = .error ⟨.arrayIndexOutOfRange n length, span⟩) :
    ∃ a i, u.ReachesIndex a i ∧
      checkIndex a i = .error ⟨.arrayIndexOutOfRange n length, span⟩ := by
  obtain ⟨c, t, hr, hf⟩ := exists_fails_of_elaborateAll (analyze_eq_error_iff.1 h)
  cases hf with
  | inside own fails =>
    obtain ⟨node, hn, hf⟩ := fails
    cases hf with
    | index ha hi hc => exact ⟨_, _, ⟨c, t, _, _, _, _, hr, own, hn, ha, hi⟩, hc⟩
    | misfit _ hm => cases hm

/-- **The check of indices is exact.** In a program that is accepted, an index whose value is
known is a number in range. A program that is rejected for an index out of range has an index
there with the value that the error tells, of an array with the length that the error tells,
if it is written out, and the value is not in range. -/
theorem index_of_analyze (u : Program) :
    (∀ p, u.analyze.value = .ok p → ∀ a i t s, .index a i t s ∈ p.expressions →
      ∀ v, i.constant? = some v →
        ∃ n : Int64, v = .int n ∧ 0 ≤ n.toInt ∧ ∀ k : Nat, a.length? = some k → n.toInt < k) ∧
    ∀ (n : Int64) length span, u.analyze.value = .error ⟨.arrayIndexOutOfRange n length, span⟩ →
      ∃ a i, u.ReachesIndex a i ∧ i.span = span ∧ i.constant? = some (.int n) ∧
        length = a.length? ∧ (n.toInt < 0 ∨ ∃ k : Nat, length = some k ∧ k ≤ n.toInt) := by
  constructor
  · intro p hp a i t s hmem v hv
    have hwf := wellFormed_of_analyze hp
    cases hwf.wellTyped.expressions _ hmem with
    | index _ hi _ ty =>
      obtain ⟨n, rfl⟩ : ∃ n, v = .int n := by
        rw [hi.ty_of_constant? hv] at ty
        cases v with
        | int n => exact ⟨n, rfl⟩
        | _ => cases ty
      have hn : i.constant?.bind Literal.int? = some n := by rw [hv]; rfl
      exact ⟨n, rfl, hwf.inRange _ hmem n hn⟩
  · intro n length span h
    obtain ⟨a, i, hr, hc⟩ := exists_checkIndex_of_analyze h
    obtain ⟨m, hm, out, he⟩ := checkIndex_eq_error_iff.1 hc
    cases he
    exact ⟨a, i, hr, rfl, hm, rfl, out⟩

/-- An array of two numbers that is read in a body, inside a sum:
`int n = 1; if true { print n + [10, 20][i] }`. -/
def nestedRead (i : Expr) : Program :=
  let read : Expr := .index (.array [.int 10 {}, .int 20 {}] {}) i {}
  ⟨[.decl (.int {}) ⟨"n", {}⟩ (.int 1 {}) {},
    .cond (.bool true {}) (.mk [.print (.binary .add (.name "n" {}) read {}) {}] {}) none {}], {}⟩

/-- The program is accepted with the index `3 - 2`, and rejected with the index `(1 + 1)` at
what is in the parentheses. -/
theorem index_of_analyze_nestedRead :
    let inside := nestedRead (.binary .sub (.int 3 {}) (.int 2 {}) {})
    let outside := nestedRead (.paren (.binary .add (.int 1 {}) (.int 1 {}) ⟨40, 45⟩) ⟨39, 46⟩)
    (∃ p a i t s, inside.analyze.value = .ok p ∧ .index a i t s ∈ p.expressions ∧
      a.length? = some 2 ∧ i.constant? = some (.int 1) ∧ ∃ n : Int64, .int 1 = Literal.int n ∧
        0 ≤ n.toInt ∧ ∀ k : Nat, a.length? = some k → n.toInt < k) ∧
    outside.analyze.value = .error ⟨.arrayIndexOutOfRange 2 (some 2), ⟨40, 45⟩⟩ ∧
      ∃ a i, outside.ReachesIndex a i ∧ i.span = ⟨40, 45⟩ ∧ i.constant? = some (.int 2) ∧
        some 2 = a.length? ∧ ((2 : Int64).toInt < 0 ∨
          ∃ k : Nat, some 2 = some k ∧ k ≤ (2 : Int64).toInt) := by
  intro inside outside
  constructor
  · let int (n : Int64) : Typed.Expr := .ofLiteral (.int n) {}
    let a : Typed.Expr := .array [int 10, int 20] (.array .int) {}
    let i : Typed.Expr := .binary .sub (int 3) (int 2) .int {}
    let sum : Typed.Expr :=
      .binary .add (.ofVariable ⟨"n", .int, 1⟩ {}) (.index a i .int {}) .int {}
    let p : Typed.Program := ⟨[.decl .int ⟨"n", .int, 1⟩ (int 1) {},
      .cond (.ofLiteral (.boolean true) {}) [.print sum {}] none {}], {}⟩
    have accepted : inside.analyze.value = .ok p := rfl
    have read : .index a i .int {} ∈ p.expressions := .tail _ (.tail _ (.tail _ (.tail _ (.head _))))
    exact ⟨p, a, i, .int, {}, accepted, read, rfl, rfl,
      (index_of_analyze inside).1 p accepted a i .int {} read (.int 1) rfl⟩
  · have rejected :
        outside.analyze.value = .error ⟨.arrayIndexOutOfRange 2 (some 2), ⟨40, 45⟩⟩ := rfl
    exact ⟨rejected, (index_of_analyze outside).2 2 (some 2) ⟨40, 45⟩ rejected⟩

end Source.Program

end Yuyan
