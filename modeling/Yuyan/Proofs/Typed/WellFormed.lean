import Yuyan.Constant
import Yuyan.Proofs.Typed.Visibility
import Yuyan.Proofs.Typed.WellTyped

/-!
# Well-formed programs

What analysis promises of a typed program, said of the program alone: its types are
right, its names mean what they should, its declarations are numbered in order, and no
index that is known beforehand is out of range.
-/

namespace Yuyan.Typed

/-! ### Indices -/

/-- If the expression is an index into an array and the index is a known number, the
number is not negative, and it is below the length of an array that is written out. -/
def Expr.InRange : Expr → Prop
  | .index a i _ _ => ∀ n ∈ i.constant?.bind Literal.int?,
    0 ≤ n.toInt ∧ ∀ k ∈ a.length?, n.toInt < k
  | _ => True

instance : DecidablePred Expr.InRange
  -- the quantifier is over what the option holds, not over all integers
  | .index _ i _ _ => Option.decidableForallMem (i.constant?.bind Literal.int?)
  | .lit .. | .var .. | .unary .. | .binary .. | .array .. => inferInstanceAs (Decidable True)

/-- An array literal without elements. -/
def Expr.IsEmptyArray (e : Expr) : Prop := e.length? = some 0

instance : DecidablePred Expr.IsEmptyArray := fun e =>
  inferInstanceAs (Decidable (e.length? = some 0))

/-! ### Numbers of declarations -/

/-- The variables have the numbers after `n`, in order. -/
def NumberedFrom (n : Nat) (xs : List Variable) : Prop :=
  xs.map Variable.id = List.range' (n + 1) xs.length

theorem numberedFrom_singleton {n : Nat} {x : Variable} :
    NumberedFrom n [x] ↔ x.id = n + 1 := by
  simp [NumberedFrom]

theorem numberedFrom_append {n : Nat} {xs ys : List Variable} :
    NumberedFrom n (xs ++ ys) ↔ NumberedFrom n xs ∧ NumberedFrom (n + xs.length) ys := by
  have hr : List.range' (n + 1) (xs ++ ys).length =
      List.range' (n + 1) xs.length ++ List.range' (n + xs.length + 1) ys.length := by
    rw [List.length_append, ← List.range'_append_1]
    congr 2
    omega
  rw [NumberedFrom, NumberedFrom, NumberedFrom, hr, List.map_append]
  exact List.append_eq_append_iff_of_size_eq_left (by simp)

/-! ### Programs -/

/-- What analysis promises of a program. -/
structure Program.WellFormed (p : Program) : Prop where
  wellTyped : p.WellTyped
  /-- A variable that is used is the only visible one of its name, and a declaration
  does not have the name of a visible one. -/
  resolved : ∀ site ∈ p.sites, site.Resolved
  /-- The declarations have the numbers `1, 2, …` in program order. -/
  numbered : NumberedFrom 0 p.declarations
  /-- No return stands at the top level. -/
  inBodies : ∀ s ∈ p.statements, ¬ s.IsReturn
  inRange : ∀ e ∈ p.expressions, e.InRange

/-- Names that mean what they should leave no use without a declaration. -/
theorem Program.WellFormed.idClosed {p : Program} (h : p.WellFormed) : p.IdClosed where
  declared := by
    intro site hs
    have resolved := h.resolved site hs
    cases site with
    | use vs x =>
      have hx : x ∈ vs.filter (·.name = x.name) := by rw [resolved]; exact List.mem_cons_self
      exact (List.mem_filter.1 hx).1
    | declaration => trivial
  distinct := by
    rw [h.numbered]
    exact List.nodup_range'

end Yuyan.Typed
