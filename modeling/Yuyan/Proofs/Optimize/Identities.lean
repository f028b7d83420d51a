import Yuyan.Optimize.Operator
import Yuyan.Proofs.Number.Checked
import Yuyan.Proofs.Typing

/-!
# The identities of the optimizer

Some literals decide what an operator does to its other operand, whatever that is:
one beside `*` changes nothing, zero beside `*` makes the result zero. The tables
below say which literals do that on which side, and `Identity.asks_of_identity` says
that these are the literals for which the optimizer takes an identity to apply.

On integers and truth values the identities hold of what the operators compute
(`eval?_neutralRight` and those after it): where a result is computed at all, it is
the one that the identity gives. On floating-point numbers they do not, as adding
zero changes the sign of `-0.0`.
-/

namespace Yuyan

/-! ### Literals that decide an operator -/

namespace BinOp

/-- The literals that change nothing to the right of an operator. -/
def neutralRight : BinOp → Literal → Bool
  | and, b => b.bool? == some true
  | or, b => b.bool? == some false
  | add, b | sub, b => b.isZero
  | mul, b | div, b => b.isOne
  | _, _ => false

/-- The literals that change nothing to the left of an operator. -/
def neutralLeft : BinOp → Literal → Bool
  | and, a => a.bool? == some true
  | or, a => a.bool? == some false
  | add, a => a.isZero
  | mul, a => a.isOne
  | _, _ => false

/-- The literals to the right of an operator, and those to the left of it, that make
its result zero. -/
def zeroRight : BinOp → Literal → Bool
  | mul, b => b.isZero
  | _, _ => false

@[inherit_doc zeroRight]
def zeroLeft : BinOp → Literal → Bool
  | mul, a | div, a => a.isZero
  | _, _ => false

/-- The literals to the right of an operator, and those to the left of it, that make
its result one. -/
def oneRight : BinOp → Literal → Bool
  | pow, b => b.isZero
  | _, _ => false

@[inherit_doc oneRight]
def oneLeft : BinOp → Literal → Bool
  | pow, a => a.isOne
  | _, _ => false

variable {op : BinOp} {l r : Option Literal}

/-- No identity is about an equality. -/
theorem isEquality_of_identity {i : Identity} (h : op.identity l r = i) (hi : i ≠ .keep) :
    op.isEquality = false := by
  cases op <;> first | rfl | exact absurd h.symm hi

end BinOp

/-- What an identity asks of an operator and of those operands that are literals. -/
def Identity.Asks (op : BinOp) (l r : Option Literal) : Identity → Prop
  | keep => True
  | takeLeft => ∃ b, r = some b ∧ op.neutralRight b = true
  | takeRight => ∃ a, l = some a ∧ op.neutralLeft a = true
  | negateRight => op = .sub ∧ ∃ a, l = some a ∧ a.isZero = true
  | becomeZero =>
    (∃ a, l = some a ∧ op.zeroLeft a = true) ∨ ∃ b, r = some b ∧ op.zeroRight b = true
  | becomeOne =>
    (∃ a, l = some a ∧ op.oneLeft a = true) ∨ ∃ b, r = some b ∧ op.oneRight b = true

namespace Identity

variable {op : BinOp} {l r : Option Literal} {i j : Identity}

theorem Asks.ite {c : Bool} (hi : c = true → i.Asks op l r) (hj : j.Asks op l r) :
    (if c = true then i else j).Asks op l r := by
  split
  · rename_i h; exact hi h
  · exact hj

theorem exists_of_any {p : Literal → Bool} {v : Option Literal} (h : v.any p = true) :
    ∃ a, v = some a ∧ p a = true := (Option.any_eq_true p v).1 h

theorem exists_of_bool? {v : Option Literal} {b : Bool}
    (h : (v.bind Literal.bool? == some b) = true) :
    ∃ a, v = some a ∧ (a.bool? == some b) = true := by
  obtain ⟨a, ha, hb⟩ := Option.bind_eq_some_iff.1 (beq_iff_eq.1 h)
  exact ⟨a, ha, beq_iff_eq.2 hb⟩

/-- An identity is taken to apply only where it is given what it asks. -/
theorem asks_of_identity (h : op.identity l r = i) : i.Asks op l r := by
  subst h
  cases op with
  | and | or => exact .ite exists_of_bool? (.ite exists_of_bool? trivial)
  | add => exact .ite exists_of_any (.ite exists_of_any trivial)
  | sub => exact .ite exists_of_any (.ite (fun h => ⟨rfl, exists_of_any h⟩) trivial)
  | mul =>
    refine .ite exists_of_any (.ite exists_of_any (.ite (fun h => ?_) trivial))
    exact (Bool.or_eq_true_iff.1 h).imp exists_of_any exists_of_any
  | div => exact .ite exists_of_any (.ite (fun h => .inl (exists_of_any h)) trivial)
  | pow =>
    refine .ite (fun h => ?_) trivial
    exact (Bool.or_eq_true_iff.1 h).symm.imp exists_of_any exists_of_any
  | _ => trivial

/-- Only arithmetic has results that one operand decides. -/
theorem isArithmetic_of_decides (h : op.identity l r = .becomeZero ∨ op.identity l r = .becomeOne) :
    op.isComparison = false ∧ op.isLogical = false := by
  cases op with
  | mul | div | pow => exact ⟨rfl, rfl⟩
  | _ =>
    -- no literal decides the result of any other operator
    rcases h with h | h <;> rcases asks_of_identity h with ⟨_, -, h⟩ | ⟨_, -, h⟩ <;> cases h

end Identity

/-! ### Zero and one without floating-point numbers -/

namespace Literal

theorem eq_zero_of_isZero {v : Literal} (h : v.isZero = true) (hv : v.ty ≠ .float) :
    v = .int 0 := by
  cases v <;> simp_all [isZero, ty]

theorem eq_one_of_isOne {v : Literal} (h : v.isOne = true) (hv : v.ty ≠ .float) :
    v = .int 1 := by
  cases v <;> simp_all [isOne, ty]

theorem eq_zero_of_zero? {t : Ty} {v : Literal} (h : zero? t = some v) (ht : t ≠ .float) :
    v = .int 0 := by
  cases t <;> simp_all [zero?]

theorem eq_one_of_one? {t : Ty} {v : Literal} (h : one? t = some v) (ht : t ≠ .float) :
    v = .int 1 := by
  cases t <;> simp_all [one?]

end Literal

/-- What is computed from a literal that is not floating-point is not either. -/
theorem UnOp.ty_of_eval? {op : UnOp} {a v : Literal} (h : op.eval? a = some v)
    (ha : a.ty ≠ .float) : v.ty ≠ .float := by
  rwa [eq_of_ty? (ty?_of_eval? h)]

namespace BinOp

variable {op : BinOp} {a b v : Literal}

theorem eval?_int_right {n : Int64} (h : op.eval? a (.int n) = some v) :
    ∃ m, a = .int m ∧ op.onInts? m n = some v := by
  cases a with
  | int m => exact ⟨m, rfl, h⟩
  | _ => cases h

theorem eval?_int_left {n : Int64} (h : op.eval? (.int n) b = some v) :
    ∃ m, b = .int m ∧ op.onInts? n m = some v := by
  cases b with
  | int m => exact ⟨m, rfl, h⟩
  | _ => cases h

theorem eval?_boolean_right {q : Bool} (h : op.eval? a (.boolean q) = some v) :
    ∃ p, a = .boolean p ∧ op.onBooleans? p q = some v := by
  cases a with
  | boolean p => exact ⟨p, rfl, h⟩
  | _ => cases h

theorem eval?_boolean_left {p : Bool} (h : op.eval? (.boolean p) b = some v) :
    ∃ q, b = .boolean q ∧ op.onBooleans? p q = some v := by
  cases b with
  | boolean q => exact ⟨q, rfl, h⟩
  | _ => cases h

/-- An integer that changes nothing to the right of an operator. -/
theorem eq_left_of_eval? {n : Int64} (hn : ∀ m, op.onInts? m n = some (.int m))
    (h : op.eval? a (.int n) = some v) : v = a := by
  obtain ⟨m, rfl, hv⟩ := eval?_int_right h
  rw [hn] at hv
  exact (Option.some.inj hv).symm

/-- An integer that changes nothing to the left of an operator. -/
theorem eq_right_of_eval? {m : Int64} (hm : ∀ n, op.onInts? m n = some (.int n))
    (h : op.eval? (.int m) b = some v) : v = b := by
  obtain ⟨n, rfl, hv⟩ := eval?_int_left h
  rw [hm] at hv
  exact (Option.some.inj hv).symm

/-- What is computed from literals that are not floating-point is not either. -/
theorem ty_of_eval? (h : op.eval? a b = some v) (ha : a.ty ≠ .float) : v.ty ≠ .float := by
  rcases (eq_of_ty? (ty?_of_eval? h)).2 with ht | ht <;> rw [ht]
  · exact ha
  · decide

/-- Equality of literals that are not floating-point is only computed on integers. -/
theorem ints_of_eval?_isEquality (hop : op.isEquality = true) (h : op.eval? a b = some v)
    (ha : a.ty ≠ .float) : a.ty = .int ∧ b.ty = .int := by
  cases a with
  | int m =>
    obtain ⟨n, rfl, -⟩ := eval?_int_left h
    exact ⟨rfl, rfl⟩
  | boolean p =>
    obtain ⟨q, rfl, hv⟩ := eval?_boolean_left h
    cases op <;> simp_all [onBooleans?, isEquality]
  | float x => exact absurd rfl ha
  | string s => cases h
  | char c => cases h

/-! ### What the identities say of values -/

theorem eval?_neutralRight (hb : op.neutralRight b = true) (hf : b.ty ≠ .float)
    (h : op.eval? a b = some v) : v = a := by
  cases op with
  | and =>
    obtain rfl : b = .boolean true := by simpa [neutralRight] using hb
    obtain ⟨p, rfl, hv⟩ := eval?_boolean_right h
    simpa [onBooleans?] using hv.symm
  | or =>
    obtain rfl : b = .boolean false := by simpa [neutralRight] using hb
    obtain ⟨p, rfl, hv⟩ := eval?_boolean_right h
    simpa [onBooleans?] using hv.symm
  | add =>
    obtain rfl := Literal.eq_zero_of_isZero hb hf
    exact eq_left_of_eval? (fun m => by rw [onInts?, Checked.add_zero, Option.map_some]) h
  | sub =>
    obtain rfl := Literal.eq_zero_of_isZero hb hf
    exact eq_left_of_eval? (fun m => by rw [onInts?, Checked.sub_zero, Option.map_some]) h
  | mul =>
    obtain rfl := Literal.eq_one_of_isOne hb hf
    exact eq_left_of_eval? (fun m => by rw [onInts?, Checked.mul_one, Option.map_some]) h
  | div =>
    obtain rfl := Literal.eq_one_of_isOne hb hf
    exact eq_left_of_eval? (fun m => by rw [onInts?, Checked.div_one, Option.map_some]) h
  | _ => cases hb

theorem eval?_neutralLeft (ha : op.neutralLeft a = true) (hf : a.ty ≠ .float)
    (h : op.eval? a b = some v) : v = b := by
  cases op with
  | and =>
    obtain rfl : a = .boolean true := by simpa [neutralLeft] using ha
    obtain ⟨q, rfl, hv⟩ := eval?_boolean_left h
    simpa [onBooleans?] using hv.symm
  | or =>
    obtain rfl : a = .boolean false := by simpa [neutralLeft] using ha
    obtain ⟨q, rfl, hv⟩ := eval?_boolean_left h
    simpa [onBooleans?] using hv.symm
  | add =>
    obtain rfl := Literal.eq_zero_of_isZero ha hf
    exact eq_right_of_eval? (fun n => by rw [onInts?, Checked.zero_add, Option.map_some]) h
  | mul =>
    obtain rfl := Literal.eq_one_of_isOne ha hf
    exact eq_right_of_eval? (fun n => by rw [onInts?, Checked.one_mul, Option.map_some]) h
  | _ => cases ha

/-- A difference from zero is a negation, refused where that is refused. -/
theorem eval?_zero_sub (ha : a.isZero = true) (hf : a.ty ≠ .float)
    (h : BinOp.sub.eval? a b = some v) : UnOp.neg.eval? b = some v := by
  obtain rfl := Literal.eq_zero_of_isZero ha hf
  obtain ⟨m, rfl, hv⟩ := eval?_int_left h
  rwa [onInts?, Checked.zero_sub] at hv

theorem eval?_zeroLeft (ha : op.zeroLeft a = true) (hf : a.ty ≠ .float)
    (h : op.eval? a b = some v) : v = .int 0 := by
  cases op with
  | mul =>
    obtain rfl := Literal.eq_zero_of_isZero ha hf
    obtain ⟨m, rfl, hv⟩ := eval?_int_left h
    rw [onInts?, Checked.zero_mul, Option.map_some] at hv
    exact (Option.some.inj hv).symm
  | div =>
    obtain rfl := Literal.eq_zero_of_isZero ha hf
    obtain ⟨m, rfl, hv⟩ := eval?_int_left h
    rw [onInts?, Option.map_eq_some_iff] at hv
    obtain ⟨q, hq, rfl⟩ := hv
    rw [Checked.eq_zero_of_zero_div hq]
  | _ => cases ha

theorem eval?_zeroRight (hb : op.zeroRight b = true) (hf : b.ty ≠ .float)
    (h : op.eval? a b = some v) : v = .int 0 := by
  cases op with
  | mul =>
    obtain rfl := Literal.eq_zero_of_isZero hb hf
    obtain ⟨m, rfl, hv⟩ := eval?_int_right h
    rw [onInts?, Checked.mul_zero, Option.map_some] at hv
    exact (Option.some.inj hv).symm
  | _ => cases hb

theorem eval?_oneLeft (ha : op.oneLeft a = true) (hf : a.ty ≠ .float)
    (h : op.eval? a b = some v) : v = .int 1 := by
  cases op with
  | pow =>
    obtain rfl := Literal.eq_one_of_isOne ha hf
    obtain ⟨m, rfl, hv⟩ := eval?_int_left h
    rw [onInts?, Option.map_eq_some_iff] at hv
    obtain ⟨q, hq, rfl⟩ := hv
    rw [Checked.eq_one_of_one_pow hq]
  | _ => cases ha

theorem eval?_oneRight (hb : op.oneRight b = true) (hf : b.ty ≠ .float)
    (h : op.eval? a b = some v) : v = .int 1 := by
  cases op with
  | pow =>
    obtain rfl := Literal.eq_zero_of_isZero hb hf
    obtain ⟨m, rfl, hv⟩ := eval?_int_right h
    rw [onInts?, Option.map_eq_some_iff] at hv
    obtain ⟨q, hq, rfl⟩ := hv
    rw [Checked.eq_one_of_pow_zero hq]
  | _ => cases hb

end BinOp

end Yuyan
