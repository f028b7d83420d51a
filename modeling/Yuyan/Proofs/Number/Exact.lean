import Yuyan.Constant
import Yuyan.Proofs.Number.Checked

/-!
# Integer constants are exact

What the operators compute of two integers is the exact result, as the mathematical operation
on integers gives it, and they refuse only where this has no value in a word: `Exact` has one
rule for each operator, and `eval?_ints_eq_some_iff` says that the rules describe the operators
completely.

Sums, differences and products only ask whether the result fits. A remainder always fits, but
it is refused together with its quotient: the quotient of the least word by `-1` is the only
one that leaves the words (`fits_tdiv_iff`). A power is not multiplied out where the result
cannot fit, and there it is shown that it does not (`power_eq_some_iff`).
-/

namespace Yuyan

namespace Checked

variable {a b v : Int64}

theorem add_eq_some_iff : add a b = some v ↔ v.toInt = a.toInt + b.toInt := ofInt?_eq_some

theorem sub_eq_some_iff : sub a b = some v ↔ v.toInt = a.toInt - b.toInt := ofInt?_eq_some

theorem mul_eq_some_iff : mul a b = some v ↔ v.toInt = a.toInt * b.toInt := ofInt?_eq_some

theorem neg_eq_some_iff : neg a = some v ↔ v.toInt = -a.toInt := ofInt?_eq_some

/-! ### Quotients and remainders -/

theorem toInt_minValue : Int64.minValue.toInt = -9223372036854775808 := rfl

/-- One quotient of two words is not a word. -/
theorem fits_tdiv_iff (hb : b ≠ 0) :
    Fits (a.toInt.tdiv b.toInt) ↔ ¬ (a = Int64.minValue ∧ b = -1) := by
  have bounds : Fits a.toInt := fits_toInt a
  have nonzero : b.toInt ≠ 0 := fun h => hb (Int64.toInt_inj.1 h)
  rw [← Int64.toInt_inj (y := Int64.minValue), toInt_minValue, ← Int64.toInt_inj (y := -1)]
  show _ ↔ ¬ (a.toInt = _ ∧ b.toInt = -1)
  by_cases neg : b.toInt = -1
  · rw [neg, Int.tdiv_neg, Int.tdiv_one]
    unfold Fits at bounds ⊢
    omega
  by_cases one : b.toInt = 1
  · rw [one, Int.tdiv_one]
    exact iff_of_true bounds (by omega)
  · -- any other divisor at least halves the dividend
    have half : (a.toInt.tdiv b.toInt).natAbs ≤ a.toInt.natAbs / 2 := by
      rw [Int.natAbs_tdiv]
      exact Nat.div_le_div_left (by omega) (by decide)
    unfold Fits at bounds ⊢
    omega

theorem rem_eq_some_iff : rem a b = some v ↔
    b ≠ 0 ∧ ¬ (a = Int64.minValue ∧ b = -1) ∧ v.toInt = a.toInt.tmod b.toInt := by
  unfold rem
  by_cases hb : b = 0
  · simp [hb]
  by_cases fits : Fits (a.toInt.tdiv b.toInt)
  · rw [if_neg (by simp [hb, fits]), ofInt?_eq_some]
    simp [hb, (fits_tdiv_iff hb).1 fits]
  · have least : a = Int64.minValue ∧ b = -1 := by
      rwa [fits_tdiv_iff hb, Decidable.not_not] at fits
    rw [if_pos (.inr fits)]
    simp [least]

theorem div_eq_some_iff : div a b = some v ↔
    b ≠ 0 ∧ b.toInt ∣ a.toInt ∧ v.toInt = a.toInt / b.toInt := by
  unfold div
  by_cases h : b = 0 ∨ a.toInt.tmod b.toInt ≠ 0
  · rw [if_pos h]
    refine iff_of_false nofun fun ⟨hb, hd, _⟩ => ?_
    exact h.elim hb fun hr => hr (Int.tmod_eq_zero_of_dvd hd)
  · rw [if_neg h, ofInt?_eq_some]
    rw [not_or, Decidable.not_not] at h
    have hd : b.toInt ∣ a.toInt := Int.dvd_of_tmod_eq_zero h.2
    rw [Int.tdiv_eq_ediv_of_dvd hd]
    simp [h.1, hd]

/-! ### Powers -/

/-- The powers of a number that is its own third power are but two. -/
theorem pow_parity {x : Int} (hx : x * x * x = x) : ∀ n, x.pow (n + 1) = x.pow (2 - (n + 1) % 2)
  | 0 => rfl
  | 1 => rfl
  | n + 2 => by
    have step : x.pow (n + 3) = x.pow (n + 1) := by
      show x ^ (n + 3) = x ^ (n + 1)
      rw [Int.pow_succ, Int.pow_succ, Int.pow_succ, Int.mul_assoc, Int.mul_assoc, ← Int.mul_assoc x,
        hx]
    have parity : (n + 2 + 1) % 2 = (n + 1) % 2 := by omega
    rw [parity, step, pow_parity hx n]

/-- Every number but `-1`, `0` and `1` leaves the words by its 64th power. -/
theorem not_fits_pow {x : Int} {n : Nat} (hx : 1 < x.natAbs) (hn : 64 ≤ n) : ¬ Fits (x.pow n) := by
  have large : 18446744073709551616 ≤ (x.pow n).natAbs := by
    calc 18446744073709551616 = 2 ^ 64 := by decide
      _ ≤ 2 ^ n := Nat.pow_le_pow_right (by omega) hn
      _ ≤ x.natAbs ^ n := Nat.pow_le_pow_left hx n
      _ = (x.pow n).natAbs := (Int.natAbs_pow x n).symm
  intro fits
  unfold Fits at fits
  omega

theorem power_eq_some_iff {x : Int} {n : Nat} : power x n = some v ↔ v.toInt = x.pow n := by
  unfold power
  split
  · rename_i hx
    rw [ofInt?_eq_some]
    have third : x * x * x = x := by
      obtain rfl | rfl | rfl : x = -1 ∨ x = 0 ∨ x = 1 := by omega
      all_goals rfl
    cases n with
    | zero => rfl
    | succ n => rw [if_neg (by omega), pow_parity third n]
  · rename_i hx
    split
    · exact ofInt?_eq_some
    · rename_i hn
      refine iff_of_false nofun fun hv => ?_
      have fits := fits_toInt v
      rw [hv] at fits
      exact not_fits_pow (by omega) (by omega) fits

theorem pow_eq_some_iff : pow a b = some v ↔
    0 ≤ b.toInt ∧ b.toInt < 4294967296 ∧ ¬ (a = 0 ∧ b = 0) ∧
      v.toInt = a.toInt.pow b.toInt.toNat := by
  unfold pow
  split
  · rename_i h
    refine iff_of_false nofun fun ⟨least, most, zero, _⟩ => ?_
    obtain h | h | h := h
    · omega
    · omega
    · exact zero h
  · rename_i h
    rw [not_or, not_or] at h
    rw [power_eq_some_iff]
    exact ⟨fun hv => ⟨by omega, by omega, h.2.2, hv⟩, fun hv => hv.2.2.2⟩

end Checked

/-! ### Operators on integers -/

/-- The exact results of the operators on integers. A number is a word here, so there is none
where the exact one does not fit. -/
inductive BinOp.Exact (a b : Int64) : BinOp → Literal → Prop where
  | add {v : Int64} (sum : v.toInt = a.toInt + b.toInt) : Exact a b .add (.int v)
  | sub {v : Int64} (difference : v.toInt = a.toInt - b.toInt) : Exact a b .sub (.int v)
  | mul {v : Int64} (product : v.toInt = a.toInt * b.toInt) : Exact a b .mul (.int v)
  /-- Only a divisor of the number has a quotient. -/
  | div {v : Int64} (nonzero : b ≠ 0) (divides : b.toInt ∣ a.toInt)
      (quotient : v.toInt = a.toInt / b.toInt) : Exact a b .div (.int v)
  /-- The remainder has the sign of the dividend. -/
  | rem {v : Int64} (nonzero : b ≠ 0) (fits : ¬ (a = Int64.minValue ∧ b = -1))
      (remainder : v.toInt = a.toInt.tmod b.toInt) : Exact a b .rem (.int v)
  /-- An exponent has 32 bits, and zero to the power zero has no value. -/
  | pow {v : Int64} (least : 0 ≤ b.toInt) (most : b.toInt < 4294967296)
      (defined : ¬ (a = 0 ∧ b = 0)) (power : v.toInt = a.toInt.pow b.toInt.toNat) :
      Exact a b .pow (.int v)
  | eq : Exact a b .eq (.boolean (a.toInt = b.toInt))
  | ne : Exact a b .ne (.boolean (a.toInt ≠ b.toInt))
  | lt : Exact a b .lt (.boolean (a.toInt < b.toInt))
  | le : Exact a b .le (.boolean (a.toInt ≤ b.toInt))
  | gt : Exact a b .gt (.boolean (a.toInt > b.toInt))
  | ge : Exact a b .ge (.boolean (a.toInt ≥ b.toInt))

section Complete

variable {op : BinOp} {a b : Int64} {w : Literal}

/-- What is computed is exact. -/
theorem BinOp.exact_of_onInts? (h : op.onInts? a b = some w) : op.Exact a b w := by
  cases op with
  | add =>
    obtain ⟨v, hv, rfl⟩ := Option.map_eq_some_iff.1 h
    exact .add (Checked.add_eq_some_iff.1 hv)
  | sub =>
    obtain ⟨v, hv, rfl⟩ := Option.map_eq_some_iff.1 h
    exact .sub (Checked.sub_eq_some_iff.1 hv)
  | mul =>
    obtain ⟨v, hv, rfl⟩ := Option.map_eq_some_iff.1 h
    exact .mul (Checked.mul_eq_some_iff.1 hv)
  | div =>
    obtain ⟨v, hv, rfl⟩ := Option.map_eq_some_iff.1 h
    obtain ⟨nonzero, divides, quotient⟩ := Checked.div_eq_some_iff.1 hv
    exact .div nonzero divides quotient
  | rem =>
    obtain ⟨v, hv, rfl⟩ := Option.map_eq_some_iff.1 h
    obtain ⟨nonzero, fits, remainder⟩ := Checked.rem_eq_some_iff.1 hv
    exact .rem nonzero fits remainder
  | pow =>
    obtain ⟨v, hv, rfl⟩ := Option.map_eq_some_iff.1 h
    obtain ⟨least, most, defined, power⟩ := Checked.pow_eq_some_iff.1 hv
    exact .pow least most defined power
  | eq =>
    cases h
    simp only [← Int64.toInt_inj]
    exact .eq
  | ne =>
    cases h
    simp only [ne_eq, ← Int64.toInt_inj]
    exact .ne
  | lt =>
    cases h
    simp only [Int64.lt_iff_toInt_lt]
    exact .lt
  | le =>
    cases h
    simp only [Int64.le_iff_toInt_le]
    exact .le
  | gt =>
    cases h
    simp only [Int64.lt_iff_toInt_lt]
    exact .gt
  | ge =>
    cases h
    simp only [Int64.le_iff_toInt_le]
    exact .ge
  | and | or => cases h

/-- What is exact is computed. -/
theorem BinOp.Exact.onInts? (h : op.Exact a b w) : op.onInts? a b = some w := by
  cases h with
  | add sum => rw [BinOp.onInts?, Checked.add_eq_some_iff.2 sum, Option.map_some]
  | sub difference => rw [BinOp.onInts?, Checked.sub_eq_some_iff.2 difference, Option.map_some]
  | mul product => rw [BinOp.onInts?, Checked.mul_eq_some_iff.2 product, Option.map_some]
  | div nonzero divides quotient =>
    rw [BinOp.onInts?, Checked.div_eq_some_iff.2 ⟨nonzero, divides, quotient⟩, Option.map_some]
  | rem nonzero fits remainder =>
    rw [BinOp.onInts?, Checked.rem_eq_some_iff.2 ⟨nonzero, fits, remainder⟩, Option.map_some]
  | pow least most defined power =>
    rw [BinOp.onInts?, Checked.pow_eq_some_iff.2 ⟨least, most, defined, power⟩, Option.map_some]
  | eq | ne => simp [BinOp.onInts?, Int64.toInt_inj]
  | lt | gt => simp [BinOp.onInts?, Int64.lt_iff_toInt_lt]
  | le | ge => simp [BinOp.onInts?, Int64.le_iff_toInt_le]

end Complete

/-- **Integers are computed exactly, and refused only where the exact result is no word.** -/
theorem eval?_ints_eq_some_iff :
    (∀ (op : BinOp) (a b : Int64) (w : Literal),
      op.eval? (.int a) (.int b) = some w ↔ op.Exact a b w) ∧
    ∀ (n : Int64) (w : Literal),
      UnOp.neg.eval? (.int n) = some w ↔ ∃ v : Int64, w = .int v ∧ v.toInt = -n.toInt := by
  constructor
  · intro op a b w
    exact ⟨BinOp.exact_of_onInts?, BinOp.Exact.onInts?⟩
  · intro n w
    constructor
    · intro h
      obtain ⟨v, hv, rfl⟩ := Option.map_eq_some_iff.1 h
      exact ⟨v, rfl, Checked.neg_eq_some_iff.1 hv⟩
    · rintro ⟨v, rfl, hv⟩
      rw [UnOp.eval?, Checked.neg_eq_some_iff.2 hv, Option.map_some]

/-- The least word is the 63rd power of `-2`; its quotient and its remainder by `-1` are
refused, though the remainder would be zero. -/
example : BinOp.pow.eval? (.int (-2)) (.int 63) = some (.int Int64.minValue) ∧
    BinOp.div.eval? (.int Int64.minValue) (.int (-1)) = none ∧
    BinOp.rem.eval? (.int Int64.minValue) (.int (-1)) = none := by decide

end Yuyan
