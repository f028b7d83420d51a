import Yuyan.Number.Checked

/-!
# Identities of checked arithmetic

What zero and one do in the checked operations. An identity that never refuses is an
equation; where an operation may be refused, its value is given in case it is not.
-/

namespace Yuyan.Checked

variable {a b v : Int64}

theorem ofInt?_toInt (a : Int64) : ofInt? a.toInt = some a := ofInt?_eq_some.2 rfl

theorem add_zero (a : Int64) : add a 0 = some a := by
  rw [add, Int64.toInt_zero, Int.add_zero, ofInt?_toInt]

theorem zero_add (a : Int64) : add 0 a = some a := by
  rw [add, Int64.toInt_zero, Int.zero_add, ofInt?_toInt]

theorem sub_zero (a : Int64) : sub a 0 = some a := by
  rw [sub, Int64.toInt_zero, Int.sub_zero, ofInt?_toInt]

theorem zero_sub (a : Int64) : sub 0 a = neg a := by
  rw [sub, neg, Int64.toInt_zero, Int.zero_sub]

theorem mul_one (a : Int64) : mul a 1 = some a := by
  rw [mul, Int64.toInt_one, Int.mul_one, ofInt?_toInt]

theorem one_mul (a : Int64) : mul 1 a = some a := by
  rw [mul, Int64.toInt_one, Int.one_mul, ofInt?_toInt]

theorem mul_zero (a : Int64) : mul a 0 = some 0 := by
  rw [mul, Int64.toInt_zero, Int.mul_zero, ← Int64.toInt_zero, ofInt?_toInt]

theorem zero_mul (a : Int64) : mul 0 a = some 0 := by
  rw [mul, Int64.toInt_zero, Int.zero_mul, ← Int64.toInt_zero, ofInt?_toInt]

theorem div_one (a : Int64) : div a 1 = some a := by
  rw [div, if_neg (by simp), Int64.toInt_one, Int.tdiv_one, ofInt?_toInt]

theorem eq_zero_of_zero_div (h : div 0 b = some v) : v = 0 := by
  unfold div at h
  split at h
  · cases h
  · rw [Int64.toInt_zero, Int.zero_tdiv, ofInt?_eq_some] at h
    exact Int64.toInt_inj.1 h

theorem power_zero (a : Int64) : power a.toInt 0 = some 1 := by
  have hp : a.toInt.pow 0 = (1 : Int64).toInt := Int.pow_zero a.toInt
  unfold power
  split
  · rw [if_pos rfl, hp, ofInt?_toInt]
  · rw [if_pos (by decide), hp, ofInt?_toInt]

theorem one_power (n : Nat) : power 1 n = some 1 := by
  have hp (n : Nat) : Int.pow 1 n = (1 : Int64).toInt := Int.one_pow
  rw [power, if_pos (by decide), hp, ofInt?_toInt]

/-- Every power with exponent zero that has a value is one. -/
theorem eq_one_of_pow_zero (h : pow a 0 = some v) : v = 1 := by
  unfold pow at h
  split at h
  · cases h
  · rw [Int64.toInt_zero, Int.toNat_zero, power_zero] at h
    exact (Option.some.inj h).symm

/-- Every power of one that has a value is one. -/
theorem eq_one_of_one_pow (h : pow 1 b = some v) : v = 1 := by
  unfold pow at h
  split at h
  · cases h
  · rw [Int64.toInt_one, one_power] at h
    exact (Option.some.inj h).symm

end Yuyan.Checked
