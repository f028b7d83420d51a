/-!
# Checked integers and exact remainders

Arithmetic on 64-bit integers that answers only when the answer is exact. Each
operation computes the result in `Int`, where nothing overflows, and gives it
back if it fits a word (`ofInt?`, `ofInt?_eq_some`).

Division is exact or refused, since an inexact quotient would not be an integer.
The remainder has the sign of the dividend. A power needs an exponent between
`0` and `2 ^ 32 - 1`, and `0` to the power `0` has no value.

The remainder of two finite floating-point numbers is computed exactly: both are
multiples of one power of two, so the remainder of the multiples is the answer, and
it never needs more digits than the operands have.
-/

namespace Yuyan.Checked

/-- The numbers that a 64-bit word holds, those from `-2 ^ 63` to `2 ^ 63 - 1`. -/
def Fits (n : Int) : Prop := -9223372036854775808 ≤ n ∧ n < 9223372036854775808

instance (n : Int) : Decidable (Fits n) := inferInstanceAs (Decidable (_ ∧ _))

/-- The word that holds `n`, if it fits. -/
def ofInt? (n : Int) : Option Int64 := if Fits n then some (Int64.ofInt n) else none

theorem fits_toInt (a : Int64) : Fits a.toInt := ⟨a.le_toInt, a.toInt_lt⟩

theorem toInt_ofInt_of_fits {n : Int} (h : Fits n) : (Int64.ofInt n).toInt = n :=
  Int64.toInt_ofInt_of_le h.1 h.2

/-- A word is given back exactly when it holds the number asked for. -/
theorem ofInt?_eq_some {n : Int} {v : Int64} : ofInt? n = some v ↔ v.toInt = n := by
  unfold ofInt?
  split
  · rename_i h
    constructor
    · rintro ⟨⟩; exact toInt_ofInt_of_fits h
    · rintro rfl; simp
  · rename_i h
    simp only [reduceCtorEq, false_iff]
    rintro rfl
    exact h (fits_toInt v)

/-! ### The operations -/

/-- The sum. -/
def add (a b : Int64) : Option Int64 := ofInt? (a.toInt + b.toInt)

/-- The difference. -/
def sub (a b : Int64) : Option Int64 := ofInt? (a.toInt - b.toInt)

/-- The product. -/
def mul (a b : Int64) : Option Int64 := ofInt? (a.toInt * b.toInt)

/-- The quotient, if `b` divides `a`. -/
def div (a b : Int64) : Option Int64 :=
  if b = 0 ∨ a.toInt.tmod b.toInt ≠ 0 then none else ofInt? (a.toInt.tdiv b.toInt)

/-- The remainder, which has the sign of `a`. It is refused also where the
quotient would not fit, that is for the least word by `-1`. -/
def rem (a b : Int64) : Option Int64 :=
  if b = 0 ∨ ¬ Fits (a.toInt.tdiv b.toInt) then none else ofInt? (a.toInt.tmod b.toInt)

/-- The opposite number. -/
def neg (a : Int64) : Option Int64 := ofInt? (-a.toInt)

/-- `x ^ n` as a word, without computing a number that cannot fit: powers of
`-1`, `0` and `1` only depend on the parity of a positive exponent, and any other
number leaves the words by its 64th power. -/
def power (x : Int) (n : Nat) : Option Int64 :=
  if x.natAbs ≤ 1 then ofInt? (x.pow (if n = 0 then 0 else 2 - n % 2))
  else if n < 64 then ofInt? (x.pow n)
  else none

/-- The power, for exponents of at most 32 bits. -/
def pow (a b : Int64) : Option Int64 :=
  if b.toInt < 0 ∨ 4294967296 ≤ b.toInt ∨ (a = 0 ∧ b = 0) then none else power a.toInt b.toInt.toNat

end Yuyan.Checked

/-! ### Floating-point numbers -/

namespace Yuyan.Number

open Float.Model

/-- The remainder of dividing `x` by `y` toward zero, with the sign of `x`. A
number is its own remainder by an infinity. There is no remainder of an infinity,
nor by zero. -/
def remainder (x y : Float) : Float :=
  .ofModel <| pack <| match x.toModel.unpack, y.toModel.unpack with
    | .notANumber, _ | _, .notANumber | .infinity _, _ | _, .zero _ => .notANumber
    | .zero sign, _ => .zero sign
    | x, .infinity _ => x
    | .finite sign m p _, .finite _ n q _ =>
      let scale := min p q
      .round .binary64 sign ((m <<< (p - scale).toNat) % (n <<< (q - scale).toNat)) scale

end Yuyan.Number
