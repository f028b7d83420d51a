import Yuyan.Number.Decimal

/-!
# The shortest decimal of a floating-point number

A finite floating-point number `m · 2 ^ q` stands for all reals that round to it.
They form an interval, from halfway to the number below to halfway to the number
above, whose ends belong to it if `m` is even. The shortest decimal is the one in
the interval with the fewest digits; of several, the one nearest to the number,
and of two that are equally near, the larger.

A power of two times a natural number is a decimal, so the interval is kept
exactly: its ends and the number itself are naturals on one scale of ten.
-/

namespace Yuyan.Number

open Float.Model

/-- The reals that round to one positive number. Numbers count units of
`10 ^ scale`. -/
structure Rounding where
  /-- The end below. -/
  low : Nat
  /-- The number itself. -/
  value : Nat
  /-- The end above. -/
  high : Nat
  /-- Whether the ends belong to the interval. -/
  closed : Bool
  /-- The power of ten of the unit. -/
  scale : Int

namespace Rounding

/-- The interval around `m · 2 ^ q`. The numbers just below a power of two, whose
mantissa is `2 ^ 52`, lie twice as dense as those above it, unless they are
already as dense as can be. -/
def of (m : Nat) (q : Int) : Rounding :=
  let quarter := if q < 2 then Nat.pow 5 (2 - q).toNat else Nat.pow 2 (q - 2).toNat
  let dense := m = 4503599627370496 ∧ -1074 < q
  { low := (4 * m - if dense then 1 else 2) * quarter
    value := 4 * m * quarter
    high := (4 * m + 2) * quarter
    closed := m % 2 = 0
    scale := min (q - 2) 0 }

/-- Whether `n` units lie in the interval. -/
def contains (r : Rounding) (n : Nat) : Bool :=
  if r.closed then r.low ≤ n && n ≤ r.high else r.low < n && n < r.high

/-- The multiple of `10 ^ k` units that stands for the number, if one does: the
nearer of its two neighbours among the multiples. -/
def onGrid? (r : Rounding) (k : Nat) : Option Nat :=
  let unit := Nat.pow 10 k
  let below := r.value / unit
  let above := below + 1
  match r.contains (below * unit), r.contains (above * unit) with
  | true, true => if 2 * r.value < (below + above) * unit then some below else some above
  | true, false => some below
  | false, true => some above
  | false, false => none

/-- The number on the coarsest grid that has it, from `10 ^ k` units on. On the
finest grid it is the number itself. -/
def shortestFrom (r : Rounding) : Nat → Decimal
  | 0 => ⟨r.value, r.scale⟩
  | k + 1 => match r.onGrid? (k + 1) with
    | some digits => ⟨digits, k + 1 + r.scale⟩
    | none => r.shortestFrom k

/-- The shortest decimal in the interval. -/
def shortest (r : Rounding) : Decimal := r.shortestFrom ((Nat.toDigits 10 r.value).length - 1)

end Rounding

/-- The text of a floating-point number: its sign and its shortest decimal. -/
def floatText (layout : Layout) (x : Float) : String :=
  let signed : UnpackedFloat.Sign → List Char → String
    | .negative, text => .ofList ('-' :: text)
    | .positive, text => .ofList text
  match x.toModel.unpack with
  | .notANumber => "NaN"
  | .infinity sign => signed sign "inf".toList
  | .zero sign => signed sign (layout.write ⟨0, 0⟩)
  | .finite sign m q _ => signed sign (layout.write (Rounding.of m q).shortest)

end Yuyan.Number
