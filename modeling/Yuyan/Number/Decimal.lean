/-!
# Decimals and how they are written

A decimal is a number `digits · 10 ^ exponent`. A `Layout` holds the decisions
about writing one: which magnitudes are written with a point in place, and how
the others are written with an exponent.
-/

namespace Yuyan.Number

/-- The number `digits · 10 ^ exponent`. -/
structure Decimal where
  /-- All digits, as one number. -/
  digits : Nat
  /-- The power of ten of the last digit. -/
  exponent : Int
  deriving DecidableEq, Repr

namespace Decimal

/-- The digits in order, without the zeros at the end; `0` has the digit `0`. -/
def figures (d : Decimal) : List Char :=
  match (Nat.toDigits 10 d.digits).reverse.dropWhile (· == '0') with
  | [] => ['0']
  | figures => figures.reverse

/-- The power of ten of the first digit. -/
def magnitude (d : Decimal) : Int := (Nat.toDigits 10 d.digits).length - 1 + d.exponent

end Decimal

/-- How decimals are written. -/
structure Layout where
  /-- The least magnitude written with the point in place. -/
  least : Int
  /-- The least magnitude too large to be written with the point in place. -/
  bound : Int
  /-- What a number with the point in place has after the point if its digits end
  before it. -/
  noFraction : List Char
  /-- What stands between the digits and the exponent. -/
  mark : List Char

namespace Layout

/-- Digits with the point in place, the first one standing for `10 ^ magnitude`. -/
def positional (layout : Layout) (figures : List Char) (magnitude : Int) : List Char :=
  if magnitude < 0 then
    ['0', '.'] ++ List.replicate (-magnitude - 1).toNat '0' ++ figures
  else
    let whole := magnitude.toNat + 1
    let fraction := figures.drop whole
    figures.take whole ++ List.replicate (whole - figures.length) '0' ++
      (if fraction.isEmpty then layout.noFraction else '.' :: fraction)

/-- Digits with the point after the first one, and an exponent. -/
def scientific (layout : Layout) (figures : List Char) (magnitude : Int) : List Char :=
  let fraction := figures.drop 1
  figures.take 1 ++ (if fraction.isEmpty then [] else '.' :: fraction) ++ layout.mark ++
    (toString magnitude).toList

/-- The written form of a decimal. Zero has the magnitude of its one digit. -/
def write (layout : Layout) (d : Decimal) : List Char :=
  let magnitude := if d.digits = 0 then 0 else d.magnitude
  if layout.least ≤ magnitude ∧ magnitude < layout.bound then
    layout.positional d.figures magnitude
  else
    layout.scientific d.figures magnitude

end Layout

end Yuyan.Number
